import DesignTokens.Scan

/-! # Comments in front of a place

A place of a line counts as commented if the start of a comment stands before it. What stands before
a place stands before every later one, so an earlier place is not commented if a later one is not.

## Main definitions

* `Scan.Uncommented` - a text without the start of a comment

## Main results

* `Scan.isCommented_append` - when a place of a line is commented
-/

namespace DesignTokens

namespace Text

variable {part t u v : Text}

theorem hasPart_iff : hasPart part t = true ↔ part <:+: t := by
  induction t with
  | nil => rw [hasPart, List.isEmpty_iff, List.infix_nil]
  | cons c t ih => rw [hasPart, Bool.or_eq_true, List.isPrefixOf_iff_prefix, ih,
    List.infix_cons_iff]

theorem takeBytes_append (u v : Text) : takeBytes (byteSize u) (u ++ v) = u := by
  induction u with
  | nil =>
    cases v with
    | nil => rfl
    | cons c v =>
      have hpos : ¬ c.utf8Size ≤ 0 := by
        have := Char.utf8Size_pos c
        omega
      rw [byteSize_nil, List.nil_append, takeBytes, if_neg hpos]
  | cons c u ih =>
    rw [List.cons_append, takeBytes, byteSize, if_pos (Nat.le_add_right _ _),
      Nat.add_sub_cancel_left,
      ih]

end Text

namespace Scan

open Text

variable {t u v : Text}

/-- A text has no start of a comment in it. -/
def Uncommented (t : Text) : Prop :=
  ¬ ['/', '/'] <:+: t ∧ ¬ ['/', '*'] <:+: t

theorem hasCommentStart_eq_false_iff : hasCommentStart t = false ↔ Uncommented t := by
  rw [hasCommentStart, Bool.or_eq_false_iff, ← Bool.not_eq_true, ← Bool.not_eq_true, hasPart_iff,
    hasPart_iff, Uncommented]

/-- A place of a line is commented if a comment starts before it. -/
theorem isCommented_append (u v : Text) :
    isCommented (u ++ v) (byteSize u) = false ↔ Uncommented u := by
  rw [isCommented, takeBytes_append, hasCommentStart_eq_false_iff]

/-- What stands before a place stands before every later one. -/
theorem Uncommented.of_prefix (h : Uncommented v) (hstart : u <+: v) : Uncommented u :=
  ⟨fun hpart => h.1 (hpart.trans hstart.isInfix), fun hpart => h.2 (hpart.trans hstart.isInfix)⟩

end Scan

end DesignTokens
