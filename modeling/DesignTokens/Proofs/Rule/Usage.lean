import Mathlib.Order.Bounds.Basic
import DesignTokens.Proofs.Fix.Uses
import DesignTokens.Proofs.Rule.Compilation

/-! # Where a name is used

A name that is to be imported is looked for between word boundaries, and the first such place in a
line is found. Words and identifiers are not made of the same characters: the dollar sign and
numbers that are no digits belong to identifiers only, marks and ties between letters to words only.
Where none of these is at an end of the name or next to it, the places between word boundaries are
those where the name stands as a whole identifier. Elsewhere they can be others: in front of a name
that begins with a dollar sign, a boundary is found only after a character of words.

## Main definitions

* `Text.BoundedAt` - a name stands at an offset between word boundaries
* `Text.WholeAt` - a name stands at an offset as a whole identifier
* `Text.Plain` - words and identifiers agree on the characters around a name

## Main results

* `Text.findWhole_eq_some_iff` - the first place between word boundaries is found
* `Text.boundedAt_iff_wholeAt` - where words and identifiers agree, it is a whole identifier
* `UsageImport.usedAt?_iff_isLeast` - where a name is found in a line
-/

namespace DesignTokens

open Character

namespace Text

/-- A name stands at an offset in bytes between word boundaries. -/
def BoundedAt (name t : Text) (n : Nat) : Prop :=
  ∃ u v, t = u ++ (name ++ v) ∧ byteSize u = n ∧ boundary u.getLast? (name ++ v).head? = true ∧
    boundary (u ++ name).getLast? v.head? = true

/-- A name stands at an offset in bytes as a whole identifier: no character of identifiers is next
to it. -/
def WholeAt (name t : Text) (n : Nat) : Prop :=
  ∃ u v, t = u ++ (name ++ v) ∧ byteSize u = n ∧ u.getLast?.any isIdentifierPart = false ∧
    v.head?.any isIdentifierPart = false

/-- Words and identifiers agree on the characters at the ends of a name and next to it, wherever the
name stands. -/
def Plain (name t : Text) : Prop :=
  ∀ u v, t = u ++ (name ++ v) →
    ∀ side ∈ [u.getLast?, name.head?, name.getLast?, v.head?],
      isWordSide side = side.any isIdentifierPart

section

variable {name t u v : Text} {n : Nat}

/-- Of two places in a text, the one with fewer characters in front has fewer bytes in front. -/
theorem byteSize_le_of_length_le {u' v' : Text} (heq : u ++ v = u' ++ v')
    (hle : u.length ≤ u'.length) : byteSize u ≤ byteSize u' := by
  have hprefix : u <+: u' := by
    refine List.prefix_of_prefix_length_le (List.prefix_append u v) ?_ hle
    rw [heq]
    exact List.prefix_append u' v'
  obtain ⟨w, rfl⟩ := hprefix
  rw [byteSize_append]
  exact Nat.le_add_right _ _

theorem boundedAt_iff_occursAt : BoundedAt name t n ↔
    ∃ u v, t = u ++ v ∧ byteSize u = n ∧ occursAt true true name u.getLast? v = true := by
  constructor
  · rintro ⟨u, v, rfl, hsize, hlead, htrail⟩
    rw [List.getLast?_append] at htrail
    exact ⟨u, name ++ v, rfl, hsize, occursAt_eq_true_iff.mpr ⟨v, rfl, hlead, htrail⟩⟩
  · rintro ⟨u, w, rfl, hsize, hoccurs⟩
    obtain ⟨v, rfl, hlead, htrail⟩ := occursAt_eq_true_iff.mp hoccurs
    refine ⟨u, v, rfl, hsize, hlead, ?_⟩
    rwa [List.getLast?_append]

theorem findWhole_eq_none_iff : findWhole name t = none ↔ ∀ n, ¬ BoundedAt name t n := by
  rw [← Option.not_isSome_iff_eq_none, findWhole, findWholeFrom_isSome_iff]
  simp only [Option.or_none]
  constructor
  · intro hnone n hbounded
    obtain ⟨u, v, heq, -, hoccurs⟩ := boundedAt_iff_occursAt.mp hbounded
    exact hnone ⟨u, v, heq, hoccurs⟩
  · rintro hnone ⟨u, v, heq, hoccurs⟩
    exact hnone (byteSize u) (boundedAt_iff_occursAt.mpr ⟨u, v, heq, rfl, hoccurs⟩)

/-- The first place between word boundaries is found. -/
theorem isLeast_of_findWhole (h : findWhole name t = some n) :
    IsLeast {n | BoundedAt name t n} n := by
  obtain ⟨u, v, heq, hsize, hoccurs, hfirst⟩ := findWholeFrom_eq_some h
  rw [Nat.zero_add] at hsize
  rw [Option.or_none] at hoccurs
  refine ⟨boundedAt_iff_occursAt.mpr ⟨u, v, heq, hsize.symm, hoccurs⟩, ?_⟩
  intro m hm
  obtain ⟨u', v', heq', hsize', hoccurs'⟩ := boundedAt_iff_occursAt.mp hm
  rw [hsize, ← hsize']
  refine byteSize_le_of_length_le (heq.symm.trans heq') (hfirst u' v' heq' ?_)
  rwa [Option.or_none]

theorem findWhole_eq_some_iff :
    findWhole name t = some n ↔ IsLeast {n | BoundedAt name t n} n := by
  constructor
  · exact isLeast_of_findWhole
  · intro hleast
    cases hfind : findWhole name t with
    | none => exact absurd hleast.1 (findWhole_eq_none_iff.mp hfind n)
    | some m => rw [(isLeast_of_findWhole hfind).unique hleast]

/-! ### Words and identifiers -/

/-- Next to a character of words, a boundary is in front of every other character. -/
theorem boundary_iff_of_isWordSide_right {before after : Option Char}
    (h : isWordSide after = true) :
    boundary before after = true ↔ isWordSide before = false := by
  rw [boundary, h]
  cases isWordSide before <;> decide

theorem boundary_iff_of_isWordSide_left {before after : Option Char}
    (h : isWordSide before = true) :
    boundary before after = true ↔ isWordSide after = false := by
  rw [boundary, h]
  cases isWordSide after <;> decide

/-- It is enough that words and identifiers agree on the characters of the whole text. -/
theorem plain_of_forall_mem (h : ∀ c ∈ t, isWord c = isIdentifierPart c) : Plain name t := by
  rintro u v rfl side hside
  have hmem : ∀ c ∈ side, c ∈ u ++ (name ++ v) := by
    intro c hc
    simp only [List.mem_append]
    simp only [List.mem_cons, List.not_mem_nil, or_false] at hside
    rcases hside with rfl | rfl | rfl | rfl
    · exact .inl (List.mem_of_getLast? hc)
    · exact .inr (.inl (List.mem_of_head? hc))
    · exact .inr (.inl (List.mem_of_getLast? hc))
    · exact .inr (.inr (List.mem_of_head? hc))
  cases side with
  | none => rfl
  | some c => exact h c (hmem c rfl)

/-- Where words and identifiers agree, an identifier between word boundaries is a whole one. -/
theorem boundedAt_iff_wholeAt (hname : isIdentifier name = true) (hplain : Plain name t) :
    BoundedAt name t n ↔ WholeAt name t n := by
  have hne := ne_nil_of_isIdentifier hname
  have hparts := isIdentifierPart_of_isIdentifier hname
  refine exists_congr fun u => exists_congr fun v => and_congr_right fun heq => and_congr_right ?_
  rintro -
  have hside := hplain u v heq
  simp only [List.forall_mem_cons] at hside
  obtain ⟨hbefore, hhead, hlast, hafter, -⟩ := hside
  -- The name is made of identifier characters, so that words agree on its ends.
  have hheadWord : isWordSide (name ++ v).head? = true := by
    rw [List.head?_append_of_ne_nil _ hne, hhead, List.head?_eq_some_head hne]
    exact hparts _ (List.head_mem hne)
  have hlastWord : isWordSide (u ++ name).getLast? = true := by
    rw [List.getLast?_append_of_ne_nil _ hne, hlast, List.getLast?_eq_some_getLast hne]
    exact hparts _ (List.getLast_mem hne)
  rw [boundary_iff_of_isWordSide_right hheadWord, boundary_iff_of_isWordSide_left hlastWord,
    hbefore,
    hafter]

end

end Text

namespace UsageImport

open Text

/-- Where a name that can be imported is found in a line: at the first place between word
boundaries; where words and identifiers agree, at the first place where it stands as a whole
identifier. -/
theorem usedAt?_iff_isLeast (module symbol : String)
    (h : RuleSet.checkSymbol module symbol = .ok ()) (line : Text) :
    ((∀ n, usedAt? ⟨symbol, module⟩ line = some n ↔
        IsLeast {n | BoundedAt symbol.toList line n} n) ∧
      (usedAt? ⟨symbol, module⟩ line = none ↔ ∀ n, ¬ BoundedAt symbol.toList line n)) ∧
    (Plain symbol.toList line →
      (∀ n, usedAt? ⟨symbol, module⟩ line = some n ↔
        IsLeast {n | WholeAt symbol.toList line n} n) ∧
      (usedAt? ⟨symbol, module⟩ line = none ↔ ∀ n, ¬ WholeAt symbol.toList line n)) := by
  have hsome : ∀ n, usedAt? ⟨symbol, module⟩ line = some n ↔
      IsLeast {n | BoundedAt symbol.toList line n} n := fun _ => findWhole_eq_some_iff
  have hnone : usedAt? ⟨symbol, module⟩ line = none ↔ ∀ n, ¬ BoundedAt symbol.toList line n :=
    findWhole_eq_none_iff
  refine ⟨⟨hsome, hnone⟩, fun hplain => ?_⟩
  have hwhole : ∀ n, BoundedAt symbol.toList line n ↔ WholeAt symbol.toList line n := fun _ =>
    boundedAt_iff_wholeAt (RuleSet.checkSymbol_eq_ok h) hplain
  simp only [hwhole] at hsome hnone
  exact ⟨hsome, hnone⟩

/-- The name is the beginning of another one first. -/
theorem usedAt?_iff_isLeast_call :
    RuleSet.checkSymbol "space" "gap" = .ok () ∧
      Plain "gap".toList "gaps = gap(gap)".toList ∧
      IsLeast {n | WholeAt "gap".toList "gaps = gap(gap)".toList n} 7 := by
  have hagree : ("gaps = gap(gap)".toList.all fun c => isWord c == isIdentifierPart c) = true := by
    decide
  have hplain : Plain "gap".toList "gaps = gap(gap)".toList :=
    plain_of_forall_mem fun c hc => beq_iff_eq.mp (List.all_eq_true.mp hagree c hc)
  refine ⟨rfl, hplain, ?_⟩
  exact (((usedAt?_iff_isLeast "space" "gap" rfl _).2 hplain).1 7).mp (by decide)

/-- A name that begins with a dollar sign is not found where it stands alone, and it is found where
it is the end of another one. -/
theorem usedAt?_dollar :
    RuleSet.checkSymbol "m" "$x" = .ok () ∧
      (WholeAt "$x".toList "$x".toList 0 ∧ usedAt? ⟨"$x", "m"⟩ "$x".toList = none) ∧
      (usedAt? ⟨"$x", "m"⟩ "a$x".toList = some 1 ∧ ¬ WholeAt "$x".toList "a$x".toList 1) := by
  refine ⟨rfl, ⟨⟨[], [], rfl, rfl, rfl, rfl⟩, by decide⟩, by decide, ?_⟩
  rintro ⟨u, v, htext, hsize, hbefore, -⟩
  -- What stands in front is one byte, and so it is the letter.
  cases u with
  | nil => cases hsize
  | cons c u =>
    have hletter : 'a' = c := (List.cons.inj htext).1
    subst hletter
    cases u with
    | nil => cases hbefore
    | cons d u =>
      have hsizes : ('a').utf8Size = 1 := by decide
      have hnext := Char.utf8Size_pos d
      rw [byteSize, byteSize] at hsize
      omega

end UsageImport

end DesignTokens
