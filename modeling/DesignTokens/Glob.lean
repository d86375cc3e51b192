import DesignTokens.Text.Basic

/-! # Globs

A glob describes texts: `?` stands for one character, `*` for any text, a class in brackets for one
character in it or, after `!`, not in it, and `**` as a whole step of a path for any number of
steps. Slashes and leading points are characters like any other.

## Main definitions

* `Glob` - a glob, as the list of its parts
* `Glob.read?` - the glob that a text stands for
* `Glob.describes` - whether a glob describes a text
-/

namespace DesignTokens

namespace Glob

/-- A part of a glob. -/
inductive Part where
  | char (c : Char)
  | anyChar
  /-- One character that lies in one of the ranges, or in none of them. -/
  | oneOf (negated : Bool) (ranges : List (Char × Char))
  | anyText
  | anySteps
  deriving Repr, DecidableEq

end Glob

/-- A glob. -/
abbrev Glob := List Glob.Part

namespace Glob

/-! ### Reading -/

/-- The ranges in the content of a class. -/
def ranges : Text → List (Char × Char)
  | a :: '-' :: b :: rest => (a, b) :: ranges rest
  | a :: rest => (a, a) :: ranges rest
  | [] => []

/-- Reads a class whose opening bracket was read. The first character of its content is taken as
it is, even if it is a closing bracket. -/
def readClass? : Text → Option (Part × Text)
  | '!' :: c :: rest =>
    (Text.splitFirst? ']' rest).map fun (content, after) =>
      (.oneOf true (ranges (c :: content)), after)
  | '!' :: [] => none
  | c :: rest =>
    (Text.splitFirst? ']' rest).map fun (content, after) =>
      (.oneOf false (ranges (c :: content)), after)
  | [] => none

theorem length_lt_of_splitFirst? {c : Char} {t before after : Text}
    (h : Text.splitFirst? c t = some (before, after)) : after.length < t.length := by
  induction t generalizing before with
  | nil => simp [Text.splitFirst?] at h
  | cons d rest ih =>
    simp only [Text.splitFirst?] at h
    split at h
    · simp_all
    · obtain ⟨⟨b, a⟩, hb, heq⟩ := Option.map_eq_some_iff.1 h
      simp only [Prod.mk.injEq] at heq
      obtain ⟨_, rfl⟩ := heq
      exact Nat.lt_succ_of_lt (ih hb)

theorem length_lt_of_readClass? {t rest : Text} {part : Part}
    (h : readClass? t = some (part, rest)) : rest.length < t.length := by
  unfold readClass? at h
  split at h
  · obtain ⟨⟨b, a⟩, hb, heq⟩ := Option.map_eq_some_iff.1 h
    simp only [Prod.mk.injEq] at heq
    have := length_lt_of_splitFirst? hb
    grind
  · simp at h
  · obtain ⟨⟨b, a⟩, hb, heq⟩ := Option.map_eq_some_iff.1 h
    simp only [Prod.mk.injEq] at heq
    have := length_lt_of_splitFirst? hb
    grind
  · simp at h

/-- Reads what is left of a glob; `atStep` says whether a step of a path begins there. -/
def readFrom? (atStep : Bool) (t : Text) : Option Glob :=
  match t with
  | [] => some []
  | '*' :: '*' :: '*' :: _ => none
  -- Two stars are a step of their own, or nothing.
  | '*' :: '*' :: '/' :: rest => if atStep then consSteps (readFrom? true rest) else none
  | ['*', '*'] => if atStep then some [.anySteps] else none
  | '*' :: '*' :: _ => none
  | '*' :: rest => (readFrom? false rest).map (.anyText :: ·)
  | '?' :: rest => (readFrom? false rest).map (.anyChar :: ·)
  | '[' :: rest =>
    match _h : readClass? rest with
    | none => none
    | some (part, after) => (readFrom? false after).map (part :: ·)
  | c :: rest => (readFrom? (c = '/') rest).map (.char c :: ·)
termination_by t.length
decreasing_by
  all_goals simp_wf
  all_goals try omega
  have := length_lt_of_readClass? _h
  omega
where
  /-- Any number of steps, once more than any number of steps being the same. -/
  consSteps : Option Glob → Option Glob
    | some (.anySteps :: rest) => some (.anySteps :: rest)
    | some rest => some (.anySteps :: rest)
    | none => none

/-- The glob that a text stands for, if it is one. -/
def read? (t : Text) : Option Glob :=
  readFrom? true t

/-! ### Matching -/

/-- Whether a character lies in one of several ranges. -/
def inRanges (ranges : List (Char × Char)) (c : Char) : Bool :=
  ranges.any fun (a, b) => a.toNat ≤ c.toNat && c.toNat ≤ b.toNat

/-- Whether a part that stands for one character stands for this one. -/
def Part.fits (c : Char) : Part → Bool
  | .char d => c = d
  | .anyChar => true
  | .oneOf negated ranges => inRanges ranges c != negated
  | .anyText | .anySteps => false

/-- Whether `rest` holds of a text or of what follows some part of it. -/
def anySuffix (rest : Text → Bool) : Text → Bool
  | [] => rest []
  | c :: t => rest (c :: t) || anySuffix rest t

/-- Whether `rest` holds of what follows some slash of a text, or of nothing at all. -/
def afterSlash (rest : Text → Bool) : Text → Bool
  | [] => rest []
  | c :: t => (c = '/' && rest t) || afterSlash rest t

/-- Whether a glob describes a text. -/
def describes : Glob → Text → Bool
  | [], t => t.isEmpty
  | .anyText :: glob, t => anySuffix (describes glob) t
  | .anySteps :: glob, t => describes glob t || afterSlash (describes glob) t
  | _ :: _, [] => false
  | part :: glob, c :: t => part.fits c && describes glob t

end Glob

end DesignTokens
