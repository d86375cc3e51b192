import DesignTokens.Proofs.Rule.Quoted
import DesignTokens.Proofs.Text.Parts
import DesignTokens.Proofs.Text.Seams
import DesignTokens.Rule.RuleSet

/-! # Canonical spelling again

A table that was checked has no canonical spelling that it would change by itself. In a text a
canonical spelling has neighbours, and with them it may make a spelling that is to be replaced. Such
a spelling touches an end of a canonical one; all others were there before and have been replaced.

## Main definitions

* `CanonicalNames.Stands` - a part of a text is a spelling that is to be replaced
* `CanonicalNames.seamsOf` - the ends of the canonical spellings that were put in

## Main results

* `CanonicalNames.replace?_eq_none_iff` - a text in which no spelling stands
* `CanonicalNames.apply_again_iff` - when a text in canonical spelling is left alone
* `CanonicalNames.not_apply_idempotent` - a table that changes what it has written
-/

namespace DesignTokens

namespace Text

variable {α : Type} {probe : Probe Char α} {t : Text}

/-- A search has a hit in a text if its probe answers at some place. -/
theorem matches?_iff : matches? probe t = true ↔ ∃ x y, t = x ++ y ∧ answers probe none x y := by
  rw [matches?, find]
  constructor
  · intro h
    obtain ⟨hit, hfind⟩ := Option.isSome_iff_exists.mp h
    obtain ⟨heq, ⟨n, hprobe, -⟩, -⟩ := findFrom_eq_some hfind
    exact ⟨hit.lead, hit.found ++ hit.rest, heq, by rw [answers, hprobe]; rfl⟩
  · rintro ⟨x, y, heq, hanswers⟩
    cases hfind : findFrom probe none t with
    | none => exact absurd hanswers (findFrom_eq_none hfind heq)
    | some hit => rfl

end Text

namespace CanonicalNames

open Character Text

/-! ### Where spellings stand -/

/-- The part `w` of a text, between `u` and `v`, is a spelling of a table and a whole token. -/
def Stands (names : ByName String) (u w v : Text) : Prop :=
  ∃ entry ∈ names, entry.1.toList = w ∧ standsAt w u.getLast? (w ++ v) = true

/-- What is put in place of a spelling. -/
def put (_ : Text) (canonical : String) : Text :=
  canonical.toList

section

variable {names : ByName String} {table : CanonicalNames} {t u w v : Text}

/-- Whether a spelling is a whole token depends on its neighbours only. -/
theorem standsAt_append (w : Text) (before : Option Char) (v : Text) :
    standsAt w before (w ++ v) = true ↔
      (w.head?.any isTokenChar = true → boundary before (w.head?.or v.head?) = true) ∧
        (w.getLast?.any isTokenChar = true → boundary (w.getLast?.or before) v.head? = true) := by
  rw [standsAt, occursAt, after?_append, List.head?_append]
  simp only [Bool.and_eq_true, Bool.or_eq_true, Bool.not_eq_true']
  cases w.head?.any isTokenChar <;> cases w.getLast?.any isTokenChar <;> simp

theorem Stands.of_neighbours {u' v' : Text} (h : Stands names u w v)
    (hbefore : u'.getLast? = u.getLast?) (hafter : v'.head? = v.head?) : Stands names u' w v' := by
  obtain ⟨entry, hentry, heq, hstands⟩ := h
  refine ⟨entry, hentry, heq, ?_⟩
  rw [standsAt_append] at hstands ⊢
  rwa [hbefore, hafter]

theorem mem_byLength {entry : String × String} : entry ∈ byLength names ↔ entry ∈ names :=
  List.mem_mergeSort

/-- What the search accepts is a spelling that stands at the place. -/
theorem stands_of_probe {n : Nat} {canonical : String}
    (h : probe names u.getLast? t = some (n, canonical)) :
    ∃ w v, t = w ++ v ∧ Stands names u w v ∧ t.take n = w ∧
      ∃ spelling, (spelling, canonical) ∈ names ∧ spelling.toList = w := by
  rw [probe] at h
  obtain ⟨⟨spelling, canonical'⟩, hfind, heq⟩ := Option.map_eq_some_iff.mp h
  cases heq
  have hmem := mem_byLength.mp (List.mem_of_find?_eq_some hfind)
  have hstands := List.find?_some hfind
  cases hafter : after? spelling.toList t with
  | none =>
    rw [standsAt, occursAt, hafter] at hstands
    cases hstands
  | some v =>
    obtain rfl := after?_eq_some_iff.mp hafter
    exact ⟨spelling.toList, v, rfl, ⟨_, hmem, rfl, hstands⟩, List.take_left, spelling, hmem, rfl⟩

/-- The search answers where a spelling stands. -/
theorem exists_probe_of_stands (h : Stands names u w v) :
    ∃ p, probe names u.getLast? (w ++ v) = some p := by
  obtain ⟨entry, hentry, rfl, hstands⟩ := h
  rw [← Option.isSome_iff_exists, probe, Option.isSome_map, List.find?_isSome]
  exact ⟨entry, mem_byLength.mpr hentry, hstands⟩

theorem exists_stands_of_answers {x y : Text} (h : answers (probe names) none x y) :
    ∃ w v, y = w ++ v ∧ Stands names x w v := by
  rw [answers, Option.or_none] at h
  obtain ⟨⟨n, canonical⟩, hprobe⟩ := Option.isSome_iff_exists.mp h
  obtain ⟨w, v, heq, hstands, -⟩ := stands_of_probe hprobe
  exact ⟨w, v, heq, hstands⟩

theorem answers_of_stands (h : Stands names u w v) : answers (probe names) none u (w ++ v) := by
  obtain ⟨p, hprobe⟩ := exists_probe_of_stands h
  rw [answers, Option.or_none, hprobe]
  rfl

/-- A spelling that stands in a text touches a hit. -/
theorem touches_of_stands (htext : t = u ++ (w ++ v)) (h : Stands names u w v) :
    TouchesHit (hits (probe names) t) u.length 0 := by
  obtain ⟨p, hprobe⟩ := exists_probe_of_stands h
  exact (touches_of_probe htext hprobe).weaken (by simp)

/-! ### Replacing spellings -/

/-- The text in canonical spelling, whether there is anything to replace or not. -/
theorem apply_eq (table : CanonicalNames) (t : Text) :
    table.apply t = replaceParts put (hits (probe table.names) t) := by
  rw [apply, replace?, replaceAll, replaceHits]
  split
  · rfl
  · rename_i hhit
    rw [replaceParts_of_not_hit (Bool.not_eq_true _ ▸ hhit), flat_hits, Option.getD_none]

/-- A table leaves a text alone in which no spelling stands. -/
theorem replace?_eq_none_iff :
    table.replace? t = none ↔ ∀ u w v, t = u ++ (w ++ v) → ¬ Stands table.names u w v := by
  rw [replace?, replaceAll, replaceHits]
  constructor
  · intro hnone u w v htext hstands
    obtain ⟨front, found, canonical, back, hparts, -⟩ := touches_of_stands htext hstands
    simp [hparts, Part.isHit] at hnone
  · intro hstands
    rw [if_neg]
    intro hhit
    obtain ⟨x, y, htext, hanswers⟩ := exists_answers_of_hit hhit
    obtain ⟨w, v, rfl, hstand⟩ := exists_stands_of_answers hanswers
    exact hstands x w v htext hstand

theorem apply_of_replace?_eq_none (h : table.replace? t = none) : table.apply t = t := by
  rw [apply, h, Option.getD_none]

/-- No spelling stands in a canonical spelling of a table that was checked. -/
theorem not_stands_of_checkNames {version : Nat} {entry : String × String}
    (h : RuleSet.checkNames version names = .ok table) (hentry : entry ∈ table.names)
    (htext : entry.2.toList = u ++ (w ++ v)) : ¬ Stands table.names u w v := by
  have hchain := RuleSet.chain?_eq_none_of_checkNames h
  obtain rfl := RuleSet.eq_of_checkNames h
  have hnot := List.find?_eq_none.mp hchain entry hentry
  intro hstands
  exact hnot (matches?_iff.mpr ⟨u, w ++ v, htext, answers_of_stands hstands⟩)

/-! ### Replacing again -/

/-- The ends of the canonical spellings that were put into a text. -/
def seamsOf (table : CanonicalNames) (t : Text) : List Nat :=
  seams put [] (hits (probe table.names) t)

/-- No spelling that stands in the text in canonical spelling touches an end of a canonical spelling
that was put in. -/
def Smooth (table : CanonicalNames) (t : Text) : Prop :=
  ∀ u w v, table.apply t = u ++ (w ++ v) → Stands table.names u w v →
    ¬ Touches (table.seamsOf t) u w

/-- What stands in the text in canonical spelling touches an end of a canonical spelling that was
put in. -/
theorem touches_of_stands_apply {version : Nat} (h : RuleSet.checkNames version names = .ok table)
    (htext : table.apply t = u ++ (w ++ v)) (hstands : Stands table.names u w v) :
    Touches (table.seamsOf t) u w := by
  by_contra htouches
  rw [apply_eq] at htext
  rcases replaceParts_eq_append htext htouches with ⟨hinserted, -⟩ | hkept
  · -- Within a canonical spelling it would stand in that spelling by itself.
    obtain ⟨found, canonical, x, y, hmem, hput, hx, hy⟩ := hinserted
    obtain ⟨front, back, hparts⟩ := List.append_of_mem hmem
    obtain ⟨n, hprobe, -⟩ := probe_of_hits hparts
    obtain ⟨-, -, -, -, -, spelling, hentry, -⟩ := stands_of_probe hprobe
    exact not_stands_of_checkNames h hentry hput (hstands.of_neighbours hx hy)
  · -- Elsewhere it would have stood in the old text, away from the hits.
    obtain ⟨u', v', hflat, hbefore, hafter, hhit, -⟩ := hkept
    rw [flat_hits] at hflat
    exact hhit (touches_of_stands hflat (hstands.of_neighbours hbefore hafter))

end

/-- A table that was checked finds nothing more to replace in a text that it was applied to if and
only if no spelling touches an end of a canonical spelling there; and then the text stays as it
is. -/
theorem apply_again_iff {version : Nat} {names : ByName String} {table : CanonicalNames}
    (h : RuleSet.checkNames version names = .ok table) (t : Text) :
    (table.replace? (table.apply t) = none ↔ table.Smooth t) ∧
      (table.Smooth t → table.apply (table.apply t) = table.apply t) := by
  have hiff : table.replace? (table.apply t) = none ↔ table.Smooth t := by
    rw [replace?_eq_none_iff]
    constructor
    · intro hnone u w v htext hstands
      exact absurd hstands (hnone u w v htext)
    · intro hsmooth u w v htext hstands
      exact hsmooth u w v htext hstands (touches_of_stands_apply h htext hstands)
  exact ⟨hiff, fun hsmooth => apply_of_replace?_eq_none (hiff.mpr hsmooth)⟩

/-! ### A table that goes on -/

/-- The colours of a theme are named by the theme. -/
def themed : ByName String :=
  [("theme.colors", "theme")]

theorem checkNames_themed : RuleSet.checkNames 1 themed = .ok ⟨1, themed⟩ := by
  refine RuleSet.checkNames_eq_ok 1 (fun hne => hasPattern_matcher_of_words hne ?_ ?_ ?_)
    (by decide +kernel)
  · decide
  · decide
  · decide

/-- Colours of colours are colours once more; those of a colour among other names are not. -/
theorem apply_themed :
    apply ⟨1, themed⟩ "theme.colors.colors".toList = "theme.colors".toList ∧
      apply ⟨1, themed⟩ "theme.colors".toList = "theme".toList ∧
      apply ⟨1, themed⟩ "theme.colors.red".toList = "theme.red".toList ∧
      replace? ⟨1, themed⟩ "theme.colors".toList ≠ none ∧
      replace? ⟨1, themed⟩ "theme.red".toList = none := by
  decide +kernel

/-- The check of a table does not settle texts: a table that it accepts changes what it has
written. -/
theorem not_apply_idempotent :
    ¬ ∀ (version : Nat) (names : ByName String) (table : CanonicalNames),
      RuleSet.checkNames version names = .ok table →
      ∀ t, table.apply (table.apply t) = table.apply t := by
  intro h
  have hagain := h 1 themed ⟨1, themed⟩ checkNames_themed "theme.colors.colors".toList
  rw [apply_themed.1, apply_themed.2.1] at hagain
  cases hagain

/-- A spelling touches the canonical one in `theme.colors.colors` and none does in
`theme.colors.red`. -/
theorem apply_again_iff_themed :
    RuleSet.checkNames 1 themed = .ok ⟨1, themed⟩ ∧
      Smooth ⟨1, themed⟩ "theme.colors.red".toList ∧
      ¬ Smooth ⟨1, themed⟩ "theme.colors.colors".toList := by
  have hiff := fun t => (apply_again_iff checkNames_themed t).1
  refine ⟨checkNames_themed, (hiff _).mp ?_, fun hsmooth => ?_⟩
  · rw [apply_themed.2.2.1, apply_themed.2.2.2.2]
  · have hnone := (hiff _).mpr hsmooth
    rw [apply_themed.1] at hnone
    exact apply_themed.2.2.2.1 hnone

end CanonicalNames

end DesignTokens
