import DesignTokens.Proofs.Names.Convergence
import Mathlib.Data.List.Infix

/-! # Tables that settle texts

Where the spellings of a table are words at their ends and no canonical spelling shares a character
with one of them in any text, a text in canonical spelling is left alone. What would be replaced
stands in what was kept of the old text, between the same neighbours or ones that do as well, and
there it would have been replaced.

## Main definitions

* `CanonicalNames.Separate` - no canonical spelling shares a character with a spelling to replace

## Main results

* `CanonicalNames.chain?_eq_none_of_separate` - the table leaves its canonical spellings alone
* `CanonicalNames.replace?_apply_of_separate` - a text in canonical spelling is left alone
-/

namespace DesignTokens.CanonicalNames

open Character Text

/-- Whether one of two texts is the beginning of the other. -/
def agree (a b : Text) : Bool :=
  a.isPrefixOf b || b.isPrefixOf a

/-- A character of words, at which a word boundary is wanted. -/
def isWordEnd (c : Char) : Bool :=
  isWord c && isTokenChar c

/-- Two entries between which nothing is shared: the first spelling is a word at both ends, the
second canonical spelling at its start, and neither can start within the other. -/
structure SeparateFrom (a b : String × String) : Prop where
  head : a.1.toList.head?.any isWordEnd = true
  last : a.1.toList.getLast?.any isWordEnd = true
  canonical : b.2.toList.head?.any isWordEnd = true
  within : ∀ y ∈ a.1.toList.tails, y ≠ [] → agree b.2.toList y = false
  after : ∀ y ∈ b.2.toList.tail.tails, y ≠ [] → agree a.1.toList y = false

instance (a b : String × String) : Decidable (SeparateFrom a b) :=
  decidable_of_iff (_ ∧ _ ∧ _ ∧ _ ∧ _)
    ⟨fun ⟨h₁, h₂, h₃, h₄, h₅⟩ => ⟨h₁, h₂, h₃, h₄, h₅⟩,
      fun ⟨h₁, h₂, h₃, h₄, h₅⟩ => ⟨h₁, h₂, h₃, h₄, h₅⟩⟩

/-- No canonical spelling of a table shares a character with a spelling to replace, in any text. -/
def Separate (names : ByName String) : Prop :=
  ∀ a ∈ names, ∀ b ∈ names, SeparateFrom a b

instance (names : ByName String) : Decidable (Separate names) :=
  inferInstanceAs (Decidable (∀ a ∈ names, ∀ b ∈ names, SeparateFrom a b))

section

variable {names : ByName String} {table : CanonicalNames} {a b : Text} {t u v w : Text}

theorem agree_of_beginning (h : a <+: b ++ v) : agree a b = true := by
  rw [agree, Bool.or_eq_true, List.isPrefixOf_iff_prefix, List.isPrefixOf_iff_prefix]
  exact List.prefix_or_prefix_of_prefix h (List.prefix_append b v)

/-- A word at both ends. -/
structure IsWordAtEnds (w : Text) : Prop where
  head : w.head?.any isWordEnd = true
  last : w.getLast?.any isWordEnd = true

theorem any_isWordEnd {c : Option Char} (h : c.any isWordEnd = true) :
    c.any isTokenChar = true ∧ isWordSide c = true ∧ ∃ d, c = some d := by
  rw [Option.any_eq_true] at h
  obtain ⟨d, rfl, hd⟩ := h
  rw [isWordEnd, Bool.and_eq_true] at hd
  exact ⟨hd.2, hd.1, d, rfl⟩

/-- Where a spelling that is a word at both ends stands, no character of words is next to it. -/
theorem standsAt_iff (hw : IsWordAtEnds w) (before : Option Char) (v : Text) :
    standsAt w before (w ++ v) = true ↔ isWordSide before = false ∧ isWordSide v.head? = false := by
  obtain ⟨hhead, hside, c, hc⟩ := any_isWordEnd hw.head
  obtain ⟨hlast, hside', d, hd⟩ := any_isWordEnd hw.last
  rw [standsAt_append]
  simp only [hhead, hlast, true_implies]
  rw [hc] at hside ⊢
  rw [hd] at hside' ⊢
  simp [boundary, hside, hside']

theorem Separate.ends (h : Separate names) {entry : String × String} (hentry : entry ∈ names) :
    IsWordAtEnds entry.1.toList :=
  ⟨(h entry hentry entry hentry).head, (h entry hentry entry hentry).last⟩

/-- Whether a spelling stands between two texts depends on what kind of character is next to it. -/
theorem Stands.of_sides (h : Separate names) {u' v' : Text} (hstands : Stands names u w v)
    (hbefore : isWordSide u'.getLast? = isWordSide u.getLast?)
    (hafter : isWordSide v'.head? = isWordSide v.head?) : Stands names u' w v' := by
  obtain ⟨entry, hentry, rfl, hstands⟩ := hstands
  refine ⟨entry, hentry, rfl, ?_⟩
  rw [standsAt_iff (h.ends hentry)] at hstands ⊢
  rwa [hbefore, hafter]

/-- What a spelling to replace has next to it in a text. -/
theorem Stands.sides (h : Separate names) (hstands : Stands names u w v) :
    IsWordAtEnds w ∧ isWordSide u.getLast? = false ∧ isWordSide v.head? = false := by
  obtain ⟨entry, hentry, rfl, hstands⟩ := hstands
  exact ⟨h.ends hentry, (standsAt_iff (h.ends hentry) _ _).mp hstands⟩

theorem IsWordAtEnds.ne_nil (hw : IsWordAtEnds w) : w ≠ [] := by
  rintro rfl
  exact absurd hw.head (by simp)

/-- A hit is a spelling that stands there, and what is put in its place is filed under it. -/
theorem exists_stands_of_hit {front back : List (Part Char String)} {found : Text}
    {canonical : String} (h : hits (probe names) t = front ++ .hit found canonical :: back) :
    ∃ spelling, (spelling, canonical) ∈ names ∧ spelling.toList = found ∧
      Stands names (flat front) found (flat back) := by
  obtain ⟨n, hprobe, hfound⟩ := probe_of_hits h
  obtain ⟨w, v, htext, hstands, htake, spelling, hmem, hspelling⟩ := stands_of_probe hprobe
  obtain rfl : found = w := hfound.trans htake
  obtain rfl := List.append_cancel_left htext
  exact ⟨spelling, hmem, hspelling, hstands⟩

/-- Where a spelling stands, a hit has its first character. -/
theorem touchesHit_of_stands (h : Separate names) (htext : t = u ++ (w ++ v))
    (hstands : Stands names u w v) : TouchesHit (hits (probe names) t) u.length 1 := by
  obtain ⟨⟨n, canonical⟩, hprobe⟩ := exists_probe_of_stands hstands
  obtain ⟨w', v', -, hstands', htake, -⟩ := stands_of_probe hprobe
  refine (touches_of_probe htext hprobe).weaken ?_
  have hpos := List.length_pos_iff.mpr (hstands'.sides h).1.ne_nil
  simp only [htake]
  omega

/-- No character of words comes right after a hit. -/
theorem isWordSide_of_endsHit (h : Separate names) (htext : t = u ++ v)
    (hends : EndsHit (hits (probe names) t) u.length) : isWordSide v.head? = false := by
  obtain ⟨front, found, canonical, back, hparts, hlength⟩ := hends
  obtain ⟨-, -, -, hstands⟩ := exists_stands_of_hit hparts
  have hflat : flat (hits (probe names) t) = t := flat_hits t
  rw [hparts, flat_append, flat_cons, text_hit, htext, ← List.append_assoc] at hflat
  obtain ⟨-, rfl⟩ := List.append_inj hflat (by rw [List.length_append, hlength])
  exact (hstands.sides h).2.2

/-- The table changes none of its own canonical spellings. -/
theorem chain?_eq_none_of_separate (h : Separate names) : chain? names = none := by
  refine List.find?_eq_none.mpr fun b hb hmatch => ?_
  obtain ⟨u, y, htext, hanswers⟩ := matches?_iff.mp hmatch
  obtain ⟨w, v, rfl, a, ha, rfl, -⟩ := exists_stands_of_answers hanswers
  have hne : a.1.toList ≠ [] := (h.ends ha).ne_nil
  cases u with
  | nil =>
    have hwithin := (h a ha b hb).within a.1.toList ((List.mem_tails _ _).mpr List.suffix_rfl) hne
    rw [agree, Bool.or_comm, ← agree, agree_of_beginning (v := []) ⟨v, by simpa using htext.symm⟩]
      at hwithin
    cases hwithin
  | cons c u =>
    have hsuffix : a.1.toList ++ v <:+ b.2.toList.tail := ⟨u, by rw [htext]; rfl⟩
    have hafter := (h a ha b hb).after _ ((List.mem_tails _ _).mpr hsuffix) (by simp [hne])
    rw [agree_of_beginning (v := []) (by simp)] at hafter
    cases hafter

/-- What is put in place of a hit is a canonical spelling. -/
theorem exists_put_of_hit {found : Text} {canonical : String}
    (hmem : .hit found canonical ∈ hits (probe names) t) :
    ∃ b ∈ names, b.2.toList = put found canonical := by
  obtain ⟨front, back, hparts⟩ := List.append_of_mem hmem
  obtain ⟨spelling, hspelling, -⟩ := exists_stands_of_hit hparts
  exact ⟨_, hspelling, rfl⟩

theorem put_ne_nil (h : Separate names) {found : Text} {canonical : String}
    (hmem : .hit found canonical ∈ hits (probe names) t) : put found canonical ≠ [] := by
  obtain ⟨b, hb, heq⟩ := exists_put_of_hit hmem
  intro hnil
  have hhead := (h b hb b hb).canonical
  rw [heq, hnil] at hhead
  cases hhead

/-- No canonical spelling starts within a spelling to replace. -/
theorem not_startsWithin (h : Separate names) (hstands : Stands names u w v) :
    ¬ StartsWithin put (hits (probe names) t) w v := by
  rintro ⟨found, canonical, x, y, hmem, hxy, hy, hprefix⟩
  obtain ⟨a, ha, rfl, -⟩ := hstands
  obtain ⟨b, hb, heq⟩ := exists_put_of_hit hmem
  have hwithin := (h a ha b hb).within y ((List.mem_tails _ _).mpr ⟨x, hxy.symm⟩) hy
  rw [← heq] at hprefix
  rw [agree_of_beginning hprefix] at hwithin
  cases hwithin

/-- No spelling to replace starts within a canonical spelling, after its start. -/
theorem not_startsAfter (h : Separate names) (hstands : Stands names u w v) :
    ¬ StartsAfter put (hits (probe names) t) u w v := by
  rintro ⟨found, canonical, x, y, hmem, hxy, hx, -, hy, hprefix⟩
  obtain ⟨a, ha, rfl, -⟩ := hstands
  obtain ⟨b, hb, heq⟩ := exists_put_of_hit hmem
  obtain ⟨c, x, rfl⟩ := List.exists_cons_of_ne_nil hx
  have htail : y <:+ b.2.toList.tail := ⟨x, by rw [heq, hxy]; rfl⟩
  have hafter := (h a ha b hb).after y ((List.mem_tails _ _).mpr htail) hy
  rw [agree, Bool.or_comm, ← agree, agree_of_beginning hprefix] at hafter
  cases hafter

/-- Where a spelling follows what it followed, or a hit, no character of words is before it. -/
theorem isWordSide_of_follows (h : Separate names) {u' v' : Text} (hw : IsWordAtEnds w)
    (htext : t = u' ++ (w ++ v')) (hfollows : Follows (hits (probe names) t) u u')
    (hbefore : isWordSide u.getLast? = false) : isWordSide u'.getLast? = false := by
  rcases hfollows with heq | hends
  · rw [heq, hbefore]
  · -- The spelling starts with a character of words, and none comes right after a hit.
    have hside := isWordSide_of_endsHit h htext hends
    obtain ⟨-, hhead, c, hc⟩ := any_isWordEnd hw.head
    rw [List.head?_append, hc] at hside
    rw [hc] at hhead
    rw [Option.some_or, hhead] at hside
    cases hside

/-- Where a spelling precedes what it preceded, or a replacement, no character of words is after
it. -/
theorem isWordSide_of_precedes (h : Separate names) {v' : Text}
    (hprecedes : Precedes put (hits (probe names) t) v v')
    (hafter : isWordSide v.head? = false) : isWordSide v'.head? = false := by
  rcases hprecedes with heq | ⟨found, canonical, hmem, hprefix⟩
  · rw [heq, hafter]
  · -- The replacement starts with a character of words.
    obtain ⟨b, hb, heq⟩ := exists_put_of_hit hmem
    obtain ⟨-, hhead, c, hc⟩ := any_isWordEnd (h b hb b hb).canonical
    obtain ⟨rest, rfl⟩ := hprefix
    rw [← heq, List.head?_append, hc, Option.some_or] at hafter
    rw [hc, hafter] at hhead
    cases hhead

/-- Nothing is left to replace in a text in the canonical spelling of a table that keeps its
spellings separate. -/
theorem replace?_apply_of_separate (h : Separate table.names) (t : Text) :
    table.replace? (table.apply t) = none := by
  rw [replace?_eq_none_iff]
  intro u w v htext hstands
  obtain ⟨hw, hbefore, hafter⟩ := hstands.sides h
  rw [apply_eq] at htext
  rcases overlaps_or_stays (fun _ _ hmem => put_ne_nil h hmem) hw.ne_nil htext with
    hstarts | hstarts | ⟨u', v', hflat, hhit, hfollows, -, hprecedes⟩
  · exact not_startsWithin h hstands hstarts
  · exact not_startsAfter h hstands hstarts
  · -- The spelling stood in the old text, and a hit would have been there.
    rw [flat_hits] at hflat
    have hbefore' : isWordSide u'.getLast? = false :=
      isWordSide_of_follows h hw hflat hfollows hbefore
    have hafter' : isWordSide v'.head? = false := isWordSide_of_precedes h hprecedes hafter
    exact hhit (touchesHit_of_stands h hflat
      (hstands.of_sides h (hbefore'.trans hbefore.symm) (hafter'.trans hafter.symm)))

end

end DesignTokens.CanonicalNames
