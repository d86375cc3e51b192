import DesignTokens.Proofs.Names.Convergence
import DesignTokens.Proofs.Names.Table
import Mathlib.Data.Nat.Basic

/-! # Canonical spelling from left to right

A text is brought to canonical spelling by one walk from its start to its end. Where a spelling to
replace stands as a whole token the longest such one is replaced, and the walk goes on behind it;
elsewhere a character is kept. A table that was checked has no empty spelling, which would stand
everywhere, so the walk always gets on.

## Main definitions

* `CanonicalNames.Whole` - whether a part of a text is a whole token between its neighbours
* `CanonicalNames.Occurs` - whether a spelling stands at a place as a whole token
* `CanonicalNames.Rewrites` - the walk: what is made of a text that follows a character
* `CanonicalNames.IsPlain` - whether a spelling has characters of ASCII at its ends

## Main results

* `CanonicalNames.Rewrites.unique` - the walk makes one text only
* `CanonicalNames.rewrites_iff_eq_apply` - what the walk makes is the text in canonical spelling
-/

namespace DesignTokens.CanonicalNames

open Character Text

/-! ### The walk -/

/-- The part `w` of a text, between the character `before` and `v`, is a whole token: where a
character of words is at an end of it, none is next to that end. -/
def Whole (before : Option Char) (w v : Text) : Prop :=
  (∀ c ∈ w.head?, isWord c = true → isWordSide before = false) ∧
    ∀ c ∈ w.getLast?, isWord c = true → isWordSide v.head? = false

/-- A spelling stands as a whole token at the beginning of a text that follows `before`. -/
def Occurs (spelling : Text) (before : Option Char) (t : Text) : Prop :=
  ∃ v, t = spelling ++ v ∧ Whole before spelling v

/-- A text with characters of ASCII at its ends, where token characters are those of words. -/
def IsPlain (w : Text) : Prop :=
  ∀ c, c ∈ w.head? ∨ c ∈ w.getLast? → c.toNat < 128

/-- What a walk from left to right makes of a text that follows the character `before`. -/
inductive Rewrites (names : ByName String) : Option Char → Text → Text → Prop where
  | done {before : Option Char} : Rewrites names before [] []
  /-- The longest spelling that stands at the place is replaced. -/
  | replace {before : Option Char} {spelling canonical : String} {v out : Text}
      (entry : (spelling, canonical) ∈ names) (whole : Whole before spelling.toList v)
      (longest : ∀ other ∈ names, Occurs other.1.toList before (spelling.toList ++ v) →
        other.1.toList.length ≤ spelling.toList.length)
      (rest : Rewrites names (spelling.toList.getLast?.or before) v out) :
      Rewrites names before (spelling.toList ++ v) (canonical.toList ++ out)
  /-- Where no spelling stands a character is kept. -/
  | keep {before : Option Char} {c : Char} {t out : Text}
      (none : ∀ entry ∈ names, ¬ Occurs entry.1.toList before (c :: t))
      (rest : Rewrites names (some c) t out) : Rewrites names before (c :: t) (c :: out)

variable {names : ByName String} {before : Option Char} {t u v w out out' : Text}

/-- The walk makes one text only. -/
theorem Rewrites.unique (hkeys : Names.Increasing (names.map (·.1)))
    (hne : ∀ entry ∈ names, entry.1.toList ≠ []) (h : Rewrites names before t out)
    (h' : Rewrites names before t out') : out = out' := by
  induction h generalizing out' with
  | done =>
    generalize hnil : ([] : Text) = t' at h'
    cases h' with
    | done => rfl
    | @replace _ spelling _ _ _ hentry =>
      exact absurd (List.append_eq_nil_iff.mp hnil.symm).1 (hne _ hentry)
    | keep => cases hnil
  | @replace before spelling canonical v out hentry hwhole hlongest _ ih =>
    generalize ht : spelling.toList ++ v = t' at h'
    cases h' with
    | done => exact absurd (List.append_eq_nil_iff.mp ht).1 (hne _ hentry)
    | @replace _ spelling' canonical' v' out' hentry' hwhole' hlongest' hrest' =>
      -- Each is the longest at the place, so they are of one length and thus the same.
      have hoccurs : Occurs spelling.toList before (spelling'.toList ++ v') := ⟨v, ht.symm, hwhole⟩
      have hoccurs' : Occurs spelling'.toList before (spelling.toList ++ v) := ⟨v', ht, hwhole'⟩
      have hlength := Nat.le_antisymm (hlongest' _ hentry hoccurs) (hlongest _ hentry' hoccurs')
      obtain ⟨hspelling, rfl⟩ := List.append_inj ht hlength
      obtain rfl := String.toList_inj.mp hspelling
      have hcanonical := (ByName.get?_eq_some_iff hkeys).mpr hentry
      rw [(ByName.get?_eq_some_iff hkeys).mpr hentry'] at hcanonical
      obtain rfl := Option.some.inj hcanonical
      rw [ih hrest']
    | keep hnone _ => exact absurd ⟨v, ht.symm, hwhole⟩ (hnone _ hentry)
  | @keep before c t out hnone _ ih =>
    generalize ht : c :: t = t' at h'
    cases h' with
    | done => cases ht
    | replace hentry' hwhole' _ _ => exact absurd ⟨_, ht, hwhole'⟩ (hnone _ hentry')
    | keep _ hrest' =>
      cases ht
      rw [ih hrest']

/-- A text in which no spelling stands before the end of `u` is kept up to there. -/
theorem Rewrites.kept (hnone : ∀ x y, u = x ++ y → y ≠ [] → ∀ entry ∈ names,
      ¬ Occurs entry.1.toList (x.getLast?.or before) (y ++ v))
    (h : Rewrites names (u.getLast?.or before) v out) : Rewrites names before (u ++ v)
    (u ++ out) := by
  induction u generalizing before with
  | nil => exact h
  | cons c u ih =>
    refine .keep (hnone [] (c :: u) rfl (List.cons_ne_nil c u)) (ih ?_ ?_)
    · intro x y heq hy
      rw [← @getLast?_cons_or _ before]
      exact hnone (c :: x) y (by rw [heq]; rfl) hy
    · rwa [← @getLast?_cons_or _ before]

/-! ### Whole tokens -/

theorem isTokenChar_of_lt {c : Char} (h : c.toNat < 128) : isTokenChar c = isWord c := by
  simp only [isTokenChar, isAlphanumeric, isAlphabetic, isNumeric, isWord, if_pos h,
    Char.isAlphanum]

/-- With characters of ASCII at its ends a spelling stands where it is a whole token. -/
theorem standsAt_iff_whole (hw : IsPlain w) :
    standsAt w before (w ++ v) = true ↔ Whole before w v := by
  rw [standsAt_append, Whole]
  apply and_congr
  · cases hhead : w.head? with
    | none => simp
    | some c =>
      have hchar := isTokenChar_of_lt (hw c (.inl hhead))
      simp only [Option.any_some, hchar, Option.some_or, Option.mem_def, Option.some.injEq,
        forall_eq']
      refine imp_congr_right fun hword => ?_
      simp [boundary, isWordSide, hword]
  · cases hlast : w.getLast? with
    | none => simp
    | some c =>
      have hchar := isTokenChar_of_lt (hw c (.inr hlast))
      simp only [Option.any_some, hchar, Option.some_or, Option.mem_def, Option.some.injEq,
        forall_eq']
      refine imp_congr_right fun hword => ?_
      simp [boundary, isWordSide, hword]

theorem standsAt_iff_occurs (hw : IsPlain w) : standsAt w before t = true ↔ Occurs w before t := by
  constructor
  · intro hstands
    cases hafter : after? w t with
    | none =>
      rw [standsAt, occursAt, hafter] at hstands
      cases hstands
    | some v =>
      obtain rfl := after?_eq_some_iff.mp hafter
      exact ⟨v, rfl, (standsAt_iff_whole hw).mp hstands⟩
  · rintro ⟨v, rfl, hwhole⟩
    exact (standsAt_iff_whole hw).mpr hwhole

/-- A table that was checked has no empty spelling: it would stand in its own canonical one. -/
theorem ne_nil_of_checkNames {version : Nat} {table : CanonicalNames}
    (h : RuleSet.checkNames version names = .ok table) :
    ∀ entry ∈ table.names, entry.1.toList ≠ [] := by
  intro entry hentry hnil
  refine not_stands_of_checkNames h hentry (u := []) (w := []) (v := entry.2.toList) rfl ?_
  refine ⟨entry, hentry, hnil, ?_⟩
  rw [standsAt_append]
  simp

/-! ### What the search takes -/

/-- Of two spellings at a place the longer one has more bytes. -/
theorem utf8ByteSize_lt {a b : String} (ha : a.toList <+: t) (hb : b.toList <+: t)
    (hlength : a.toList.length < b.toList.length) : a.utf8ByteSize < b.utf8ByteSize := by
  obtain ⟨x, hx⟩ := List.prefix_of_prefix_length_le ha hb (Nat.le_of_lt hlength)
  have hsplit : b = a ++ String.ofList x := by
    rw [← String.toList_inj, String.toList_append, String.toList_ofList, hx]
  have hne : (String.ofList x).utf8ByteSize ≠ 0 := by
    rw [ne_eq, String.utf8ByteSize_eq_zero_iff, ← String.toList_inj, String.toList_ofList]
    rintro rfl
    simp [← hx] at hlength
  rw [hsplit, String.utf8ByteSize_append]
  omega

theorem pairwise_byLength (names : ByName String) :
    (byLength names).Pairwise fun a b => b.1.utf8ByteSize ≤ a.1.utf8ByteSize := by
  refine (List.pairwise_mergeSort ?_ ?_ names).imp of_decide_eq_true
  · intro a b c
    simp only [decide_eq_true_eq]
    omega
  · intro a b
    simp only [Bool.or_eq_true, decide_eq_true_eq]
    omega

/-- What the search takes at a place: the longest spelling that stands there. -/
theorem longest_of_probe {n : Nat} {canonical : String}
    (hplain : ∀ entry ∈ names, IsPlain entry.1.toList)
    (h : probe names before t = some (n, canonical)) :
    ∃ spelling v, (spelling, canonical) ∈ names ∧ t = spelling.toList ++ v ∧
      n = spelling.toList.length ∧ Whole before spelling.toList v ∧
      ∀ other ∈ names, Occurs other.1.toList before t →
        other.1.toList.length ≤ spelling.toList.length := by
  rw [probe] at h
  obtain ⟨⟨spelling, canonical'⟩, hfind, heq⟩ := Option.map_eq_some_iff.mp h
  cases heq
  obtain ⟨hstands, front, back, hsplit, hfront⟩ := List.find?_eq_some_iff_append.mp hfind
  have hmem := mem_byLength.mp (List.mem_of_find?_eq_some hfind)
  obtain ⟨v, rfl, hwhole⟩ := (standsAt_iff_occurs (hplain _ hmem)).mp hstands
  refine ⟨spelling, v, hmem, rfl, rfl, hwhole, ?_⟩
  intro other hother hoccurs
  by_contra hlonger
  obtain ⟨v', htext, -⟩ := id hoccurs
  have hbytes := utf8ByteSize_lt ⟨v, rfl⟩ ⟨v', htext.symm⟩ (not_le.mp hlonger)
  -- An entry with more bytes comes earlier in the order, and there the search would have ended.
  have hsorted := pairwise_byLength names
  rw [hsplit, List.pairwise_append] at hsorted
  have hplace := mem_byLength.mpr hother
  rw [hsplit, List.mem_append, List.mem_cons] at hplace
  rcases hplace with hearlier | rfl | hlater
  · have hnot := hfront other hearlier
    rw [(standsAt_iff_occurs (hplain _ hother)).mpr hoccurs] at hnot
    cases hnot
  · exact absurd hbytes (lt_irrefl _)
  · have hle := (List.pairwise_cons.mp hsorted.2.1).1 other hlater
    exact absurd hbytes (not_lt.mpr hle)

theorem not_occurs_of_probe (hplain : ∀ entry ∈ names, IsPlain entry.1.toList)
    (h : probe names before t = none) : ∀ entry ∈ names, ¬ Occurs entry.1.toList before t := by
  intro entry hentry hoccurs
  rw [probe, Option.map_eq_none_iff, List.find?_eq_none] at h
  exact h entry (mem_byLength.mpr hentry) ((standsAt_iff_occurs (hplain _ hentry)).mpr hoccurs)

/-! ### The search walks -/

/-- A hit of the search is a spelling that is replaced, and in front of it stands no other one. -/
theorem replaced_of_findFrom {hit : Hit Char String}
    (hplain : ∀ entry ∈ names, IsPlain entry.1.toList)
    (h : findFrom (probe names) before t = some hit) :
    ∃ spelling, hit.found = spelling.toList ∧ t = hit.lead ++ (spelling.toList ++ hit.rest) ∧
      (spelling, hit.value) ∈ names ∧
      Whole (hit.lead.getLast?.or before) spelling.toList hit.rest ∧
      (∀ other ∈ names,
        Occurs other.1.toList (hit.lead.getLast?.or before) (spelling.toList ++ hit.rest) →
          other.1.toList.length ≤ spelling.toList.length) ∧
      ∀ x y, hit.lead = x ++ y → y ≠ [] → ∀ entry ∈ names,
        ¬ Occurs entry.1.toList (x.getLast?.or before) (y ++ (spelling.toList ++ hit.rest)) := by
  obtain ⟨htext, ⟨n, hprobe, hfound⟩, hbefore⟩ := findFrom_eq_some h
  obtain ⟨spelling, v, hentry, hsplit, rfl, hwhole, hlongest⟩ := longest_of_probe hplain hprobe
  rw [hsplit, List.take_left] at hfound
  rw [hfound] at hsplit htext
  obtain rfl := List.append_cancel_left hsplit
  rw [hfound] at hlongest
  refine ⟨spelling, hfound, htext, hentry, hwhole, hlongest, fun x y heq hy => ?_⟩
  -- A spelling in front of the hit would have been found before it.
  have hshorter : x.length < hit.lead.length := by
    have := List.length_pos_iff.mpr hy
    rw [heq, List.length_append]
    omega
  have hanswers := hbefore x (y ++ (spelling.toList ++ hit.rest))
    (by rw [htext, heq, List.append_assoc]) hshorter
  rw [answers, Option.not_isSome_iff_eq_none] at hanswers
  exact not_occurs_of_probe hplain hanswers

/-- Hit by hit the search makes what the walk makes. A hit is never empty, so a round for each
character, and one for the end, are enough. -/
theorem rewrites_hitsFrom (hplain : ∀ entry ∈ names, IsPlain entry.1.toList)
    (hne : ∀ entry ∈ names, entry.1.toList ≠ []) {rounds : Nat} {justHit : Bool}
    (hrounds : t.length < rounds) :
    Rewrites names before t (replaceParts put
        (hitsFrom (probe names) rounds justHit before t)) := by
  induction rounds generalizing justHit before t with
  | zero => omega
  | succ rounds ih =>
    rw [hitsFrom_succ]
    cases hfind : findFrom (probe names) before t with
    | none =>
      have hkept : Rewrites names before (t ++ []) (t ++ []) := by
        refine .kept (fun x y heq _ => ?_) .done
        have hanswers := findFrom_eq_none hfind heq
        rw [answers, Option.not_isSome_iff_eq_none] at hanswers
        rw [List.append_nil]
        exact not_occurs_of_probe hplain hanswers
      simpa using hkept
    | some hit =>
      obtain ⟨spelling, hfound, htext, hentry, hwhole, hlongest, hlead⟩ :=
        replaced_of_findFrom hplain hfind
      have hspelling := hne _ hentry
      have hnonempty : hit.found.isEmpty = false := by simpa [hfound] using hspelling
      dsimp only
      rw [hnonempty, Bool.and_false, if_neg Bool.false_ne_true, replaceParts_kept,
        replaceParts_hit, put, htext, hfound]
      -- What is in front of the hit is kept, and the longest spelling there is replaced.
      refine .kept hlead (.replace hentry hwhole hlongest ?_)
      rw [getLast?_append_or]
      apply ih
      have hpos : 0 < spelling.toList.length := List.length_pos_iff.mpr hspelling
      rw [htext] at hrounds
      simp only [List.length_append] at hrounds
      omega

/-- A table that was checked, with characters of ASCII at the ends of its spellings, makes of a text
what the walk from left to right makes of it, and nothing else can be made by that walk. No spelling
of the table is empty. The text is what was kept of it and what was found, and each part that was
found is replaced by what is filed under it. -/
theorem rewrites_iff_eq_apply {version : Nat} {names : ByName String} {table : CanonicalNames}
    (hcheck : RuleSet.checkNames version names = .ok table)
    (hkeys : Names.Increasing (names.map (·.1)))
    (hplain : ∀ entry ∈ names, IsPlain entry.1.toList) :
    (∀ entry ∈ names, entry.1 ≠ "") ∧
      ∀ t, (∀ out, Rewrites names none t out ↔ out = table.apply t) ∧
        flat (hits (probe names) t) = t ∧
        table.apply t = replaceParts put (hits (probe names) t) ∧
        ∀ found canonical, .hit found canonical ∈ hits (probe names) t →
          table.canonical? (String.ofList found) = some canonical := by
  obtain rfl := RuleSet.eq_of_checkNames hcheck
  have hne := ne_nil_of_checkNames hcheck
  refine ⟨fun entry hentry hempty => hne entry hentry (by rw [hempty]; rfl), fun t => ?_⟩
  have happly := apply_eq ⟨version, names⟩ t
  have hwalk : Rewrites names none t (apply ⟨version, names⟩ t) := by
    rw [happly, hits]
    exact rewrites_hitsFrom hplain hne (by omega)
  refine ⟨fun out => ⟨fun hout => hout.unique hkeys hne hwalk, fun hout => hout ▸ hwalk⟩,
    flat_hits t, happly, ?_⟩
  intro found canonical hmem
  obtain ⟨front, back, hparts⟩ := List.append_of_mem hmem
  obtain ⟨n, hprobe, hfound⟩ := probe_of_hits hparts
  obtain ⟨spelling, v, hentry, hsplit, rfl, -⟩ := longest_of_probe hplain hprobe
  rw [hsplit, List.take_left] at hfound
  rw [canonical?, hfound, String.ofList_toList]
  exact (ByName.get?_eq_some_iff hkeys).mpr hentry

/-- Colours of a theme, of which one has a name of its own. -/
def accented : ByName String :=
  [("theme.colors", "theme"), ("theme.colors.accent", "accent")]

theorem byLength_accented : byLength accented = accented.reverse := by
  have hlonger : ¬ "theme.colors.accent".utf8ByteSize ≤ "theme.colors".utf8ByteSize := by decide
  simp [byLength, accented, List.mergeSort, List.MergeSort.Internal.splitInTwo, hlonger]

/-- The longer spelling is taken where it is a whole token, the shorter one where it is not. -/
theorem rewrites_accented :
    Rewrites accented none "theme.colors.accent, theme.colors.accents".toList
      "accent, theme.accents".toList := by
  have hcheck : RuleSet.checkNames 1 accented = .ok ⟨1, accented⟩ := by
    refine RuleSet.checkNames_eq_ok 1 (fun hne => hasPattern_matcher_of_words hne ?_ ?_ ?_) ?_
    · decide
    · decide
    · decide
    · rw [chain?, probe, byLength_accented]
      decide
  have hkeys : Names.Increasing (accented.map (·.1)) := by decide
  have hplain : ∀ entry ∈ accented, IsPlain entry.1.toList := by
    intro entry hentry c hc
    rw [accented, List.mem_cons, List.mem_singleton] at hentry
    rcases hentry with rfl | rfl <;> rcases hc with hc | hc <;> cases hc <;> decide
  obtain ⟨-, hwalk⟩ := rewrites_iff_eq_apply hcheck hkeys hplain
  rw [(hwalk _).1, apply_eq, probe, byLength_accented]
  decide

end DesignTokens.CanonicalNames
