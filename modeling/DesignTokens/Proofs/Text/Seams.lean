import DesignTokens.Proofs.Text.Places

/-! # Seams

Where hits of a text are replaced, the text gets a seam at both ends of every replacement. Seams
that the text had before move along with what is kept and are lost where they lie in a hit. A part
of the new text that touches no seam lies within a replacement, or it is a part of the old text that
touches no hit and has the same neighbours there.

## Main definitions

* `Text.seams` - the seams of a text with every hit replaced
* `Text.Touches` - a part of a text touches one of several places
* `Text.StartsWithin`, `Text.StartsAfter` - a part of a text overlaps a replacement
* `Text.Stays` - a part of the old text that no replacement overlaps

## Main results

* `Text.replaceParts_eq_append` - where a part lies that touches no seam
* `Text.overlaps_or_stays` - where a part lies if replacements are not empty
-/

namespace DesignTokens.Text

variable {α : Type}

/-! ### Parts with hits replaced -/

section

variable (replace : Text → α → Text) (parts : List (Part Char α)) (t : Text) (value : α)

@[simp] theorem replaceParts_nil : replaceParts replace ([] : List (Part Char α)) = [] := rfl

@[simp] theorem replaceParts_kept :
    replaceParts replace (.kept t :: parts) = t ++ replaceParts replace parts := rfl

@[simp] theorem replaceParts_hit :
    replaceParts replace (.hit t value :: parts) = replace t value ++ replaceParts replace parts :=
  rfl

/-- Without a hit a text stays as it is. -/
theorem replaceParts_of_not_hit {replace : Text → α → Text} {parts : List (Part Char α)}
    (h : parts.any Part.isHit = false) : replaceParts replace parts = flat parts := by
  induction parts with
  | nil => rfl
  | cons part parts ih =>
    rw [List.any_cons, Bool.or_eq_false_iff] at h
    cases part with
    | kept t => rw [replaceParts_kept, flat_cons, text_kept, ih h.2]
    | hit t value => cases h.1

end

/-! ### Seams -/

/-- The places from the one after `n` characters on, counted from there. -/
def placesFrom (n : Nat) (places : List Nat) : List Nat :=
  (places.filter (n ≤ ·)).map (· - n)

theorem mem_placesFrom {n k : Nat} {places : List Nat} :
    k ∈ placesFrom n places ↔ n + k ∈ places := by
  simp only [placesFrom, List.mem_map, List.mem_filter, decide_eq_true_eq]
  constructor
  · rintro ⟨m, ⟨hmem, hle⟩, rfl⟩
    rwa [Nat.add_sub_cancel' hle]
  · intro h
    exact ⟨n + k, ⟨h, by omega⟩, by omega⟩

/-- The seams of a text with every hit replaced, where `old` are those that it had before. -/
def seams (replace : Text → α → Text) : List Nat → List (Part Char α) → List Nat
  | old, [] => old.filter (· = 0)
  | old, .kept t :: parts =>
    old.filter (· ≤ t.length) ++
      (seams replace (placesFrom t.length old) parts).map (t.length + ·)
  | old, .hit t value :: parts =>
    0 :: (replace t value).length ::
      (seams replace (placesFrom t.length old) parts).map ((replace t value).length + ·)

/-- The part `w` of a text that follows `u` touches one of several places: the place lies in it or
at an end of it. -/
def Touches (places : List Nat) (u w : Text) : Prop :=
  ∃ k ∈ places, u.length ≤ k ∧ k ≤ u.length + w.length

/-- The part `w` of a new text, between `u` and `v`, lies within a replacement and away from its
ends. -/
def Inserted (replace : Text → α → Text) (parts : List (Part Char α)) (u w v : Text) : Prop :=
  ∃ t value x y, .hit t value ∈ parts ∧ replace t value = x ++ (w ++ y) ∧
    x.getLast? = u.getLast? ∧ y.head? = v.head?

/-- The part `w` of a new text, between `u` and `v`, is one of the old text: it has the same
neighbours there and touches neither a hit nor a seam. -/
def Kept (old : List Nat) (parts : List (Part Char α)) (u w v : Text) : Prop :=
  ∃ u' v', flat parts = u' ++ (w ++ v') ∧ u'.getLast? = u.getLast? ∧ v'.head? = v.head? ∧
    ¬ TouchesHit parts u'.length 0 ∧ ¬ Touches old u' w

/-- Every part of a new text that touches no seam lies within a replacement, or it is one of the old
text. -/
def Traced (replace : Text → α → Text) (old : List Nat) (parts : List (Part Char α)) : Prop :=
  ∀ u w v, replaceParts replace parts = u ++ (w ++ v) →
    ¬ Touches (seams replace old parts) u w →
      Inserted replace parts u w v ∧ u ≠ [] ∨ Kept old parts u w v

section

variable {replace : Text → α → Text} {part : Part Char α} {parts : List (Part Char α)}
variable {old : List Nat} {t u w v : Text} {value : α}

theorem TouchesHit.of_cons {n taken : Nat} (h : TouchesHit (part :: parts) n taken) :
    (∃ found value, part = .hit found value ∧ n + min taken 1 ≤ found.length) ∨
      ∃ m, n = part.text.length + m ∧ TouchesHit parts m taken := by
  obtain ⟨front, found, value, back, heq, hle, hge⟩ := h
  cases front with
  | nil =>
    obtain ⟨rfl, rfl⟩ := List.cons.inj heq
    exact .inl ⟨found, value, rfl, by simpa using hge⟩
  | cons first front =>
    obtain ⟨rfl, rfl⟩ := List.cons.inj heq
    rw [flat_cons, List.length_append] at hle hge
    exact .inr ⟨n - part.text.length, by omega, front, found, value, back, rfl, by omega, by omega⟩

theorem not_touches_of_append {places : List Nat}
    (hplaces : ∀ k ∈ places, t.length + k ∈ old) (h : ¬ Touches old (t ++ u) w) :
    ¬ Touches places u w := by
  rintro ⟨k, hk, hle, hge⟩
  refine h ⟨t.length + k, hplaces k hk, ?_, ?_⟩ <;> rw [List.length_append] <;> omega

theorem Inserted.cons (h : Inserted replace parts u w v) (part : Part Char α)
    (hu : (t ++ u).getLast? = u.getLast?) : Inserted replace (part :: parts) (t ++ u) w v := by
  obtain ⟨found, value, x, y, hmem, hreplace, hx, hy⟩ := h
  exact ⟨found, value, x, y, List.mem_cons_of_mem part hmem, hreplace, hx.trans hu.symm, hy⟩

/-! ### One part after the other -/

/-- Where a text is cut in two ways, the second cut lies beyond the first or in front of it. -/
theorem append_eq_append {β : Type} {a b c d : List β} (h : a ++ b = c ++ d) :
    (∃ z, c = a ++ z ∧ b = z ++ d) ∨ ∃ x, x ≠ [] ∧ a = c ++ x ∧ d = x ++ b := by
  rcases List.append_eq_append_iff.mp h with hbeyond | ⟨x, rfl, rfl⟩
  · exact .inl hbeyond
  · by_cases hx : x = []
    · exact .inl ⟨[], by simp [hx], by simp [hx]⟩
    · exact .inr ⟨x, hx, rfl, rfl⟩

/-- What lies beyond a first part that is kept. -/
theorem Kept.cons_kept (h : Kept (placesFrom t.length old) parts u w v) :
    Kept old (.kept t :: parts) (t ++ u) w v := by
  obtain ⟨u', v', htext, hbefore, hafter, hhit, hold⟩ := h
  refine ⟨t ++ u', v', by simp [htext], ?_, hafter, ?_, ?_⟩
  · rw [List.getLast?_append, List.getLast?_append, hbefore]
  · intro htouches
    rcases htouches.of_cons with ⟨_, _, hpart, -⟩ | ⟨m, hm, htouches⟩
    · cases hpart
    · obtain rfl : u'.length = m := by simpa using hm
      exact hhit htouches
  · rintro ⟨k, hk, hle, hge⟩
    rw [List.length_append] at hle hge
    refine hold ⟨k - t.length, mem_placesFrom.mpr ?_, by omega, by omega⟩
    rwa [Nat.add_sub_cancel' (by omega)]

/-- What starts in a first part that is kept, in front of its last character or before, and goes on
with a part of the rest. -/
theorem Kept.of_starts {x : Text} (hx : x ≠ [])
    (h : Kept (placesFrom (u ++ x).length old) parts [] w v)
    (hold : ∀ k ∈ old, k ≤ (u ++ x).length → ¬ (u.length ≤ k ∧ k ≤ u.length + (x ++ w).length)) :
    Kept old (.kept (u ++ x) :: parts) u (x ++ w) v := by
  obtain ⟨u', v', htext, hbefore, hafter, hhit, hrest⟩ := h
  obtain rfl : u' = [] := List.getLast?_eq_none_iff.mp hbefore
  have hlength : 0 < x.length := List.length_pos_iff.mpr hx
  refine ⟨u, v', by simp [htext], rfl, hafter, ?_, ?_⟩
  · intro htouches
    rcases htouches.of_cons with ⟨_, _, hpart, -⟩ | ⟨m, hm, -⟩
    · cases hpart
    · rw [text_kept, List.length_append] at hm
      omega
  · rintro ⟨k, hk, hle, hge⟩
    by_cases hin : k ≤ (u ++ x).length
    · exact hold k hk hin ⟨hle, hge⟩
    · simp only [List.length_append] at hin hge
      refine hrest ⟨k - (u ++ x).length, mem_placesFrom.mpr ?_, by simp, ?_⟩
      · rwa [Nat.add_sub_cancel' (by simp only [List.length_append]; omega)]
      · simp only [List.length_append, List.length_nil]
        omega

/-- What lies in a first part that is kept, in front of its last character. -/
theorem kept_within {x : Text} (hx : x ≠ [])
    (hold : ∀ k ∈ old, k ≤ (u ++ (w ++ x)).length → ¬ (u.length ≤ k ∧ k ≤ u.length + w.length)) :
    Kept old (.kept (u ++ (w ++ x)) :: parts) u w (x ++ v) := by
  have hlength : 0 < x.length := List.length_pos_iff.mpr hx
  refine ⟨u, x ++ flat parts, by simp, rfl, ?_, ?_, ?_⟩
  · rw [List.head?_append_of_ne_nil _ hx, List.head?_append_of_ne_nil _ hx]
  · intro htouches
    rcases htouches.of_cons with ⟨_, _, hpart, -⟩ | ⟨m, hm, -⟩
    · cases hpart
    · simp only [text_kept, List.length_append] at hm
      omega
  · rintro ⟨k, hk, hle, hge⟩
    refine hold k hk ?_ ⟨hle, hge⟩
    simp only [List.length_append]
    omega

/-- What lies beyond a first hit, with a character between. -/
theorem Kept.cons_hit {found : Text} (hu : u ≠ [])
    (h : Kept (placesFrom found.length old) parts u w v) :
    Kept old (.hit found value :: parts) (t ++ u) w v := by
  obtain ⟨u', v', htext, hbefore, hafter, hhit, hold⟩ := h
  have hu' : u' ≠ [] := by
    rintro rfl
    exact hu (List.getLast?_eq_none_iff.mp hbefore.symm)
  have hlength : 0 < u'.length := List.length_pos_iff.mpr hu'
  refine ⟨found ++ u', v', by simp [htext], ?_, hafter, ?_, ?_⟩
  · rw [List.getLast?_append_of_ne_nil _ hu', List.getLast?_append_of_ne_nil _ hu, hbefore]
  · intro htouches
    rcases htouches.of_cons with ⟨_, _, hpart, hle⟩ | ⟨m, hm, htouches⟩
    · cases hpart
      rw [List.length_append] at hle
      omega
    · obtain rfl : u'.length = m := by simpa using hm
      exact hhit htouches
  · rintro ⟨k, hk, hle, hge⟩
    rw [List.length_append] at hle hge
    refine hold ⟨k - found.length, mem_placesFrom.mpr ?_, by omega, by omega⟩
    rwa [Nat.add_sub_cancel' (by omega)]

theorem traced_nil : Traced replace old [] := by
  intro u w v htext hseams
  obtain ⟨rfl, rfl, rfl⟩ : u = [] ∧ w = [] ∧ v = [] := by simpa [eq_comm] using htext
  refine .inr ⟨[], [], rfl, rfl, rfl, ?_, ?_⟩
  · rintro ⟨front, found, value, back, heq, -⟩
    simp at heq
  · rintro ⟨k, hk, -, hge⟩
    obtain rfl : k = 0 := by simpa using hge
    exact hseams ⟨0, by simpa [seams] using hk, by simp, by simp⟩

theorem Traced.cons_kept (h : Traced replace (placesFrom t.length old) parts) :
    Traced replace old (.kept t :: parts) := by
  intro u w v htext hseams
  rw [replaceParts_kept] at htext
  have hnext : ∀ k ∈ seams replace (placesFrom t.length old) parts,
      t.length + k ∈ seams replace old (.kept t :: parts) := fun k hk =>
    List.mem_append_right _ (List.mem_map_of_mem hk)
  have hold : ∀ k ∈ old, k ≤ t.length → ¬ (u.length ≤ k ∧ k ≤ u.length + w.length) :=
    fun k hk hle hin => hseams ⟨k, List.mem_append_left _ (by simp [hk, hle]), hin⟩
  rcases append_eq_append htext with ⟨z, rfl, hrest⟩ | ⟨x, hx, rfl, hrest⟩
  · -- The part lies beyond what is kept.
    rcases h z w v hrest (not_touches_of_append hnext hseams) with ⟨hinserted, hz⟩ | hkept
    · exact .inl ⟨hinserted.cons _ (List.getLast?_append_of_ne_nil _ hz), by simp [hz]⟩
    · exact .inr hkept.cons_kept
  · right
    rcases append_eq_append hrest.symm with ⟨z, rfl, hz⟩ | ⟨y, hy, rfl, rfl⟩
    · -- The part goes on in the rest, from its start on.
      have hstart : ¬ Touches (seams replace (placesFrom (u ++ x).length old) parts) [] z := by
        rintro ⟨k, hk, -, hge⟩
        refine hseams ⟨_, hnext k hk, ?_, ?_⟩
        · simp only [List.length_append]
          omega
        · simp only [List.length_append, List.length_nil] at hge ⊢
          omega
      rcases h [] z v hz hstart with ⟨-, hnil⟩ | hkept
      · exact absurd rfl hnil
      · exact Kept.of_starts hx hkept hold
    · exact kept_within hy hold

theorem Traced.cons_hit (h : Traced replace (placesFrom t.length old) parts) :
    Traced replace old (.hit t value :: parts) := by
  intro u w v htext hseams
  rw [replaceParts_hit] at htext
  have hnext : ∀ k ∈ seams replace (placesFrom t.length old) parts,
      (replace t value).length + k ∈ seams replace old (.hit t value :: parts) := fun k hk =>
    List.mem_cons_of_mem _ (List.mem_cons_of_mem _ (List.mem_map_of_mem hk))
  -- Both ends of the replacement are seams, so the part touches neither.
  have hu : u ≠ [] := by
    rintro rfl
    exact hseams ⟨0, List.mem_cons_self, by simp, by simp⟩
  have hend : ¬ (u.length ≤ (replace t value).length ∧
      (replace t value).length ≤ u.length + w.length) := fun hin =>
    hseams ⟨_, List.mem_cons_of_mem _ List.mem_cons_self, hin⟩
  rcases append_eq_append htext with ⟨z, rfl, hrest⟩ | ⟨x, -, hreplace, hrest⟩
  · have hz : z ≠ [] := by
      rintro rfl
      simp at hend
    rcases h z w v hrest (not_touches_of_append hnext hseams) with ⟨hinserted, -⟩ | hkept
    · exact .inl ⟨hinserted.cons _ (List.getLast?_append_of_ne_nil _ hz), hu⟩
    · exact .inr (hkept.cons_hit hz)
  · rcases append_eq_append hrest.symm with ⟨z, rfl, -⟩ | ⟨y, hy, rfl, rfl⟩
    · rw [hreplace] at hend
      simp at hend
    · refine .inl ⟨⟨t, value, u, y, List.mem_cons_self, hreplace, rfl, ?_⟩, hu⟩
      rw [List.head?_append_of_ne_nil _ hy]

theorem traced (replace : Text → α → Text) (old : List Nat) (parts : List (Part Char α)) :
    Traced replace old parts := by
  induction parts generalizing old with
  | nil => exact traced_nil
  | cons part parts ih =>
    cases part with
    | kept t => exact (ih _).cons_kept
    | hit t value => exact (ih _).cons_hit

/-- A part that touches no seam of a new text lies within a replacement, or it is one of the old
text. -/
theorem replaceParts_eq_append (htext : replaceParts replace parts = u ++ (w ++ v))
    (hseams : ¬ Touches (seams replace old parts) u w) :
    Inserted replace parts u w v ∧ u ≠ [] ∨ Kept old parts u w v :=
  traced replace old parts u w v htext hseams

/-! ### Overlaps -/

/-- A replacement starts in the part `w` of a text, or at its start, and `v` follows the part. -/
def StartsWithin (replace : Text → α → Text) (parts : List (Part Char α)) (w v : Text) : Prop :=
  ∃ t value x y, .hit t value ∈ parts ∧ w = x ++ y ∧ y ≠ [] ∧ replace t value <+: y ++ v

/-- The part `w` of a text, between `u` and `v`, starts in a replacement, after its start. -/
def StartsAfter (replace : Text → α → Text) (parts : List (Part Char α)) (u w v : Text) : Prop :=
  ∃ t value x y, .hit t value ∈ parts ∧ replace t value = x ++ y ∧ x ≠ [] ∧ x <:+ u ∧ y ≠ [] ∧
    y <+: w ++ v

theorem StartsWithin.cons (h : StartsWithin replace parts w v) (part : Part Char α) (x : Text) :
    StartsWithin replace (part :: parts) (x ++ w) v := by
  obtain ⟨t, value, x', y, hmem, rfl, hy, hprefix⟩ := h
  exact ⟨t, value, x ++ x', y, List.mem_cons_of_mem part hmem, by simp, hy, hprefix⟩

theorem StartsAfter.cons (h : StartsAfter replace parts u w v) (part : Part Char α) (x : Text) :
    StartsAfter replace (part :: parts) (x ++ u) w v := by
  obtain ⟨t, value, x', y, hmem, heq, hx, hsuffix, hy, hprefix⟩ := h
  exact ⟨t, value, x', y, List.mem_cons_of_mem part hmem, heq, hx,
    hsuffix.trans (List.suffix_append x u), hy, hprefix⟩

theorem not_touchesHit_kept {n : Nat} (h : n < t.length) :
    ¬ TouchesHit (.kept t :: parts) n 1 := by
  intro htouches
  rcases htouches.of_cons with ⟨_, _, hpart, -⟩ | ⟨m, hm, -⟩
  · cases hpart
  · rw [text_kept] at hm
    omega

theorem not_touchesHit_cons {n : Nat} (h : ¬ TouchesHit parts n 1) :
    ¬ TouchesHit (part :: parts) (part.text.length + n) 1 := by
  intro htouches
  rcases htouches.of_cons with ⟨found, _, rfl, hle⟩ | ⟨m, hm, htouches⟩
  · rw [text_hit] at hle
    omega
  · obtain rfl : n = m := by omega
    exact h htouches

/-- A hit ends at the place after `n` characters. -/
def EndsHit (parts : List (Part Char α)) (n : Nat) : Prop :=
  ∃ front found value back, parts = front ++ .hit found value :: back ∧
    n = (flat front).length + found.length

theorem EndsHit.cons {n : Nat} (h : EndsHit parts n) (part : Part Char α) :
    EndsHit (part :: parts) (part.text.length + n) := by
  obtain ⟨front, found, value, back, rfl, rfl⟩ := h
  refine ⟨part :: front, found, value, back, rfl, ?_⟩
  rw [flat_cons, List.length_append, Nat.add_assoc]

/-- Before a part of the old text stands what stands before it in the new one, or a hit. -/
def Follows (parts : List (Part Char α)) (u u' : Text) : Prop :=
  u'.getLast? = u.getLast? ∨ EndsHit parts u'.length

theorem Follows.cons_kept {u' : Text} (h : Follows parts u u') (hnil : u = [] → u' = [])
    (t : Text) : Follows (.kept t :: parts) (t ++ u) (t ++ u') := by
  rcases h with h | h
  · by_cases hu : u = []
    · obtain rfl := hnil hu
      rw [hu]
      exact .inl rfl
    · have hu' : u' ≠ [] := by
        rintro rfl
        exact hu (List.getLast?_eq_none_iff.mp h.symm)
      rw [Follows, List.getLast?_append_of_ne_nil _ hu, List.getLast?_append_of_ne_nil _ hu']
      exact .inl h
  · refine .inr ?_
    rw [List.length_append]
    exact h.cons (.kept t)

theorem Follows.cons_hit {u' : Text} (h : Follows parts u u') (hnil : u = [] → u' = [])
    (t : Text) (value : α) (r : Text) : Follows (.hit t value :: parts) (r ++ u) (t ++ u') := by
  rcases h with h | h
  · by_cases hu : u = []
    · obtain rfl := hnil hu
      exact .inr ⟨[], t, value, parts, rfl, by simp⟩
    · have hu' : u' ≠ [] := by
        rintro rfl
        exact hu (List.getLast?_eq_none_iff.mp h.symm)
      rw [Follows, List.getLast?_append_of_ne_nil _ hu, List.getLast?_append_of_ne_nil _ hu']
      exact .inl h
  · refine .inr ?_
    rw [List.length_append]
    exact h.cons (.hit t value)

/-- After a part of the old text stands what stands after it in the new one, or a replacement starts
there in the new one. -/
def Precedes (replace : Text → α → Text) (parts : List (Part Char α)) (v v' : Text) : Prop :=
  v'.head? = v.head? ∨ ∃ t value, .hit t value ∈ parts ∧ replace t value <+: v

theorem Precedes.cons {v' : Text} (h : Precedes replace parts v v') (part : Part Char α) :
    Precedes replace (part :: parts) v v' :=
  h.imp_right fun ⟨t, value, hmem, hprefix⟩ =>
    ⟨t, value, List.mem_cons_of_mem part hmem, hprefix⟩

/-- A text starts as it did before, or with a replacement. -/
theorem precedes_replaceParts (replace : Text → α → Text) (parts : List (Part Char α)) :
    Precedes replace parts (replaceParts replace parts) (flat parts) := by
  induction parts with
  | nil => exact .inl rfl
  | cons part parts ih =>
    cases part with
    | kept t =>
      cases t with
      | nil => exact ih.cons _
      | cons c t => exact .inl rfl
    | hit t value =>
      exact .inr ⟨t, value, List.mem_cons_self, List.prefix_append _ _⟩

/-- The part `w` of a new text, between `u` and `v`, is one of the old text that does not start in a
hit. It follows what it followed there, or a hit, and precedes what it precedes there, unless that
is a replacement. -/
def Stays (replace : Text → α → Text) (parts : List (Part Char α)) (u w v : Text) : Prop :=
  ∃ u' v', flat parts = u' ++ (w ++ v') ∧ ¬ TouchesHit parts u'.length 1 ∧
    Follows parts u u' ∧ (u = [] → u' = []) ∧ Precedes replace parts v v'

theorem Stays.cons_kept (h : Stays replace parts u w v) (t : Text) :
    Stays replace (.kept t :: parts) (t ++ u) w v := by
  obtain ⟨u', v', hflat, hhit, hfollows, hnil, hprecedes⟩ := h
  refine ⟨t ++ u', v', by simp [hflat], ?_, hfollows.cons_kept hnil t, fun h => ?_,
    hprecedes.cons _⟩
  · rw [List.length_append]
    exact not_touchesHit_cons hhit
  · obtain ⟨rfl, rfl⟩ := List.append_eq_nil_iff.mp h
    rw [hnil rfl]
    rfl

theorem Stays.cons_hit (h : Stays replace parts u w v) (hne : replace t value ≠ []) :
    Stays replace (.hit t value :: parts) (replace t value ++ u) w v := by
  obtain ⟨u', v', hflat, hhit, hfollows, hnil, hprecedes⟩ := h
  refine ⟨t ++ u', v', by simp [hflat], ?_, hfollows.cons_hit hnil t value _, fun h => ?_,
    hprecedes.cons _⟩
  · rw [List.length_append]
    exact not_touchesHit_cons hhit
  · exact absurd (List.append_eq_nil_iff.mp h).1 hne

/-- What starts in a first part that is kept stays if the rest of it does. -/
theorem Stays.of_starts {x : Text} (hx : x ≠ []) (h : Stays replace parts [] w v) :
    Stays replace (.kept (u ++ x) :: parts) u (x ++ w) v := by
  obtain ⟨u', v', hflat, -, -, hnil, hprecedes⟩ := h
  obtain rfl := hnil rfl
  have hlength : 0 < x.length := List.length_pos_iff.mpr hx
  exact ⟨u, v', by simp [hflat], not_touchesHit_kept (by rw [List.length_append]; omega), .inl rfl,
    id, hprecedes.cons _⟩

/-- What lies in a first part that is kept stays. -/
theorem stays_within {y : Text} (hw : w ≠ []) :
    Stays replace (.kept (u ++ (w ++ y)) :: parts) u w (y ++ replaceParts replace parts) := by
  have hlength : 0 < w.length := List.length_pos_iff.mpr hw
  refine ⟨u, y ++ flat parts, by simp, not_touchesHit_kept ?_, .inl rfl, id, ?_⟩
  · simp only [List.length_append]
    omega
  · cases y with
    | nil => exact (precedes_replaceParts replace parts).cons _
    | cons c y => exact .inl rfl

/-- A part of a new text shares a character with a replacement, or it stays as it was. -/
theorem overlaps_or_stays (hne : ∀ t value, .hit t value ∈ parts → replace t value ≠ [])
    (hw : w ≠ []) (htext : replaceParts replace parts = u ++ (w ++ v)) :
    StartsWithin replace parts w v ∨ StartsAfter replace parts u w v ∨
        Stays replace parts u w v := by
  induction parts generalizing u w with
  | nil =>
    obtain ⟨-, rfl, -⟩ : u = [] ∧ w = [] ∧ v = [] := by simpa [eq_comm] using htext
    exact absurd rfl hw
  | cons part parts ih =>
    have hrest : ∀ t value, .hit t value ∈ parts → replace t value ≠ [] :=
      fun t value hmem => hne t value (List.mem_cons_of_mem part hmem)
    cases part with
    | kept t =>
      rw [replaceParts_kept] at htext
      rcases append_eq_append htext with ⟨z, rfl, hz⟩ | ⟨x, hx, rfl, hx'⟩
      · rcases ih hrest hw hz with hstarts | hstarts | hstays
        · exact .inl (hstarts.cons _ [])
        · exact .inr (.inl (hstarts.cons _ t))
        · exact .inr (.inr (hstays.cons_kept t))
      · rcases append_eq_append hx'.symm with ⟨z, rfl, hz⟩ | ⟨y, -, rfl, rfl⟩
        · by_cases hnil : z = []
          · subst hnil
            rw [List.nil_append] at hz
            rw [List.append_nil, ← hz]
            exact .inr (.inr (by simpa using stays_within (y := []) hx))
          · -- The part goes on in the rest, from its start on.
            rcases ih (u := []) hrest hnil hz with hstarts | hstarts | hstays
            · exact .inl (hstarts.cons _ x)
            · obtain ⟨_, _, x', _, -, -, hx', hsuffix, -⟩ := hstarts
              exact absurd (List.suffix_nil.mp hsuffix) hx'
            · exact .inr (.inr (hstays.of_starts hx))
        · exact .inr (.inr (stays_within hw))
    | hit t value =>
      rw [replaceParts_hit] at htext
      rcases append_eq_append htext with ⟨z, rfl, hz⟩ | ⟨x, hx, hreplace, hx'⟩
      · rcases ih hrest hw hz with hstarts | hstarts | hstays
        · exact .inl (hstarts.cons _ [])
        · exact .inr (.inl (hstarts.cons _ _))
        · exact .inr (.inr (hstays.cons_hit (hne t value List.mem_cons_self)))
      · -- The part starts in the replacement, at its start or after it.
        by_cases hnil : u = []
        · subst hnil
          refine .inl ⟨t, value, [], w, List.mem_cons_self, rfl, hw, ?_⟩
          rw [List.nil_append] at htext
          exact ⟨_, htext⟩
        · exact .inr (.inl ⟨t, value, u, x, List.mem_cons_self, hreplace, hnil, List.suffix_rfl, hx,
            _, hx'.symm⟩)

end

end DesignTokens.Text
