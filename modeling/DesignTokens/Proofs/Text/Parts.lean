import DesignTokens.Proofs.Character.Disjoint
import DesignTokens.Text.Word
import Mathlib.Data.List.Basic

/-! # Parts of a text

What cutting a text gives is stated here as an equation between the text and its parts, so that
later arguments work with appended texts and not with the functions that cut them.

## Main results

* `Text.after?_eq_some_iff`, `Text.splitFirst?_eq_some_iff`, `Text.splitLast?_eq_some_iff` - cutting
  a text at its start, at the first and at the last occurrence of a character
* `Text.exists_blanks_trim` - trimming takes blanks off the ends and nothing else
* `Text.words_of_trim` - a text that is one name between blanks has that name as its only word
* `Text.pieces_append_cons` - pieces are cut at the first separator
* `Text.findWhole_isSome_iff` - a name is found where it stands between word boundaries
-/

namespace DesignTokens.Text

open Character

variable {a b t : Text} {c : Char}

/-- What stands in a text made of two stands in one of them. -/
theorem append_eq_append_cons {α : Type} {a b front back : List α} {x : α}
    (h : a ++ b = front ++ x :: back) :
    (∃ w, a = front ++ x :: w ∧ back = w ++ b) ∨ ∃ w, front = a ++ w ∧ b = w ++ x :: back := by
  rcases List.append_eq_append_iff.mp h with ⟨w, hfront, hb⟩ | ⟨w, ha, hback⟩
  · exact .inr ⟨w, hfront, hb⟩
  · cases w with
    | nil => exact .inr ⟨[], by simpa using ha.symm, hback.symm⟩
    | cons y w =>
      obtain ⟨rfl, rfl⟩ := List.cons.inj hback
      exact .inl ⟨w, ha, rfl⟩

/-! ### Beginnings -/

theorem after?_append (start rest : Text) : after? start (start ++ rest) = some rest := by
  induction start with
  | nil => rfl
  | cons d start ih => simp [after?, ih]

theorem after?_eq_some_iff {start rest : Text} :
    after? start t = some rest ↔ t = start ++ rest := by
  constructor
  · intro h
    induction start generalizing t with
    | nil => simpa [after?] using h
    | cons d start ih =>
      cases t with
      | nil => simp [after?] at h
      | cons e t =>
        simp only [after?] at h
        split at h
        · rename_i hde
          rw [hde, ih h, List.cons_append]
        · simp at h
  · rintro rfl
    exact after?_append start rest

/-- A run of characters of a class ends where a text starts with a character outside it. -/
theorem takeWhile_append_stop {p : Char → Bool} (ha : ∀ x ∈ a, p x = true)
    (hb : ∀ x ∈ b.head?, p x = false) : (a ++ b).takeWhile p = a := by
  rw [List.takeWhile_append_of_pos ha]
  cases b with
  | nil => simp
  | cons x b => simp [hb x rfl]

theorem dropWhile_append_stop {p : Char → Bool} (ha : ∀ x ∈ a, p x = true)
    (hb : ∀ x ∈ b.head?, p x = false) : (a ++ b).dropWhile p = b := by
  rw [List.dropWhile_append_of_pos ha]
  cases b with
  | nil => simp
  | cons x b => simp [hb x rfl]

/-- A run of characters of a class ends at a character outside it at the latest. -/
theorem takeWhile_append_stop_cons {p : Char → Bool} {q : Char} (hq : p q = false) (a w : Text) :
    (a ++ q :: w).takeWhile p = a.takeWhile p := by
  induction a with
  | nil => rw [List.nil_append, List.takeWhile_cons_of_neg (by simp [hq])]; rfl
  | cons c a ih =>
    rw [List.cons_append, List.takeWhile_cons, List.takeWhile_cons]
    split
    · rw [ih]
    · rfl

theorem dropWhile_append_stop_cons {p : Char → Bool} {q : Char} (hq : p q = false) (a w : Text) :
    (a ++ q :: w).dropWhile p = a.dropWhile p ++ q :: w := by
  induction a with
  | nil => rw [List.nil_append, List.dropWhile_cons_of_neg (by simp [hq])]; rfl
  | cons c a ih =>
    rw [List.cons_append, List.dropWhile_cons, List.dropWhile_cons]
    split
    · exact ih
    · rfl

theorem head?_dropWhile {p : Char → Bool} (t : Text) :
    ∀ x ∈ (t.dropWhile p).head?, p x = false := by
  intro x hx
  have h := List.head?_dropWhile_not p t
  rw [hx] at h
  simpa using h

theorem mem_takeWhile {p : Char → Bool} {x : Char} (h : x ∈ t.takeWhile p) : p x = true := by
  induction t with
  | nil => simp at h
  | cons y t ih =>
    rw [List.takeWhile_cons] at h
    split at h
    · rename_i hy
      rcases List.mem_cons.mp h with rfl | h
      · exact hy
      · exact ih h
    · simp at h

/-! ### First and last occurrences -/

theorem splitFirst?_eq_some_iff :
    splitFirst? c t = some (a, b) ↔ t = a ++ c :: b ∧ c ∉ a := by
  induction t generalizing a with
  | nil => simp [splitFirst?]
  | cons d t ih =>
    simp only [splitFirst?]
    split
    · rename_i hdc
      subst hdc
      constructor
      · intro h
        simp only [Option.some.injEq, Prod.mk.injEq] at h
        obtain ⟨rfl, rfl⟩ := h
        simp
      · rintro ⟨h, hmem⟩
        cases a with
        | nil => simpa using h
        | cons x a => simp_all
    · rename_i hdc
      rw [Option.map_eq_some_iff]
      constructor
      · rintro ⟨⟨before, after⟩, hsplit, heq⟩
        simp only [Prod.mk.injEq] at heq
        obtain ⟨rfl, rfl⟩ := heq
        obtain ⟨ht, hmem⟩ := ih.mp hsplit
        refine ⟨by rw [ht]; rfl, ?_⟩
        rw [List.mem_cons, not_or]
        exact ⟨fun h => hdc h.symm, hmem⟩
      · rintro ⟨h, hmem⟩
        cases a with
        | nil => exact absurd (List.cons.inj h).1 hdc
        | cons x a =>
          obtain ⟨rfl, ht⟩ := List.cons.inj h
          exact ⟨(a, b), ih.mpr ⟨ht, fun hm => hmem (List.mem_cons_of_mem _ hm)⟩, rfl⟩

theorem splitLast?_eq_none_iff : splitLast? c t = none ↔ c ∉ t := by
  induction t with
  | nil => simp [splitLast?]
  | cons d t ih =>
    simp only [splitLast?]
    split
    · rename_i before after h
      have hmem : c ∈ t := by
        by_contra hc
        rw [ih.mpr hc] at h
        cases h
      simp [hmem]
    · rename_i h
      by_cases hdc : d = c
      · simp [hdc]
      · simp [hdc, ih.mp h, Ne.symm hdc]

theorem splitLast?_append_cons (a : Text) (h : c ∉ b) :
    splitLast? c (a ++ c :: b) = some (a, b) := by
  induction a with
  | nil => simp [splitLast?, splitLast?_eq_none_iff.mpr h]
  | cons d a ih => simp [splitLast?, ih]

theorem splitLast?_eq_some_iff :
    splitLast? c t = some (a, b) ↔ t = a ++ c :: b ∧ c ∉ b := by
  constructor
  · intro h
    induction t generalizing a with
    | nil => simp [splitLast?] at h
    | cons d t ih =>
      simp only [splitLast?] at h
      split at h
      · rename_i before after hsplit
        simp only [Option.some.injEq, Prod.mk.injEq] at h
        obtain ⟨rfl, rfl⟩ := h
        obtain ⟨ht, hmem⟩ := ih hsplit
        exact ⟨by rw [ht]; rfl, hmem⟩
      · rename_i hnone
        split at h
        · rename_i hdc
          simp only [Option.some.injEq, Prod.mk.injEq] at h
          obtain ⟨rfl, rfl⟩ := h
          exact ⟨by rw [hdc]; rfl, splitLast?_eq_none_iff.mp hnone⟩
        · simp at h
  · rintro ⟨rfl, h⟩
    exact splitLast?_append_cons a h

/-! ### Blanks at the ends -/

theorem trimEnd_append_of_blanks (hb : ∀ x ∈ b, isBlank x = true) :
    trimEnd (a ++ b) = trimEnd a := by
  rw [trimEnd, trimEnd, dropEndWhile, dropEndWhile, List.reverse_append,
    List.dropWhile_append_of_pos (by simpa using hb)]

theorem trimEnd_eq_self (h : ∀ x ∈ t.getLast?, isBlank x = false) : trimEnd t = t := by
  rw [trimEnd, dropEndWhile]
  have hstop : t.reverse.dropWhile isBlank = t.reverse := by
    have := @dropWhile_append_stop [] t.reverse isBlank (by simp)
      (by rw [List.head?_reverse]; exact h)
    simpa using this
  rw [hstop, List.reverse_reverse]

theorem getLast?_trimEnd (t : Text) : ∀ x ∈ (trimEnd t).getLast?, isBlank x = false := by
  intro x hx
  rw [trimEnd, dropEndWhile, List.getLast?_reverse] at hx
  exact head?_dropWhile _ x hx

/-- Trimming the end of a text takes off blanks. -/
theorem exists_blanks_trimEnd (t : Text) :
    ∃ b, (∀ x ∈ b, isBlank x = true) ∧ t = trimEnd t ++ b := by
  refine ⟨(t.reverse.takeWhile isBlank).reverse, ?_, ?_⟩
  · intro x hx
    exact mem_takeWhile (List.mem_reverse.mp hx)
  · rw [trimEnd, dropEndWhile, ← List.reverse_append, List.takeWhile_append_dropWhile,
      List.reverse_reverse]

/-- Trimming a text takes blanks off its ends. -/
theorem exists_blanks_trim (t : Text) :
    ∃ a b, (∀ x ∈ a, isBlank x = true) ∧ (∀ x ∈ b, isBlank x = true) ∧ t = a ++ trim t ++ b := by
  obtain ⟨b, hb, heq⟩ := exists_blanks_trimEnd (trimStart t)
  refine ⟨t.takeWhile isBlank, b, fun x hx => mem_takeWhile hx, hb, ?_⟩
  have hstart : t = t.takeWhile isBlank ++ trimStart t :=
    List.takeWhile_append_dropWhile.symm
  rw [List.append_assoc, trim, ← heq]
  exact hstart

/-- Blanks around a text that has none at its ends are what trimming takes off. -/
theorem trim_append_of_blanks (ha : ∀ x ∈ a, isBlank x = true) (hb : ∀ x ∈ b, isBlank x = true)
    (hhead : ∀ x ∈ t.head?, isBlank x = false) (hlast : ∀ x ∈ t.getLast?, isBlank x = false) :
    trim (a ++ t ++ b) = t := by
  cases t with
  | nil =>
    have hstart : trimStart (a ++ b) = [] := by
      have := @dropWhile_append_stop (a ++ b) [] isBlank
        (by simpa [or_imp, forall_and] using ⟨ha, hb⟩) (by simp)
      simpa [trimStart] using this
    simp [trim, hstart, trimEnd, dropEndWhile]
  | cons x t =>
    have hstart : trimStart (a ++ (x :: t) ++ b) = (x :: t) ++ b := by
      rw [trimStart, List.append_assoc]
      exact dropWhile_append_stop ha (by simpa using hhead)
    rw [trim, hstart, trimEnd_append_of_blanks hb, trimEnd_eq_self hlast]

theorem head?_trim (t : Text) : ∀ c ∈ (trim t).head?, isBlank c = false := by
  obtain ⟨b, -, heq⟩ := exists_blanks_trimEnd (trimStart t)
  intro c hc
  refine head?_dropWhile (p := isBlank) t c ?_
  rw [← trimStart, heq, List.head?_append]
  exact Option.mem_def.mpr (by rw [← trim, Option.mem_def.mp hc, Option.some_or])

theorem trim_trim (t : Text) : trim (trim t) = trim t := by
  have := trim_append_of_blanks (a := []) (b := []) (t := trim t) (by simp) (by simp) (head?_trim t)
    (getLast?_trimEnd (trimStart t))
  simpa using this

/-! ### Words -/

theorem wordsFrom_append_of_blanks (hb : ∀ x ∈ b, isBlank x = true) (t : Text) :
    wordsFrom [] (b ++ t) = wordsFrom [] t := by
  induction b with
  | nil => rfl
  | cons x b ih =>
    rw [List.forall_mem_cons] at hb
    simp [wordsFrom, hb.1, ih hb.2]

theorem wordsFrom_append_of_no_blanks (word : Text) (ha : ∀ x ∈ a, isBlank x = false) (t : Text) :
    wordsFrom word (a ++ t) = wordsFrom (a.reverse ++ word) t := by
  induction a generalizing word with
  | nil => rfl
  | cons x a ih =>
    rw [List.forall_mem_cons] at ha
    simp [wordsFrom, ha.1, ih (x :: word) ha.2]

theorem wordsFrom_of_blanks {word : Text} (hw : word ≠ []) (hb : ∀ x ∈ b, isBlank x = true) :
    wordsFrom word b = [word.reverse] := by
  cases b with
  | nil => simp [wordsFrom, hw]
  | cons x b =>
    rw [List.forall_mem_cons] at hb
    have hrest : wordsFrom [] b = [] := by
      have := wordsFrom_append_of_blanks hb.2 []
      simpa [wordsFrom] using this
    simp [wordsFrom, hb.1, hw, hrest]

/-- A text of blanks only has no word. -/
theorem words_of_trim_eq_nil (h : trim t = []) : words t = [] := by
  obtain ⟨a, b, ha, hb, heq⟩ := exists_blanks_trim t
  rw [h, List.append_nil] at heq
  rw [words, heq, wordsFrom_append_of_blanks ha]
  have := wordsFrom_append_of_blanks hb []
  simpa [wordsFrom] using this

/-- A name between blanks is the only word of a text. -/
theorem words_of_trim {name : Text} (h : trim t = name) (hne : name ≠ [])
    (hname : ∀ x ∈ name, isBlank x = false) : words t = [name] := by
  obtain ⟨a, b, ha, hb, heq⟩ := exists_blanks_trim t
  rw [h] at heq
  rw [words, heq, List.append_assoc, wordsFrom_append_of_blanks ha,
    wordsFrom_append_of_no_blanks [] hname, List.append_nil,
    wordsFrom_of_blanks (by simpa using hne) hb, List.reverse_reverse]

/-! ### Pieces -/

theorem pieces_append_cons (h : c ∉ a) (b : Text) : pieces c (a ++ c :: b) = a :: pieces c b := by
  induction a with
  | nil => simp [pieces]
  | cons x a ih =>
    rw [List.mem_cons, not_or] at h
    simp [pieces, Ne.symm h.1, ih h.2, consFirst]

theorem pieces_of_not_mem (h : c ∉ a) : pieces c a = [a] := by
  induction a with
  | nil => rfl
  | cons x a ih =>
    rw [List.mem_cons, not_or] at h
    simp [pieces, Ne.symm h.1, ih h.2, consFirst]

/-- A text is cut at its first separator, or not at all. -/
theorem pieces_cases (c : Char) (t : Text) :
    (c ∉ t ∧ pieces c t = [t]) ∨
      ∃ a b, t = a ++ c :: b ∧ c ∉ a ∧ pieces c t = a :: pieces c b := by
  by_cases h : c ∈ t
  · obtain ⟨a, b, rfl, ha⟩ := List.eq_append_cons_of_mem h
    exact .inr ⟨a, b, rfl, ha, pieces_append_cons ha b⟩
  · exact .inl ⟨h, pieces_of_not_mem h⟩

/-! ### Identifiers -/

theorem isIdentifierPart_of_isIdentifier (h : isIdentifier t = true) :
    ∀ x ∈ t, isIdentifierPart x = true := by
  cases t with
  | nil => simp
  | cons d t =>
    simp only [isIdentifier, Bool.and_eq_true, List.all_eq_true] at h
    rw [List.forall_mem_cons]
    exact ⟨isIdentifierPart_of_isIdentifierStart h.1, h.2⟩

theorem ne_nil_of_isIdentifier (h : isIdentifier t = true) : t ≠ [] := by
  rintro rfl
  simp [isIdentifier] at h

theorem not_mem_of_isIdentifier (h : isIdentifier t = true) (hc : isIdentifierPart c = false) :
    c ∉ t := by
  intro hmem
  rw [isIdentifierPart_of_isIdentifier h c hmem] at hc
  cases hc

theorem isBlank_of_isIdentifier (h : isIdentifier t = true) : ∀ x ∈ t, isBlank x = false := by
  intro x hx
  by_contra hblank
  have hpart := isIdentifierPart_of_isBlank (Bool.not_eq_false _ ▸ hblank)
  exact not_mem_of_isIdentifier h hpart hx

/-! ### Whole words -/

theorem occursAt_eq_true_iff {name : Text} {before : Option Char} :
    occursAt true true name before t = true ↔
      ∃ v, t = name ++ v ∧ boundary before t.head? = true ∧
        boundary (name.getLast?.or before) v.head? = true := by
  unfold occursAt
  split
  · rename_i h
    constructor
    · simp
    · rintro ⟨v, hv, -⟩
      rw [after?_eq_some_iff.mpr hv] at h
      cases h
  · rename_i rest h
    rw [after?_eq_some_iff] at h
    constructor
    · intro hboth
      exact ⟨rest, h, by simpa using hboth⟩
    · rintro ⟨v, hv, hboth⟩
      obtain rfl := List.append_cancel_left (h.symm.trans hv)
      simpa using hboth

theorem findWholeFrom_isSome_iff {name : Text} {before : Option Char} {offset : Nat} :
    (findWholeFrom name before offset t).isSome = true ↔
      ∃ u v, t = u ++ v ∧ occursAt true true name (u.getLast?.or before) v = true := by
  induction t generalizing before offset with
  | nil =>
    simp only [findWholeFrom]
    constructor
    · intro h
      exact ⟨[], [], rfl, by simpa using h⟩
    · rintro ⟨u, v, huv, hocc⟩
      obtain ⟨rfl, rfl⟩ := List.append_eq_nil_iff.mp huv.symm
      simp only [List.getLast?_nil, Option.none_or] at hocc
      simp [hocc]
  | cons d t ih =>
    simp only [findWholeFrom]
    by_cases hhere : occursAt true true name before (d :: t) = true
    · simp only [hhere, if_true, Option.isSome_some, true_iff]
      exact ⟨[], d :: t, rfl, by simpa using hhere⟩
    · simp only [hhere, Bool.false_eq_true, if_false, ih]
      constructor
      · rintro ⟨u, v, rfl, hocc⟩
        refine ⟨d :: u, v, rfl, ?_⟩
        rw [List.getLast?_cons]
        cases u with
        | nil => simpa using hocc
        | cons e u => simpa [List.getLast?_cons] using hocc
      · rintro ⟨u, v, huv, hocc⟩
        cases u with
        | nil =>
          obtain rfl : d :: t = v := by simpa using huv
          simp [hhere] at hocc
        | cons e u =>
          obtain ⟨rfl, rfl⟩ := List.cons.inj huv
          refine ⟨u, v, rfl, ?_⟩
          cases u with
          | nil => simpa using hocc
          | cons e u => simpa [List.getLast?_cons] using hocc

/-- A name is found in a text where it stands between word boundaries. -/
theorem findWhole_isSome_iff {name : Text} :
    (findWhole name t).isSome = true ↔
      ∃ u v, t = u ++ name ++ v ∧ boundary u.getLast? (name ++ v).head? = true ∧
        boundary (name.getLast?.or u.getLast?) v.head? = true := by
  rw [findWhole, findWholeFrom_isSome_iff]
  constructor
  · rintro ⟨u, w, rfl, hocc⟩
    obtain ⟨v, rfl, hlead, htrail⟩ := occursAt_eq_true_iff.mp hocc
    rw [Option.or_none] at hlead htrail
    exact ⟨u, v, by simp, hlead, htrail⟩
  · rintro ⟨u, v, rfl, hlead, htrail⟩
    refine ⟨u, name ++ v, by simp, occursAt_eq_true_iff.mpr ⟨v, rfl, ?_, ?_⟩⟩
    · simpa using hlead
    · simpa using htrail

end DesignTokens.Text
