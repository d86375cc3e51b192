import DesignTokens.Proofs.Declaration.Lists

/-! # Declarations in front of a place

The declarations of a text are found from left to right. No declaration goes on over a quote or a
brace, but for a pattern, whose body is all that follows its bracket. So those found in front of
such a place do not depend on what follows it, unless they are patterns, and behind it the search
starts anew.

## Main definitions

* `Declaration.Stops` - a character that no declaration goes on over
* `Declaration.Hit` - a declaration found in front of a place, whatever follows
* `Declaration.Tight` - a text in which white space is followed by a name or a brace

## Main results

* `Declaration.exists_hits` - the declarations found in front of a place and those behind it
* `Declaration.exists_declarationsFrom_append` - the search starts anew behind such a place
* `Declaration.declarationsFrom_tight` - no declaration is found in a list of names
-/

namespace DesignTokens.Declaration

open Character Text

/-- A character that ends names and white space, and that is no star. -/
structure Stops (q : Char) : Prop where
  continues : continuesName q = false
  starts : startsName q = false
  blank : isBlank q = false
  star : q ≠ '*'

/-- A declaration found in front of a place: a name with the text from it up to the place, a pattern
with the text from its bracket up to the place, or a pattern whose bracket stands at the place. -/
inductive Hit where
  | name (n b : Text)
  | pattern (b : Text)
  | here

/-- The declaration and what follows it, where the character `q` is at the place and `w` behind it.
-/
def Hit.at (q : Char) (w : Text) : Hit → Found × Text
  | name n b => (.name n, b ++ q :: w)
  | pattern b => (.pattern (b ++ q :: w), b ++ q :: w)
  | here => (.pattern w, w)

/-- Whether a function that looks for a declaration finds the same in front of a place whatever
follows. A pattern starts at the place only if there is a bracket. -/
def Settles (q : Char) (f : Text → Option (Found × Text)) (a : Text) : Prop :=
  ∃ hit : Option Hit, (hit = some .here → isOpening q = true) ∧
    ∀ w, f (a ++ q :: w) = hit.map (·.at q w)

section

variable {q : Char} {a : Text} {f g : Text → Option (Found × Text)}

theorem after?_append_stop {start : Text} (hq : q ∉ start) (a w : Text) :
    after? start (a ++ q :: w) = (after? start a).map (· ++ q :: w) := by
  induction start generalizing a with
  | nil => simp [after?]
  | cons c start ih =>
    rw [List.mem_cons, not_or] at hq
    cases a with
    | nil => simp [after?, Ne.symm hq.1]
    | cons d a =>
      rw [List.cons_append, after?, after?]
      split
      · exact ih hq.2 a
      · rfl

theorem settles_none (h : ∀ w, f (a ++ q :: w) = none) : Settles q f a :=
  ⟨none, by simp, h⟩

theorem settles_spacedName? (hq : Stops q) (a : Text) : Settles q spacedName? a := by
  cases a with
  | nil => exact settles_none fun w => by simp [spacedName?, hq.blank]
  | cons b a =>
    by_cases hb : isBlank b = true
    · have hdrop : ∀ w, (b :: (a ++ q :: w)).dropWhile isBlank =
          (b :: a).dropWhile isBlank ++ q :: w :=
        dropWhile_append_stop_cons hq.blank (b :: a)
      cases hrest : (b :: a).dropWhile isBlank with
      | nil =>
        refine settles_none fun w => ?_
        simp [spacedName?, hb, hdrop, hrest, hq.starts]
      | cons c rest =>
        by_cases hc : startsName c = true
        · refine ⟨some (.name (c :: rest.takeWhile continuesName) (rest.dropWhile continuesName)),
            by simp, fun w => ?_⟩
          simp only [List.cons_append, spacedName?, hb, Bool.not_true, Bool.false_eq_true, if_false,
            hdrop, hrest, hc, if_true, takeWhile_append_stop_cons hq.continues,
            dropWhile_append_stop_cons hq.continues]
          rfl
        · refine settles_none fun w => ?_
          simp [spacedName?, hb, hdrop, hrest, hc]
    · exact settles_none fun w => by simp [spacedName?, hb]

theorem settles_variables? (hq : Stops q) (a : Text) : Settles q variables? a := by
  have hdrop : ∀ w, (a ++ q :: w).dropWhile isBlank = a.dropWhile isBlank ++ q :: w :=
    dropWhile_append_stop_cons hq.blank a
  obtain ⟨hit, hhere, hspaced⟩ := settles_spacedName? hq a
  -- Without a bracket in front a name is looked for.
  have hother : (∀ d ∈ (a.dropWhile isBlank ++ [q]).head?, d ≠ '{' ∧ d ≠ '[') →
      Settles q variables? a := by
    intro hne
    refine ⟨hit, hhere, fun w => ?_⟩
    have hhead : (a.dropWhile isBlank ++ [q]).head? = (a.dropWhile isBlank ++ q :: w).head? := by
      cases a.dropWhile isBlank <;> rfl
    rw [variables?, hdrop, ← hspaced w]
    split
    · rename_i heq
      exact absurd rfl (hne '{' (by rw [hhead, heq]; rfl)).1
    · rename_i heq
      exact absurd rfl (hne '[' (by rw [hhead, heq]; rfl)).2
    · rfl
  cases hrest : a.dropWhile isBlank with
  | nil =>
    by_cases hbracket : q = '{' ∨ q = '['
    · refine ⟨some .here, fun _ => by rcases hbracket with rfl | rfl <;> rfl, fun w => ?_⟩
      rw [variables?, hdrop, hrest]
      rcases hbracket with rfl | rfl <;> rfl
    · exact hother (by simpa [hrest] using hbracket)
  | cons c rest =>
    by_cases hbracket : c = '{' ∨ c = '['
    · refine ⟨some (.pattern rest), by simp, fun w => ?_⟩
      rw [variables?, hdrop, hrest]
      rcases hbracket with rfl | rfl <;> rfl
    · exact hother (by simpa [hrest] using hbracket)

theorem settles_function? (hq : Stops q) (a : Text) : Settles q function? a := by
  have hdrop : ∀ w, (a ++ q :: w).dropWhile isBlank = a.dropWhile isBlank ++ q :: w :=
    dropWhile_append_stop_cons hq.blank a
  obtain ⟨hit, hhere, hspaced⟩ := settles_spacedName? hq a
  -- Without a star a name is looked for at once.
  have hother : (∀ rest, a.dropWhile isBlank ≠ '*' :: rest) → Settles q function? a := by
    intro hne
    refine ⟨hit, hhere, fun w => ?_⟩
    rw [function?, hdrop, ← hspaced w]
    split
    · rename_i rest heq
      cases hrest : a.dropWhile isBlank with
      | nil =>
        rw [hrest] at heq
        exact absurd (List.cons.inj heq).1 hq.star
      | cons c front =>
        rw [hrest] at heq
        exact absurd ((List.cons.inj heq).1 ▸ hrest) (hne front)
    · rfl
  cases hrest : a.dropWhile isBlank with
  | nil => exact hother fun rest heq => by rw [hrest] at heq; cases heq
  | cons c rest =>
    by_cases hc : c = '*'
    · subst hc
      obtain ⟨hit, hhere, hspaced⟩ := settles_spacedName? hq rest
      refine ⟨hit, hhere, fun w => ?_⟩
      rw [function?, hdrop, hrest]
      exact hspaced w
    · exact hother fun rest' heq => by rw [hrest] at heq; exact hc (List.cons.inj heq).1

/-- What follows the first word of a declaration. -/
theorem Settles.after {start : Text} (hq : q ∉ start) (h : ∀ a, Settles q f a) (a : Text) :
    Settles q (fun t => (after? start t).bind f) a := by
  cases hafter : after? start a with
  | none =>
    refine settles_none fun w => ?_
    rw [after?_append_stop hq, hafter]
    rfl
  | some rest =>
    obtain ⟨hit, hhere, hf⟩ := h rest
    refine ⟨hit, hhere, fun w => ?_⟩
    beta_reduce
    rw [after?_append_stop hq, hafter]
    exact hf w

theorem Settles.or (hf : Settles q f a) (hg : Settles q g a) :
    Settles q (fun t => (f t).or (g t)) a := by
  obtain ⟨hit, hhere, hf⟩ := hf
  obtain ⟨hit', hhere', hg⟩ := hg
  cases hit with
  | none =>
    refine ⟨hit', hhere', fun w => ?_⟩
    beta_reduce
    rw [hf w, ← hg w]
    rfl
  | some h =>
    refine ⟨some h, hhere, fun w => ?_⟩
    beta_reduce
    rw [hf w]
    rfl

/-- The first words of declarations are made of characters of names. -/
theorem not_mem_of_continues {c : Char} (hc : continuesName c = false) {start : Text}
    (h : start.all continuesName = true) : c ∉ start := by
  intro hmem
  have := List.all_eq_true.mp h c hmem
  rw [hc] at this
  cases this

theorem settles_read? (hq : Stops q) (a : Text) : Settles q read? a := by
  have hvariables := settles_variables? hq
  have hspaced := settles_spacedName? hq
  exact ((Settles.after (not_mem_of_continues hq.continues (by decide)) hvariables a).or <|
    (Settles.after (not_mem_of_continues hq.continues (by decide)) hvariables a).or <|
      (Settles.after (not_mem_of_continues hq.continues (by decide)) hvariables a).or <|
        (Settles.after (not_mem_of_continues hq.continues (by decide))
          (settles_function? hq) a).or <|
          Settles.after (not_mem_of_continues hq.continues (by decide)) hspaced a)

/-- No declaration starts with a character that is none of names. -/
theorem read?_cons_eq_none {c : Char} (hc : continuesName c = false) (rest : Text) :
    read? (c :: rest) = none := by
  have hafter : ∀ start : Text, start ≠ [] → start.all continuesName = true →
      after? start (c :: rest) = none := by
    intro start hne hall
    cases start with
    | nil => exact absurd rfl hne
    | cons d start =>
      rw [after?, if_neg]
      rintro rfl
      exact not_mem_of_continues hc hall List.mem_cons_self
  rw [read?, hafter _ (by decide) (by decide), hafter _ (by decide) (by decide),
    hafter _ (by decide) (by decide), hafter _ (by decide) (by decide),
    hafter _ (by decide) (by decide)]
  rfl

/-- What is skipped for a declaration ends at the place at the latest. -/
theorem Hit.exists_skip (hit : Hit) (q : Char) (a : Text) : ∃ skip, skip ≤ a.length + 1 ∧
    ∀ w, (a ++ q :: w).length - (hit.at q w).2.length = skip := by
  cases hit with
  | name n b => exact ⟨a.length - b.length, by omega, fun w => by simp [Hit.at]; omega⟩
  | pattern b => exact ⟨a.length - b.length, by omega, fun w => by simp [Hit.at]; omega⟩
  | here => exact ⟨a.length + 1, by omega, fun w => by simp [Hit.at]; omega⟩

/-- The declarations found in front of a place do not depend on what follows it, and behind it the
search starts anew. -/
theorem exists_hits (hq : Stops q) (skip : Nat) (before : Option Char) (a : Text)
    (hskip : skip ≤ a.length + 1) : ∃ hits : List Hit,
      (.here ∈ hits → isOpening q = true) ∧ ∀ w, declarationsFrom skip before (a ++ q :: w) =
        hits.map (fun hit => (hit.at q w).1) ++ declarationsFrom 0 (some q) w := by
  induction a generalizing skip before with
  | nil =>
    refine ⟨[], by simp, fun w => ?_⟩
    rw [List.nil_append, List.map_nil, List.nil_append]
    match skip, hskip with
    | 0, _ =>
      rw [declarationsFrom]
      split
      · rfl
      · rw [read?_cons_eq_none hq.continues]
    | 1, _ => rw [declarationsFrom]
  | cons c a ih =>
    match skip, hskip with
    | skip + 1, hskip =>
      obtain ⟨hits, hhere, hdecl⟩ := ih skip (some c) (by simp at hskip; omega)
      exact ⟨hits, hhere, fun w => by rw [List.cons_append, declarationsFrom, hdecl]⟩
    | 0, _ =>
      by_cases hword : isWordSide before = true
      · obtain ⟨hits, hhere, hdecl⟩ := ih 0 (some c) (Nat.zero_le _)
        exact ⟨hits, hhere, fun w => by
          rw [List.cons_append, declarationsFrom, if_pos hword, hdecl]⟩
      · obtain ⟨hit, hhere, hread⟩ := settles_read? hq (c :: a)
        cases hit with
        | none =>
          obtain ⟨hits, hhere, hdecl⟩ := ih 0 (some c) (Nat.zero_le _)
          refine ⟨hits, hhere, fun w => ?_⟩
          have := hread w
          rw [List.cons_append] at this ⊢
          rw [declarationsFrom, if_neg hword, this]
          exact hdecl w
        | some hit =>
          obtain ⟨skip, hskip, hlength⟩ := hit.exists_skip q a
          obtain ⟨hits, hhere', hdecl⟩ := ih skip (some c) hskip
          refine ⟨hit :: hits, fun hmem => ?_, fun w => ?_⟩
          · rcases List.mem_cons.mp hmem with rfl | hmem
            · exact hhere rfl
            · exact hhere' hmem
          · have := hread w
            rw [List.cons_append] at this ⊢
            rw [declarationsFrom, if_neg hword, this]
            simp only [Option.map_some]
            rw [hlength, hdecl]
            rfl

end

/-! ### Behind a place -/

section

variable {c q : Char} {a i t tail w x : Text} {before before' : Option Char}

/-- What stands in front of a text matters only in that it may be a character of words. -/
theorem declarationsFrom_side (h : isWordSide before = isWordSide before') (skip : Nat) (t : Text) :
    declarationsFrom skip before t = declarationsFrom skip before' t := by
  cases t with
  | nil => rfl
  | cons c t =>
    cases skip with
    | zero => rw [declarationsFrom, declarationsFrom, h]
    | succ skip => rfl

theorem isWord_of_continuesName (hc : continuesName c = false) : isWord c = false :=
  (Bool.or_eq_false_iff.mp hc).1

/-- No declaration starts with characters that are none of names. -/
theorem declarationsFrom_idle (htail : ∀ c ∈ tail, continuesName c = false)
    (hbefore : isWordSide before = false) (t : Text) :
    declarationsFrom 0 before (tail ++ t) = declarationsFrom 0 none t := by
  induction tail generalizing before with
  | nil => exact declarationsFrom_side hbefore 0 t
  | cons c tail ih =>
    rw [List.forall_mem_cons] at htail
    rw [List.cons_append, declarationsFrom, if_neg (by simp [hbefore]),
      read?_cons_eq_none htail.1]
    exact ih htail.2 (isWord_of_continuesName htail.1)

/-- The declarations found behind a text that ends with a place and characters that are none of
names are found behind any other such text. -/
theorem exists_declarationsFrom_append (hq : Stops q) (htail : ∀ c ∈ tail, continuesName c = false)
    (before : Option Char) (a : Text) : ∀ t, ∃ front,
      declarationsFrom 0 before (a ++ q :: (tail ++ t)) = front ++ declarationsFrom 0 none t := by
  intro t
  obtain ⟨hits, -, hdecl⟩ := exists_hits hq 0 before a (Nat.zero_le _)
  have hside : isWordSide (some q) = false := isWord_of_continuesName hq.continues
  exact ⟨_, by rw [hdecl, declarationsFrom_idle htail hside]⟩

/-! ### Lists of names -/

/-- No blanks stand between two characters of names. -/
def Tight (i : Text) : Prop :=
  ∀ x k bs c y, i = x ++ k :: (bs ++ c :: y) → bs ≠ [] → (∀ b ∈ bs, isBlank b = true) →
    isIdentifierPart k = true → isIdentifierPart c = false

theorem Tight.of_append (h : Tight (x ++ t)) : Tight t :=
  fun x' k bs c y heq => h (x ++ x') k bs c y (by rw [heq, List.append_assoc])

theorem isBlank_of_isIdentifierPart (hc : isIdentifierPart c = true) : isBlank c = false := by
  by_contra hb
  rw [isIdentifierPart_of_isBlank (by simpa using hb)] at hc
  cases hc

/-- A part without brackets and commas lies in one piece of a list. -/
theorem Listed.exists_piece (h : Listed i) {x w y : Text} (heq : i = x ++ (w ++ y))
    (hcomma : ',' ∉ w) : ∃ part s, part ++ (w ++ s) ∈ pieces ',' i := by
  obtain ⟨front, part, hsplit, -⟩ := exists_splitTopLevelFrom_append ',' 0 x
  have hplain : ∀ d ∈ w, isOpening d = false ∧ isClosing d = false := fun d hd =>
    h.plain d (by simp [heq, hd])
  obtain ⟨s, back, hs⟩ := splitTopLevelFrom_ne_nil ',' (depthThrough 0 x) y
  refine ⟨part, s, ?_⟩
  have hpieces := hsplit (w ++ y)
  rw [splitTopLevelFrom_append_of_quiet (quiet_of_not_mem hcomma _),
    depthThrough_of_plain hplain, hs, foldr_consFirst_cons, foldr_consFirst_cons] at hpieces
  rw [← splitTopLevel_eq_pieces h.plain, splitTopLevel, heq, hpieces]
  simp

/-- What starts and ends with a character that is not blank is in the trimmed text. -/
theorem exists_trim_append {k c : Char} (hk : isBlank k = false) (hc : isBlank c = false)
    (part bs s : Text) :
    ∃ u v, trim (part ++ (k :: (bs ++ [c]) ++ s)) = u ++ (k :: (bs ++ [c]) ++ v) := by
  have hstart : trimStart (part ++ (k :: (bs ++ [c]) ++ s)) =
      trimStart part ++ (k :: (bs ++ [c]) ++ s) := dropWhile_append_stop_cons hk part _
  rw [trim, hstart, ← List.append_assoc, trimEnd_append]
  split
  · refine ⟨trimStart part, [], ?_⟩
    rw [trimEnd_eq_self, List.append_nil]
    rw [← List.cons_append, ← List.append_assoc, List.getLast?_concat]
    rintro d ⟨⟩
    exact hc
  · exact ⟨trimStart part, _, by rw [List.append_assoc]⟩

/-- Blanks stand around the names of a list only. -/
theorem Listed.tight (h : Listed i) : Tight i := by
  intro x k bs c y heq hne hbs hk
  by_contra hc
  rw [Bool.not_eq_false] at hc
  have hcomma : ',' ∉ k :: (bs ++ [c]) := by
    have hpart : ∀ {d}, isIdentifierPart d = true → ',' ≠ d := by
      rintro d hd rfl
      exact absurd hd (by decide)
    simp only [List.mem_cons, List.mem_append, List.not_mem_nil, or_false, not_or]
    exact ⟨hpart hk, fun hmem => absurd (hbs _ hmem) (by decide), hpart hc⟩
  -- The blanks would lie in one piece of the list, and thus within one of its names.
  have hcut : i = x ++ (k :: (bs ++ [c]) ++ y) := by simpa using heq
  obtain ⟨part, s, hpiece⟩ := h.exists_piece hcut hcomma
  obtain ⟨u, v, htrim⟩ := exists_trim_append (isBlank_of_isIdentifierPart hk)
    (isBlank_of_isIdentifierPart hc) part bs s
  have hentry : trim (part ++ (k :: (bs ++ [c]) ++ s)) ∈ Import.listEntries i := by
    rw [Import.listEntries, List.mem_filter, List.mem_map]
    exact ⟨⟨_, hpiece, rfl⟩, by rw [htrim]; simp⟩
  obtain ⟨b, hb⟩ := List.exists_mem_of_ne_nil bs hne
  have hid := h.names _ hentry
  rw [htrim, isIdentifier_of_mem (c := b) (by simp [hb])
    (isIdentifierPart_of_isBlank (hbs b hb))] at hid
  cases hid

theorem toNat_lt_of_isAlpha (hc : c.isAlpha = true) : c.toNat < 128 := by
  rw [isAlpha_eq] at hc
  simp only [Bool.or_eq_true, decide_eq_true_eq] at hc
  omega

theorem isIdentifierPart_of_startsName (hc : startsName c = true) : isIdentifierPart c = true := by
  simp only [startsName, Bool.or_eq_true, decide_eq_true_eq] at hc
  rcases hc with (halpha | rfl) | rfl
  · simp [isIdentifierPart, isAlphanumeric, isAlphabetic, toNat_lt_of_isAlpha halpha, halpha]
  · decide
  · decide

/-- The rest of a list behind a name: what comes after its blanks starts no name, or there are no
blanks. -/
structure Follows (t : Text) : Prop where
  chars : ∀ c ∈ t, isIdentifierPart c = true ∨ c = ',' ∨ isBlank c = true
  apart : ∀ bs c y, t = bs ++ c :: y → bs ≠ [] → (∀ b ∈ bs, isBlank b = true) →
    isIdentifierPart c = false

/-- What comes after the blanks in the rest of a list. -/
theorem Follows.exists_dropWhile (h : Follows t) (w : Text) : ∃ d rest,
    (t ++ '}' :: w).dropWhile isBlank = d :: rest ∧ (d ≠ '{' ∧ d ≠ '[' ∧ d ≠ '*') ∧
      (startsName d = true → ∀ b ∈ (t ++ '}' :: w).head?, isBlank b = false) := by
  have hbs : ∀ b ∈ t.takeWhile isBlank, isBlank b = true := fun b => mem_takeWhile
  have hsplit := List.takeWhile_append_dropWhile (p := isBlank) (l := t)
  have hbrace : isBlank '}' = false := by decide
  rw [dropWhile_append_stop_cons hbrace]
  cases hrest : t.dropWhile isBlank with
  | nil => exact ⟨'}', w, rfl, by decide, fun hd => absurd hd (by decide)⟩
  | cons d y =>
    have hd := h.chars d (hsplit ▸ hrest ▸ List.mem_append_right _ List.mem_cons_self)
    refine ⟨d, y ++ '}' :: w, rfl, ⟨?_, ?_, ?_⟩, fun hstart b hb => ?_⟩
    · rintro rfl
      exact absurd (plain_of_listChar hd).1 (by decide)
    · rintro rfl
      exact absurd (plain_of_listChar hd).1 (by decide)
    · rintro rfl
      exact absurd hd (by decide)
    · rw [hrest] at hsplit
      -- When no blank was dropped, the text starts with what is not blank.
      by_cases hnil : t.takeWhile isBlank = []
      · rw [hnil, List.nil_append] at hsplit
        rw [← hsplit] at hb
        obtain rfl := Option.some.inj hb
        exact head?_dropWhile t d (by rw [hrest]; rfl)
      · have hpart := h.apart _ d y hsplit.symm hnil hbs
        rw [isIdentifierPart_of_startsName hstart] at hpart
        cases hpart

theorem Follows.spacedName? (h : Follows t) (w : Text) : spacedName? (t ++ '}' :: w) = none := by
  obtain ⟨d, rest, hdrop, -, hstart⟩ := h.exists_dropWhile w
  cases htext : t ++ '}' :: w with
  | nil => rfl
  | cons b more =>
    rw [htext] at hdrop hstart
    rw [Declaration.spacedName?, hdrop]
    by_cases hd : startsName d = true
    · rw [if_pos (by simpa using hstart hd)]
    · simp [hd]

theorem Follows.variables? (h : Follows t) (w : Text) : variables? (t ++ '}' :: w) = none := by
  obtain ⟨d, rest, hdrop, ⟨hbrace, hbracket, -⟩, -⟩ := h.exists_dropWhile w
  rw [Declaration.variables?, hdrop]
  split
  · rename_i heq
    exact absurd (List.cons.inj heq).1 hbrace
  · rename_i heq
    exact absurd (List.cons.inj heq).1 hbracket
  · exact h.spacedName? w

theorem Follows.function? (h : Follows t) (w : Text) : function? (t ++ '}' :: w) = none := by
  obtain ⟨d, rest, hdrop, ⟨-, -, hstar⟩, -⟩ := h.exists_dropWhile w
  rw [Declaration.function?, hdrop]
  split
  · rename_i heq
    exact absurd (List.cons.inj heq).1 hstar
  · exact h.spacedName? w

/-- The first word of a declaration in a list is followed by no declaration. -/
theorem Tight.bind_after? (h : Tight t)
    (hchars : ∀ c ∈ t, isIdentifierPart c = true ∨ c = ',' ∨ isBlank c = true) (start : Text)
    (hlast : start.getLast?.any isIdentifierPart = true) (hbrace : '}' ∉ start)
    {f : Text → Option (Found × Text)} (hf : ∀ t w, Follows t → f (t ++ '}' :: w) = none)
    (w : Text) : (after? start (t ++ '}' :: w)).bind f = none := by
  rw [Option.any_eq_true] at hlast
  obtain ⟨k, hlast, hk⟩ := hlast
  obtain ⟨front, rfl⟩ := List.getLast?_eq_some_iff.mp hlast
  rw [after?_append_stop hbrace]
  cases hafter : after? (front ++ [k]) t with
  | none => rfl
  | some rest =>
    rw [after?_eq_some_iff, List.append_assoc] at hafter
    refine hf rest w ⟨fun c hc => hchars c (by simp [hafter, hc]), ?_⟩
    intro bs c y heq hne hbs
    exact h front k bs c y (by rw [hafter, heq]; rfl) hne hbs hk

/-- No declaration is found in a list of names. -/
theorem declarationsFrom_tight (h : Tight t)
    (hchars : ∀ c ∈ t, isIdentifierPart c = true ∨ c = ',' ∨ isBlank c = true)
    (before : Option Char) (w : Text) :
    declarationsFrom 0 before (t ++ '}' :: w) = declarationsFrom 0 (some '}') w := by
  induction t generalizing before with
  | nil =>
    rw [List.nil_append, declarationsFrom]
    split
    · rfl
    · rw [read?_cons_eq_none (by decide)]
  | cons c t ih =>
    have hread : read? (c :: t ++ '}' :: w) = none := by
      rw [read?, h.bind_after? hchars "const".toList (by decide) (by decide) fun t w h =>
        h.variables? w,
        h.bind_after? hchars "let".toList (by decide) (by decide) fun t w h => h.variables? w,
        h.bind_after? hchars "var".toList (by decide) (by decide) fun t w h => h.variables? w,
        h.bind_after? hchars "function".toList (by decide) (by decide) fun t w h => h.function? w,
        h.bind_after? hchars "class".toList (by decide) (by decide) fun t w h => h.spacedName? w]
      rfl
    have htight : Tight t := Tight.of_append (x := [c]) h
    have hrest := ih htight (fun d hd => hchars d (List.mem_cons_of_mem c hd)) (some c)
    rw [List.cons_append] at hread ⊢
    rw [declarationsFrom]
    split
    · exact hrest
    · rw [hread]
      exact hrest

end

end DesignTokens.Declaration
