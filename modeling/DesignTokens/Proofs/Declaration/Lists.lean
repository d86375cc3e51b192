import DesignTokens.Proofs.Declaration.Patterns
import DesignTokens.Proofs.Import.SymbolList

/-! # Patterns with a list in braces exchanged

When the list of an import within a destructuring pattern is written anew, the pattern binds what it
bound before, but for names of the old list: these may come out where the braces of the list are
taken for those of a nested pattern. Then the list stands there by itself, or one of its braces is
missing.

## Main definitions

* `Declaration.Listed` - the text of a list of names

## Main results

* `Declaration.mem_listEntries_of_mem_patternNamesWithin` - a list by itself binds its names
* `Declaration.mem_patternNamesWithin_headless` - a list without its opening brace
* `Declaration.patternNamesWithin_tailless` - a list without its closing brace
* `Declaration.mem_patternNamesWithin_braces` - a list in braces
-/

namespace DesignTokens.Declaration

open Character Text

section

variable {i i' u v x : Text} {n : Nat}

/-- The text of a list of names: identifiers with commas between them, and blanks. -/
structure Listed (i : Text) : Prop where
  chars : ∀ c ∈ i, isIdentifierPart c = true ∨ c = ',' ∨ isBlank c = true
  names : ∀ name ∈ Import.listEntries i, isIdentifier name = true

theorem plain_of_isIdentifierPart {c : Char} (h : isIdentifierPart c = true) :
    isOpening c = false ∧ isClosing c = false ∧ c ≠ '.' ∧ c ∉ separators := by
  have hne : ∀ d, isIdentifierPart d = false → c ≠ d := by
    rintro d hd rfl
    rw [h] at hd
    cases hd
  simp only [isOpening, isClosing, separators, Bool.or_eq_false_iff, decide_eq_false_iff_not,
    List.mem_cons, List.not_mem_nil, or_false, not_or]
  exact ⟨⟨⟨hne _ (by decide), hne _ (by decide)⟩, hne _ (by decide)⟩,
    ⟨⟨hne _ (by decide), hne _ (by decide)⟩, hne _ (by decide)⟩, hne _ (by decide),
    hne _ (by decide), hne _ (by decide), hne _ (by decide)⟩

/-- The characters of lists are no brackets, and commas are their only separators. -/
theorem plain_of_listChar {c : Char} (h : isIdentifierPart c = true ∨ c = ',' ∨ isBlank c = true) :
    isOpening c = false ∧ isClosing c = false ∧ c ≠ '.' ∧ c ≠ ':' ∧ c ≠ '=' := by
  rcases h with h | rfl | h
  · obtain ⟨hopen, hclose, hdot, hsep⟩ := plain_of_isIdentifierPart h
    simp only [separators, List.mem_cons, List.not_mem_nil, or_false, not_or] at hsep
    exact ⟨hopen, hclose, hdot, hsep.2⟩
  · decide
  · exact ⟨(plain_of_isBlank h).1, (plain_of_isBlank h).2, ne_of_isBlank h (by decide),
      ne_of_isBlank h (by decide), ne_of_isBlank h (by decide)⟩

/-- A part that a character was put before is a part from before, or one with the character put
before it. -/
theorem mem_of_mem_consFirst {d : Char} {parts : List Text} {p : Text}
    (hp : p ∈ consFirst d parts) : p ∈ parts ∨ ∃ q, p = d :: q ∧ (q = [] ∨ q ∈ parts) := by
  cases parts with
  | nil => exact .inr ⟨[], List.mem_singleton.mp hp, .inl rfl⟩
  | cons first parts =>
    rcases List.mem_cons.mp hp with rfl | hp
    · exact .inr ⟨first, rfl, .inr List.mem_cons_self⟩
    · exact .inl (List.mem_cons_of_mem first hp)

/-- Putting a character before the first part loses none of the characters. -/
theorem exists_mem_consFirst {d e : Char} {parts : List Text}
    (h : d = e ∨ ∃ p ∈ parts, d ∈ p) : ∃ p ∈ consFirst e parts, d ∈ p := by
  cases parts with
  | nil =>
    obtain rfl := h.resolve_right (by simp)
    exact ⟨[d], List.mem_cons_self, List.mem_cons_self⟩
  | cons first parts =>
    rcases h with rfl | ⟨p, hp, hd⟩
    · exact ⟨d :: first, List.mem_cons_self, List.mem_cons_self⟩
    · rcases List.mem_cons.mp hp with rfl | hp
      · exact ⟨e :: p, List.mem_cons_self, List.mem_cons_of_mem e hd⟩
      · exact ⟨p, List.mem_cons_of_mem _ hp, hd⟩

theorem mem_of_mem_pieces {c : Char} {t p : Text} (hp : p ∈ pieces c t) :
    c ∉ p ∧ ∀ d ∈ p, d ∈ t := by
  induction t generalizing p with
  | nil =>
    obtain rfl := List.mem_singleton.mp hp
    simp
  | cons d t ih =>
    rw [pieces] at hp
    split at hp
    · rcases List.mem_cons.mp hp with rfl | hp
      · simp
      · exact ⟨(ih hp).1, fun x hx => List.mem_cons_of_mem d ((ih hp).2 x hx)⟩
    · rename_i hd
      rcases mem_of_mem_consFirst hp with hp | ⟨q, rfl, hq⟩
      · exact ⟨(ih hp).1, fun x hx => List.mem_cons_of_mem d ((ih hp).2 x hx)⟩
      · obtain ⟨hpart, hmem⟩ : c ∉ q ∧ ∀ x ∈ q, x ∈ t := by
          rcases hq with rfl | hq
          · simp
          · exact ih hq
        refine ⟨List.not_mem_cons_of_ne_of_not_mem (Ne.symm hd) hpart, fun x hx => ?_⟩
        exact List.mem_cons.mpr ((List.mem_cons.mp hx).imp_right (hmem x))

theorem exists_mem_pieces {c d : Char} {t : Text} (hd : d ∈ t) (hne : d ≠ c) :
    ∃ p ∈ pieces c t, d ∈ p := by
  induction t with
  | nil => cases hd
  | cons e t ih =>
    rw [pieces]
    split
    · rename_i heq
      obtain ⟨p, hp, hdp⟩ := ih ((List.mem_cons.mp hd).resolve_left fun h => hne (h.trans heq))
      exact ⟨p, List.mem_cons_of_mem _ hp, hdp⟩
    · exact exists_mem_consFirst ((List.mem_cons.mp hd).imp_right ih)

/-- Names with commas and blanks between them are a list of names. -/
theorem listed_of_names (h : ∀ name ∈ Import.listEntries i, isIdentifier name = true) :
    Listed i where
  names := h
  chars := by
    intro c hc
    by_cases hcomma : c = ','
    · exact .inr (.inl hcomma)
    obtain ⟨p, hp, hcp⟩ := exists_mem_pieces hc hcomma
    obtain ⟨a, b, ha, hb, heq⟩ := exists_blanks_trim p
    rw [heq, List.mem_append, List.mem_append] at hcp
    rcases hcp with (hcp | hcp) | hcp
    · exact .inr (.inr (ha c hcp))
    · have hentry : trim p ∈ Import.listEntries i := by
        rw [Import.listEntries, List.mem_filter, List.mem_map]
        exact ⟨⟨p, hp, rfl⟩, by simpa using List.ne_nil_of_mem hcp⟩
      exact .inl (isIdentifierPart_of_isIdentifier (h _ hentry) c hcp)
    · exact .inr (.inr (hb c hcp))

/-- Without brackets all separators count. -/
theorem splitTopLevel_eq_pieces (h : ∀ c ∈ i, isOpening c = false ∧ isClosing c = false)
    (separator : Char) : splitTopLevel separator i = pieces separator i := by
  induction i with
  | nil => rfl
  | cons c i ih =>
    rw [List.forall_mem_cons] at h
    rw [splitTopLevel, splitTopLevelFrom, pieces, depthAfter_of_plain h.1.1 h.1.2]
    rw [splitTopLevel] at ih
    rw [ih h.2]
    simp [h.1]

/-- What an element without separators binds is the element without the blanks around it. -/
theorem bindingTarget_of_plain {e : Text}
    (h : ∀ c ∈ e, isIdentifierPart c = true ∨ c = ',' ∨ isBlank c = true) :
    bindingTarget e = trim e := by
  obtain ⟨a, b, -, -, heq⟩ := exists_blanks_trim e
  have htrim : ∀ c ∈ trim e, isIdentifierPart c = true ∨ c = ',' ∨ isBlank c = true :=
    fun c hc => h c (by rw [heq]; simp [hc])
  have hplain : ∀ c ∈ trim e, isOpening c = false ∧ isClosing c = false := fun c hc =>
    ⟨(plain_of_listChar (htrim c hc)).1, (plain_of_listChar (htrim c hc)).2.1⟩
  have hcolon : ':' ∉ trim e := fun hc => (plain_of_listChar (htrim _ hc)).2.2.2.1 rfl
  have hequal : '=' ∉ trim e := fun hc => (plain_of_listChar (htrim _ hc)).2.2.2.2 rfl
  -- There are no dots to drop, no key and no default.
  have hdots : dropDots (trim e) = trim e := by
    have := dropDots_append [] (x := trim e) fun hc =>
      (plain_of_listChar (htrim _ (List.mem_of_mem_head? hc))).2.2.1 rfl
    simpa [dropDots] using this
  have hvalue : valueOf (trim e) = trim e := by
    rw [valueOf, splitTopLevel_eq_pieces hplain, pieces_of_not_mem hcolon]
  have hdefault : withoutDefault (trim e) = trim e := by
    rw [withoutDefault, splitTopLevel_eq_pieces hplain, pieces_of_not_mem hequal]
    rfl
  rw [bindingTarget_eq, hdots, hvalue, hdefault, trim_trim]

theorem Listed.plain (h : Listed i) : ∀ c ∈ i, isOpening c = false ∧ isClosing c = false :=
  fun c hc => ⟨(plain_of_listChar (h.chars c hc)).1, (plain_of_listChar (h.chars c hc)).2.1⟩

/-- An element of a list binds a name of the list at most. -/
theorem mem_listEntries_of_mem_elementNames (h : Listed i) {e : Text} (he : e ∈ pieces ',' i)
    (hx : x ∈ elementNames n e) : x ∈ Import.listEntries i := by
  have hchars : ∀ c ∈ e, isIdentifierPart c = true ∨ c = ',' ∨ isBlank c = true :=
    fun c hc => h.chars c ((mem_of_mem_pieces he).2 c hc)
  have htarget := bindingTarget_of_plain hchars
  have hnone : nestedBody? (bindingTarget e) = none := by
    refine nestedBody?_eq_none (.inl fun c hc => ?_)
    obtain ⟨a, b, -, -, heq⟩ := exists_blanks_trim e
    rw [htarget] at hc
    exact (plain_of_listChar (hchars c (by rw [heq]; simp [List.mem_of_mem_head? hc]))).1
  obtain ⟨inner, hsome, -⟩ | ⟨-, hid, rfl⟩ := mem_elementNames.mp hx
  · rw [hnone] at hsome
    cases hsome
  · rw [Import.listEntries, List.mem_filter, List.mem_map]
    exact ⟨⟨e, he, htarget.symm⟩, by simpa using ne_nil_of_isIdentifier hid⟩

/-- A list by itself binds its names. -/
theorem mem_listEntries_of_mem_patternNamesWithin (h : Listed i)
    (hx : x ∈ patternNamesWithin n i) : x ∈ Import.listEntries i := by
  cases n with
  | zero => cases hx
  | succ n =>
    rw [patternNamesWithin_succ, splitTopLevel_eq_pieces h.plain, List.mem_flatMap] at hx
    obtain ⟨e, he, hx⟩ := hx
    exact mem_listEntries_of_mem_elementNames h he hx

/-! ### Lists that lack a brace -/

/-- The last entry of a list with the closing brace. -/
def headlessFamily (_ : Unit) (r : Text) : Prop :=
  ∃ e, r = e ++ ['}'] ∧ ∀ c ∈ e, isIdentifierPart c = true ∨ isBlank c = true

theorem family_headless : Family headlessFamily where
  dot := by
    rintro _ r ⟨e, rfl, he⟩
    cases e with
    | nil => simp
    | cons c e =>
      intro hdot
      obtain rfl := Option.some.inj hdot
      exact (plain_of_listChar ((he '.' List.mem_cons_self).imp_right .inr)).2.2.1 rfl
  solid := by
    rintro _ r ⟨e, rfl, -⟩
    exact ⟨'}', by simp, by decide⟩
  trimStart := by
    rintro _ r ⟨e, rfl, he⟩
    rw [trimStart_append]
    split
    · exact ⟨[], rfl, by simp⟩
    · exact ⟨trimStart e, rfl, fun c hc => he c ((List.dropWhile_suffix _).mem hc)⟩
  trimEnd := by
    rintro _ r ⟨e, rfl, he⟩
    have htrim : Text.trimEnd (e ++ ['}']) = e ++ ['}'] := trimEnd_eq_self (by simp; decide)
    rw [htrim]
    exact ⟨e, rfl, he⟩

theorem fits_headless (v : Text) : Fits headlessFamily [] v := by
  refine ⟨0, ?_⟩
  rintro _ r ⟨e, rfl, he⟩
  have hplain : ∀ c ∈ e, isOpening c = false ∧ isClosing c = false := fun c hc =>
    ⟨(plain_of_listChar ((he c hc).imp_right .inr)).1,
      (plain_of_listChar ((he c hc).imp_right .inr)).2.1⟩
  have hdepth : depthThrough 0 e = 0 := depthThrough_of_plain hplain 0
  constructor
  · intro sep hsep
    refine quiet_append.mpr ⟨quiet_of_not_mem (fun hmem => ?_) 0, ?_, trivial⟩
    · rcases he sep hmem with hpart | hblank
      · exact (plain_of_isIdentifierPart hpart).2.2.2 hsep
      · have hsolid : ∀ sep ∈ separators, isBlank sep = false := by
          simp only [separators, List.forall_mem_cons, List.not_mem_nil, false_imp_iff,
            implies_true, and_true]
          decide
        rw [hsolid sep hsep] at hblank
        cases hblank
    · have hbrace : ∀ sep ∈ separators, '}' ≠ sep := by simp [separators]
      exact fun heq => hbrace sep hsep heq.1
  · right
    rw [depthThrough_nil, depthThrough_append, hdepth]
    rfl

/-- What the last entry of a list binds, without the opening brace, does not depend on the entry. -/
theorem elementNames_headless {r r' : Text} (hr : headlessFamily () r) (hr' : headlessFamily () r')
    (v : Text) : elementNames n (r ++ v) = elementNames n (r' ++ v) := by
  rcases outcome_bindingTarget family_headless (fits_headless v) with
    ⟨a, ha⟩ | ⟨u', v', hnarrow, htarget⟩
  · have h := ha () r hr
    have h' := ha () r' hr'
    rw [List.nil_append] at h h'
    rw [elementNames, elementNames, h, h']
  · obtain rfl := hnarrow.start rfl
    -- An element with a closing brace in it binds nothing: it is no identifier, and what it
    -- starts with is no bracket.
    have hnil : ∀ {r}, headlessFamily () r → elementNames n (r ++ v) = [] := by
      intro r hr
      obtain ⟨r₁, ⟨e, rfl, he⟩, heq⟩ := htarget () r hr
      rw [List.nil_append, List.nil_append] at heq
      refine elementNames_of_none (heq ▸ nestedBody?_eq_none (.inl ?_))
        (heq ▸ isIdentifier_of_mem (by simp : '}' ∈ _) (by decide))
      cases e with
      | nil => simp [isOpening]
      | cons c e =>
        rintro d ⟨⟩
        exact (plain_of_listChar ((he c List.mem_cons_self).imp_right .inr)).1
    rw [hnil hr, hnil hr']

/-- A text that starts with a list is cut at all commas of the list, whatever follows the list. -/
theorem Listed.exists_split (h : Listed i) : ∃ front e, (∀ f ∈ front, f ∈ pieces ',' i) ∧
    headlessFamily () (e ++ ['}']) ∧
    ∀ t, splitTopLevel ',' (i ++ t) = front ++ e.foldr consFirst (splitTopLevelFrom ',' 0 t) := by
  obtain ⟨front, e, hsplit, -⟩ := exists_splitTopLevelFrom_append ',' 0 i
  rw [depthThrough_of_plain h.plain] at hsplit
  have hpieces : pieces ',' i = front ++ [e] := by
    rw [← splitTopLevel_eq_pieces h.plain, splitTopLevel]
    have := hsplit []
    rwa [List.append_nil, foldr_consFirst_splitTopLevelFrom_nil] at this
  have he : e ∈ pieces ',' i := by simp [hpieces]
  refine ⟨front, e, fun f hf => by simp [hpieces, hf], ⟨e, rfl, fun c hc => ?_⟩, hsplit⟩
  rcases h.chars c ((mem_of_mem_pieces he).2 c hc) with hpart | rfl | hblank
  · exact .inl hpart
  · exact absurd hc (mem_of_mem_pieces he).1
  · exact .inr hblank

/-- A list without its opening brace binds names of its own at most, and what any other list binds
there. -/
theorem mem_patternNamesWithin_headless (hi : Listed i) (hi' : Listed i')
    (hx : x ∈ patternNamesWithin n (i ++ '}' :: v)) :
    x ∈ Import.listEntries i ∨ x ∈ patternNamesWithin n (i' ++ '}' :: v) := by
  cases n with
  | zero => cases hx
  | succ n =>
    obtain ⟨front, e, hfront, he, heq⟩ := hi.exists_split
    obtain ⟨front', e', -, he', heq'⟩ := hi'.exists_split
    -- The entry that the brace follows is cut off with what stands up to the next comma.
    obtain ⟨s, back, hs⟩ := splitTopLevelFrom_ne_nil ',' 0 v
    have hbrace : splitTopLevelFrom ',' 0 ('}' :: v) = ('}' :: s) :: back := by
      rw [splitTopLevelFrom, if_neg (by simp [isClosing])]
      exact congrArg _ hs
    rw [patternNamesWithin_succ, heq, hbrace, foldr_consFirst_cons, List.flatMap_append,
      List.flatMap_cons] at hx
    rw [patternNamesWithin_succ, heq', hbrace, foldr_consFirst_cons, List.flatMap_append,
      List.flatMap_cons]
    have hsame := elementNames_headless (n := n) he he' s
    rw [List.append_assoc, List.append_assoc, List.singleton_append] at hsame
    rcases List.mem_append.mp hx with hx | hx
    · obtain ⟨f, hf, hx⟩ := List.mem_flatMap.mp hx
      exact .inl (mem_listEntries_of_mem_elementNames hi (hfront f hf) hx)
    · rw [hsame] at hx
      exact .inr (List.mem_append_right _ hx)

/-- A list without its closing brace. -/
def taillessFamily (_ : Unit) (r : Text) : Prop :=
  ∃ i, r = '{' :: i ∧ ∀ c ∈ i, isIdentifierPart c = true ∨ c = ',' ∨ isBlank c = true

theorem family_tailless : Family taillessFamily where
  dot := by
    rintro _ r ⟨i, rfl, -⟩
    simp
  solid := by
    rintro _ r ⟨i, rfl, -⟩
    exact ⟨'{', List.mem_cons_self, by decide⟩
  trimStart := by
    rintro _ r ⟨i, rfl, hi⟩
    exact ⟨i, List.dropWhile_cons_of_neg (by decide), hi⟩
  trimEnd := by
    rintro _ r ⟨i, rfl, hi⟩
    obtain ⟨b, -, heq⟩ := exists_blanks_trimEnd i
    refine ⟨Text.trimEnd i, ?_, fun c hc => hi c (by rw [heq]; simp [hc])⟩
    have hbrace : Text.trimEnd ['{'] = ['{'] := trimEnd_eq_self (by simp; decide)
    rw [← List.singleton_append, trimEnd_append]
    split
    · rename_i hnil
      rw [hnil, hbrace]
    · rfl

theorem fits_tailless (u : Text) : Fits taillessFamily u [] := by
  refine ⟨0, ?_⟩
  rintro _ r ⟨i, rfl, hi⟩
  have hplain : ∀ c ∈ i, isOpening c = false ∧ isClosing c = false := fun c hc =>
    ⟨(plain_of_listChar (hi c hc)).1, (plain_of_listChar (hi c hc)).2.1⟩
  have hbrace : ∀ sep ∈ separators, '{' ≠ sep := by simp [separators]
  exact ⟨fun sep hsep => ⟨fun heq => hbrace sep hsep heq.1, quiet_succ_of_plain hplain _⟩, .inl rfl⟩

/-- What an element that ends with a list binds, without the closing brace, does not depend on the
list. -/
theorem elementNames_tailless {r r' : Text} (hr : taillessFamily () r) (hr' : taillessFamily () r')
    (p : Text) : elementNames n (p ++ r) = elementNames n (p ++ r') := by
  rcases outcome_bindingTarget family_tailless (fits_tailless p) with
    ⟨a, ha⟩ | ⟨u', v', hnarrow, htarget⟩
  · have h := ha () r hr
    have h' := ha () r' hr'
    rw [List.append_nil] at h h'
    rw [elementNames, elementNames, h, h']
  · obtain rfl := hnarrow.stop rfl
    -- An element with an opening brace in it binds nothing: it is no identifier, and what it ends
    -- with is no bracket.
    have hnil : ∀ {r}, taillessFamily () r → elementNames n (p ++ r) = [] := by
      intro r hr
      obtain ⟨r₁, ⟨i, rfl, hi⟩, heq⟩ := htarget () r hr
      rw [List.append_nil] at heq
      refine elementNames_of_none (heq ▸ nestedBody?_eq_none (.inr fun c hc => ?_))
        (heq ▸ isIdentifier_of_mem (by simp : '{' ∈ _) (by decide))
      rw [List.append_nil, List.getLast?_append_of_ne_nil _ (List.cons_ne_nil _ _)] at hc
      rcases List.mem_cons.mp (List.mem_of_getLast? hc) with rfl | hmem
      · rfl
      · exact (plain_of_listChar (hi c hmem)).2.1
    rw [hnil hr, hnil hr']

/-- A list without its closing brace binds nothing. -/
theorem patternNamesWithin_tailless {r r' : Text} (hr : taillessFamily () r)
    (hr' : taillessFamily () r') (u : Text) :
    patternNamesWithin n (u ++ r) = patternNamesWithin n (u ++ r') := by
  cases n with
  | zero => rfl
  | succ n =>
    obtain ⟨front, p, s, back, hnarrow, hsplit⟩ :=
      exists_splitTopLevel (fits_tailless u) (by decide : ',' ∈ separators)
    -- Nothing follows the list, so it is in the last element.
    obtain rfl := hnarrow.stop rfl
    have h := hsplit () r hr
    have h' := hsplit () r' hr'
    rw [List.append_nil] at h h'
    rw [patternNamesWithin_succ, patternNamesWithin_succ, h, h', List.flatMap_append,
      List.flatMap_append, List.flatMap_cons, List.flatMap_cons, elementNames_tailless hr hr' p]

/-- A list in braces; the kinds are the lists. -/
def bracedFamily (i r : Text) : Prop :=
  Listed i ∧ r = '{' :: (i ++ ['}'])

theorem family_braced : Family bracedFamily where
  dot := by
    rintro i r ⟨-, rfl⟩
    simp
  solid := by
    rintro i r ⟨-, rfl⟩
    exact ⟨'{', List.mem_cons_self, by decide⟩
  trimStart := by
    rintro i r ⟨hi, rfl⟩
    exact ⟨hi, List.dropWhile_cons_of_neg (by decide)⟩
  trimEnd := by
    rintro i r ⟨hi, rfl⟩
    refine ⟨hi, trimEnd_eq_self ?_⟩
    rw [← List.cons_append, List.getLast?_concat]
    rintro c ⟨⟩
    decide

theorem fits_braced (u v : Text) : Fits bracedFamily u v := by
  refine ⟨depthThrough 0 u, ?_⟩
  rintro i r ⟨hi, rfl⟩
  have hlevel := level_braces hi.plain
  exact ⟨fun sep hsep => hlevel.quiet sep hsep _, .inr (hlevel.depth _)⟩

/-- The names of a nested pattern with a list in braces, where its own brackets may be those of the
list. -/
theorem mem_nestedNames_braces (hi : Listed i) (hi' : Listed i')
    (ih : ∀ {u v}, x ∈ patternNamesWithin n (u ++ (('{' :: (i ++ ['}'])) ++ v)) →
      x ∈ Import.listEntries i ∨ x ∈ patternNamesWithin n (u ++ (('{' :: (i' ++ ['}'])) ++ v)))
    {inner : Text} (hinner : nestedBody? (u ++ (('{' :: (i ++ ['}'])) ++ v)) = some inner)
    (hx : x ∈ patternNamesWithin n inner) :
    x ∈ Import.listEntries i ∨ ∃ inner', nestedBody? (u ++ (('{' :: (i' ++ ['}'])) ++ v)) =
      some inner' ∧ x ∈ patternNamesWithin n inner' := by
  rcases List.eq_nil_or_concat' v with rfl | ⟨v, d, rfl⟩
  · cases u with
    | nil =>
      -- The list is the nested pattern.
      have hbody : ∀ i, nestedBody? ([] ++ (('{' :: (i ++ ['}'])) ++ [])) = some i := fun i =>
        nestedBody?_eq_some_iff.mpr ⟨'{', '}', by simp, .inl rfl, .inl rfl⟩
      rw [hbody, Option.some.injEq] at hinner
      subst hinner
      exact .inl (mem_listEntries_of_mem_patternNamesWithin hi hx)
    | cons c u =>
      obtain ⟨c', d', heq, hc, hd⟩ := nestedBody?_eq_some_iff.mp hinner
      have hbody : ∀ i, nestedBody? (c :: u ++ (('{' :: (i ++ ['}'])) ++ [])) =
          some (u ++ '{' :: i) := by
        intro i
        rw [List.cons_append, List.cons.injEq] at heq
        exact nestedBody?_eq_some_iff.mpr ⟨c, '}', by simp, heq.1 ▸ hc, .inl rfl⟩
      rw [hbody, Option.some.injEq] at hinner
      subst hinner
      refine .inr ⟨_, hbody i', ?_⟩
      rwa [patternNamesWithin_tailless ⟨i', rfl, hi'.chars⟩ ⟨i, rfl, hi.chars⟩ u]
  · cases u with
    | nil =>
      obtain ⟨c', d', heq, hc, hd⟩ := nestedBody?_eq_some_iff.mp hinner
      have hbody : ∀ i, nestedBody? ([] ++ (('{' :: (i ++ ['}'])) ++ (v ++ [d]))) =
          some (i ++ '}' :: v) := by
        intro i
        have hlast := congrArg List.getLast? heq
        rw [List.nil_append, ← List.append_assoc, List.getLast?_concat, ← List.cons_append,
          List.getLast?_concat, Option.some.injEq] at hlast
        exact nestedBody?_eq_some_iff.mpr ⟨'{', d, by simp, .inl rfl, hlast ▸ hd⟩
      rw [hbody, Option.some.injEq] at hinner
      subst hinner
      exact (mem_patternNamesWithin_headless hi hi' hx).imp_right fun h => ⟨_, hbody i', h⟩
    | cons c u =>
      rcases nestedBody?_around (List.cons_ne_nil c u) (v := v ++ [d]) (by simp) with
        ⟨u', v', hsome⟩ | hnone
      · rw [hsome, Option.some.injEq] at hinner
        subst hinner
        exact (ih hx).imp_right fun h => ⟨_, hsome _, h⟩
      · rw [hnone] at hinner
        cases hinner

/-- An element with a list in braces binds names of the list at most, and what it binds with any
other list. -/
theorem mem_elementNames_braces (hi : Listed i) (hi' : Listed i')
    (ih : ∀ {u v}, x ∈ patternNamesWithin n (u ++ (('{' :: (i ++ ['}'])) ++ v)) →
      x ∈ Import.listEntries i ∨ x ∈ patternNamesWithin n (u ++ (('{' :: (i' ++ ['}'])) ++ v)))
    (hx : x ∈ elementNames n (u ++ (('{' :: (i ++ ['}'])) ++ v))) :
    x ∈ Import.listEntries i ∨ x ∈ elementNames n (u ++ (('{' :: (i' ++ ['}'])) ++ v)) := by
  rcases outcome_bindingTarget family_braced (fits_braced u v) with
    ⟨a, ha⟩ | ⟨u', v', -, htarget⟩
  · -- What the element binds to does not reach the list.
    refine .inr ?_
    rw [elementNames, ha i _ ⟨hi, rfl⟩] at hx
    rw [elementNames, ha i' _ ⟨hi', rfl⟩]
    exact hx
  · obtain ⟨_, ⟨-, rfl⟩, heq⟩ := htarget i _ ⟨hi, rfl⟩
    obtain ⟨_, ⟨-, rfl⟩, heq'⟩ := htarget i' _ ⟨hi', rfl⟩
    obtain ⟨inner, hinner, hx⟩ | ⟨-, hid, rfl⟩ := mem_elementNames.mp hx
    · rw [heq] at hinner
      refine (mem_nestedNames_braces hi hi' ih hinner hx).imp_right ?_
      rintro ⟨inner', hinner', hx'⟩
      rwa [elementNames_of_some (heq' ▸ hinner')]
    · rw [heq, isIdentifier_of_mem (by simp : '{' ∈ _) (by decide)] at hid
      cases hid

/-- A pattern with a list in braces binds names of the list at most, and what it binds with any
other list. -/
theorem mem_patternNamesWithin_braces (hi : Listed i) (hi' : Listed i')
    (hx : x ∈ patternNamesWithin n (u ++ (('{' :: (i ++ ['}'])) ++ v))) :
    x ∈ Import.listEntries i ∨ x ∈ patternNamesWithin n (u ++ (('{' :: (i' ++ ['}'])) ++ v)) := by
  induction n generalizing u v with
  | zero => cases hx
  | succ n ih =>
    obtain ⟨front, p, s, back, -, hsplit⟩ :=
      exists_splitTopLevel (fits_braced u v) (by decide : ',' ∈ separators)
    rw [patternNamesWithin_succ, hsplit i _ ⟨hi, rfl⟩, List.flatMap_append, List.flatMap_cons] at hx
    rw [patternNamesWithin_succ, hsplit i' _ ⟨hi', rfl⟩, List.flatMap_append, List.flatMap_cons]
    rcases List.mem_append.mp hx with hx | hx
    · exact .inr (List.mem_append_left _ hx)
    · rcases List.mem_append.mp hx with hx | hx
      · exact (mem_elementNames_braces hi hi' ih hx).imp_right fun h =>
          List.mem_append_right _ (List.mem_append_left _ h)
      · exact .inr (List.mem_append_right _ (List.mem_append_right _ hx))

end

end DesignTokens.Declaration
