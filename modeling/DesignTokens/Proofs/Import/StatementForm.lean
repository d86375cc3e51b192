import DesignTokens.Import.Statement
import DesignTokens.Proofs.Text.Parts

/-! # The form of import statements

A statement read from a text has a certain form, and a text that starts with a statement of that
form is read as it. Reading looks ahead: a line that starts with the word `import` and has no quote
goes on to the next lines. What it finds there is decided by the first quote or semicolon, so that a
statement further down can be exchanged for another one without a line above it being read in
another way.

## Main definitions

* `Import.Statement.Valid` - the form of a statement
* `Import.Statement.Ends` - whether a statement ends where a text goes on

## Main results

* `Import.Statement.read?_eq_some_iff` - reading gives the statements of that form and no others
* `Import.Statement.read?_append_eq_none` - a line that is no statement stays one when the next
  statement is exchanged
-/

namespace DesignTokens.Import.Statement

open Character Text

/-- The form of a statement. -/
structure Valid (s : Statement) : Prop where
  indent : ∀ c ∈ s.indent, isIndent c = true
  clause : ∀ clause ∈ s.clause, ∀ c ∈ clause, endsClause c = false
  clause_head : ∀ clause ∈ s.clause, isWordSide clause.head? = false
  clause_last : ∀ clause ∈ s.clause, clause ≠ [] ∧ isWordSide clause.getLast? = false
  gap : ∀ c ∈ s.gap, isBlank c = true
  quote : isQuote s.quote = true
  module_ne_nil : s.module ≠ []
  module : ∀ c ∈ s.module, endsModule c = false
  closing : isQuote s.closing = true
  trail : ∀ c ∈ s.trail, isIndent c = true

/-- Whether a statement ends where `rest` begins: without a semicolon, neither white space of the
line nor a semicolon follows. -/
def Ends (s : Statement) (rest : Text) : Prop :=
  s.semicolon = true ∨ ∀ c ∈ rest.head?, isIndent c = false ∧ c ≠ ';'

/-! ### The text in front of the quote -/

theorem of_splitHead? {head gap : Text} {clause : Option Text}
    (h : splitHead? head = some (clause, gap)) :
    head = clauseText clause ++ gap ∧ (∀ c ∈ gap, isBlank c = true) ∧
      ∀ cl ∈ clause, cl ≠ [] ∧ isWordSide cl.getLast? = false := by
  have hblank : ∀ c ∈ (head.reverse.takeWhile isBlank).reverse, isBlank c = true :=
    fun c hc => mem_takeWhile (List.mem_reverse.mp hc)
  refine ⟨(clauseText_append_of_splitHead? h).symm, ?_⟩
  revert h
  fun_cases splitHead? head with
  -- There is no clause: all of the text is blank.
  | case1 =>
    intro h
    obtain ⟨rfl, rfl⟩ := Prod.mk.inj (Option.some.inj h)
    exact ⟨hblank, by simp⟩
  -- The clause is followed by its word, and does not end with a word itself.
  | case5 blanks core hcore last earlier hword =>
    intro h
    obtain ⟨rfl, rfl⟩ := Prod.mk.inj (Option.some.inj h)
    refine ⟨hblank, ?_⟩
    rintro cl ⟨⟩
    simpa [isWordSide] using hword
  | _ =>
    intro h
    cases h

/-- Blanks alone are the gap of a statement without clause. -/
theorem splitHead?_of_blanks {gap : Text} (hgap : ∀ c ∈ gap, isBlank c = true) :
    splitHead? gap = some (none, gap) := by
  have hcore : trimEnd gap = [] := by
    have := @trimEnd_append_of_blanks [] gap hgap
    simpa [trimEnd, dropEndWhile] using this
  have hrun : (gap.reverse.takeWhile isBlank).reverse = gap := by
    have := @takeWhile_append_stop gap.reverse [] isBlank (by simpa using hgap) (by simp)
    rw [List.append_nil] at this
    rw [this, List.reverse_reverse]
  simp [splitHead?, hcore, hrun]

/-- A clause is cut off in front of the word behind it. -/
theorem splitHead?_of_clause {cl gap : Text} (hgap : ∀ c ∈ gap, isBlank c = true) (hne : cl ≠ [])
    (hlast : isWordSide cl.getLast? = false) :
    splitHead? (cl ++ fromWord ++ gap) = some (some cl, gap) := by
  have hcore : trimEnd (cl ++ fromWord ++ gap) = cl ++ fromWord := by
    rw [trimEnd_append_of_blanks hgap, trimEnd_eq_self]
    simp [fromWord]
    decide
  have hrun : ((cl ++ fromWord ++ gap).reverse.takeWhile isBlank).reverse = gap := by
    have := @takeWhile_append_stop gap.reverse (cl ++ fromWord).reverse isBlank
      (by simpa using hgap) (by simp [fromWord]; decide)
    rw [List.reverse_append, this, List.reverse_reverse]
  have hfrom : after? fromWord.reverse (cl ++ fromWord).reverse = some cl.reverse := by
    rw [List.reverse_append, after?_append]
  unfold splitHead?
  simp only [hcore, hrun]
  rw [if_neg (by simp [fromWord]), hfrom]
  -- What stands last in the clause is no character of words, as the word behind it begins there.
  cases hrev : cl.reverse with
  | nil => exact absurd (List.reverse_eq_nil_iff.mp hrev) hne
  | cons last earlier =>
    have hcl : cl = earlier.reverse ++ [last] := by
      rw [← List.reverse_reverse cl, hrev, List.reverse_cons]
    have hword : isWord last = false := by
      rw [hcl] at hlast
      simpa [isWordSide] using hlast
    simp [hword, hcl]

theorem splitHead?_eq_some_iff {head gap : Text} {clause : Option Text} :
    splitHead? head = some (clause, gap) ↔
      head = clauseText clause ++ gap ∧ (∀ c ∈ gap, isBlank c = true) ∧
        ∀ cl ∈ clause, cl ≠ [] ∧ isWordSide cl.getLast? = false := by
  refine ⟨of_splitHead?, ?_⟩
  rintro ⟨rfl, hgap, hclause⟩
  cases clause with
  | none => exact splitHead?_of_blanks hgap
  | some cl => exact splitHead?_of_clause hgap (hclause cl rfl).1 (hclause cl rfl).2

/-! ### Reading and writing -/

theorem isWord_of_isQuote {c : Char} (h : isQuote c = true) : isWord c = false := by
  simp only [isQuote, Bool.or_eq_true, decide_eq_true_eq] at h
  rcases h with rfl | rfl <;> decide

theorem endsClause_of_isBlank {c : Char} (h : isBlank c = true) : endsClause c = false := by
  simp [endsClause, isQuote, ne_of_isBlank h (d := '\'') (by decide),
    ne_of_isBlank h (d := '"') (by decide), ne_of_isBlank h (d := ';') (by decide)]

theorem isBlank_of_isIndent {c : Char} (h : isIndent c = true) : isBlank c = true := by
  simp only [isIndent, Bool.or_eq_true, decide_eq_true_eq] at h
  rcases h with rfl | rfl <;> decide

theorem endsClause_of_mem_fromWord : ∀ c ∈ fromWord, endsClause c = false := by
  simpa using (show fromWord.all (!endsClause ·) = true by decide)

theorem endsClause_of_mem_importWord : ∀ c ∈ importWord, endsClause c = false := by
  simpa using (show importWord.all (!endsClause ·) = true by decide)

/-- What stands between the word `import` and the opening quote has no quote and no semicolon. -/
theorem Valid.endsClause_head {s : Statement} (h : s.Valid) :
    ∀ c ∈ clauseText s.clause ++ s.gap, endsClause c = false := by
  intro c hc
  rcases List.mem_append.mp hc with hc | hc
  · cases hclause : s.clause with
    | none => simp [hclause, clauseText] at hc
    | some cl =>
      rw [hclause, clauseText, List.mem_append] at hc
      rcases hc with hc | hc
      · exact h.clause cl hclause c hc
      · exact endsClause_of_mem_fromWord c hc
  · exact endsClause_of_isBlank (h.gap c hc)

/-- No character of words follows the word `import` of a statement. -/
theorem Valid.isWordSide_head {s : Statement} (h : s.Valid) (rest : Text) :
    isWordSide (clauseText s.clause ++ (s.gap ++ s.quote :: rest)).head? = false := by
  cases hclause : s.clause with
  | none =>
    cases hgap : s.gap with
    | nil => simpa [clauseText, isWordSide] using isWord_of_isQuote h.quote
    | cons c gap =>
      have hblank := h.gap c (by simp [hgap])
      simpa [clauseText, isWordSide] using isWord_of_isBlank hblank
  | some cl =>
    have hhead := h.clause_head cl hclause
    have hne := (h.clause_last cl hclause).1
    cases cl with
    | nil => exact absurd rfl hne
    | cons c cl => simpa [clauseText] using hhead

/-- A text that starts with a statement is read as that statement. -/
theorem read?_text_append {s : Statement} (h : s.Valid) {rest : Text} (hends : s.Ends rest) :
    read? (s.text ++ rest) = some (s, rest) := by
  set outer : Text := s.trail ++ ((if s.semicolon then [';'] else []) ++ rest) with houter
  set inner : Text := s.module ++ s.closing :: outer with hinner
  set head : Text := clauseText s.clause ++ s.gap ++ s.quote :: inner with hhead
  have htext : s.text ++ rest = s.indent ++ (importWord ++ head) := by
    simp [text, Statement.tail, hhead, hinner, houter]
  have hindent : ∀ c ∈ (importWord ++ head).head?, isIndent c = false := by
    simp [importWord, isIndent]
  have hclause : ∀ c ∈ (s.quote :: inner).head?, (!endsClause c) = false := by
    simp [endsClause, h.quote]
  have hclauseRun : ∀ c ∈ clauseText s.clause ++ s.gap, (!endsClause c) = true := by
    simpa using h.endsClause_head
  have hmodule : ∀ c ∈ (s.closing :: outer).head?, (!endsModule c) = false := by
    simp [endsModule, h.closing]
  have hmoduleRun : ∀ c ∈ s.module, (!endsModule c) = true := by simpa using h.module
  have hstop : ∀ c ∈ ((if s.semicolon then [';'] else []) ++ rest).head?, isIndent c = false := by
    cases hsemicolon : s.semicolon with
    | true => simp [isIndent]
    | false =>
      rcases hends with htrue | hends
      · simp [hsemicolon] at htrue
      · exact fun c hc => (hends c (by simpa using hc)).1
  -- Every part is read back whole, as what follows it starts with a character that it cannot have.
  have hread : Cut (s.text ++ rest) s rest head inner outer :=
    { indent := htext ▸ takeWhile_append_stop h.indent hindent
      word := by rw [htext, dropWhile_append_stop h.indent hindent, after?_append]
      apart := by
        rw [hhead, List.append_assoc]
        exact h.isWordSide_head inner
      clause := by
        rw [hhead, takeWhile_append_stop hclauseRun hclause]
        exact splitHead?_eq_some_iff.mpr ⟨rfl, h.gap, h.clause_last⟩
      opening := dropWhile_append_stop hclauseRun hclause
      quote := h.quote
      module := takeWhile_append_stop hmoduleRun hmodule
      module_ne_nil := h.module_ne_nil
      ending := dropWhile_append_stop hmoduleRun hmodule
      closing := h.closing
      trail := takeWhile_append_stop h.trail hstop
      below := dropWhile_append_stop h.trail hstop
      semicolon := fun hfalse hnext =>
        (hends.resolve_left (by simp [hfalse]) ';' hnext).2 rfl }
  exact hread.read?_eq

/-- The first character of a clause is the one after the word `import`. -/
theorem isWordSide_clause_head {clause : Option Text} {gap rest rest' : Text}
    (hword : isWordSide rest.head? = false) (hrest : rest = clauseText clause ++ gap ++ rest')
    (hne : ∀ cl ∈ clause, cl ≠ []) : ∀ cl ∈ clause, isWordSide cl.head? = false := by
  rintro cl ⟨⟩
  cases cl with
  | nil => exact absurd rfl (hne [] rfl)
  | cons c cl => simpa [hrest, clauseText] using hword

/-- A statement that was read has the form of one. -/
theorem Cut.valid {t rest head inner outer : Text} {s : Statement}
    (h : Cut t s rest head inner outer) : s.Valid := by
  obtain ⟨heq, hgap, hclause⟩ := splitHead?_eq_some_iff.mp h.clause
  have hrun : ∀ c ∈ clauseText s.clause ++ s.gap, endsClause c = false := by
    intro c hc
    rw [← heq] at hc
    simpa using mem_takeWhile hc
  -- The head is the clause and the gap, and then what is quoted.
  have hsplit : head = clauseText s.clause ++ s.gap ++ s.quote :: inner := by
    rw [← heq, ← h.opening, List.takeWhile_append_dropWhile]
  exact
    { indent := fun c hc => mem_takeWhile (h.indent ▸ hc)
      clause := fun cl hcl c hc => hrun c (by simp [Option.mem_def.mp hcl, clauseText, hc])
      clause_head := isWordSide_clause_head h.apart hsplit fun cl hcl => (hclause cl hcl).1
      clause_last := hclause
      gap := hgap
      quote := h.quote
      module_ne_nil := h.module_ne_nil
      module := fun c hc => by
        rw [← h.module] at hc
        simpa using mem_takeWhile hc
      closing := h.closing
      trail := fun c hc => mem_takeWhile (h.trail ▸ hc) }

/-- A statement that was read ends where the rest begins. -/
theorem Cut.ends {t rest head inner outer : Text} {s : Statement}
    (h : Cut t s rest head inner outer) : s.Ends rest := by
  cases hsemicolon : s.semicolon with
  | true => exact .inl hsemicolon
  | false =>
    have hbelow : outer.dropWhile isIndent = rest := by simpa [hsemicolon] using h.below
    refine .inr fun c hc => ⟨head?_dropWhile outer c (hbelow ▸ hc), ?_⟩
    rintro rfl
    exact h.semicolon hsemicolon hc

/-- A text is read as a statement if it starts with one that ends where the rest begins. -/
theorem read?_eq_some_iff {t rest : Text} {s : Statement} :
    read? t = some (s, rest) ↔ t = s.text ++ rest ∧ s.Valid ∧ s.Ends rest := by
  constructor
  · intro h
    obtain ⟨head, inner, outer, hread⟩ := exists_cut_of_read? h
    exact ⟨(text_append_of_read? h).symm, hread.valid, hread.ends⟩
  · rintro ⟨rfl, hvalid, hends⟩
    exact read?_text_append hvalid hends

/-! ### Lines above a statement -/

/-- The characters from the opening quote on. -/
def quoted (s : Statement) : Text :=
  s.quote :: (s.module ++ (s.closing :: (s.trail ++ if s.semicolon then [';'] else [])))

theorem text_eq (s : Statement) :
    s.text = s.indent ++ importWord ++ (clauseText s.clause ++ s.gap ++ s.quoted) := by
  simp [text, tail, quoted]

/-- A statement ends with white space of the line, a quote or a semicolon. -/
theorem Valid.exists_last {s : Statement} (h : s.Valid) : ∃ c, s.text.getLast? = some c ∧
    (isIndent c = true ∨ isQuote c = true ∨ c = ';') := by
  -- A statement ends with a quote, white space or a semicolon.
  have hend : ∀ c ∈ s.closing :: (s.trail ++ if s.semicolon then [';'] else []),
      isIndent c = true ∨ isQuote c = true ∨ c = ';' := by
    intro c hc
    rcases List.mem_cons.mp hc with rfl | hc
    · exact .inr (.inl h.closing)
    · rcases List.mem_append.mp hc with hc | hc
      · exact .inl (h.trail c hc)
      · split at hc
        · exact .inr (.inr (List.mem_singleton.mp hc))
        · cases hc
  have htext : s.text = (s.indent ++ (importWord ++ (clauseText s.clause ++
      (s.gap ++ (s.quote :: s.module))))) ++
        (s.closing :: (s.trail ++ if s.semicolon then [';'] else [])) := by
    simp [text, tail]
  obtain ⟨c, hc⟩ := Option.isSome_iff_exists.mp (List.getLast?_isSome.mpr
    (List.cons_ne_nil s.closing (s.trail ++ if s.semicolon then [';'] else [])))
  refine ⟨c, ?_, hend c (List.mem_of_getLast? hc)⟩
  rw [htext, List.getLast?_append_cons, hc]

theorem text_ne_nil (s : Statement) : s.text ≠ [] := by
  intro hnil
  have hlength := importWord_length_le_text s
  rw [hnil] at hlength
  cases hlength

/-- No other character ends a statement, a line feed least of all. -/
theorem Valid.getLast?_text_ne {s : Statement} (h : s.Valid) {c : Char}
    (hc : ¬ (isIndent c = true ∨ isQuote c = true ∨ c = ';')) : s.text.getLast? ≠ some c := by
  obtain ⟨d, hlast, hd⟩ := h.exists_last
  rw [hlast]
  rintro ⟨⟩
  exact hc hd

theorem ne_newline_of_isIndent {c : Char} (h : isIndent c = true) : c ≠ '\n' := by
  rintro rfl
  revert h
  decide

theorem ne_newline_of_isQuote {c : Char} (h : isQuote c = true) : c ≠ '\n' := by
  rintro rfl
  revert h
  decide

theorem Valid.newline_not_mem_start {s : Statement} (h : s.Valid) :
    '\n' ∉ s.indent ++ importWord := by
  rw [List.mem_append, not_or]
  exact ⟨fun hmem => ne_newline_of_isIndent (h.indent _ hmem) rfl, by decide⟩

theorem Valid.newline_not_mem_quoted {s : Statement} (h : s.Valid) : '\n' ∉ s.quoted := by
  have hquote := ne_newline_of_isQuote h.quote
  have hclosing := ne_newline_of_isQuote h.closing
  have hmodule : '\n' ∉ s.module := fun hmem => by
    have := h.module _ hmem
    simp [endsModule] at this
  have htrail : '\n' ∉ s.trail := fun hmem => ne_newline_of_isIndent (h.trail _ hmem) rfl
  simp only [quoted, List.mem_cons, List.mem_append, not_or]
  exact ⟨hquote.symm, hmodule, hclosing.symm, htrail, by split <;> decide⟩

/-- Where the first character that ends a clause stands is determined by the text. -/
theorem eq_of_append_endsClause {a b u v : Text} {q r : Char}
    (ha : ∀ c ∈ a, endsClause c = false) (hb : ∀ c ∈ b, endsClause c = false)
    (hq : endsClause q = true) (hr : endsClause r = true) (h : a ++ q :: u = b ++ r :: v) :
    a = b ∧ q :: u = r :: v := by
  have htake := congrArg (List.takeWhile (!endsClause ·)) h
  rw [takeWhile_append_stop (by simpa using ha) (by simp [hq]),
    takeWhile_append_stop (by simpa using hb) (by simp [hr])] at htake
  subst htake
  exact ⟨rfl, List.append_cancel_left h⟩

/-- A statement that starts above a line break ends its first lines within its clause. -/
theorem Valid.exists_clause_split {r : Statement} (h : r.Valid) {lead z : Text}
    (hlead : lead.getLast? = some '\n') (heq : r.text = lead ++ z) :
    ∃ h₁ h₂, lead = r.indent ++ importWord ++ h₁ ∧ clauseText r.clause ++ r.gap = h₁ ++ h₂ ∧
      z = h₂ ++ r.quoted ∧ h₁ ≠ [] := by
  obtain ⟨front, rfl⟩ := List.getLast?_eq_some_iff.mp hlead
  rw [text_eq] at heq
  rcases List.append_eq_append_iff.mp heq with ⟨l, hl, hz⟩ | ⟨l, hl, -⟩
  · have hne : l ≠ [] := by
      rintro rfl
      apply h.newline_not_mem_start
      rw [← List.append_nil (r.indent ++ importWord), ← hl]
      simp
    obtain ⟨l', rfl⟩ : ∃ l', l = l' ++ ['\n'] := by
      have hlast := congrArg List.getLast? hl
      rw [List.getLast?_append_of_ne_nil _ hne, List.getLast?_concat] at hlast
      exact List.getLast?_eq_some_iff.mp hlast.symm
    rcases List.append_eq_append_iff.mp hz with ⟨m, hm, hm'⟩ | ⟨m, hm, hm'⟩
    · rcases List.eq_nil_or_concat m with rfl | ⟨m', x, rfl⟩
      · rw [List.append_nil] at hm
        exact ⟨l' ++ ['\n'], [], hl, by simp [hm], by simpa using hm'.symm, hne⟩
      · -- The break would stand behind the opening quote.
        exfalso
        rw [List.concat_eq_append, ← List.append_assoc] at hm
        have hx : '\n' = x := by simpa using (List.append_inj' hm rfl).2
        apply h.newline_not_mem_quoted
        rw [hm', hx]
        simp
    · exact ⟨l' ++ ['\n'], m, hl, hm, hm', hne⟩
  · exfalso
    apply h.newline_not_mem_start
    rw [hl]
    simp

/-- A clause that takes in the whole start of another statement ends in that statement's clause. -/
theorem isSome_clause_of_append {cl gap front gap' : Text} {clause : Option Text}
    (hgap : ∀ c ∈ gap, isBlank c = true) (hgap' : ∀ c ∈ gap', isBlank c = true)
    (h : cl ++ fromWord ++ gap = front ++ importWord ++ (clauseText clause ++ gap')) :
    clause.isSome = true := by
  cases clause with
  | some clause => rfl
  | none =>
    have htrim := congrArg trimEnd h
    rw [clauseText, List.nil_append, trimEnd_append_of_blanks hgap, trimEnd_append_of_blanks hgap',
      trimEnd_eq_self (by simp [fromWord]; decide),
      trimEnd_eq_self (by simp [importWord]; decide)] at htrim
    have hlast := congrArg List.getLast? htrim
    simp [fromWord, importWord] at hlast

/-- A statement with the first lines of another in front of it, as one statement. -/
def takeOver (s r : Statement) (h₁ c₂ : Text) : Statement :=
  { s with indent := r.indent, clause := some (h₁ ++ (s.indent ++ (importWord ++ c₂))) }

theorem text_takeOver {s : Statement} (r : Statement) {h₁ c₂ : Text} (hc₂ : s.clause = some c₂) :
    (s.takeOver r h₁ c₂).text = r.indent ++ importWord ++ h₁ ++ s.text := by
  simp [takeOver, text, tail, clauseText, hc₂]
  rfl

theorem Valid.takeOver {s r : Statement} (hs : s.Valid) (hr : r.Valid) {cl h₁ h₂ c₂ : Text}
    (hcl : r.clause = some cl) (hc₂ : s.clause = some c₂) (hne : h₁ ≠ [])
    (hhead : cl ++ (fromWord ++ r.gap) = h₁ ++ h₂) : (s.takeOver r h₁ c₂).Valid where
  indent := hr.indent
  clause := by
    rintro cl' ⟨⟩ c hc
    simp only [List.mem_append] at hc
    rcases hc with hc | hc | hc | hc
    · apply hr.endsClause_head c
      rw [hcl, clauseText, List.append_assoc, hhead]
      exact List.mem_append_left _ hc
    · exact endsClause_of_isBlank (isBlank_of_isIndent (hs.indent c hc))
    · exact endsClause_of_mem_importWord c hc
    · exact hs.clause c₂ hc₂ c hc
  clause_head := by
    rintro cl' ⟨⟩
    have hhead' := hr.clause_head cl hcl
    obtain ⟨c, cl'', rfl⟩ := List.exists_cons_of_ne_nil (hr.clause_last cl hcl).1
    obtain ⟨d, h₁', rfl⟩ := List.exists_cons_of_ne_nil hne
    rw [List.cons_append, List.cons_append, List.cons.injEq] at hhead
    simpa [hhead.1] using hhead'
  clause_last := by
    rintro cl' ⟨⟩
    obtain ⟨hne₂, hlast⟩ := hs.clause_last c₂ hc₂
    refine ⟨by simp [hne], ?_⟩
    rw [List.getLast?_append_of_ne_nil _ (by simp [hne₂]),
      List.getLast?_append_of_ne_nil _ (by simp [hne₂]), List.getLast?_append_of_ne_nil _ hne₂]
    exact hlast
  gap := hs.gap
  quote := hs.quote
  module_ne_nil := hs.module_ne_nil
  module := hs.module
  closing := hs.closing
  trail := hs.trail

/-- Where a line reads as a statement that reaches into the next one below, that one's clause takes
in what is between them, and the line reads as a statement with any other of its kind below. -/
theorem read?_append_of_reach {lead rest rest' x z : Text} {r s s' : Statement}
    (hlead : lead.getLast? = some '\n') (hs : s.Valid) (hends : s.Ends rest) (hs' : s'.Valid)
    (hclause : s'.clause.isSome = s.clause.isSome) (hr : r.Valid) (hz : r.text = lead ++ z)
    (hz' : s'.text ++ rest' = z ++ x) :
    ∃ s'', read? (lead ++ (s.text ++ rest)) = some (s'', rest) := by
  obtain ⟨h₁, h₂, rfl, hhead, rfl, hne₁⟩ := hr.exists_clause_split hlead hz
  rw [text_eq, quoted, quoted, List.append_assoc _ _ rest', List.append_assoc _ _ rest',
    List.append_assoc h₂, ← List.append_assoc] at hz'
  have hfree : ∀ c ∈ h₂, endsClause c = false := fun c hc =>
    hr.endsClause_head c (by rw [hhead]; simp [hc])
  have hfree' : ∀ c ∈ s'.indent ++ importWord ++ (clauseText s'.clause ++ s'.gap),
      endsClause c = false := by
    intro c hc
    rcases List.mem_append.mp hc with hc | hc
    · rcases List.mem_append.mp hc with hc | hc
      · exact endsClause_of_isBlank (isBlank_of_isIndent (hs'.indent c hc))
      · exact endsClause_of_mem_importWord c hc
    · exact hs'.endsClause_head c hc
  -- Both statements have their first quote in one place, so what is in front of it is the same.
  obtain ⟨rfl, -⟩ := eq_of_append_endsClause hfree' hfree (by simp [endsClause, hs'.quote])
    (by simp [endsClause, hr.quote]) hz'
  cases hrclause : r.clause with
  | none =>
    have hmem : 'i' ∈ r.gap := by
      rw [hrclause, clauseText, List.nil_append] at hhead
      simp [hhead, importWord]
    exact absurd (hr.gap _ hmem) (by decide)
  | some cl =>
    have hfront : cl ++ fromWord ++ r.gap =
        h₁ ++ s'.indent ++ importWord ++ (clauseText s'.clause ++ s'.gap) := by
      simpa [hrclause, clauseText] using hhead
    rw [isSome_clause_of_append hr.gap hs'.gap hfront, eq_comm, Option.isSome_iff_exists] at hclause
    obtain ⟨c₂, hc₂⟩ := hclause
    rw [hrclause, clauseText, List.append_assoc] at hhead
    refine ⟨s.takeOver r h₁ c₂, ?_⟩
    rw [← List.append_assoc, ← text_takeOver r hc₂]
    exact read?_text_append (hs.takeOver hr hrclause hc₂ hne₁ hhead) hends

/-- A statement that ends above a line break ends there whatever follows. -/
theorem read?_append_of_above {lead below below' z : Text} {r : Statement}
    (hlead : lead.getLast? = some '\n') (hr : r.Valid) (hz : lead = r.text ++ z)
    (hends : r.Ends (z ++ below')) : read? (lead ++ below) = some (r, z ++ below) := by
  have hne : z ≠ [] := by
    rintro rfl
    rw [List.append_nil] at hz
    apply hr.newline_not_mem_quoted
    rw [hz, text_eq, List.getLast?_append_of_ne_nil _ (by simp [quoted]),
      List.getLast?_append_of_ne_nil _ (by simp [quoted])] at hlead
    exact List.mem_of_getLast? hlead
  have hends' : r.Ends (z ++ below) := by
    obtain ⟨c, z', rfl⟩ := List.exists_cons_of_ne_nil hne
    simpa [Ends] using hends
  rw [hz, List.append_assoc]
  exact read?_text_append hr hends'

/-- A line that does not start a statement with the text that follows it does not start one either
when the next statement below it is exchanged for another of its kind. -/
theorem read?_append_eq_none {lead rest rest' : Text} {s s' : Statement}
    (hlead : lead.getLast? = some '\n') (hs : s.Valid) (hends : s.Ends rest) (hs' : s'.Valid)
    (hclause : s'.clause.isSome = s.clause.isSome) (h : read? (lead ++ (s.text ++ rest)) = none) :
    read? (lead ++ (s'.text ++ rest')) = none := by
  by_contra hne
  obtain ⟨⟨r, x⟩, hread⟩ := Option.ne_none_iff_exists'.mp hne
  obtain ⟨heq, hr, hrends⟩ := read?_eq_some_iff.mp hread
  rcases List.append_eq_append_iff.mp heq with ⟨z, hz, hz'⟩ | ⟨z, hz, rfl⟩
  · obtain ⟨s'', hsome⟩ := read?_append_of_reach hlead hs hends hs' hclause hr hz hz'
    rw [hsome] at h
    cases h
  · rw [read?_append_of_above hlead hr hz hrends] at h
    cases h

end DesignTokens.Import.Statement
