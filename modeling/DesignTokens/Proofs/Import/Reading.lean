import DesignTokens.Proofs.Import.Grammar

/-! # Reading well-formed imports

A text of import declarations, each of which starts a line, is read as just these declarations, in
whatever layout they are written. Reading goes from declaration to declaration: one that starts a
line is read as a statement up to its semicolon, or up to the end of its line, and the lines in
between are blank.

## Main results

* `Import.Form.Spelling.exists_read?` - a declaration is read as one statement
* `Import.Outline.map_statement_read_lead` - blank lines in front change nothing
* `Import.statements_of_written` - a text of declarations is read as these
-/

namespace DesignTokens.Import

open Character Text

namespace Form

variable {d : Form} {tail : Text}

/-- The clause that a layout of a declaration is read as. -/
theorem Spelling.exists_clause (sp : d.Spelling) : ∃ clause : Option Text,
    sp.head = Statement.clauseText clause ∧ (clause = none ↔ d.clause? = none) ∧
      (∀ cl ∈ clause, (∀ c ∈ cl, endsClause c = false) ∧ isWordSide cl.head? = false ∧
        cl ≠ [] ∧ isWordSide cl.getLast? = false) ∧
      clause.any Statement.startsWithType = d.ofType ∧
      ∀ x, x ∈ (match clause with | some cl => clauseNames cl | none => []) ↔ x ∈ d.locals := by
  have hlaid := sp.laid_head
  cases hd : d.clause? with
  | none =>
    simp only [tokens, hd, Laid] at hlaid
    exact ⟨none, hlaid, by simp, by simp, by simp [ofType, hd], by simp [locals, hd]⟩
  | some cl =>
    simp only [tokens, hd] at hlaid
    obtain ⟨t, gap, heq, ht, hgap, hapart⟩ := laid_concat.mp hlaid
    have hclause := clause_of_laid ht hgap fun h => hapart h rfl
    -- The blanks in front of the word `from` belong to the clause.
    refine ⟨some (t ++ gap), by rw [heq, Statement.clauseText, List.append_assoc]; rfl, by simp,
      by simpa using hclause, ?_, fun x => ?_⟩
    · rw [Option.any_some, startsWithType_of_laid ht hgap, ofType, hd, Option.any_some]
    · rw [locals, hd]
      exact mem_clauseNames_iff_of_laid ht hgap

/-- The statement that a layout of a declaration is read as, with its clause and with the white
space after its closing quote. -/
def Spelling.statement (sp : d.Spelling) (clause : Option Text) (trail : Text) : Statement :=
  ⟨sp.indent, clause, sp.gap, d.quote, d.module, d.quote, trail, d.semicolon⟩

/-- A layout of a declaration makes a statement of the right form, in which its parts are read. -/
theorem Spelling.exists_statement (sp : d.Spelling) : ∃ clause : Option Text,
    sp.head = Statement.clauseText clause ∧ ∀ trail, (∀ c ∈ trail, isIndent c = true) →
      (sp.statement clause trail).Valid ∧ d.ReadAs (sp.statement clause trail) := by
  obtain ⟨clause, hhead, hnone, hclause, htype, hnames⟩ := sp.exists_clause
  refine ⟨clause, hhead, fun trail htrail => ⟨?_, ?_⟩⟩
  · exact
      { indent := sp.isIndent_indent
        clause := fun cl hcl => (hclause cl hcl).1
        clause_head := fun cl hcl => (hclause cl hcl).2.1
        clause_last := fun cl hcl => (hclause cl hcl).2.2
        gap := sp.blank_gap
        quote := d.isQuote_quote
        module_ne_nil := d.module_ne_nil
        module := d.endsModule_module
        closing := d.isQuote_quote
        trail := htrail }
  · exact
      { module := rfl
        quote := rfl
        semicolon := rfl
        ofType := htype
        clause := hnone
        names := hnames }

/-- Without a semicolon a statement ends where the white space after its closing quote does. -/
theorem ends_dropWhile_append {s : Statement} {rest : Text} (htail : Blank tail)
    (hrest : ∀ c ∈ rest.head?, c = '\n') : s.Ends (tail.dropWhile isIndent ++ rest) := by
  refine .inr fun c hc => ?_
  rw [List.head?_append, Option.mem_def, Option.or_eq_some_iff] at hc
  rcases hc with hc | ⟨-, hc⟩
  · have hblank := htail c ((List.dropWhile_suffix _).mem (List.mem_of_mem_head? hc))
    refine ⟨head?_dropWhile tail c hc, ?_⟩
    rintro rfl
    revert hblank
    decide
  · obtain rfl := hrest c hc
    decide

/-- A declaration is read as one statement, and reading goes on within the line that it ends on. -/
theorem Spelling.exists_read? (sp : d.Spelling) (rest : Text) (htail : Blank tail)
    (hline : '\n' ∉ tail) (hrest : ∀ c ∈ rest.head?, c = '\n') : ∃ s tail',
      Statement.read? (sp.text ++ (tail ++ rest)) = some (s, tail' ++ rest) ∧ '\n' ∉ tail' ∧
        d.ReadAs s := by
  obtain ⟨clause, hhead, hstatement⟩ := sp.exists_statement
  cases hsemi : d.semicolon with
  | true =>
    obtain ⟨hvalid, hreadAs⟩ := hstatement sp.trail sp.isIndent_trail
    have hends : (sp.statement clause sp.trail).Ends (tail ++ rest) := .inl hsemi
    refine ⟨_, tail, ?_, hline, hreadAs⟩
    rw [← Statement.read?_text_append hvalid hends]
    simp [Spelling.statement, Spelling.text, Statement.text, Statement.tail, hhead, hsemi]
  | false =>
    -- The white space after the closing quote is part of the statement.
    obtain ⟨hvalid, hreadAs⟩ := hstatement (tail.takeWhile isIndent) fun c => mem_takeWhile
    refine ⟨_, tail.dropWhile isIndent, ?_, fun h => hline ((List.dropWhile_suffix _).mem h),
      hreadAs⟩
    rw [← Statement.read?_text_append hvalid (ends_dropWhile_append htail hrest)]
    have hsplit := List.takeWhile_append_dropWhile (p := isIndent) (l := tail)
    simp only [Spelling.statement, Spelling.text, Statement.text, Statement.tail, hhead, hsemi,
      List.append_assoc, List.cons_append, List.append_nil, Bool.false_eq_true, if_false,
      List.nil_append]
    rw [← List.append_assoc (tail.takeWhile isIndent), hsplit]

end Form

namespace Outline

variable {lead line t : Text}

theorem map_statement_prepend (lead : Text) (o : Outline) :
    (o.prepend lead).entries.map (·.2) = o.entries.map (·.2) := by
  obtain ⟨entries, rest⟩ := o
  cases entries <;> rfl

/-- No statement starts on a line of blanks. -/
theorem read?_of_blank_line (hline : Blank line) (ht : ∀ c ∈ t.head?, c = '\n') :
    Statement.read? (line ++ t) = none := by
  have hhead : ∀ c ∈ ((line ++ t).dropWhile isIndent).head?, isBlank c = true := by
    induction line with
    | nil =>
      intro c hc
      cases t with
      | nil => cases hc
      | cons d t =>
        obtain rfl := ht d rfl
        obtain rfl : '\n' = c := Option.some.inj hc
        decide
    | cons d line ih =>
      rw [List.cons_append, List.dropWhile_cons]
      split
      · exact ih fun c hc => hline c (List.mem_cons_of_mem d hc)
      · rintro c ⟨⟩
        exact hline d List.mem_cons_self
  -- A line that begins with no letter has no import on it.
  have hafter : after? importWord ((line ++ t).dropWhile isIndent) = none := by
    cases hafter : after? importWord ((line ++ t).dropWhile isIndent) with
    | none => rfl
    | some rest =>
      rw [after?_eq_some_iff.mp hafter] at hhead
      exact absurd (hhead 'i' rfl) (by decide)
  rw [Statement.read?, hafter]

/-- A line of blanks in front changes nothing about the statements. -/
theorem map_statement_read_line (hline : Blank line) (h : '\n' ∉ line) (t : Text) :
    (read (line ++ '\n' :: t)).entries.map (·.2) = (read t).entries.map (·.2) := by
  have hnone : Statement.read? (line ++ '\n' :: t) = none :=
    read?_of_blank_line hline (by simp)
  rw [read_of_read?_eq_none hnone, afterLine_append h, afterLine_newline, map_statement_prepend,
    map_statement_prepend]

theorem map_statement_read_lead (lead : Text) (hlead : Blank lead)
    (hstart : ∀ c ∈ lead.getLast?, c = '\n') (t : Text) :
    (read (lead ++ t)).entries.map (·.2) = (read t).entries.map (·.2) := by
  rcases line_cases lead with hnot | ⟨line, more, rfl, hline⟩
  · cases hlast : lead.getLast? with
    | none => rw [List.getLast?_eq_none_iff.mp hlast, List.nil_append]
    | some c => exact absurd (hstart c hlast ▸ List.mem_of_getLast? hlast) hnot
  · have hmore : Blank more := fun c hc => hlead c (by simp [hc])
    have hstart' : ∀ c ∈ more.getLast?, c = '\n' := by
      intro c hc
      exact hstart c (by simp [List.getLast?_append, List.getLast?_cons, Option.mem_def.mp hc])
    rw [List.append_assoc, List.cons_append,
      map_statement_read_line (fun c hc => hlead c (by simp [hc])) hline,
      map_statement_read_lead more hmore hstart' t]
termination_by lead.length

theorem read_of_blank (h : Blank t) : (read t).entries.map (·.2) = [] := by
  have hline : ∀ line, Blank line → '\n' ∉ line → (read line).entries.map (·.2) = [] := by
    intro line hblank hnot
    have hnone : Statement.read? (line ++ []) = none := read?_of_blank_line hblank (by simp)
    rw [List.append_nil] at hnone
    rw [read_of_read?_eq_none hnone, afterLine_of_not_mem hnot, List.map_nil]
  cases hlast : splitLast? '\n' t with
  | none => exact hline t h (splitLast?_eq_none_iff.mp hlast)
  | some parts =>
    obtain ⟨lead, line⟩ := parts
    obtain ⟨rfl, hnot⟩ := splitLast?_eq_some_iff.mp hlast
    rw [← List.singleton_append, ← List.append_assoc,
      map_statement_read_lead _ (fun c hc => h c (by simp at hc ⊢; tauto)) (by simp)]
    exact hline line (fun c hc => h c (by simp [hc])) hnot

end Outline

/-- The statements of a text of declarations are these declarations, in order. -/
theorem forall₂_readAs_of_written {ds : List Form} {t : Text} (h : Written ds t) :
    List.Forall₂ Form.ReadAs ds ((Outline.read t).entries.map (·.2)) := by
  induction h with
  | blank h =>
    rw [Outline.read_of_blank h]
    exact .nil
  -- The last statement may lack a line end.
  | @last d lead tail sp hlead hstart htail hline =>
    obtain ⟨s, tail', hread, hline', hs⟩ :=
      sp.exists_read? [] htail hline (by simp)
    rw [List.append_nil, List.append_nil] at hread
    rw [Outline.map_statement_read_lead lead hlead hstart, Outline.read_of_read?_eq_some hread,
      Outline.afterLine_of_not_mem hline']
    exact .cons hs .nil
  | @cons d ds lead tail rest sp hlead hstart htail hline _ ih =>
    obtain ⟨s, tail', hread, hline', hs⟩ :=
      sp.exists_read? ('\n' :: rest) htail hline (by simp)
    rw [Outline.map_statement_read_lead lead hlead hstart, Outline.read_of_read?_eq_some hread,
      Outline.afterLine_append hline', Outline.afterLine_newline]
    refine .cons hs ?_
    rw [Outline.map_statement_prepend, Outline.map_statement_prepend]
    exact ih

theorem exists_mem_names_iff {ds : List Form} {ss : List Statement}
    (h : List.Forall₂ Form.ReadAs ds ss) (x : Text) :
    (∃ s ∈ ss, x ∈ s.names) ↔ ∃ d ∈ ds, x ∈ d.locals := by
  induction h with
  | nil => simp
  | cons hs _ ih => simp [hs.names x, ih]

/-- A text of import declarations in any layout is read as just these declarations, in order, and
the names it binds are those that the declarations bind. -/
theorem statements_of_written {ds : List Form} {content : Text} (h : Written ds content) :
    List.Forall₂ Form.ReadAs ds ((statements content).map (·.statement)) ∧
      ∀ x : String, x ∈ boundNames content ↔ ∃ d ∈ ds, x.toList ∈ d.locals := by
  have hread := forall₂_readAs_of_written h
  refine ⟨map_statement_statements content ▸ hread, fun x => ?_⟩
  rw [mem_boundNames, Outline.Binds, ← exists_mem_names_iff hread]
  constructor
  · rintro ⟨e, he, hx⟩
    exact ⟨e.2, List.mem_map_of_mem he, hx⟩
  · rintro ⟨s, hs, hx⟩
    obtain ⟨e, he, rfl⟩ := List.mem_map.mp hs
    exact ⟨e, he, hx⟩

/-! ### Two declarations -/

/-- The word of aliases as a name. -/
def asLocal : Local :=
  ⟨asWord, by decide, by decide⟩

/-- The word in front of modules as a name. -/
def fromLocal : Local :=
  ⟨fromWord, by decide, by decide⟩

/-- A name with a dollar sign. -/
def dollarLocal : Local :=
  ⟨['$', 'f'], by decide, by decide⟩

/-- A declaration of types whose names are words of the grammar. -/
def wordForm : Form where
  clause? := some ⟨true, .group (.list [⟨false, asLocal, some fromLocal⟩] true)⟩
  quote := '"'
  isQuote_quote := by decide
  module := ['x']
  module_ne_nil := by decide
  endsModule_module := by simp [endsModule, isQuote]
  semicolon := true

/-- A declaration of a default name and a module under one name. -/
def wholeForm : Form where
  clause? := some ⟨false, .both dollarLocal (.whole fromLocal)⟩
  quote := '\''
  isQuote_quote := by decide
  module := ['y']
  module_ne_nil := by decide
  endsModule_module := by simp [endsModule, isQuote]
  semicolon := false

/-- A layout with few blanks. -/
def wordSpelling : wordForm.Spelling where
  indent := []
  isIndent_indent := by simp
  head := " type{as as from,}from".toList
  laid_head := ⟨[' '], _, rfl, by decide, by decide, [], _, rfl, by decide, by decide,
    [], _, rfl, by decide, by decide, [' '], _, rfl, by decide, by decide,
    [' '], _, rfl, by decide, by decide, [], _, rfl, by decide, by decide,
    [], _, rfl, by decide, by decide, [], _, rfl, by decide, by decide, rfl⟩
  gap := []
  blank_gap := blank_nil
  trail := [' ']
  isIndent_trail := by simp [isIndent]

/-- A layout over two lines. -/
def wholeSpelling : wholeForm.Spelling where
  indent := ['\t']
  isIndent_indent := by simp [isIndent]
  head := " $f, * as from\n from".toList
  laid_head := ⟨[' '], _, rfl, by decide, by decide, [], _, rfl, by decide, by decide,
    [' '], _, rfl, by decide, by decide, [' '], _, rfl, by decide, by decide,
    [' '], _, rfl, by decide, by decide, ['\n', ' '], _, rfl, by decide, by decide, rfl⟩
  gap := []
  blank_gap := blank_nil
  trail := []
  isIndent_trail := by simp

/-- A declaration of types, and one without a semicolon that goes on over two lines. -/
theorem statements_of_written_words :
    Written [wordForm, wholeForm]
        "import type{as as from,}from\"x\" ;\n\timport $f, * as from\n from'y'".toList ∧
      List.Forall₂ Form.ReadAs [wordForm, wholeForm] ((statements
        "import type{as as from,}from\"x\" ;\n\timport $f, * as from\n from'y'".toList).map
          (·.statement)) := by
  have hnil : ∀ c ∈ ([] : Text).getLast?, c = '\n' := by simp
  have hlast : Written [wholeForm] ([] ++ (wholeSpelling.text ++ [])) :=
    .last wholeSpelling blank_nil hnil blank_nil List.not_mem_nil
  have hwritten : Written [wordForm, wholeForm]
      ([] ++ (wordSpelling.text ++ ([] ++ '\n' :: ([] ++ (wholeSpelling.text ++ []))))) :=
    .cons wordSpelling blank_nil hnil blank_nil List.not_mem_nil hlast
  exact ⟨hwritten, (statements_of_written hwritten).1⟩

end DesignTokens.Import
