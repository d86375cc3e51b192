import DesignTokens.Proofs.Import.BlockEdit

/-! # The outline of a text with one more import

A new import is written where no statement is broken by it: on a line of its own after the last
statement, after the line of the interpreter, or in front. To insert an import of names is to insert
one of no names and to add the names to its list, so that what holds of edited lists holds of new
ones too.

## Main definitions

* `Import.insertionPoint` - the text between the last statement and a new one, and the text after it
* `Import.withEmptyImport` - the outline of a text with an import of no names
* `Import.newBlock` - the list of that import

## Main results

* `Import.read_withEmptyImport` - the outline of a text with an import of no names
* `Import.insert_eq_text_add` - an inserted import is that import with the names added
-/

namespace DesignTokens.Import

open Character Text

/-! ### Line ends -/

theorem lineEnd_cases (t : Text) : t.lineEnd = ['\n'] ∨ t.lineEnd = ['\r', '\n'] := by
  rw [lineEnd]
  split
  · exact .inr rfl
  · exact .inl rfl

theorem splitLineEnd?_eq_some {t first rest : Text} (h : splitLineEnd? t = some (first, rest)) :
    t = first ++ rest ∧ '\n' ∉ first ∧ ∀ c ∈ rest.head?, c = '\n' ∨ c = '\r' := by
  obtain ⟨lineEnd, below, hend, rfl, rfl, hfirst⟩ := exists_lineEnd_of_splitLineEnd? h
  refine ⟨rfl, hfirst, fun c hc => ?_⟩
  rcases hend with rfl | rfl
  · exact .inl (Option.some.inj hc).symm
  · exact .inr (Option.some.inj hc).symm

theorem splitLineEnd?_eq_none {t : Text} (h : splitLineEnd? t = none) : '\n' ∉ t := by
  fun_induction splitLineEnd? t with
  | case1 => simp
  | case2 => cases h
  | case3 => cases h
  | case4 c t hc hcr ih =>
    rw [List.mem_cons, not_or]
    exact ⟨fun h => hc h.symm, ih (Option.map_eq_none_iff.mp h)⟩

namespace Outline

theorem text_of_entries_eq_nil {o : Outline} (h : o.entries = []) : o = ⟨[], o.text⟩ := by
  obtain ⟨entries, rest⟩ := o
  obtain rfl : entries = [] := h
  simp [text]

/-- A text that starts within a line and has a statement on a line of its own. -/
theorem afterLine_statement {first lineEnd rest : Text} {s : Statement} (hfirst : '\n' ∉ first)
    (hend : lineEnd = ['\n'] ∨ lineEnd = ['\r', '\n']) (hs : s.Valid) (hends : s.Ends rest)
    (hrest : afterLine rest = ⟨[], rest⟩) :
    afterLine (first ++ lineEnd ++ (s.text ++ rest)) = ⟨[(first ++ lineEnd, s)], rest⟩ := by
  have hread : read (s.text ++ rest) = ⟨[([], s)], rest⟩ := by
    rw [read_of_read?_eq_some (Statement.read?_text_append hs hends), hrest]
    rfl
  rcases hend with rfl | rfl
  · rw [List.append_assoc, afterLine_append hfirst, List.singleton_append, afterLine_newline, hread]
    simp [prepend]
  · have hcr : '\n' ∉ ['\r'] := by decide
    rw [List.append_assoc, afterLine_append hfirst, List.cons_append, List.singleton_append,
      ← List.singleton_append, afterLine_append hcr, afterLine_newline, hread]
    simp [prepend]

end Outline

/-! ### The new import -/

/-- Braces with nothing in them. -/
def emptyBraces : Braced :=
  ⟨[' '], [], [' ']⟩

theorem emptyBraces_plain : emptyBraces.Plain where
  newline := by decide
  opening := by decide
  closing := by decide
  star := by decide
  noAlias := by decide
  names := by decide

/-- An import of no names. -/
def emptyImport (quote : Char) (semicolon : Bool) (module : String) : Statement :=
  ⟨[], some emptyBraces.clause, [' '], quote, module.toList, quote, [], semicolon⟩

theorem text_relist_emptyImport (quote : Char) (semicolon : Bool) (module : String)
    (symbols : List String) :
    ((emptyImport quote semicolon module).relist emptyBraces symbols).text =
      importText quote semicolon module symbols := by
  simp [emptyImport, Statement.relist, Statement.text, Statement.clauseText, Statement.tail,
    Braced.clause, Braced.relist, emptyBraces, importText]

/-- The name of a module that can stand between quotes. -/
def Quotable (module : String) : Prop :=
  module.toList ≠ [] ∧ module.toList.all (!endsModule ·) = true

instance (module : String) : Decidable (Quotable module) :=
  inferInstanceAs (Decidable (module.toList ≠ [] ∧ module.toList.all (!endsModule ·) = true))

theorem emptyImport_valid {quote : Char} (semicolon : Bool) {module : String}
    (hquote : isQuote quote = true) (h : Quotable module) :
    (emptyImport quote semicolon module).Valid where
  indent := by simp [emptyImport]
  clause := by
    rintro clause ⟨⟩
    simpa using (show emptyBraces.clause.all (!endsClause ·) = true by decide)
  clause_head := by
    rintro clause ⟨⟩
    decide
  clause_last := by
    rintro clause ⟨⟩
    decide
  gap := isBlank_of_mem_space
  quote := hquote
  module_ne_nil := h.1
  module := by simpa [emptyImport] using h.2
  closing := hquote
  trail := by simp [emptyImport]

/-- The quote of a new import: that of the first statement. -/
def newQuote (content : Text) : Char :=
  ((statements content).head?.map (·.statement.quote)).getD '\''

/-- Whether a new import ends with a semicolon: if the last statement does. -/
def newSemicolon (content : Text) : Bool :=
  ((statements content).getLast?.map (·.statement.semicolon)).getD true

theorem mem_entries_of_mem_statements {content : Text} {p : Placed} (h : p ∈ statements content) :
    ∃ e ∈ (Outline.read content).entries, e.2 = p.statement := by
  have hmap := map_statement_placeFrom [] (Outline.read content).rest (Outline.read content).entries
  have hmem : p.statement ∈ (Outline.read content).entries.map (·.2) :=
    hmap ▸ List.mem_map_of_mem h
  exact List.mem_map.mp hmem

theorem isQuote_newQuote (content : Text) : isQuote (newQuote content) = true := by
  rw [newQuote]
  cases hhead : (statements content).head? with
  | none => decide
  | some p =>
    obtain ⟨e, he, heq⟩ := mem_entries_of_mem_statements (List.mem_of_mem_head? hhead)
    change isQuote p.statement.quote = true
    rw [← heq]
    exact (Outline.valid_of_mem_read he).quote

/-! ### Where it is written -/

/-- A text with a line where a new import goes. -/
def insertLine (content line : Text) : Text :=
  match (statements content).getLast? with
  | some last =>
    last.before ++ last.statement.text ++ insertAfterLine content.lineEnd line last.after
  | none =>
    if hasInterpreterLine content then
      match splitLineEnd? content with
      | some _ => insertAfterLine content.lineEnd line content
      | none => insertAfterLine content.lineEnd line content ++ content.lineEnd
    else line ++ content.lineEnd ++ content

theorem insert_eq_insertLine (content : Text) (module : String) (required : Names) :
    insert content module required = insertLine content (importText (newQuote content)
      (newSemicolon content) module (sortSymbols required)) := rfl

/-- The text between the last statement and a new one, and the text after the new one. -/
def insertionPoint (content : Text) : Text × Text :=
  if (Outline.read content).entries = [] then
    if hasInterpreterLine content then
      match splitLineEnd? content with
      | some (first, rest) => (first ++ content.lineEnd, rest)
      | none => (content ++ content.lineEnd, content.lineEnd)
    else ([], content.lineEnd ++ content)
  else
    match splitLineEnd? (Outline.read content).rest with
    | some (first, rest) => (first ++ content.lineEnd, rest)
    | none => ((Outline.read content).rest ++ content.lineEnd, [])

/-- The outline of a text with a statement in the place of a new one. -/
def withStatement (content : Text) (s : Statement) : Outline :=
  ⟨(Outline.read content).entries ++ [((insertionPoint content).1, s)], (insertionPoint content).2⟩

theorem getLast?_statements (content : Text) : (statements content).getLast? =
    (Outline.read content).entries.getLast?.map fun e =>
      ⟨Outline.flat (Outline.read content).entries.dropLast ++ e.1, e.2,
        (Outline.read content).rest⟩ := by
  have hlength := congrArg List.length
    (map_statement_placeFrom [] (Outline.read content).rest (Outline.read content).entries)
  rw [List.length_map, List.length_map] at hlength
  rw [statements, Outline.placed, List.getLast?_eq_getElem?, List.getLast?_eq_getElem?, hlength,
    getElem?_placeFrom]
  cases hlast : (Outline.read content).entries[(Outline.read content).entries.length - 1]? with
  | none => rfl
  | some e =>
    have hlt := (List.getElem?_eq_some_iff.mp hlast).1
    have hdrop : (Outline.read content).entries.length - 1 + 1 =
        (Outline.read content).entries.length := by omega
    simp [List.dropLast_eq_take, hdrop]

theorem insertLine_eq_text (content : Text) (s : Statement) :
    insertLine content s.text = (withStatement content s).text := by
  rw [withStatement, Outline.text_mk, Outline.flat_append, Outline.flat_cons, Outline.flat_nil,
    List.append_nil, insertLine, getLast?_statements, insertionPoint]
  cases hlast : (Outline.read content).entries.getLast? with
  | none =>
    have hnil := List.getLast?_eq_none_iff.mp hlast
    rw [hnil, if_pos rfl]
    simp only [Option.map_none, insertAfterLine]
    split
    · cases hsplit : splitLineEnd? content with
      | none => simp
      | some p => simp
    · simp
  | some e =>
    have hne : (Outline.read content).entries ≠ [] := by
      rintro hnil
      rw [hnil] at hlast
      cases hlast
    -- The text up to the end of the last statement.
    have hflat : Outline.flat (Outline.read content).entries =
        Outline.flat (Outline.read content).entries.dropLast ++ e.1 ++ e.2.text := by
      have hsplit := List.dropLast_append_getLast? e hlast
      rw [← hsplit, List.dropLast_concat, Outline.flat_append, Outline.flat_cons]
      simp
    rw [if_neg hne, hflat]
    simp only [Option.map_some, insertAfterLine]
    cases splitLineEnd? (Outline.read content).rest with
    | none => simp
    | some p => simp

theorem head?_lineEnd (t rest : Text) :
    ∀ c ∈ (t.lineEnd ++ rest).head?, isIndent c = false ∧ c ≠ ';' := by
  rcases lineEnd_cases t with h | h <;> rw [h]
  · rintro c ⟨⟩
    decide
  · rintro c ⟨⟩
    decide

theorem head?_splitLineEnd? {t first rest : Text} (h : splitLineEnd? t = some (first, rest)) :
    ∀ c ∈ rest.head?, isIndent c = false ∧ c ≠ ';' := by
  intro c hc
  rcases (splitLineEnd?_eq_some h).2.2 c hc with rfl | rfl <;> decide

/-- A statement ends before the text that follows the place of a new one. -/
theorem head?_insertionPoint (content : Text) :
    ∀ c ∈ (insertionPoint content).2.head?, isIndent c = false ∧ c ≠ ';' := by
  rw [insertionPoint]
  split
  · split
    · split
      · rename_i hsplit
        exact head?_splitLineEnd? hsplit
      · simpa using head?_lineEnd content []
    · exact head?_lineEnd content content
  · split
    · rename_i hsplit
      exact head?_splitLineEnd? hsplit
    · simp

theorem read?_hash (t : Text) : Statement.read? ('#' :: t) = none := by
  have hindent : isIndent '#' = false := by decide
  simp [Statement.read?, hindent, after?, importWord]

theorem afterLine_lineEnd_append (t u : Text) :
    Outline.afterLine (t.lineEnd ++ u) = (Outline.read u).prepend t.lineEnd := by
  have hcr : '\n' ∉ ['\r'] := by decide
  rcases lineEnd_cases t with h | h <;> rw [h]
  · exact Outline.afterLine_newline u
  · rw [List.cons_append, List.singleton_append, ← List.singleton_append,
      Outline.afterLine_append hcr, Outline.afterLine_newline, Outline.prepend_prepend]
    rfl

theorem afterLine_lineEnd (t : Text) : Outline.afterLine t.lineEnd = ⟨[], t.lineEnd⟩ := by
  have h := afterLine_lineEnd_append t []
  rw [Outline.read_of_read?_eq_none rfl] at h
  simpa [Outline.prepend] using h

/-- What follows the first line of a text without statements has none. -/
theorem afterLine_of_append {first rest : Text} (hfirst : '\n' ∉ first)
    (h : Outline.afterLine (first ++ rest) = ⟨[], first ++ rest⟩) :
    Outline.afterLine rest = ⟨[], rest⟩ := by
  rw [Outline.afterLine_append hfirst] at h
  have htext := Outline.text_afterLine rest
  cases hafter : Outline.afterLine rest with
  | mk es r =>
    rw [hafter] at h htext
    cases es with
    | nil => rw [← htext]; simp [Outline.text]
    | cons e more => cases h

theorem hasInterpreterLine_iff {content : Text} :
    hasInterpreterLine content = true ↔ ∃ rest, content = '#' :: '!' :: rest := by
  rw [hasInterpreterLine, List.isPrefixOf_iff_prefix]
  constructor
  · rintro ⟨rest, rfl⟩
    exact ⟨rest, rfl⟩
  · rintro ⟨rest, rfl⟩
    exact ⟨rest, rfl⟩

theorem splitLineEnd?_hash {t first rest : Text}
    (h : splitLineEnd? ('#' :: t) = some (first, rest)) : ∃ first', first = '#' :: first' := by
  rw [splitLineEnd?] at h
  · obtain ⟨⟨first', rest'⟩, -, heq⟩ := Option.map_eq_some_iff.mp h
    cases heq
    exact ⟨first', rfl⟩
  all_goals simp

/-- A statement on a line of its own after the line that the last one ends on. -/
theorem read_afterLast {content first lineEnd rest : Text} {s : Statement}
    (hne : (Outline.read content).entries ≠ [])
    (hrest : (Outline.read content).rest = first ++ rest)
    (hfirst : '\n' ∉ first) (hend : lineEnd = ['\n'] ∨ lineEnd = ['\r', '\n']) (hs : s.Valid)
    (hends : s.Ends rest) :
    Outline.read (Outline.flat (Outline.read content).entries ++
      (first ++ lineEnd ++ (s.text ++ rest))) =
      ⟨(Outline.read content).entries ++ [(first ++ lineEnd, s)], rest⟩ := by
  have hlinked := (Outline.started_read content).1
  have hafter := Outline.afterLine_rest content hne
  rw [hrest] at hafter
  -- What is inserted goes on from where the last statement ends, as the old text did.
  have hlast : ∀ e ∈ (Outline.read content).entries.getLast?,
      e.2.Ends (first ++ lineEnd ++ (s.text ++ rest)) := by
    intro e he
    have hends := hlinked.ends_getLast e he
    rw [hrest] at hends
    cases first with
    | nil => rcases hend with rfl | rfl <;> exact .inr (by rintro c ⟨⟩; decide)
    | cons c first =>
      rw [List.append_assoc]
      exact Outline.ends_append_of_ends hends (by simp) rfl
  rw [Outline.read_exchange rfl hne
    (List.forall₂_same.mpr fun e he => .refl (Outline.valid_of_mem_read he)) hlast,
    Outline.afterLine_statement hfirst hend hs hends (afterLine_of_append hfirst hafter)]
  rfl

/-- A statement in a text without one: after the first line if that names an interpreter, else in
front. -/
theorem read_withStatement_of_nil {content : Text} {s : Statement}
    (hnil : (Outline.read content).entries = []) (hs : s.Valid)
    (hends : s.Ends (insertionPoint content).2) :
    Outline.read ((insertionPoint content).1 ++ (s.text ++ (insertionPoint content).2)) =
      ⟨[((insertionPoint content).1, s)], (insertionPoint content).2⟩ := by
  have hend := lineEnd_cases content
  have hcontent : Outline.read content = ⟨[], content⟩ := by
    conv_rhs => rw [← Outline.text_read content]
    exact Outline.text_of_entries_eq_nil hnil
  revert hends
  rw [insertionPoint, if_pos hnil]
  split
  · -- No statement starts on the line of the interpreter, so reading goes on below it.
    rename_i hhash
    obtain ⟨line, rfl⟩ := hasInterpreterLine_iff.mp hhash
    rw [Outline.read_of_read?_eq_none (read?_hash _)] at hcontent
    split
    · rename_i first rest hsplit
      intro hends
      obtain ⟨heq, hfirst, -⟩ := splitLineEnd?_eq_some hsplit
      obtain ⟨first', rfl⟩ := splitLineEnd?_hash hsplit
      rw [heq] at hcontent
      simp only [List.cons_append, List.append_assoc]
      rw [Outline.read_of_read?_eq_none (read?_hash _)]
      have := Outline.afterLine_statement hfirst hend hs hends
        (afterLine_of_append hfirst hcontent)
      simpa using this
    · rename_i hsplit
      intro hends
      have hfirst := splitLineEnd?_eq_none hsplit
      simp only [List.cons_append, List.append_assoc]
      rw [Outline.read_of_read?_eq_none (read?_hash _)]
      have := Outline.afterLine_statement hfirst hend hs hends (afterLine_lineEnd _)
      simpa using this
  · intro hends
    rw [List.nil_append, Outline.read_of_read?_eq_some (Statement.read?_text_append hs hends),
      afterLine_lineEnd_append, hcontent]
    rfl

/-- The outline of a text with a statement in the place of a new one. -/
theorem read_withStatement (content : Text) {s : Statement} (hs : s.Valid) :
    Outline.read (withStatement content s).text = withStatement content s := by
  have hends : s.Ends (insertionPoint content).2 := .inr (head?_insertionPoint content)
  rw [withStatement, Outline.text_mk, Outline.flat_append, Outline.flat_cons, Outline.flat_nil,
    List.append_nil, List.append_assoc, List.append_assoc]
  by_cases hnil : (Outline.read content).entries = []
  · rw [hnil, Outline.flat_nil, List.nil_append, List.nil_append]
    exact read_withStatement_of_nil hnil hs hends
  · have hend := lineEnd_cases content
    revert hends
    rw [insertionPoint, if_neg hnil]
    split
    · rename_i first rest hsplit
      intro hends
      obtain ⟨heq, hfirst, -⟩ := splitLineEnd?_eq_some hsplit
      exact read_afterLast hnil heq hfirst hend hs hends
    · rename_i hsplit
      intro hends
      exact read_afterLast hnil (by simp) (splitLineEnd?_eq_none hsplit) hend hs hends

/-! ### Inserting is adding to an import of no names -/

/-- The outline of a text with an import of no names. -/
def withEmptyImport (content : Text) (module : String) : Outline :=
  withStatement content (emptyImport (newQuote content) (newSemicolon content) module)

/-- The list of the import of no names. -/
def newBlock (content : Text) (module : String) : Block :=
  (withEmptyImport content module).blockOf (Outline.read content).entries.length
    (insertionPoint content).1 (emptyImport (newQuote content) (newSemicolon content) module)
    emptyBraces

section

variable {content : Text} {module : String}

theorem read_withEmptyImport (content : Text) (h : Quotable module) :
    Outline.read (withEmptyImport content module).text = withEmptyImport content module :=
  read_withStatement content (emptyImport_valid _ (isQuote_newQuote content) h)

theorem getElem?_withEmptyImport :
    (withEmptyImport content module).entries[(Outline.read content).entries.length]? =
      some ((insertionPoint content).1,
        emptyImport (newQuote content) (newSemicolon content) module) := by
  simp [withEmptyImport, withStatement]

theorem blockAt?_withEmptyImport :
    (withEmptyImport content module).blockAt? (Outline.read content).entries.length =
      some (newBlock content module) :=
  Outline.blockAt?_eq_some_iff.mpr
    ⟨_, _, _, getElem?_withEmptyImport, rfl, emptyBraces_plain, rfl⟩

/-- An inserted import is the import of no names with the names added. -/
theorem insert_eq_text_add {required : Names} (hne : required ≠ [])
    (h : ∀ x ∈ required, isIdentifier x.toList = true) :
    insert content module required = ((newBlock content module).add required).text := by
  have hsymbols : (newBlock content module).symbols = [] := rfl
  have hnot : ¬ ∀ x ∈ required, x ∈ (newBlock content module).symbols := by
    obtain ⟨x, rest, rfl⟩ := List.exists_cons_of_ne_nil hne
    intro hall
    rw [hsymbols] at hall
    cases hall x List.mem_cons_self
  have hident : ∀ x ∈ sortSymbols required, isIdentifier x.toList = true :=
    fun x hx => h x (mem_sortSymbols.mp hx)
  have hadd : addMissing [] required = required := by simp [addMissing]
  rw [Block.add_of_not_subset hnot, hsymbols, hadd, newBlock, Outline.blockOf_relist hident,
    Outline.text_blockOf (by simp [Outline.set, withEmptyImport, withStatement]) rfl,
    insert_eq_insertLine, ← text_relist_emptyImport, insertLine_eq_text]
  simp [withEmptyImport, withStatement, Outline.set]

end

end DesignTokens.Import
