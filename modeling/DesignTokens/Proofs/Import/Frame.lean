import DesignTokens.Proofs.Import.Growth

/-! # What adding names leaves alone

Names wanted from a module are in a list of the text already, or they are put between the braces of
one list, or a line with a new import is put between two lines. All other characters stay, and the
statements of the text are read as before.

## Main definitions

* `Import.Serves` - the list of a statement may take the names of a module
* `Import.LineAdded` - a text with a further line
* `Import.Edit` - what adding names does to a text and to its statements

## Main results

* `Import.serves_of_slot` - which list is chosen
* `Import.lineAdded_insertLine` - where a new line is put
* `Import.edit_of_ensure` - adding names is one of these edits
-/

namespace DesignTokens.Import

open Character Text

/-! ### The list that is chosen -/

/-- A statement imports values, from a module or from a host that may take its names, and has a list
that can be edited. -/
structure Serves (hosts : List Host) (content : Text) (module : String) (p : Placed)
    (block : Block) : Prop where
  mem : p ∈ statements content
  values : p.statement.isTypeOnly = false
  list : p.block = .ok block
  source : p.statement.module = module.toList ∨ ∃ host ∈ hosts, host.module = module ∧
    p.statement.module = host.host.toList ∧ ∀ x ∈ host.anchor, x ∈ block.symbols

section

variable {hosts : List Host} {content new : Text} {module : String} {required : Names}
  {block : Block} {i : Nat}

theorem map_statement_statements (content : Text) :
    (statements content).map (·.statement) = (Outline.read content).entries.map (·.2) :=
  map_statement_placeFrom [] (Outline.read content).rest (Outline.read content).entries

/-- The target of a module imports values from it. -/
theorem imports_of_target? (htarget : (Outline.read content).target? module = some i)
    {e : Text × Statement} (he : (Outline.read content).entries[i]? = some e) :
    e.2.imports module = true := by
  obtain ⟨hlt, hfound, -⟩ := List.findIdx?_eq_some_iff_getElem.mp htarget
  rw [List.getElem?_eq_getElem hlt, Option.some.injEq] at he
  rw [Bool.and_eq_true, he] at hfound
  exact hfound.1

theorem isTypeOnly_of_imports {s : Statement} (h : s.imports module = true) :
    s.isTypeOnly = false := by
  rw [Statement.imports, Bool.and_eq_true, Bool.not_eq_true'] at h
  exact h.2

/-- The list in a place is that of a statement, cut at its braces. -/
theorem exists_placed_of_blockAt? (h : (Outline.read content).blockAt? i = some block) :
    ∃ (p : Placed) (b : Braced), (statements content)[i]? = some p ∧ p.block = .ok block ∧
      p.statement.clause = some b.clause ∧ b.Plain ∧
      (Outline.read content).entries[i]?.map (·.2) = some p.statement ∧
      block = ⟨p.line, p.beforeClause ++ b.before ++ ['{'], b.inner,
        '}' :: b.after ++ fromWord ++ p.statement.tail ++ p.after,
        (listEntries b.inner).map String.ofList⟩ := by
  rw [Outline.blockAt?] at h
  obtain ⟨p, hp, hblock⟩ := Option.bind_eq_some_iff.mp h
  have hentry : (Outline.read content).entries[i]?.map (·.2) = some p.statement := by
    rw [← List.getElem?_map, ← map_statement_statements, List.getElem?_map]
    exact congrArg (Option.map _) hp
  cases hok : p.block with
  | error e =>
    rw [hok] at hblock
    cases hblock
  | ok found =>
    rw [hok] at hblock
    obtain rfl : found = block := Option.some.inj hblock
    have hfound := hok
    rw [Placed.block] at hfound
    split at hfound
    · cases hfound
    · rename_i b names hedit
      obtain ⟨hclause, hplain, rfl⟩ := editable_eq_ok_iff.mp hedit
      exact ⟨p, b, hp, hok, hclause, hplain, hentry, (Except.ok.inj hfound).symm⟩

/-- A target serves its module, and a host's target serves the modules of the host. -/
theorem serves_of_target? (hosts : List Host) (module : String) {source : String}
    (htarget : (Outline.read content).target? source = some i)
    (hblock : (Outline.read content).blockAt? i = some block)
    (hsource : source = module ∨ ∃ host ∈ hosts, host.module = module ∧ host.host = source ∧
      ∀ x ∈ host.anchor, x ∈ block.symbols) :
    ∃ p, (statements content)[i]? = some p ∧ Serves hosts content module p block := by
  obtain ⟨p, b, hp, hok, -, -, hentry, -⟩ := exists_placed_of_blockAt? hblock
  obtain ⟨e, he, hes⟩ := Option.map_eq_some_iff.mp hentry
  have himports := imports_of_target? htarget he
  rw [hes] at himports
  have hmodule := module_of_imports himports
  refine ⟨p, hp, List.mem_of_getElem? hp, isTypeOnly_of_imports himports, hok, ?_⟩
  rcases hsource with rfl | ⟨host, hhost, hof, rfl, hanchor⟩
  · exact .inl hmodule
  · exact .inr ⟨host, hhost, hof, hmodule, hanchor⟩

/-- The list that names are added to is one that serves the module, or that of a new import. -/
theorem serves_of_slot (h : slot hosts content module = .ok block) :
    (∃ i p, (Outline.read content).blockAt? i = some block ∧ (statements content)[i]? = some p ∧
      Serves hosts content module p block) ∨
      findBlock content module = .ok none ∧ block = newBlock content module := by
  rw [slot] at h
  rcases findBlock_cases content module with ⟨i, block', htarget, hblock, hfind⟩ | ⟨-, -, hfind⟩ |
    ⟨-, -, e, hfind⟩ <;> rw [hfind] at h
  · cases h
    obtain ⟨p, hp, hserves⟩ := serves_of_target? hosts module htarget hblock (.inl rfl)
    exact .inl ⟨i, p, hblock, hp, hserves⟩
  · simp only at h
    split at h
    · rename_i block' hhost
      cases h
      obtain ⟨host, hmem, hhost⟩ := List.exists_of_findSome?_eq_some hhost
      obtain ⟨hmem, hof⟩ := List.mem_filter.mp hmem
      obtain ⟨i, htarget, hblock, hanchor⟩ := Host.block?_eq_some_iff.mp hhost
      obtain ⟨p, hp, hserves⟩ := serves_of_target? hosts module htarget hblock
        (.inr ⟨host, hmem, of_decide_eq_true hof, rfl, hanchor⟩)
      exact .inl ⟨i, p, hblock, hp, hserves⟩
    · cases h
      exact .inr ⟨hfind, rfl⟩
  · cases h

/-! ### The line that is put in -/

/-- A text with a further line: in front of it, or between the end of a line's text and what ends
the line, or after its only line, and then with an end of its own. -/
inductive LineAdded (content new line : Text) : Prop where
  | first (hnew : new = line ++ (content.lineEnd ++ content))
  | below (before after : Text) (hcontent : content = before ++ after)
      (hafter : after = [] ∨ ∃ lineEnd more, (lineEnd = ['\n'] ∨ lineEnd = ['\r', '\n']) ∧
        after = lineEnd ++ more)
      (hwhole : after.head? = some '\n' → before.getLast? ≠ some '\r')
      (hnew : new = before ++ (content.lineEnd ++ (line ++ after)))
  | last (hcontent : hasInterpreterLine content = true ∧ '\n' ∉ content)
      (hnew : new = content ++ (content.lineEnd ++ (line ++ content.lineEnd)))

theorem lineAdded_insertAfterLine {before t : Text} (line : Text) (hcontent : content = before ++ t)
    (hbefore : before.getLast? ≠ some '\r') :
    LineAdded content (before ++ insertAfterLine content.lineEnd line t) line := by
  rw [insertAfterLine]
  cases hsplit : splitLineEnd? t with
  | none =>
    refine .below content [] (by simp) (.inl rfl) ?_ (by simp [hcontent])
    rintro ⟨⟩
  | some p =>
    obtain ⟨first, rest⟩ := p
    obtain ⟨lineEnd, more, hend, rfl, rfl, -⟩ := exists_lineEnd_of_splitLineEnd? hsplit
    refine .below (before ++ first) (lineEnd ++ more) (by simp [hcontent])
      (.inr ⟨lineEnd, more, hend, rfl⟩) ?_ (by simp)
    intro hhead
    -- A carriage return in front of the line feed would be a part of the line end.
    rcases hend with rfl | rfl
    · rw [List.getLast?_append]
      have hfirst := getLast?_of_splitLineEnd? hsplit
      cases hlast : first.getLast? with
      | none => simpa using hbefore
      | some c =>
        rw [hlast] at hfirst
        simpa using hfirst
    · cases hhead

/-- A new line is put in front of a text or between two lines of it. -/
theorem lineAdded_insertLine (content line : Text) :
    LineAdded content (insertLine content line) line := by
  rw [insertLine]
  cases hlast : (statements content).getLast? with
  | some last =>
    rw [getLast?_statements] at hlast
    obtain ⟨e, he, rfl⟩ := Option.map_eq_some_iff.mp hlast
    refine lineAdded_insertAfterLine line ?_ ?_
    · conv_lhs => rw [← Outline.text_read content, Outline.text]
      rw [← List.dropLast_append_getLast? e he]
      simp [Outline.flat]
    · rw [List.getLast?_append_of_ne_nil _ e.2.text_ne_nil]
      exact (Outline.valid_of_mem_read (List.mem_of_getLast? he)).getLast?_text_ne (by decide)
  | none =>
    simp only
    split
    · rename_i hline
      cases hsplit : splitLineEnd? content with
      | some p => exact lineAdded_insertAfterLine line (List.nil_append content).symm (by simp)
      | none =>
        refine .last ⟨hline, splitLineEnd?_eq_none hsplit⟩ ?_
        simp [insertAfterLine, hsplit]
    · exact .first (by simp)

/-! ### Edits -/

/-- What adding names wanted from a module does to a text and to its statements: nothing, if a list
has them; else the list of one statement is written anew, between its braces, or a line with one new
statement that binds just these names is put in. -/
inductive Edit (hosts : List Host) (content new : Text) (module : String) (required : Names) :
    Prop where
  | same (hnew : new = content)
      (hrequired : required = [] ∨ ∃ p block, Serves hosts content module p block ∧
        ∀ x ∈ required, x ∈ block.symbols)
  | relisted (i : Nat) (p : Placed) (block : Block) (b : Braced) (symbols : List String)
      (hplace : (statements content)[i]? = some p) (hserves : Serves hosts content module p block)
      (hsymbols : ∀ x, x ∈ symbols ↔ x ∈ block.symbols ∨ x ∈ required)
      (hclause : p.statement.clause = some b.clause)
      (hcontent : content = p.beforeClause ++ b.before ++ '{' :: (b.inner ++
        '}' :: (b.after ++ fromWord ++ p.statement.tail ++ p.after)))
      (hnew : new = p.beforeClause ++ b.before ++ '{' :: ((b.relist symbols).inner ++
        '}' :: (b.after ++ fromWord ++ p.statement.tail ++ p.after)))
      (hstatements : (statements new).map (·.statement) =
        ((statements content).map (·.statement)).set i (p.statement.relist b symbols))
      (hvalues : (p.statement.relist b symbols).isTypeOnly = false)
      (hnames : ∀ x : String, x.toList ∈ (p.statement.relist b symbols).names ↔
        x.toList ∈ p.statement.names ∨ x ∈ required)
  | inserted (s : Statement) (hline : LineAdded content new s.text) (hbreak : '\n' ∉ s.text)
      (hstatements : (statements new).map (·.statement) =
        (statements content).map (·.statement) ++ [s])
      (hmodule : s.module = module.toList) (hvalues : s.isTypeOnly = false)
      (hnames : s.names = (sortSymbols required).map String.toList)

/-- Names that are added to a list of the text. -/
theorem edit_text_add {p : Placed} (hblock : (Outline.read content).blockAt? i = some block)
    (hp : (statements content)[i]? = some p) (hserves : Serves hosts content module p block)
    (h : ∀ x ∈ required, isIdentifier x.toList = true) :
    Edit hosts content (block.add required).text module required := by
  obtain ⟨lead, s, b, he, hclause, hplain, hof⟩ := Outline.blockAt?_eq_some_iff.mp hblock
  have htext : block.text = content := by
    rw [hof, Outline.text_blockOf he hclause, Outline.text_read]
  rcases Outline.add_cases hblock h with ⟨hsub, hadd, -⟩ | ⟨symbols, hadd, hident, hsymbols⟩
  · rw [hadd]
    exact .same htext (.inr ⟨p, block, hserves, hsub⟩)
  · rw [hadd]
    -- The statement in the place is the one that the list was read from.
    obtain ⟨p', b', hp', -, hclause', hplain', hentry, hform⟩ := exists_placed_of_blockAt? hblock
    obtain rfl : p' = p := Option.some.inj (hp'.symm.trans hp)
    rw [he, Option.map_some, Option.some.injEq] at hentry
    obtain rfl : s = p'.statement := hentry
    have hsame : b' = b := by
      have hbraced := braced?_eq_some_iff.mpr ⟨rfl, hplain.opening.1, hplain.closing⟩
      rw [hclause, Option.some.injEq] at hclause'
      rw [hclause', braced?_eq_some_iff.mpr ⟨rfl, hplain'.opening.1, hplain'.closing⟩] at hbraced
      exact Option.some.inj hbraced
    subst hsame
    have hread : Outline.read (block.relist symbols).text =
        (Outline.read content).set i (lead, p'.statement.relist b' symbols) := by
      rw [hof]
      exact Outline.read_relist he hclause hident
    refine .relisted i p' block b' symbols hp hserves hsymbols hclause ?_ ?_ ?_ ?_ ?_
    · rw [← htext, hform]
      simp [Block.text]
    · rw [hform]
      simp [Block.text, Block.relist, Braced.relist]
    · rw [map_statement_statements, map_statement_statements, hread, Outline.set, List.map_set]
    · rw [Statement.isTypeOnly_relist hclause]
      exact hserves.values
    · intro x
      have hlisted : x ∈ block.symbols ↔ x.toList ∈ listEntries b'.inner := by
        rw [hof, mem_symbols_blockOf_iff]
      have hwritten : x.toList ∈ symbols.map String.toList ↔ x ∈ symbols := by
        simp [String.toList_inj]
      rw [names_relist hplain hident, names_of_plain hclause hplain, List.mem_append,
        List.mem_append, hwritten, hsymbols, hlisted, or_right_comm]

theorem names_newStatement (content : Text) (module : String)
    (h : ∀ x ∈ required, isIdentifier x.toList = true) :
    (newStatement content module required).names = (sortSymbols required).map String.toList := by
  have hident : ∀ x ∈ sortSymbols required, isIdentifier x.toList = true :=
    fun x hx => h x (mem_sortSymbols.mp hx)
  have houter : emptyBraces.outerNames = [] := by decide
  rw [newStatement, names_relist emptyBraces_plain hident, houter, List.append_nil]

theorem valid_newStatement (content : Text) (hmodule : Quotable module)
    (h : ∀ x ∈ required, isIdentifier x.toList = true) :
    (newStatement content module required).Valid :=
  (emptyImport_valid (newSemicolon content) (isQuote_newQuote content) hmodule).relist rfl
    fun x hx => h x (mem_sortSymbols.mp hx)

theorem newline_not_mem_newStatement (content : Text) (hmodule : Quotable module)
    (h : ∀ x ∈ required, isIdentifier x.toList = true) :
    '\n' ∉ (newStatement content module required).text := by
  have hident : ∀ x ∈ sortSymbols required, isIdentifier x.toList = true :=
    fun x hx => h x (mem_sortSymbols.mp hx)
  have hvalid := valid_newStatement content hmodule h
  have hclause : '\n' ∉ (emptyBraces.relist (sortSymbols required)).clause :=
    not_mem_relist_clause hident (by decide) (by decide) (by decide) (by decide)
  rw [Statement.text_eq]
  intro hmem
  simp only [List.mem_append] at hmem
  -- One case for each part of a statement.
  rcases hmem with (hmem | hmem) | (hmem | hmem) | hmem
  · exact hvalid.newline_not_mem_start (List.mem_append_left _ hmem)
  · exact hvalid.newline_not_mem_start (List.mem_append_right _ hmem)
  · rcases List.mem_append.mp hmem with hmem | hmem
    · exact hclause hmem
    · exact absurd hmem (by decide)
  · have hgap : (newStatement content module required).gap = [' '] := rfl
    rw [hgap] at hmem
    exact absurd hmem (by decide)
  · exact hvalid.newline_not_mem_quoted hmem

/-- Names that are added in a new import. -/
theorem edit_insert (hosts : List Host) (hmodule : Quotable module)
    (h : ∀ x ∈ required, isIdentifier x.toList = true) :
    Edit hosts content (insert content module required) module required := by
  have hinsert : insert content module required =
      insertLine content (newStatement content module required).text := by
    rw [insert_eq_insertLine, newStatement, text_relist_emptyImport]
  refine .inserted (newStatement content module required) ?_
    (newline_not_mem_newStatement content hmodule h) ?_ rfl ?_ (names_newStatement content module h)
  · rw [hinsert]
    exact lineAdded_insertLine content _
  · rw [hinsert, insertLine_eq_text, map_statement_statements, map_statement_statements,
      read_withStatement content (valid_newStatement content hmodule h), withStatement,
      List.map_append]
    rfl
  · exact Statement.isTypeOnly_relist rfl

theorem edit_of_slot (hmodule : Quotable module) (hne : required ≠ [])
    (hrequired : ∀ x ∈ required, isIdentifier x.toList = true)
    (hslot : slot hosts content module = .ok block) :
    Edit hosts content (block.add required).text module required := by
  rcases serves_of_slot hslot with ⟨i, p, hblock, hp, hserves⟩ | ⟨-, rfl⟩
  · exact edit_text_add hblock hp hserves hrequired
  · rw [← insert_eq_text_add hne hrequired]
    exact edit_insert hosts hmodule hrequired

/-- Adding names leaves a text as it is, or it writes one list anew between its braces, or it puts
in a line with one import. The other characters stay, and so do the other statements. -/
theorem edit_of_ensure (hmodule : Quotable module)
    (hrequired : ∀ x ∈ required, isIdentifier x.toList = true)
    (h : ensure hosts content module required = .ok new) :
    Edit hosts content new module required := by
  by_cases hne : required = []
  · subst hne
    cases h
    exact .same rfl (.inl rfl)
  rw [ensure_eq_map_slot hne hrequired] at h
  cases hslot : slot hosts content module with
  | error e =>
    rw [hslot] at h
    cases h
  | ok block =>
    rw [hslot] at h
    obtain rfl := Except.ok.inj h
    exact edit_of_slot hmodule hne hrequired hslot

end

/-- A name that joins the list of a host, in a text whose last line has no end. -/
theorem edit_of_ensure_host :
    ensure [⟨"m", "n", some "B"⟩] "import D, { B } from \"n\"\nimport 'x'".toList "m" ["A"] =
        .ok "import D, { A, B } from \"n\"\nimport 'x'".toList ∧
      Edit [⟨"m", "n", some "B"⟩] "import D, { B } from \"n\"\nimport 'x'".toList
        "import D, { A, B } from \"n\"\nimport 'x'".toList "m" ["A"] := by
  have hensure : ensure [⟨"m", "n", some "B"⟩] "import D, { B } from \"n\"\nimport 'x'".toList "m"
      ["A"] = .ok "import D, { A, B } from \"n\"\nimport 'x'".toList := by
    simp only [ensure, merge, insert, sortSymbols_eq_insertionSort]
    decide +kernel
  exact ⟨hensure, edit_of_ensure (by decide) (by decide) hensure⟩

end DesignTokens.Import
