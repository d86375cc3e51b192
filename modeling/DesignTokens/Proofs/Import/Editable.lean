import DesignTokens.Proofs.Fix.Bindings

/-! # The list that is found for a module

Of the imports of values from a module the first one that can be edited is found, whichever others
come before it. If there are imports and none of them can be edited, the first one is named. One
that can be edited has a clause on one line with one list of plain names in braces; what is found is
the part of the text between these braces, with the names that stand in it.

## Main definitions

* `Import.EditableAs` - a clause that can be edited, cut at its braces
* `Import.Placed.IsEditable` - a statement with such a clause
* `Import.Block.IsListOf` - what is found of a statement

## Main results

* `Import.editable_eq_ok_iff_editableAs` - which clauses can be edited
* `Import.block_eq_ok_iff` - what is found of a statement
* `Import.findBlock_eq_iff` - what is found for a module
-/

namespace DesignTokens.Import

open Character Text

/-- A clause on one line that has one list in braces, with no further brace and no star around it.
In the list there is no word `as`, and what stands between its commas is blank or a name. -/
structure EditableAs (clause : Option Text) (before inner after : Text) : Prop where
  cut : clause = some (before ++ '{' :: (inner ++ '}' :: after))
  newline : ∀ text ∈ clause, '\n' ∉ text
  opening : '{' ∉ before ∧ '{' ∉ inner ∧ '{' ∉ after
  closing : '}' ∉ after
  star : '*' ∉ before ∧ '*' ∉ after
  noAlias : ∀ u v, inner = u ++ ['a', 's'] ++ v →
    isWordSide u.getLast? = true ∨ isWordSide v.head? = true
  names : ∀ piece ∈ pieces ',' inner, trim piece ≠ [] → isIdentifier (trim piece) = true

/-- A statement with a clause that can be edited. -/
def Placed.IsEditable (p : Placed) : Prop :=
  ∃ before inner after, EditableAs p.statement.clause before inner after

/-- What is found of a statement in a text: the list between its braces, behind `before` in the
clause. The names of the list are in order, and the imports of the text bind each of them. -/
structure Block.IsListOf (block : Block) (content : Text) (p : Placed) (before inner : Text) : Prop
    where
  line : block.line = lineFeeds p.before + 1
  start : block.before = p.beforeClause ++ before ++ ['{']
  list : block.inner = inner
  stop : block.after.head? = some '}'
  text : content = block.before ++ block.inner ++ block.after
  span : block.span = ⟨byteSize (p.beforeClause ++ before) + 1,
    byteSize (p.beforeClause ++ before) + 1 + byteSize inner⟩
  symbols : block.symbols =
    (((pieces ',' inner).map trim).filter (!·.isEmpty)).map String.ofList
  bound : ∀ x ∈ block.symbols, x ∈ boundNames content

/-! ### Clauses that can be edited -/

variable {content : Text} {module : String} {p : Placed} {before inner after : Text}

theorem hasAlias_eq_false_iff : hasAlias inner = false ↔ ∀ u v, inner = u ++ ['a', 's'] ++ v →
    isWordSide u.getLast? = true ∨ isWordSide v.head? = true := by
  rw [← Bool.not_eq_true, hasAlias_iff]
  constructor
  · intro hnot u v heq
    by_contra hsides
    rw [not_or, Bool.not_eq_true, Bool.not_eq_true] at hsides
    exact hnot ⟨u, v, heq, hsides⟩
  · rintro hsides ⟨u, v, heq, hu, hv⟩
    rcases hsides u v heq with hside | hside
    · rw [hu] at hside
      cases hside
    · rw [hv] at hside
      cases hside

theorem forall_mem_listEntries_iff {p : Text → Prop} : (∀ name ∈ listEntries inner, p name) ↔
    ∀ piece ∈ pieces ',' inner, trim piece ≠ [] → p (trim piece) := by
  simp [listEntries]

/-- Which clauses can be edited. -/
theorem editable_eq_ok_iff_editableAs {clause : Option Text} :
    editable clause = .ok (⟨before, inner, after⟩, listEntries inner) ↔
      EditableAs clause before inner after := by
  rw [editable_eq_ok_iff]
  constructor
  · rintro ⟨rfl, ⟨hnewline, hopening, hclosing, hstar, halias, hnames⟩, -⟩
    refine ⟨rfl, ?_, hopening, hclosing, hstar, hasAlias_eq_false_iff.mp halias,
      forall_mem_listEntries_iff.mp hnames⟩
    rintro text ⟨⟩
    exact hnewline
  · rintro ⟨rfl, hnewline, hopening, hclosing, hstar, halias, hnames⟩
    exact ⟨rfl, ⟨hnewline _ rfl, hopening, hclosing, hstar, hasAlias_eq_false_iff.mpr halias,
      forall_mem_listEntries_iff.mpr hnames⟩, rfl⟩

/-- A clause is cut at its braces in one way only. -/
theorem EditableAs.eq {clause : Option Text} {before' inner' after' : Text}
    (h : EditableAs clause before inner after) (h' : EditableAs clause before' inner' after') :
    before = before' ∧ inner = inner' := by
  have hedit := editable_eq_ok_iff_editableAs.mpr h
  rw [editable_eq_ok_iff_editableAs.mpr h'] at hedit
  cases hedit
  exact ⟨rfl, rfl⟩

/-! ### Statements that can be edited -/

/-- The text around a statement. -/
theorem text_of_mem_placeFrom {lead rest : Text} {entries : List (Text × Statement)}
    (h : p ∈ (placeFrom lead rest entries).1) :
    p.before ++ (p.statement.text ++ p.after) = lead ++ (Outline.mk entries rest).text := by
  induction entries generalizing lead with
  | nil => cases h
  | cons entry more ih =>
    obtain ⟨own, s⟩ := entry
    simp only [placeFrom, List.mem_cons] at h
    rcases h with rfl | h
    · simp [placeFrom_snd, Outline.text]
    · rw [ih h]
      simp [Outline.text]

theorem text_of_mem_statements (h : p ∈ statements content) :
    p.before ++ (p.statement.text ++ p.after) = content := by
  rw [text_of_mem_placeFrom h, List.nil_append]
  exact Outline.text_read content

theorem isListOf_of_block (hp : p ∈ statements content) {block : Block} (h : p.block = .ok block) :
    ∃ before inner after, EditableAs p.statement.clause before inner after ∧
      block.IsListOf content p before inner := by
  -- The statement is one of those of the outline, and what its list has, it binds.
  have hbound : ∀ x ∈ block.symbols, x ∈ boundNames content := by
    intro x hx
    rw [mem_boundNames, Outline.Binds]
    have hmem : p.statement ∈ (Outline.read content).entries.map (·.2) :=
      map_statement_statements content ▸ List.mem_map_of_mem hp
    obtain ⟨entry, hentry, heq⟩ := List.mem_map.mp hmem
    exact ⟨entry, hentry, heq ▸ mem_names_of_block h hx⟩
  rw [Placed.block] at h
  split at h
  · cases h
  · rename_i b names hedit
    obtain ⟨hclause, -, rfl⟩ := editable_eq_ok_iff.mp hedit
    cases h
    refine ⟨b.before, b.inner, b.after, editable_eq_ok_iff_editableAs.mp hedit, ?_⟩
    refine ⟨rfl, rfl, rfl, rfl, ?_, ?_, rfl, hbound⟩
    · rw [← text_of_mem_statements hp, Statement.text, hclause]
      simp [Placed.beforeClause, Statement.clauseText, Braced.clause]
    · rw [Block.span]
      simp [byteSize_append, byteSize, Nat.add_assoc]
      decide

/-- Only one list is found of a statement. The text around it is that of the file, so what comes
after the list is settled by what comes before it. -/
theorem Block.IsListOf.eq {block block' : Block} (h : block.IsListOf content p before inner)
    (h' : block'.IsListOf content p before inner) : block = block' := by
  have hafter : block.after = block'.after := by
    have htext := h.text.symm.trans h'.text
    rw [h.start, h'.start, h.list, h'.list] at htext
    exact List.append_cancel_left htext
  cases block
  cases block'
  rw [Block.mk.injEq]
  exact ⟨h.line.trans h'.line.symm, h.start.trans h'.start.symm, h.list.trans h'.list.symm, hafter,
    h.symbols.trans h'.symbols.symm⟩

theorem exists_block_eq_ok (h : p.IsEditable) : ∃ block, p.block = .ok block := by
  obtain ⟨before, inner, after, hedit⟩ := h
  rw [Placed.block, editable_eq_ok_iff_editableAs.mpr hedit]
  exact ⟨_, rfl⟩

/-- What is found of a statement that can be edited. -/
theorem block_eq_ok_iff (hp : p ∈ statements content) {block : Block} :
    p.block = .ok block ↔ ∃ before inner after,
      EditableAs p.statement.clause before inner after ∧ block.IsListOf content p before inner := by
  refine ⟨isListOf_of_block hp, ?_⟩
  rintro ⟨before, inner, after, hedit, hlist⟩
  -- Something is found, and of one statement nothing else can be found.
  obtain ⟨found, hfound⟩ := exists_block_eq_ok ⟨before, inner, after, hedit⟩
  obtain ⟨before', inner', after', hedit', hlist'⟩ := isListOf_of_block hp hfound
  obtain ⟨rfl, rfl⟩ := hedit.eq hedit'
  rw [hfound, hlist.eq hlist']

theorem isOk_block_iff : p.block.isOk = true ↔ p.IsEditable := by
  rw [isOk_block, Statement.isEditable]
  constructor
  · intro h
    cases hedit : editable p.statement.clause with
    | error shape =>
      rw [hedit] at h
      cases h
    | ok found =>
      obtain ⟨⟨before, inner, after⟩, names⟩ := found
      obtain ⟨-, -, rfl⟩ := editable_eq_ok_iff.mp hedit
      exact ⟨before, inner, after, editable_eq_ok_iff_editableAs.mp hedit⟩
  · rintro ⟨before, inner, after, hedit⟩
    rw [editable_eq_ok_iff_editableAs.mpr hedit]
    rfl

/-- The error of a statement names it and the line it starts on. -/
theorem exists_block_eq_error (h : ¬ p.IsEditable) : ∃ shape,
    p.block = .error ⟨String.ofList p.statement.module, lineFeeds p.before + 1, shape⟩ := by
  cases hedit : editable p.statement.clause with
  | error shape =>
    rw [Placed.block, hedit]
    exact ⟨shape, rfl⟩
  | ok found =>
    refine absurd (isOk_block_iff.mp ?_) h
    rw [isOk_block, Statement.isEditable, hedit]
    rfl

/-! ### What is found for a module -/

theorem mem_valueImports : p ∈ valueImports content module ↔ p ∈ statements content ∧
    p.statement.module = module.toList ∧ p.statement.isTypeOnly = false := by
  simp [valueImports]

/-- The first import that can be edited is found. -/
theorem firstBlock_of_editable {front back : List Placed} {block : Block}
    (hfront : ∀ q ∈ front, ¬ q.IsEditable) (hp : p.block = .ok block) :
    firstBlock (front ++ p :: back) = .ok (some block) := by
  have hfind : (front ++ p :: back).find? (·.block.isOk) = some p := by
    rw [List.find?_eq_some_iff_append]
    refine ⟨by rw [hp]; rfl, front, back, rfl, fun q hq => ?_⟩
    rw [Bool.not_eq_true', ← Bool.not_eq_true, isOk_block_iff]
    exact hfront q hq
  obtain ⟨block', hp', hfirst⟩ := firstBlock_of_find? hfind
  obtain rfl := Except.ok.inj (hp.symm.trans hp')
  exact hfirst

theorem exists_first_editable {ps : List Placed} (h : ∃ q, ∃ _ : q ∈ ps, q.IsEditable) :
    ∃ front p back, ps = front ++ p :: back ∧ p.IsEditable ∧ ∀ q ∈ front, ¬ q.IsEditable := by
  cases hfind : ps.find? (·.block.isOk) with
  | none =>
    obtain ⟨q, hq, hedit⟩ := h
    exact absurd (isOk_block_iff.mpr hedit) (List.find?_eq_none.mp hfind q hq)
  | some p =>
    obtain ⟨hp, front, back, heq, hfront⟩ := List.find?_eq_some_iff_append.mp hfind
    refine ⟨front, p, back, heq, isOk_block_iff.mp hp, fun q hq hedit => ?_⟩
    have hnot := hfront q hq
    rw [isOk_block_iff.mpr hedit] at hnot
    cases hnot

/-- Without an import that can be edited, the first one is named. -/
theorem firstBlock_of_not_editable {ps : List Placed} (h : ∀ q ∈ ps, ¬ q.IsEditable) :
    ps = [] ∧ firstBlock ps = .ok none ∨
      ∃ p back e, ps = p :: back ∧ p.block = .error e ∧ firstBlock ps = .error e := by
  have hfind : ps.find? (·.block.isOk) = none := by
    rw [List.find?_eq_none]
    intro q hq hok
    exact h q hq (isOk_block_iff.mp hok)
  rcases firstBlock_of_find?_eq_none hfind with hnil | ⟨p, e, hhead, hp, hfirst⟩
  · exact .inl hnil
  · obtain ⟨back, rfl⟩ := List.head?_eq_some_iff.mp hhead
    exact .inr ⟨p, back, e, rfl, hp, hfirst⟩

/-- Some import of a module can be edited and a first one is, or there is none, or none that can. -/
theorem findBlock_cases_editable (content : Text) (module : String) :
    (valueImports content module = [] ∧ findBlock content module = .ok none) ∨
      (∃ p back shape, valueImports content module = p :: back ∧
        (∀ q ∈ valueImports content module, ¬ q.IsEditable) ∧
        findBlock content module = .error ⟨module, lineFeeds p.before + 1, shape⟩) ∨
      ∃ front p back block, valueImports content module = front ++ p :: back ∧
        (∀ q ∈ front, ¬ q.IsEditable) ∧ p.block = .ok block ∧
        findBlock content module = .ok (some block) := by
  by_cases hall : ∀ q ∈ valueImports content module, ¬ q.IsEditable
  · rcases firstBlock_of_not_editable hall with hnil | ⟨p, back, e, heq, hp, hfirst⟩
    · exact .inl hnil
    · refine .inr (.inl ?_)
      have hmem : p ∈ valueImports content module := heq ▸ List.mem_cons_self
      obtain ⟨shape, hshape⟩ := exists_block_eq_error (hall p hmem)
      rw [(mem_valueImports.mp hmem).2.1, String.ofList_toList] at hshape
      obtain rfl := Except.error.inj (hp.symm.trans hshape)
      exact ⟨p, back, shape, heq, hall, hfirst⟩
  · refine .inr (.inr ?_)
    simp only [not_forall, not_not] at hall
    obtain ⟨front, p, back, heq, hp, hfront⟩ := exists_first_editable hall
    obtain ⟨block, hblock⟩ := exists_block_eq_ok hp
    refine ⟨front, p, back, block, heq, hfront, hblock, ?_⟩
    rw [findBlock, heq]
    exact firstBlock_of_editable hfront hblock

/-! Each outcome tells the case that it came from, as the others have another one. -/

theorem findBlock_eq_none_iff :
    findBlock content module = .ok none ↔ valueImports content module = [] :=
  findBlock_eq_ok_none_iff.trans valueImports_eq_nil_iff.symm

theorem findBlock_eq_some_iff {block : Block} : findBlock content module = .ok (some block) ↔
    ∃ front p back before inner after, valueImports content module = front ++ p :: back ∧
      (∀ q ∈ front, ¬ q.IsEditable) ∧ EditableAs p.statement.clause before inner after ∧
      block.IsListOf content p before inner := by
  have hmem : ∀ {front back : List Placed} {p : Placed},
      valueImports content module = front ++ p :: back → p ∈ statements content := by
    intro front back p heq
    have hp : p ∈ valueImports content module := heq ▸ by simp
    exact (mem_valueImports.mp hp).1
  constructor
  · intro h
    rcases findBlock_cases_editable content module with
      ⟨-, hnone⟩ | ⟨p, back, shape, -, -, herror⟩ | ⟨front, p, back, found, heq, hfront, hp, hsome⟩
    · cases h.symm.trans hnone
    · cases h.symm.trans herror
    · cases h.symm.trans hsome
      obtain ⟨before, inner, after, hedit, hlist⟩ := (block_eq_ok_iff (hmem heq)).mp hp
      exact ⟨front, p, back, before, inner, after, heq, hfront, hedit, hlist⟩
  · rintro ⟨front, p, back, before, inner, after, heq, hfront, hedit, hlist⟩
    rw [findBlock, heq]
    exact firstBlock_of_editable hfront
      ((block_eq_ok_iff (hmem heq)).mpr ⟨before, inner, after, hedit, hlist⟩)

theorem findBlock_eq_error_iff {back : List Placed}
    (heq : valueImports content module = p :: back) :
    (∀ q ∈ valueImports content module, ¬ q.IsEditable) ↔ ∃ shape,
      findBlock content module = .error ⟨module, lineFeeds p.before + 1, shape⟩ := by
  rcases findBlock_cases_editable content module with ⟨hnil, -⟩ |
    ⟨first, rest, shape, heq', hnot, herror⟩ | ⟨front, q, rest, block, heq', -, hq, hsome⟩
  · rw [hnil] at heq
    cases heq
  · rw [heq] at heq'
    cases heq'
    exact ⟨fun _ => ⟨shape, herror⟩, fun _ => hnot⟩
  · constructor
    · intro hnot
      -- A statement with a block can be edited, against the assumption.
      refine absurd (isOk_block_iff.mp ?_) (hnot q (heq' ▸ by simp))
      rw [hq]
      rfl
    · rintro ⟨shape, herror⟩
      cases hsome.symm.trans herror

/-- Of the imports of values from a module, in the order of the text, the first one that can be
edited is found. Nothing is found if there are none, and if there are only others the first of them
is named with its line. -/
theorem findBlock_eq_iff (content : Text) (module : String) :
    (findBlock content module = .ok none ↔ valueImports content module = []) ∧
      (∀ block, findBlock content module = .ok (some block) ↔ ∃ front p back before inner after,
        valueImports content module = front ++ p :: back ∧ (∀ q ∈ front, ¬ q.IsEditable) ∧
          EditableAs p.statement.clause before inner after ∧
          block.IsListOf content p before inner) ∧
      ∀ p back, valueImports content module = p :: back →
        ((∀ q ∈ valueImports content module, ¬ q.IsEditable) ↔ ∃ shape,
          findBlock content module = .error ⟨module, lineFeeds p.before + 1, shape⟩) :=
  ⟨findBlock_eq_none_iff, fun _ => findBlock_eq_some_iff, fun _ _ => findBlock_eq_error_iff⟩

/-- Two imports of a module, the first as a whole. -/
def wholeAndList : Text :=
  "import * as all from 'ui';\nimport { tint, shade } from 'ui';\n".toList

/-- The list of the second one is found. -/
theorem findBlock_wholeAndList : ∃ block, findBlock wholeAndList "ui" = .ok (some block) ∧
    block.line = 2 ∧ block.symbols = ["tint", "shade"] ∧ "shade" ∈ boundNames wholeAndList := by
  obtain ⟨block, hfind, hline, hsymbols⟩ : ∃ block,
      findBlock wholeAndList "ui" = .ok (some block) ∧ block.line = 2 ∧
        block.symbols = ["tint", "shade"] := by
    refine ⟨⟨2, "import * as all from 'ui';\nimport \x7b".toList, " tint, shade ".toList,
      "\x7d from 'ui';\n".toList, ["tint", "shade"]⟩, ?_, rfl, rfl⟩
    decide +kernel
  obtain ⟨front, p, back, before, inner, after, -, -, -, hlist⟩ :=
    ((findBlock_eq_iff wholeAndList "ui").2.1 block).mp hfind
  refine ⟨block, hfind, hline, hsymbols, hlist.bound "shade" ?_⟩
  rw [hsymbols]
  decide

end DesignTokens.Import
