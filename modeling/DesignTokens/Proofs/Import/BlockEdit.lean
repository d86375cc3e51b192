import DesignTokens.Proofs.Import.ClauseEdit

/-! # The list of a module in an edited text

The list that is edited for a module is that of the first of its imports with a clause that can be
edited. Which import that is depends on what the statements import and on whether their clauses can
be edited, so it is the same import before and after names are added to any list.

## Main definitions

* `Import.Block.add` - a list with more names, and `Import.Block.text` the text it stands in
* `Import.Outline.target?` - the place of the import that is edited for a module
* `Import.Outline.blockAt?` - the list of the import in a place

## Main results

* `Import.Block.add_add` - names added in two steps make the list that they make at once
* `Import.findBlock_of_target?` - the list of a module is that of its target
* `Import.Outline.added_read` - the outline of a text with names added to a list of it
-/

namespace DesignTokens.Import

open Character Text

/-! ### Lists with more names -/

namespace Block

/-- The text that a list stands in. -/
def text (b : Block) : Text :=
  b.before ++ b.inner ++ b.after

/-- A list with other names. -/
def relist (b : Block) (symbols : List String) : Block :=
  { b with inner := ' ' :: listText symbols ++ [' '], symbols := symbols }

/-- A list with more names: as it is if it has them all. -/
def add (b : Block) (required : List String) : Block :=
  if required.all (b.symbols.contains ·) then b
  else b.relist (sortSymbols (addMissing b.symbols required))

theorem relist_relist (b : Block) (symbols symbols' : List String) :
    (b.relist symbols).relist symbols' = b.relist symbols' := rfl

theorem add_of_subset {b : Block} {required : List String} (h : ∀ x ∈ required, x ∈ b.symbols) :
    b.add required = b := by
  rw [add, if_pos (by simpa using h)]

theorem add_of_not_subset {b : Block} {required : List String}
    (h : ¬ ∀ x ∈ required, x ∈ b.symbols) :
    b.add required = b.relist (sortSymbols (addMissing b.symbols required)) := by
  rw [add, if_neg (by simpa using h)]

theorem mem_symbols_add {b : Block} {required : List String} {x : String} :
    x ∈ (b.add required).symbols ↔ x ∈ b.symbols ∨ x ∈ required := by
  by_cases h : ∀ y ∈ required, y ∈ b.symbols
  · rw [add_of_subset h]
    exact ⟨.inl, fun hx => hx.elim id (h x)⟩
  · rw [add_of_not_subset h]
    exact mem_sortSymbols.trans mem_addMissing

/-- Names added in two steps make the list that they make at once. -/
theorem add_add (block : Block) {a b : Names} (ha : Names.Increasing a) (hb : Names.Increasing b) :
    (block.add a).add b = block.add (a.union b) := by
  have hu := (Names.increasing_union b ha).nodup
  have hmem : ∀ x, x ∈ a.union b ↔ x ∈ a ∨ x ∈ b := fun x => Names.mem_union
  by_cases hsub : ∀ x ∈ a, x ∈ block.symbols
  · rw [add_of_subset hsub]
    by_cases hsub' : ∀ x ∈ b, x ∈ block.symbols
    · rw [add_of_subset hsub', add_of_subset]
      exact fun x hx => ((hmem x).mp hx).elim (hsub x) (hsub' x)
    · rw [add_of_not_subset hsub', add_of_not_subset fun h => hsub' fun x hx =>
        h x ((hmem x).mpr (.inr hx)), sortSymbols_addMissing_of_subset hb.nodup hu hmem hsub]
  · have hnot : ¬ ∀ x ∈ a.union b, x ∈ block.symbols :=
      fun h => hsub fun x hx => h x ((hmem x).mpr (.inl hx))
    have htwo : sortSymbols (addMissing (sortSymbols (addMissing block.symbols a)) b) =
        sortSymbols (addMissing block.symbols (a.union b)) :=
      sortSymbols_addMissing_addMissing ha.nodup hb.nodup hu hmem
    rw [add_of_not_subset hsub, add_of_not_subset hnot]
    by_cases hsub' : ∀ x ∈ b, x ∈ (block.relist (sortSymbols (addMissing block.symbols a))).symbols
    · -- The second step finds all its names in the list, so there is nothing that it lacks.
      have hnone : addMissing (sortSymbols (addMissing block.symbols a)) b =
          sortSymbols (addMissing block.symbols a) := by
        rw [addMissing, List.filter_eq_nil_iff.mpr, List.append_nil]
        intro x hx
        have hmem : x ∈ sortSymbols (addMissing block.symbols a) := hsub' x hx
        simpa using hmem
      rw [add_of_subset hsub', ← htwo, hnone]
      exact congrArg block.relist (sortSymbols_eq_of_perm (List.mergeSort_perm _ _)).symm
    · rw [add_of_not_subset hsub', relist_relist]
      exact congrArg block.relist htwo

end Block

theorem merge_eq_text_add (block : Block) (required : Names) :
    merge block required = (block.add required).text := by
  rw [merge, Block.add]
  split
  · rfl
  · simp [Block.text, Block.relist]

/-! ### The target of a module -/

/-- Whether a statement imports values from a module. -/
def Statement.imports (module : String) (s : Statement) : Bool :=
  s.module = module.toList && !s.isTypeOnly

/-- Whether the clause of a statement can be edited. -/
def Statement.isEditable (s : Statement) : Bool :=
  (editable s.clause).isOk

namespace Outline

/-- The place of the import that is edited for a module. -/
def target? (o : Outline) (module : String) : Option Nat :=
  o.entries.findIdx? fun e => e.2.imports module && e.2.isEditable

/-- The list of the import in a place, if it can be edited. -/
def blockAt? (o : Outline) (i : Nat) : Option Block :=
  o.placed[i]?.bind (·.block.toOption)

end Outline

theorem getElem?_placeFrom (before rest : Text) (entries : List (Text × Statement)) (i : Nat) :
    (placeFrom before rest entries).1[i]? = entries[i]?.map fun e =>
      ⟨before ++ (Outline.flat (entries.take i) ++ e.1), e.2,
        Outline.flat (entries.drop (i + 1)) ++ rest⟩ := by
  induction entries generalizing before i with
  | nil => simp [placeFrom]
  | cons e more ih =>
    obtain ⟨lead, s⟩ := e
    cases i with
    | zero => simp [placeFrom, placeFrom_snd, Outline.text_mk]
    | succ i => simp [placeFrom, ih]

theorem isOk_block (p : Placed) : p.block.isOk = p.statement.isEditable := by
  rw [Placed.block, Statement.isEditable]
  split
  · rename_i h
    rw [h]
    rfl
  · rename_i h
    rw [h]
    rfl

/-- The list that is edited is the first that can be. -/
theorem firstBlock_of_find? {ps : List Placed} {p : Placed} (h : ps.find? (·.block.isOk) = some p) :
    ∃ block, p.block = .ok block ∧ firstBlock ps = .ok (some block) := by
  induction ps with
  | nil => cases h
  | cons q ps ih =>
    rw [List.find?_cons] at h
    cases hq : q.block with
    | ok block =>
      rw [hq] at h
      obtain rfl : q = p := Option.some.inj h
      exact ⟨block, hq, by rw [firstBlock, hq]⟩
    | error e =>
      rw [hq] at h
      obtain ⟨block, hp, hfirst⟩ := ih h
      exact ⟨block, hp, by rw [firstBlock, hq, hfirst]⟩

/-- Without a list that can be edited, the first import is an error. -/
theorem firstBlock_of_find?_eq_none {ps : List Placed} (h : ps.find? (·.block.isOk) = none) :
    (ps = [] ∧ firstBlock ps = .ok none) ∨
      ∃ p e, ps.head? = some p ∧ p.block = .error e ∧ firstBlock ps = .error e := by
  induction ps with
  | nil => exact .inl ⟨rfl, rfl⟩
  | cons q ps ih =>
    rw [List.find?_cons] at h
    cases hq : q.block with
    | ok block =>
      rw [hq] at h
      cases h
    | error e =>
      rw [hq] at h
      refine .inr ⟨q, e, rfl, hq, ?_⟩
      rw [firstBlock, hq]
      rcases ih h with ⟨-, hfirst⟩ | ⟨-, e', -, -, hfirst⟩ <;> rw [hfirst]

section

variable {content : Text} {module : String} {i : Nat}

theorem find?_placed (p : Statement → Bool) (o : Outline) :
    o.placed.find? (p ·.statement) = (o.entries.findIdx? (p ·.2)).bind (o.placed[·]?) := by
  have hidx : o.entries.findIdx? (p ·.2) = o.placed.findIdx? (p ·.statement) := by
    have hmap := map_statement_placeFrom [] o.rest o.entries
    have := congrArg (List.findIdx? p) hmap
    rw [List.findIdx?_map, List.findIdx?_map] at this
    exact this.symm
  rw [hidx, List.find?_eq_bind_findIdx?_getElem?]

theorem find?_valueImports (content : Text) (module : String) :
    (valueImports content module).find? (·.block.isOk) =
    ((Outline.read content).target? module).bind ((Outline.read content).placed[·]?) := by
  rw [valueImports, List.find?_filter, statements, Outline.target?,
    ← find?_placed fun s => s.imports module && s.isEditable]
  congr 1
  funext p
  rw [isOk_block, Bool.decide_and, Bool.decide_eq_true, Bool.decide_eq_true]
  rfl

theorem valueImports_eq_nil_iff : valueImports content module = [] ↔
    ∀ e ∈ (Outline.read content).entries, e.2.imports module = false := by
  have hmap := map_statement_placeFrom [] (Outline.read content).rest (Outline.read content).entries
  rw [valueImports, List.filter_eq_nil_iff]
  constructor
  · intro h e he
    have hmem : e.2 ∈ (statements content).map (·.statement) :=
      hmap ▸ List.mem_map_of_mem he
    obtain ⟨p, hp, heq⟩ := List.mem_map.mp hmem
    rw [← heq]
    exact Bool.eq_false_iff.mpr (h p hp)
  · intro h p hp
    have hmem : p.statement ∈ (Outline.read content).entries.map (·.2) :=
      hmap ▸ List.mem_map_of_mem hp
    obtain ⟨e, he, heq⟩ := List.mem_map.mp hmem
    rw [← heq]
    exact Bool.eq_false_iff.mp (h e he)

/-- The list of a module is that of its target. Without a target there is no list, and this is an
error if the module is imported. -/
theorem findBlock_cases (content : Text) (module : String) :
    (∃ i block, (Outline.read content).target? module = some i ∧
      (Outline.read content).blockAt? i = some block ∧
        findBlock content module = .ok (some block)) ∨
    ((Outline.read content).target? module = none ∧
      (∀ e ∈ (Outline.read content).entries, e.2.imports module = false) ∧
        findBlock content module = .ok none) ∨
    ((Outline.read content).target? module = none ∧
      ¬ (∀ e ∈ (Outline.read content).entries, e.2.imports module = false) ∧
        ∃ e, findBlock content module = .error e) := by
  have hfind := find?_valueImports content module
  cases hp : (valueImports content module).find? (·.block.isOk) with
  | some p =>
    rw [hp] at hfind
    obtain ⟨i, hi, hplaced⟩ := Option.bind_eq_some_iff.mp hfind.symm
    obtain ⟨block, hblock, hfirst⟩ := firstBlock_of_find? hp
    refine .inl ⟨i, block, hi, ?_, hfirst⟩
    simp [Outline.blockAt?, hplaced, hblock, Except.toOption]
  | none =>
    rw [hp] at hfind
    -- A target would be a statement that the search finds.
    have htarget : (Outline.read content).target? module = none := by
      cases hi : (Outline.read content).target? module with
      | none => rfl
      | some i =>
        have hlt : i < (Outline.read content).entries.length :=
          (List.findIdx?_eq_some_iff_findIdx_eq.mp hi).1
        rw [hi, Option.bind_some, Outline.placed, getElem?_placeFrom,
          List.getElem?_eq_getElem hlt] at hfind
        cases hfind
    rcases firstBlock_of_find?_eq_none hp with ⟨hnil, hfirst⟩ | ⟨p, e, hhead, -, hfirst⟩
    · exact .inr (.inl ⟨htarget, valueImports_eq_nil_iff.mp hnil, hfirst⟩)
    · refine .inr (.inr ⟨htarget, fun hall => ?_, e, hfirst⟩)
      rw [valueImports_eq_nil_iff.mpr hall] at hhead
      cases hhead

end

/-! ### The text of an edited list -/

namespace Outline

/-- The list of the statement `s` with the clause `b` that follows the text `lead` in a place. -/
def blockOf (o : Outline) (i : Nat) (lead : Text) (s : Statement) (b : Braced) : Block :=
  let before := flat (o.entries.take i) ++ lead
  ⟨lineFeeds before + 1, before ++ (s.indent ++ importWord) ++ b.before ++ ['{'], b.inner,
    '}' :: b.after ++ fromWord ++ s.tail ++ (flat (o.entries.drop (i + 1)) ++ o.rest),
    (listEntries b.inner).map String.ofList⟩

section

variable {o : Outline} {i : Nat} {lead : Text} {s : Statement} {b : Braced} {symbols : List String}

theorem blockAt?_eq_some_iff {block : Block} : o.blockAt? i = some block ↔
    ∃ lead s b, o.entries[i]? = some (lead, s) ∧ s.clause = some b.clause ∧ b.Plain ∧
      block = o.blockOf i lead s b := by
  rw [blockAt?, placed, getElem?_placeFrom]
  constructor
  · intro h
    obtain ⟨p, hp, hblock⟩ := Option.bind_eq_some_iff.mp h
    obtain ⟨⟨lead, s⟩, he, rfl⟩ := Option.map_eq_some_iff.mp hp
    simp only [Placed.block] at hblock
    split at hblock
    · cases hblock
    · rename_i b names hedit
      obtain ⟨hclause, hplain, rfl⟩ := editable_eq_ok_iff.mp hedit
      exact ⟨lead, s, b, he, hclause, hplain, (Option.some.inj hblock).symm⟩
  · rintro ⟨lead, s, b, he, hclause, hplain, rfl⟩
    rw [he, Option.map_some, Option.bind_some, Placed.block,
      editable_eq_ok_iff.mpr ⟨hclause, hplain, rfl⟩]
    rfl

theorem text_blockOf (he : o.entries[i]? = some (lead, s)) (hclause : s.clause = some b.clause) :
    (o.blockOf i lead s b).text = o.text := by
  obtain ⟨hlt, heq⟩ := List.getElem?_eq_some_iff.mp he
  have hentries : o.entries = o.entries.take i ++ (lead, s) :: o.entries.drop (i + 1) := by
    rw [← heq, List.getElem_cons_drop, List.take_append_drop]
  have htext : o.text = flat (o.entries.take i ++ (lead, s) :: o.entries.drop (i + 1)) ++
      o.rest := by
    rw [← hentries]
    rfl
  rw [htext]
  simp [blockOf, Block.text, Statement.text, Statement.clauseText, hclause, Braced.clause]

/-- Other names in the list of a statement are a statement with other names. -/
theorem blockOf_relist (h : ∀ x ∈ symbols, isIdentifier x.toList = true) :
    (o.blockOf i lead s b).relist symbols =
      (o.set i (lead, s.relist b symbols)).blockOf i lead (s.relist b symbols)
        (b.relist symbols) := by
  simp only [blockOf, Block.relist, listEntries_relist h, set, List.take_set_of_le (Nat.le_refl i),
    List.drop_set_of_lt (Nat.lt_succ_self i)]
  simp [Statement.relist, Braced.relist, Statement.tail, Function.comp_def]
  rfl

theorem mem_symbols_blockOf {x : String} (hb : b.Plain) (h : x ∈ (o.blockOf i lead s b).symbols) :
    isIdentifier x.toList = true ∧ hasAlias x.toList = false := by
  obtain ⟨name, hname, rfl⟩ := List.mem_map.mp h
  rw [String.toList_ofList]
  exact ⟨hb.names name hname, hasAlias_of_mem_listEntries hb.noAlias name hname⟩

/-- A list with more names is one of identifiers. -/
theorem isIdentifier_of_mem_added (hb : b.Plain) {required : List String}
    (h : ∀ x ∈ required, isIdentifier x.toList = true) :
    ∀ x ∈ sortSymbols (addMissing (o.blockOf i lead s b).symbols required),
      isIdentifier x.toList = true := by
  intro x hx
  rw [mem_sortSymbols, mem_addMissing] at hx
  rcases hx with hx | hx
  · exact (mem_symbols_blockOf hb hx).1
  · exact h x hx

end

section

variable {content : Text} {i : Nat} {lead : Text} {s : Statement} {b : Braced}
  {symbols : List String}

/-- The outline of a text with other names in a list of it. -/
theorem read_relist (he : (read content).entries[i]? = some (lead, s))
    (hclause : s.clause = some b.clause) (h : ∀ x ∈ symbols, isIdentifier x.toList = true) :
    read (((read content).blockOf i lead s b).relist symbols).text =
      (read content).set i (lead, s.relist b symbols) := by
  have hlt := (List.getElem?_eq_some_iff.mp he).1
  have hentry : ((read content).set i (lead, s.relist b symbols)).entries[i]? =
      some (lead, s.relist b symbols) := by
    simp [set, hlt]
  rw [blockOf_relist h, text_blockOf hentry rfl]
  exact read_text_set he (Statement.exchange_relist lead
    (valid_of_mem_read (List.mem_of_getElem? he))
    hclause h)

/-- Names are added to a list of the text: it has them all and stays as it is, or it is written anew
with the names that it had and those that it lacks. -/
theorem add_cases {block : Block} {required : List String}
    (hblock : (read content).blockAt? i = some block)
    (h : ∀ x ∈ required, isIdentifier x.toList = true) :
    ((∀ x ∈ required, x ∈ block.symbols) ∧ block.add required = block ∧ block.text = content) ∨
      ∃ symbols, block.add required = block.relist symbols ∧
        (∀ x ∈ symbols, isIdentifier x.toList = true) ∧
        ∀ x, x ∈ symbols ↔ x ∈ block.symbols ∨ x ∈ required := by
  obtain ⟨lead, s, b, he, hclause, hplain, rfl⟩ := blockAt?_eq_some_iff.mp hblock
  by_cases hsub : ∀ x ∈ required, x ∈ ((read content).blockOf i lead s b).symbols
  · exact .inl ⟨hsub, Block.add_of_subset hsub, by rw [text_blockOf he hclause, text_read]⟩
  · refine .inr ⟨_, Block.add_of_not_subset hsub, isIdentifier_of_mem_added hplain h, fun x => ?_⟩
    rw [mem_sortSymbols, mem_addMissing]

end

theorem map_set {es : List (Text × Statement)} {i : Nat} {e e' : Text × Statement}
    {f : Text × Statement → Bool} (he : es[i]? = some e) (h : f e' = f e) :
    (es.set i e').map f = es.map f := by
  obtain ⟨hlt, rfl⟩ := List.getElem?_eq_some_iff.mp he
  rw [List.map_set, h, ← List.map_set, List.set_getElem_self hlt]

theorem map_symbols_blockAt? (o : Outline) (j : Nat) :
    (o.blockAt? j).map (·.symbols) = o.entries[j]?.bind fun e =>
      (editable e.2.clause).toOption.map fun r => r.2.map String.ofList := by
  rw [blockAt?, placed, getElem?_placeFrom]
  cases o.entries[j]? with
  | none => rfl
  | some e =>
    simp only [Option.map_some, Option.bind_some, Placed.block]
    cases editable e.2.clause with
    | error shape => rfl
    | ok r => rfl

/-- What adding names to the list of one import leaves as it is: what every statement imports and
which clauses can be edited, and the names of all other lists. -/
structure Added (o o' : Outline) (i : Nat) (block' : Block) : Prop where
  imports : ∀ module, o'.entries.map (·.2.imports module) = o.entries.map (·.2.imports module)
  isEditable : o'.entries.map (·.2.isEditable) = o.entries.map (·.2.isEditable)
  block : o'.blockAt? i = some block'
  other : ∀ j, j ≠ i → (o'.blockAt? j).map (·.symbols) = (o.blockAt? j).map (·.symbols)

/-- Names can be added to a list time and again. -/
theorem added_read {content : Text} {i : Nat} {block : Block} {required : List String}
    (hblock : (read content).blockAt? i = some block)
    (h : ∀ x ∈ required, isIdentifier x.toList = true)
    (halias : ∀ x ∈ required, hasAlias x.toList = false) :
    Added (read content) (read (block.add required).text) i (block.add required) := by
  obtain ⟨lead, s, b, he, hclause, hplain, rfl⟩ := blockAt?_eq_some_iff.mp hblock
  rcases add_cases hblock h with ⟨-, hadd, htext⟩ | ⟨symbols, hadd, hident, hmem⟩
  · rw [hadd, htext]
    exact ⟨fun _ => rfl, rfl, hblock, fun _ _ => rfl⟩
  · rw [hadd]
    have hnoalias : ∀ x ∈ symbols, hasAlias x.toList = false := by
      intro x hx
      rcases (hmem x).mp hx with hx | hx
      · exact (mem_symbols_blockOf hplain hx).2
      · exact halias x hx
    rw [read_relist he hclause hident]
    -- The statement with its new list is as editable as before, and imports the same modules.
    have hedit : (s.relist b symbols).isEditable = s.isEditable := by
      rw [Statement.isEditable, Statement.isEditable, hclause,
        editable_eq_ok_iff.mpr ⟨rfl, hplain, rfl⟩, Statement.relist,
        editable_relist hplain hident hnoalias]
      rfl
    have himports : ∀ module, (s.relist b symbols).imports module = s.imports module := by
      intro module
      rw [Statement.imports, Statement.imports, Statement.isTypeOnly_relist hclause]
      rfl
    have hlt := (List.getElem?_eq_some_iff.mp he).1
    refine ⟨fun module => map_set he (himports module), map_set he hedit, ?_, fun j hj => ?_⟩
    · rw [blockAt?_eq_some_iff]
      exact ⟨lead, s.relist b symbols, b.relist symbols, by simp [set, hlt], rfl,
        hplain.relist hident hnoalias, blockOf_relist hident⟩
    · rw [map_symbols_blockAt?, map_symbols_blockAt?, set, List.getElem?_set_ne hj.symm]

end Outline

end DesignTokens.Import
