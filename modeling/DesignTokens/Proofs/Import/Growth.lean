import DesignTokens.Proofs.Import.EnsureLaws

/-! # How a text grows

When names wanted from a module are added to a text, the text stays as it is, or one of its lists
has other names, or it has one more statement. In every case an import that cannot be edited stays
where it is, so that names wanted from its module cannot be added later either.

## Main definitions

* `Import.Growth` - what becomes of a text when names wanted from a module are added
* `Import.Blocked` - whether the imports of a module are there but cannot be edited

## Main results

* `Import.growth_of_ensure` - names are added in one of the ways above
* `Import.Blocked.ensure` - what is blocked stays so when names of other modules are added
-/

namespace DesignTokens.Import

open Character Text

/-- The statement for names of a module in a text without imports of the module. -/
def newStatement (content : Text) (module : String) (required : Names) : Statement :=
  (emptyImport (newQuote content) (newSemicolon content) module).relist emptyBraces
    (sortSymbols required)

/-- What becomes of a text when names wanted from a module are added. -/
inductive Growth (content new : Text) (module : String) (required : Names) : Prop where
  | same (h : new = content)
  | relisted (i : Nat) (lead : Text) (s : Statement) (b : Braced) (symbols : List String)
      (he : (Outline.read content).entries[i]? = some (lead, s))
      (hclause : s.clause = some b.clause) (hplain : b.Plain)
      (hidentifier : ∀ x ∈ symbols, isIdentifier x.toList = true)
      (hsymbols : ∀ x ∈ symbols, x.toList ∈ listEntries b.inner ∨ x ∈ required)
      (hkept : ∀ name ∈ listEntries b.inner, String.ofList name ∈ symbols)
      (hread : Outline.read new = (Outline.read content).set i (lead, s.relist b symbols))
  | inserted (hnone : ∀ e ∈ (Outline.read content).entries, e.2.imports module = false)
      (hread : Outline.read new = withStatement content (newStatement content module required))

section

variable {hosts : List Host} {content new : Text} {module other : String} {required : Names}
  {block : Block}

/-- The slot is a list of the text, or that of a new import where the module has none. -/
theorem slot_cases (h : slot hosts content module = .ok block) :
    (∃ i, (Outline.read content).blockAt? i = some block) ∨
      findBlock content module = .ok none ∧ block = newBlock content module := by
  rcases findBlock_cases content module with ⟨i, block', -, hblock, hfind⟩ | ⟨-, -, hfind⟩ |
    ⟨-, -, e, hfind⟩
  · rw [slot, hfind] at h
    cases h
    exact .inl ⟨i, hblock⟩
  · exact (slot_eq_ok h).imp_right fun heq => ⟨hfind, heq⟩
  · rw [slot, hfind] at h
    cases h

/-- There is a slot unless the module has imports that cannot be edited. -/
theorem findBlock_of_slot_eq_error {e : Error} (h : slot hosts content module = .error e) :
    findBlock content module = .error e := by
  rw [slot] at h
  cases hfind : findBlock content module with
  | error e' =>
    rw [hfind] at h
    cases h
    rfl
  | ok found =>
    rw [hfind] at h
    cases found with
    | some block => cases h
    | none =>
      cases hhosts : (hosts.filter (·.module = module)).findSome? (·.block? content) with
      | some block =>
        simp only [hhosts] at h
        cases h
      | none =>
        simp only [hhosts] at h
        cases h

/-- A list of a text with names added. -/
theorem growth_text_add {i : Nat} (hblock : (Outline.read content).blockAt? i = some block)
    (h : ∀ x ∈ required, isIdentifier x.toList = true) :
    Growth content (block.add required).text module required := by
  obtain ⟨lead, s, b, he, hclause, hplain, rfl⟩ := Outline.blockAt?_eq_some_iff.mp hblock
  rcases Outline.add_cases hblock h with ⟨-, hadd, htext⟩ | ⟨symbols, hadd, hident, hmem⟩
  · rw [hadd, htext]
    exact .same rfl
  · rw [hadd]
    have hsymbols : ∀ x, x ∈ ((Outline.read content).blockOf i lead s b).symbols →
        x.toList ∈ listEntries b.inner := by
      intro x hx
      obtain ⟨name, hname, rfl⟩ := List.mem_map.mp hx
      rwa [String.toList_ofList]
    refine .relisted i lead s b _ he hclause hplain hident ?_ ?_
      (Outline.read_relist he hclause hident)
    · exact fun x hx => ((hmem x).mp hx).imp_left (hsymbols x)
    · exact fun name hname => (hmem _).mpr (.inl (List.mem_map_of_mem hname))

/-- Names are added to a list of the text or in a new statement. -/
theorem growth_of_ensure (hmodule : Quotable module)
    (hrequired : ∀ x ∈ required, isIdentifier x.toList = true)
    (h : ensure hosts content module required = .ok new) :
    Growth content new module required := by
  by_cases hne : required = []
  · subst hne
    cases h
    exact .same rfl
  obtain ⟨block, hslot, rfl⟩ := exists_slot_of_ensure hne hrequired h
  -- The block is one of the text, or a new statement with an empty list.
  rcases slot_cases hslot with ⟨i, hblock⟩ | ⟨hfind, rfl⟩
  · exact growth_text_add hblock hrequired
  · have hnone := findBlock_eq_ok_none_iff.mp hfind
    have hident : ∀ x ∈ sortSymbols required, isIdentifier x.toList = true :=
      fun x hx => hrequired x (mem_sortSymbols.mp hx)
    refine .inserted hnone ?_
    rw [← insert_eq_text_add hne hrequired, insert_eq_insertLine, ← text_relist_emptyImport,
      insertLine_eq_text]
    exact read_withStatement content
      ((emptyImport_valid _ (isQuote_newQuote content) hmodule).relist rfl hident)

/-! ### Imports that cannot be edited -/

/-- A module is imported, but none of its imports can be edited. -/
structure Blocked (content : Text) (module : String) : Prop where
  target : (Outline.read content).target? module = none
  imported : ∃ e ∈ (Outline.read content).entries, e.2.imports module = true

theorem blocked_iff : Blocked content module ↔ ∃ e, findBlock content module = .error e := by
  rcases findBlock_cases content module with ⟨i, block', htarget, -, hfind⟩ |
    ⟨-, hnone, hfind⟩ | ⟨htarget, hsome, e, hfind⟩
  · rw [hfind]
    refine ⟨fun h => ?_, fun h => nomatch h⟩
    rw [h.target] at htarget
    cases htarget
  · rw [hfind]
    refine ⟨fun h => ?_, fun h => nomatch h⟩
    obtain ⟨e, he, himports⟩ := h.imported
    rw [hnone e he] at himports
    cases himports
  · refine ⟨fun _ => ⟨e, hfind⟩, fun _ => ⟨htarget, ?_⟩⟩
    simpa using hsome

/-- Names cannot be added for a module exactly if it is blocked. -/
theorem blocked_iff_ensure (hosts : List Host) (hne : required ≠ [])
    (h : ∀ x ∈ required, isIdentifier x.toList = true) :
    Blocked content module ↔ ∃ e, ensure hosts content module required = .error e := by
  rw [blocked_iff]
  constructor
  · rintro ⟨e, hfind⟩
    refine ⟨e, ?_⟩
    rw [ensure_eq_map_slot hne h, slot, hfind]
    rfl
  · rintro ⟨e, herror⟩
    exact ⟨e, findBlock_of_slot_eq_error (slot_eq_error_of_ensure hne h herror)⟩

theorem target?_eq_none_iff {o : Outline} :
    o.target? module = none ↔
      ∀ e ∈ o.entries, e.2.imports module = true → e.2.isEditable = false := by
  rw [Outline.target?, List.findIdx?_eq_none_iff]
  refine forall₂_congr fun e _ => ?_
  cases e.2.imports module <;> simp

theorem imports_relist {s : Statement} {b : Braced} {symbols : List String}
    (hclause : s.clause = some b.clause) :
    (s.relist b symbols).imports module = s.imports module := by
  rw [Statement.imports, Statement.imports, Statement.isTypeOnly_relist hclause]
  rfl

theorem isEditable_of_plain {s : Statement} {b : Braced} (hclause : s.clause = some b.clause)
    (hb : b.Plain) : s.isEditable = true := by
  rw [Statement.isEditable, hclause, editable_eq_ok_iff.mpr ⟨rfl, hb, rfl⟩]
  rfl

theorem module_of_imports {s : Statement} (h : s.imports module = true) :
    s.module = module.toList := by
  rw [Statement.imports, Bool.and_eq_true, decide_eq_true_eq] at h
  exact h.1

/-- What is blocked stays so when a statement of another module takes the place of one. -/
theorem Blocked.of_replaced {front more : List (Text × Statement)} {e e' : Text × Statement}
    (h : Blocked content module) (hold : (Outline.read content).entries = front ++ e :: more)
    (hnew : (Outline.read new).entries = front ++ e' :: more)
    (he : e.2.imports module = false) (he' : e'.2.imports module = false) :
    Blocked new module := by
  obtain ⟨htarget, x, hx, himports⟩ := h
  rw [target?_eq_none_iff] at htarget
  rw [hold] at htarget hx
  refine ⟨target?_eq_none_iff.mpr ?_, x, ?_, himports⟩
  · rw [hnew]
    intro y hy himports
    rcases List.mem_append.mp hy with hy | hy
    · exact htarget y (List.mem_append_left _ hy) himports
    · rcases List.mem_cons.mp hy with rfl | hy
      · rw [he'] at himports
        cases himports
      · exact htarget y (List.mem_append_right _ (List.mem_cons_of_mem _ hy)) himports
  · rw [hnew]
    rcases List.mem_append.mp hx with hx | hx
    · exact List.mem_append_left _ hx
    · rcases List.mem_cons.mp hx with rfl | hx
      · rw [he] at himports
        cases himports
      · exact List.mem_append_right _ (List.mem_cons_of_mem _ hx)

/-- What is blocked stays so when a statement of another module follows the others. -/
theorem Blocked.of_appended {e : Text × Statement} (h : Blocked content module)
    (hnew : (Outline.read new).entries = (Outline.read content).entries ++ [e])
    (he : e.2.imports module = false) : Blocked new module := by
  obtain ⟨htarget, x, hx, himports⟩ := h
  rw [target?_eq_none_iff] at htarget
  refine ⟨target?_eq_none_iff.mpr ?_, x, by simp [hnew, hx], himports⟩
  rw [hnew]
  intro y hy himports
  rcases List.mem_append.mp hy with hy | hy
  · exact htarget y hy himports
  · obtain rfl := List.mem_singleton.mp hy
    rw [he] at himports
    cases himports

/-- What is blocked stays so when a text grows. -/
theorem Blocked.growth (h : Blocked content module) (hgrowth : Growth content new other required) :
    Blocked new module := by
  cases hgrowth with
  | same heq => exact heq ▸ h
  | relisted i lead s b symbols he hclause hplain _ _ _ hread =>
    -- The list can be edited, so it is not one of the module.
    have hs : s.imports module = false := by
      rw [Bool.eq_false_iff]
      intro hs
      have heditable := target?_eq_none_iff.mp h.target (lead, s) (List.mem_of_getElem? he) hs
      rw [isEditable_of_plain hclause hplain] at heditable
      cases heditable
    obtain ⟨front, more, hentries, hset⟩ := exists_front_more he
    have hnew : (Outline.read new).entries = front ++ (lead, s.relist b symbols) :: more := by
      rw [hread]
      exact hset _
    exact h.of_replaced hentries hnew hs ((imports_relist hclause).trans hs)
  | inserted hnone hread =>
    have hother : (newStatement content other required).imports module = false := by
      rw [Bool.eq_false_iff]
      intro hnew
      -- The statement would be of the module, which has an import already.
      have heq : other = module := String.toList_inj.mp (module_of_imports hnew)
      obtain ⟨e, hmem, himports⟩ := h.imported
      rw [heq] at hnone
      rw [hnone e hmem] at himports
      cases himports
    have hentries : (Outline.read new).entries = (Outline.read content).entries ++
        [((insertionPoint content).1, newStatement content other required)] := by
      rw [hread]
      rfl
    exact h.of_appended hentries hother

end

end DesignTokens.Import
