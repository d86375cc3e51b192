import DesignTokens.Proofs.Import.Insertion

/-! # The list that names are added to

Whatever way is taken, names are added to one list: that of the module, that of a host, or that of a
new import. After names are added the same list is found again.

## Main definitions

* `Import.slot` - the list that names wanted from a module are added to

## Main results

* `Import.ensure_eq_map_slot` - names are added to the slot, in every way
* `Import.exists_slot_of_ensure` - there is a slot where names are added
* `Import.slot_text_add` - the slot of a text with names added is the slot with these names
-/

namespace DesignTokens.Import

open Character Text

/-- The list that names wanted from a module are added to: that of the module, else that of a host,
else that of a new import. -/
def slot (hosts : List Host) (content : Text) (module : String) : Except Error Block :=
  match findBlock content module with
  | .error e => .error e
  | .ok (some block) => .ok block
  | .ok none =>
    match (hosts.filter (·.module = module)).findSome? (·.block? content) with
    | some block => .ok block
    | none => .ok (newBlock content module)

section

variable {hosts : List Host} {content : Text} {module : String}

/-- Names are added to the slot, in every way. -/
theorem ensure_eq_map_slot {required : Names} (hne : required ≠ [])
    (h : ∀ x ∈ required, isIdentifier x.toList = true) :
    ensure hosts content module required =
      (slot hosts content module).map fun block => (block.add required).text := by
  rw [ensure, if_neg (by simpa using hne), slot]
  cases hfind : findBlock content module with
  | error e => rfl
  | ok found =>
    cases found with
    | some block => exact congrArg Except.ok (merge_eq_text_add block required)
    | none =>
      simp only
      cases (hosts.filter (·.module = module)).findSome? (·.block? content) with
      | some block => exact congrArg Except.ok (merge_eq_text_add block required)
      | none => exact congrArg Except.ok (insert_eq_text_add hne h)

/-- Where names are added there is a slot, and it is the list that they are added to. -/
theorem exists_slot_of_ensure {new : Text} {required : Names} (hne : required ≠ [])
    (h : ∀ x ∈ required, isIdentifier x.toList = true)
    (hensure : ensure hosts content module required = .ok new) :
    ∃ block, slot hosts content module = .ok block ∧ new = (block.add required).text := by
  rw [ensure_eq_map_slot hne h] at hensure
  cases hslot : slot hosts content module with
  | error e =>
    rw [hslot] at hensure
    cases hensure
  | ok block =>
    rw [hslot] at hensure
    exact ⟨block, rfl, (Except.ok.inj hensure).symm⟩

/-- Where names cannot be added there is no slot. -/
theorem slot_eq_error_of_ensure {e : Error} {required : Names} (hne : required ≠ [])
    (h : ∀ x ∈ required, isIdentifier x.toList = true)
    (hensure : ensure hosts content module required = .error e) :
    slot hosts content module = .error e := by
  rw [ensure_eq_map_slot hne h] at hensure
  cases hslot : slot hosts content module with
  | error e' =>
    rw [hslot] at hensure
    exact congrArg _ (Except.error.inj hensure)
  | ok block =>
    rw [hslot] at hensure
    cases hensure

theorem Host.block?_eq_some_iff {host : Host} {block : Block} :
    host.block? content = some block ↔ ∃ i, (Outline.read content).target? host.host = some i ∧
      (Outline.read content).blockAt? i = some block ∧ ∀ x ∈ host.anchor, x ∈ block.symbols := by
  rw [Host.block?]
  rcases findBlock_cases content host.host with ⟨i, block', htarget, hblock, hfind⟩ |
    ⟨htarget, -, hfind⟩ | ⟨htarget, -, e, hfind⟩
  · rw [hfind]
    have hall : host.anchor.all (block'.symbols.contains ·) = true ↔
        ∀ x ∈ host.anchor, x ∈ block'.symbols := by
      cases host.anchor <;> simp
    simp only [htarget, Option.some.injEq, exists_eq_left', hblock]
    by_cases hanchor : ∀ x ∈ host.anchor, x ∈ block'.symbols
    · rw [if_pos (hall.mpr hanchor), Option.some.injEq]
      exact ⟨fun h => ⟨h, h ▸ hanchor⟩, fun h => h.1⟩
    · rw [if_neg (mt hall.mp hanchor)]
      constructor
      · intro h
        cases h
      · rintro ⟨rfl, h⟩
        exact absurd h hanchor
  · simp [hfind, htarget]
  · simp [hfind, htarget]

/-- The slot is a list of the text or the list of a new import. -/
theorem slot_eq_ok {block : Block} (h : slot hosts content module = .ok block) :
    (∃ i, (Outline.read content).blockAt? i = some block) ∨ block = newBlock content module := by
  rw [slot] at h
  rcases findBlock_cases content module with ⟨i, block', -, hblock, hfind⟩ | ⟨-, -, hfind⟩ |
    ⟨-, -, e, hfind⟩ <;> rw [hfind] at h
  · cases h
    exact .inl ⟨i, hblock⟩
  · simp only at h
    split at h
    · rename_i block' hhost
      cases h
      obtain ⟨host, -, hhost⟩ := List.exists_of_findSome?_eq_some hhost
      obtain ⟨i, -, hblock, -⟩ := Host.block?_eq_some_iff.mp hhost
      exact .inl ⟨i, hblock⟩
    · cases h
      exact .inr rfl
  · cases h

end

/-! ### The slot of an edited text -/

namespace Outline.Added

variable {o o' : Outline} {i : Nat} {block' : Block}

theorem target?_eq (h : Added o o' i block') (module : String) :
    o'.target? module = o.target? module := by
  have hzip : ∀ es : List (Text × Statement),
      es.map (fun e => e.2.imports module && e.2.isEditable) =
        List.zipWith and (es.map (·.2.imports module)) (es.map (·.2.isEditable)) := by
    intro es
    induction es with
    | nil => rfl
    | cons e es ih => simp only [List.map_cons, List.zipWith_cons_cons, ih]
  have hmap : o'.entries.map (fun e => e.2.imports module && e.2.isEditable) =
      o.entries.map (fun e => e.2.imports module && e.2.isEditable) := by
    rw [hzip, hzip, h.imports module, h.isEditable]
  have hidx := congrArg (List.findIdx? id) hmap
  rwa [List.findIdx?_map, List.findIdx?_map] at hidx

theorem imports_eq_false (h : Added o o' i block') {module : String}
    (hnone : ∀ e ∈ o.entries, e.2.imports module = false) :
    ∀ e ∈ o'.entries, e.2.imports module = false := by
  intro e he
  have hmem : e.2.imports module ∈ o'.entries.map (·.2.imports module) := List.mem_map_of_mem he
  rw [h.imports module] at hmem
  obtain ⟨e', he', heq⟩ := List.mem_map.mp hmem
  rw [← heq]
  exact hnone e' he'

end Outline.Added

section

variable {hosts : List Host} {content new : Text} {module source : String} {required : Names}
  {i : Nat} {block block' : Block}

theorem findBlock_of_target? (htarget : (Outline.read content).target? module = some i)
    (hblock : (Outline.read content).blockAt? i = some block) :
    findBlock content module = .ok (some block) := by
  rcases findBlock_cases content module with ⟨j, block', htarget', hblock', hfind⟩ |
    ⟨htarget', -, -⟩ | ⟨htarget', -, -⟩
  · rw [htarget, Option.some.injEq] at htarget'
    subst htarget'
    rw [hblock, Option.some.injEq] at hblock'
    rw [hfind, hblock']
  · rw [htarget] at htarget'
    cases htarget'
  · rw [htarget] at htarget'
    cases htarget'

theorem findBlock_eq_ok_none_iff : findBlock content module = .ok none ↔
    ∀ e ∈ (Outline.read content).entries, e.2.imports module = false := by
  rcases findBlock_cases content module with ⟨j, block', htarget', -, hfind⟩ |
    ⟨-, hall, hfind⟩ | ⟨-, hall, e, hfind⟩
  · rw [hfind]
    refine ⟨fun h => (nomatch h), fun hall => ?_⟩
    obtain ⟨hlt, htrue, -⟩ := List.findIdx?_eq_some_iff_getElem.mp htarget'
    rw [hall _ (List.getElem_mem hlt)] at htrue
    cases htrue
  · exact ⟨fun _ => hall, fun _ => hfind⟩
  · rw [hfind]
    exact ⟨fun h => (nomatch h), fun h => absurd h hall⟩

/-- A host offers the same list as before, or the list that names were added to. -/
theorem Host.block?_of_added (host : Host) (hblock : (Outline.read content).blockAt? i = some block)
    (hadd : (Outline.read content).Added (Outline.read new) i block')
    (hsub : ∀ x ∈ block.symbols, x ∈ block'.symbols) :
    (host.block? content = none → host.block? new = none ∨ host.block? new = some block') ∧
      ((Outline.read content).target? host.host = some i → host.block? content = some block →
        host.block? new = some block') := by
  constructor
  · intro hnone
    cases hnew : host.block? new with
    | none => exact .inl rfl
    | some block₁ =>
      obtain ⟨j, htarget, hblock₁, hanchor⟩ := Host.block?_eq_some_iff.mp hnew
      rw [hadd.target?_eq] at htarget
      by_cases hj : j = i
      · subst hj
        rw [hadd.block] at hblock₁
        exact .inr hblock₁.symm
      · -- The list is another one, so it has the names it had, and the host offered it before.
        have hsymbols := hadd.other j hj
        rw [hblock₁, Option.map_some] at hsymbols
        obtain ⟨block₀, hblock₀, heq⟩ := Option.map_eq_some_iff.mp hsymbols.symm
        have hsome : host.block? content = some block₀ :=
          Host.block?_eq_some_iff.mpr ⟨j, htarget, hblock₀, heq ▸ hanchor⟩
        rw [hnone] at hsome
        cases hsome
  · intro htarget hsome
    obtain ⟨j, htarget', hblock', hanchor⟩ := Host.block?_eq_some_iff.mp hsome
    refine Host.block?_eq_some_iff.mpr ⟨i, ?_, hadd.block, fun x hx => hsub x (hanchor x hx)⟩
    rw [hadd.target?_eq, htarget]

theorem findSome?_of_forall {α β : Type} {f : α → Option β} {l₁ l₂ : List α} {a : α} {b : β}
    (h₁ : ∀ x ∈ l₁, f x = none ∨ f x = some b) (h : f a = some b) :
    (l₁ ++ a :: l₂).findSome? f = some b := by
  induction l₁ with
  | nil => simp [h]
  | cons x l₁ ih =>
    rcases h₁ x List.mem_cons_self with hx | hx
    · rw [List.cons_append, List.findSome?_cons, hx]
      exact ih fun y hy => h₁ y (List.mem_cons_of_mem x hy)
    · rw [List.cons_append, List.findSome?_cons, hx]

theorem target?_withEmptyImport
    (hnone : ∀ e ∈ (Outline.read content).entries, e.2.imports module = false) :
    (withEmptyImport content module).target? module =
      some (Outline.read content).entries.length := by
  -- No statement before the new one imports the module.
  have hold : (Outline.read content).entries.findIdx?
      (fun e => e.2.imports module && e.2.isEditable) = none := by
    rw [List.findIdx?_eq_none_iff]
    intro e he
    rw [hnone e he, Bool.false_and]
  have himports : (emptyImport (newQuote content) (newSemicolon content) module).imports module =
      true := by
    have htype : Statement.startsWithType emptyBraces.clause = false := by decide
    simp [Statement.imports, emptyImport, Statement.isTypeOnly, htype]
  have heditable : (emptyImport (newQuote content) (newSemicolon content) module).isEditable =
      true := by
    rw [Statement.isEditable, emptyImport, editable_eq_ok_iff.mpr ⟨rfl, emptyBraces_plain, rfl⟩]
    rfl
  simp [Outline.target?, withEmptyImport, withStatement, List.findIdx?_append, hold, himports,
    heditable]

/-- A list to which names were added is the list of the same module again. -/
theorem findBlock_text_add (hfind : findBlock content source = .ok (some block))
    (hrequired : ∀ x ∈ required, isIdentifier x.toList = true)
    (halias : ∀ x ∈ required, hasAlias x.toList = false) :
    findBlock (block.add required).text source = .ok (some (block.add required)) := by
  rcases findBlock_cases content source with ⟨i, found, htarget, hblock, hfound⟩ |
    ⟨-, -, hfound⟩ | ⟨-, -, e, hfound⟩
  · rw [hfind] at hfound
    cases hfound
    have hadd := Outline.added_read hblock hrequired halias
    exact findBlock_of_target? ((hadd.target?_eq source).trans htarget) hadd.block
  · cases hfind.symm.trans hfound
  · cases hfind.symm.trans hfound

/-- The list of a new import, which is the first of its module, is the list of the module. -/
theorem findBlock_newBlock_add (hmodule : Quotable module)
    (hnone : findBlock content module = .ok none)
    (hrequired : ∀ x ∈ required, isIdentifier x.toList = true)
    (halias : ∀ x ∈ required, hasAlias x.toList = false) :
    findBlock ((newBlock content module).add required).text module =
      .ok (some ((newBlock content module).add required)) := by
  have hread := read_withEmptyImport content hmodule
  have hblock : (Outline.read (withEmptyImport content module).text).blockAt?
      (Outline.read content).entries.length = some (newBlock content module) := by
    rw [hread]
    exact blockAt?_withEmptyImport
  have htarget := target?_withEmptyImport (findBlock_eq_ok_none_iff.mp hnone)
  rw [← hread] at htarget
  exact findBlock_text_add (findBlock_of_target? htarget hblock) hrequired halias

/-- The slot of a text with names added is the slot with these names. -/
theorem slot_text_add (hmodule : Quotable module)
    (h : ∀ x ∈ required, isIdentifier x.toList = true)
    (halias : ∀ x ∈ required, hasAlias x.toList = false)
    (hslot : slot hosts content module = .ok block) :
    slot hosts (block.add required).text module = .ok (block.add required) := by
  rw [slot] at hslot
  -- The module has a block, or none of its own, or one that cannot be edited.
  rcases findBlock_cases content module with ⟨i, block', htarget, hblock, hfind⟩ |
    ⟨-, hnone, hfind⟩ | ⟨-, -, e, hfind⟩ <;> rw [hfind] at hslot
  · cases hslot
    rw [slot, findBlock_text_add hfind h halias]
  · simp only at hslot
    split at hslot
    · rename_i block' hhost
      cases hslot
      obtain ⟨l₁, host, l₂, hhosts, hsome, hbefore⟩ := List.findSome?_eq_some_iff.mp hhost
      obtain ⟨i, htarget, hblock, -⟩ := Host.block?_eq_some_iff.mp hsome
      have hadd := Outline.added_read hblock h halias
      have hstep := fun host => Host.block?_of_added host hblock hadd
        fun x hx => Block.mem_symbols_add.mpr (.inl hx)
      rw [slot, findBlock_eq_ok_none_iff.mpr (hadd.imports_eq_false hnone)]
      simp only
      rw [hhosts, findSome?_of_forall (fun x hx => (hstep x).1 (hbefore x hx))
        ((hstep host).2 htarget hsome)]
    · cases hslot
      rw [slot, findBlock_newBlock_add hmodule hfind h halias]
  · cases hslot

end

end DesignTokens.Import
