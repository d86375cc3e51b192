import DesignTokens.Proofs.Fix.Unresolved
import DesignTokens.Proofs.Import.Frame
import Mathlib.Data.List.Perm.Subperm

/-! # Names that are bound once

Names wanted from a module are not bound yet when they are looked for, but they are looked for once,
before the first module. So a name is bound by a second statement only if it is added from two
modules. Without hosts that happens every time: each module's import has the name.

## Main definitions

* `Import.bindings` - how many statements of a text bind a name
* `Import.BindsFrom` - whether a text imports a name from a module
* `Fix.Accounts` - what holds of the statements that bind a name between two modules

## Main results

* `Import.Edit.bindings_le` - adding names makes one more statement bind them at most
* `Fix.boundOnce_newText` - which names are bound by two statements of a fixed text
* `Fix.not_boundOnce` - a name that is bound twice
-/

namespace DesignTokens

open Text

namespace Import

/-- How many import statements of a text bind a name. -/
def bindings (content : Text) (x : String) : Nat :=
  (statements content).countP fun p => p.statement.names.contains x.toList

/-- A text has an import of a module that binds a name. -/
def BindsFrom (content : Text) (module x : String) : Prop :=
  ∃ p ∈ statements content, p.statement.module = module.toList ∧ x.toList ∈ p.statement.names

section

variable {hosts : List Host} {content new : Text} {module other x : String} {required : Names}

theorem bindings_eq (content : Text) (x : String) : bindings content x =
    ((statements content).map (·.statement)).countP fun s => s.names.contains x.toList := by
  rw [List.countP_map]
  rfl

theorem bindsFrom_iff : BindsFrom content module x ↔
    ∃ s ∈ (statements content).map (·.statement), s.module = module.toList ∧
      x.toList ∈ s.names := by
  simp [BindsFrom]

theorem bindings_eq_zero_iff : bindings content x = 0 ↔ x ∉ boundNames content := by
  rw [bindings_eq, map_statement_statements, List.countP_eq_zero, mem_boundNames, Outline.Binds]
  simp only [List.forall_mem_map, List.contains_iff_mem, not_exists, not_and]

/-- The names of a list are names that its statement binds. -/
theorem mem_names_of_block {p : Placed} {block : Block} (h : p.block = .ok block)
    (hx : x ∈ block.symbols) : x.toList ∈ p.statement.names := by
  rw [Placed.block] at h
  split at h
  · cases h
  · rename_i b names hedit
    obtain ⟨hclause, hplain, rfl⟩ := editable_eq_ok_iff.mp hedit
    cases h
    obtain ⟨name, hname, rfl⟩ := List.mem_map.mp hx
    rw [names_of_plain hclause hplain, String.toList_ofList]
    exact List.mem_append_left _ hname

/-- Adding names makes one more statement bind each of them at most, and no other name. -/
theorem Edit.bindings_le (h : Edit hosts content new module required) (x : String) :
    bindings new x ≤ bindings content x + if x ∈ required then 1 else 0 := by
  cases h with
  | same hnew _ =>
    rw [hnew]
    exact Nat.le_add_right _ _
  | relisted i p block b symbols hplace _ _ _ _ _ hstatements _ hnames =>
    obtain ⟨front, more, hsplit, hset⟩ :=
      exists_front_more (show ((statements content).map (·.statement))[i]? = some p.statement by
        rw [List.getElem?_map, hplace]
        rfl)
    rw [bindings_eq, bindings_eq, hstatements, hset, hsplit]
    -- Only the statement at the changed place is counted differently, and once at most.
    simp only [List.countP_append, List.countP_cons, List.contains_iff_mem, hnames]
    split <;> split <;> split <;> grind
  | inserted s _ _ hstatements _ _ hnames =>
    have hx : x.toList ∈ s.names ↔ x ∈ required := by
      rw [hnames]
      simp [mem_sortSymbols, String.toList_inj]
    rw [bindings_eq, bindings_eq, hstatements]
    simp [List.countP_append, List.countP_cons, hx]

/-- What is imported from a module stays so. -/
theorem Edit.bindsFrom (h : Edit hosts content new module required)
    (hbinds : BindsFrom content other x) : BindsFrom new other x := by
  cases h with
  | same hnew _ => rwa [hnew]
  | relisted i p block b symbols hplace _ _ _ _ _ hstatements _ hnames =>
    rw [bindsFrom_iff] at hbinds ⊢
    obtain ⟨s, hs, hmodule, hx⟩ := hbinds
    obtain ⟨front, more, hsplit, hset⟩ :=
      exists_front_more (show ((statements content).map (·.statement))[i]? = some p.statement by
        rw [List.getElem?_map, hplace]
        rfl)
    rw [hstatements, hset]
    rw [hsplit] at hs
    rcases List.mem_append.mp hs with hs | hs
    · exact ⟨s, List.mem_append_left _ hs, hmodule, hx⟩
    · rcases List.mem_cons.mp hs with rfl | hs
      · exact ⟨p.statement.relist b symbols, by simp, hmodule, (hnames x).mpr (.inl hx)⟩
      · exact ⟨s, by simp [hs], hmodule, hx⟩
  | inserted s _ _ hstatements _ _ _ =>
    rw [bindsFrom_iff] at hbinds ⊢
    obtain ⟨s', hs', hbinds⟩ := hbinds
    exact ⟨s', by simp [hstatements, hs'], hbinds⟩

/-- Names of a module that has no host are imported from the module itself. -/
theorem Edit.bindsFrom_of_mem (h : Edit hosts content new module required) (hx : x ∈ required)
    (hhosts : ∀ host ∈ hosts, host.module ≠ module) : BindsFrom new module x := by
  have hsource : ∀ p block, Serves hosts content module p block →
      p.statement.module = module.toList := by
    intro p block hserves
    rcases hserves.source with hmodule | ⟨host, hhost, hof, -⟩
    · exact hmodule
    · exact absurd hof (hhosts host hhost)
  cases h with
  | same hnew hrequired =>
    subst hnew
    rcases hrequired with rfl | ⟨p, block, hserves, hall⟩
    · cases hx
    · exact ⟨p, hserves.mem, hsource p block hserves,
        mem_names_of_block hserves.list (hall x hx)⟩
  | relisted i p block b symbols hplace hserves _ _ _ _ hstatements _ hnames =>
    have hlt : i < ((statements content).map (·.statement)).length := by
      rw [List.length_map]
      exact (List.getElem?_eq_some_iff.mp hplace).1
    rw [bindsFrom_iff, hstatements]
    refine ⟨_, List.mem_set hlt _, hsource p block hserves, (hnames x).mpr (.inr hx)⟩
  | inserted s _ _ hstatements hmodule _ hnames =>
    rw [bindsFrom_iff, hstatements]
    refine ⟨s, by simp, hmodule, ?_⟩
    rw [hnames]
    exact List.mem_map_of_mem (mem_sortSymbols.mpr hx)

/-- A name that is imported from two modules is bound by two statements. -/
theorem one_lt_bindings (hne : module ≠ other) (h : BindsFrom content module x)
    (h' : BindsFrom content other x) : 1 < bindings content x := by
  obtain ⟨p, hp, hmodule, hx⟩ := h
  obtain ⟨p', hp', hmodule', hx'⟩ := h'
  have hdiff : p ≠ p' := by
    rintro rfl
    exact hne (String.toList_inj.mp (hmodule.symm.trans hmodule'))
  rw [bindings, List.countP_eq_length_filter]
  have hmem : ∀ q ∈ [p, p'], q ∈ (statements content).filter
      fun p => p.statement.names.contains x.toList := by
    simp [hp, hp', hx, hx']
  exact (List.subperm_of_subset (by simp [hdiff]) hmem).length_le

end

end Import

namespace Fix

open Import

/-! ### One module after the other -/

/-- What holds between two modules: no module was added twice, every statement that binds a name
more than the text `t` has was made for a module that the name was added from, and a module without
hosts has the names that were added from it. -/
structure Accounts (set : RuleSet) (t : Text) (state : Imports) : Prop where
  nodup : (state.added.map (·.1)).Nodup
  bindings_le : ∀ x, bindings state.text x ≤
    bindings t x + state.added.countP fun a => decide (x ∈ a.2)
  bindsFrom : ∀ a ∈ state.added, (∀ host ∈ set.importHosts, host.module ≠ a.1) →
    ∀ x ∈ a.2, BindsFrom state.text a.1 x

section

variable {set : RuleSet} {file : Path} {t : Text} {state : Imports} {need : String × Names}

/-- One step preserves what holds between steps. -/
theorem Accounts.addImport (h : Accounts set t state) (hnew : need.1 ∉ state.added.map (·.1))
    (hmodule : Quotable need.1) (hne : need.2 ≠ [])
    (hsymbols : ∀ x ∈ need.2, isIdentifier x.toList = true) :
    Accounts set t (addImport set file state need) := by
  cases hensure : ensure set.importHosts state.text need.1 need.2 with
  | error e =>
    rw [addImport_of_error hensure]
    exact ⟨h.nodup, h.bindings_le, h.bindsFrom⟩
  | ok next =>
    have hedit : Edit set.importHosts state.text next need.1 need.2 := by
      obtain ⟨block, hslot, rfl⟩ := exists_slot_of_ensure hne hsymbols hensure
      exact edit_of_slot hmodule hne hsymbols hslot
    -- When the text has all the names already, the step adds nothing.
    by_cases hsame : next = state.text
    · have hstep : Fix.addImport set file state need = state := by
        simp [Fix.addImport, hensure, hsame]
      rwa [hstep]
    · have hperm := ByName.perm_insert_of_new need.2 hnew
      rw [addImport_of_ok hensure hsame]
      refine ⟨?_, ?_, ?_⟩
      · rw [(hperm.map _).nodup_iff]
        exact List.nodup_cons.mpr ⟨hnew, h.nodup⟩
      · intro x
        rw [hperm.countP_eq, List.countP_cons]
        have hle := h.bindings_le x
        have hstep := hedit.bindings_le x
        simp only [decide_eq_true_eq]
        omega
      · intro a ha hhosts x hx
        rcases List.mem_cons.mp (hperm.mem_iff.mp ha) with rfl | ha
        · exact hedit.bindsFrom_of_mem hx hhosts
        · exact hedit.bindsFrom (h.bindsFrom a ha hhosts x hx)

/-- A step adds its own module, if any. -/
theorem mem_added_of_addImport {x : String} (hnew : need.1 ∉ state.added.map (·.1))
    (h : x ∈ (addImport set file state need).added.map (·.1)) :
    x = need.1 ∨ x ∈ state.added.map (·.1) := by
  rw [addImport] at h
  split at h
  · split at h
    · exact .inr h
    · exact List.mem_cons.mp (((ByName.perm_insert_of_new need.2 hnew).map _).mem_iff.mp h)
  · exact .inr h

/-- What holds after all steps. -/
theorem Accounts.foldl {needed : ByName Names} (h : Accounts set t state) (hvalid : Valid needed)
    (hnodup : (needed.map (·.1)).Nodup)
    (hnew : ∀ need ∈ needed, need.1 ∉ state.added.map (·.1)) :
    Accounts set t (needed.foldl (Fix.addImport set file) state) := by
  induction needed generalizing state with
  | nil => exact h
  | cons need needed ih =>
    obtain ⟨hmodule, hne, hsymbols⟩ := hvalid need List.mem_cons_self
    rw [List.map_cons, List.nodup_cons] at hnodup
    have hfresh := hnew need List.mem_cons_self
    refine ih (h.addImport hfresh hmodule hne hsymbols)
      (fun n hn => hvalid n (List.mem_cons_of_mem need hn)) hnodup.2 ?_
    intro n hn hmem
    rcases mem_added_of_addImport hfresh hmem with heq | hmem
    · exact hnodup.1 (heq ▸ List.mem_map_of_mem hn)
    · exact hnew n (List.mem_cons_of_mem need hn) hmem

end

/-! ### Fixed texts -/

/-- A name that more than one of several entries have is under two names. -/
theorem exists_lists_of_one_lt_countP {table : ByName Names} {x : String}
    (hnodup : (table.map (·.1)).Nodup) (h : 1 < table.countP fun a => decide (x ∈ a.2)) :
    ∃ module other, module ≠ other ∧ Lists table module x ∧ Lists table other x := by
  rw [List.countP_eq_length_filter] at h
  have hmem : ∀ a ∈ table.filter fun a => decide (x ∈ a.2), a ∈ table ∧ x ∈ a.2 := by
    intro a ha
    rw [List.mem_filter, decide_eq_true_eq] at ha
    exact ha
  have hsub := (List.filter_sublist (l := table) (p := fun a => decide (x ∈ a.2))).map (·.1)
  -- Two entries that have the name are under two names, as the names are distinct.
  match hlist : table.filter fun a => decide (x ∈ a.2) with
  | [] => simp [hlist] at h
  | [_] => simp [hlist] at h
  | a :: b :: more =>
    rw [hlist] at hmem hsub
    obtain ⟨ha, hxa⟩ := hmem a (by simp)
    obtain ⟨hb, hxb⟩ := hmem b (by simp)
    refine ⟨a.1, b.1, ?_, ⟨a.2, ha, hxa⟩, ⟨b.2, hb, hxb⟩⟩
    have hne := hsub.nodup hnodup
    simp only [List.map_cons, List.nodup_cons, List.mem_cons, not_or] at hne
    exact hne.1.1

section

variable {config : Config} {set : RuleSet} {path : Path} {t : Text}

theorem accounts_addImports (hset : set.AsksForIdentifiers)
    (hmodules : ∀ module ∈ set.modules, Quotable module) (path : Path) (t : Text) :
    Accounts set (settle set path.extension t).1
      (addImports set path (settle set path.extension t).1 (needs set path t)) := by
  have hstart : Accounts set (settle set path.extension t).1
      ⟨(settle set path.extension t).1, [], []⟩ := ⟨by simp, by simp, by simp⟩
  exact hstart.foldl (valid_needs hset hmodules) increasing_requirements.nodup (by simp)

/-- Where every name is bound by one import statement of the settled text at most, a name is bound
by two statements of the fixed text only if it was added from two modules; and it is, if the modules
have no hosts. -/
theorem boundOnce_newText (hload : RuleSet.load config = .ok set)
    (hmodules : ∀ module ∈ set.modules, Quotable module) (path : Path) (t : Text)
    (honce : ∀ x, bindings (settle set path.extension t).1 x ≤ 1) (x : String) :
    (1 < bindings (file set path t).newText x → ∃ module other, module ≠ other ∧
      Lists (file set path t).importsAdded module x ∧
      Lists (file set path t).importsAdded other x) ∧
    ∀ module other, module ≠ other → Lists (file set path t).importsAdded module x →
      Lists (file set path t).importsAdded other x →
      (∀ host ∈ set.importHosts, host.module ≠ module ∧ host.module ≠ other) →
      1 < bindings (file set path t).newText x := by
  have hset := RuleSet.asksForIdentifiers_of_load hload
  have haccounts := accounts_addImports hset hmodules path t
  have hcovers := covers_addImports hset hmodules path t
  constructor
  · intro htwice
    refine exists_lists_of_one_lt_countP haccounts.nodup ?_
    have hle := haccounts.bindings_le x
    by_cases hzero : bindings (settle set path.extension t).1 x = 0
    · exact Nat.lt_of_lt_of_le htwice (by rwa [hzero, Nat.zero_add] at hle)
    · -- A name that is bound is not to be imported.
      have hnone : ((addImports set path (settle set path.extension t).1
          (needs set path t)).added.countP fun a => decide (x ∈ a.2)) = 0 := by
        rw [List.countP_eq_zero]
        intro a ha hx
        have hlists : Lists (needs set path t) a.1 x :=
          ⟨a.2, hcovers.added a ha, of_decide_eq_true hx⟩
        exact hzero (bindings_eq_zero_iff.mpr (lists_requirements_iff.mp hlists).2.1)
      rw [hnone] at hle
      have honce := honce x
      rw [text_file] at htwice
      omega
  · rintro module other hne ⟨symbols, hmem, hx⟩ ⟨symbols', hmem', hx'⟩ hhosts
    exact one_lt_bindings hne
      (haccounts.bindsFrom _ hmem (fun host hhost => (hhosts host hhost).1) x hx)
      (haccounts.bindsFrom _ hmem' (fun host hhost => (hhosts host hhost).2) x hx')

end

/-! ### A name that is bound twice -/

/-- One name, wanted from two modules. -/
def rivals : Config where
  imports := [⟨"Hue", "a"⟩, ⟨"Hue", "b"⟩]

/-- That configuration, ready to run. -/
def rivalRules : RuleSet where
  rules := []
  canonical := ⟨1, []⟩
  usageImports := [⟨"Hue", "a"⟩, ⟨"Hue", "b"⟩]
  importHosts := []

theorem load_rivals : RuleSet.load rivals = .ok rivalRules := rfl

theorem settle_rivals :
    settle rivalRules (Path.extension ⟨"a.ts"⟩) "Hue".toList = ("Hue".toList, []) := by
  decide +kernel

theorem bindings_rivals (x : String) :
    bindings (settle rivalRules (Path.extension ⟨"a.ts"⟩) "Hue".toList).1 x ≤ 1 := by
  have hnone : statements "Hue".toList = [] := by
    decide +kernel
  rw [settle_rivals, bindings, hnone]
  exact Nat.zero_le 1

/-- The name is added from both modules. -/
theorem addImports_rivals :
    addImports rivalRules ⟨"a.ts"⟩ (settle rivalRules (Path.extension ⟨"a.ts"⟩) "Hue".toList).1
        (needs rivalRules ⟨"a.ts"⟩ "Hue".toList) =
      ⟨"import { Hue } from 'a';\nimport { Hue } from 'b';\nHue".toList,
        [("a", ["Hue"]), ("b", ["Hue"])], []⟩ := by
  have hneeds : needs rivalRules ⟨"a.ts"⟩ "Hue".toList = [("a", ["Hue"]), ("b", ["Hue"])] := by
    rw [needs, settle_rivals]
    decide +kernel
  have hfirst : ensure rivalRules.importHosts "Hue".toList "a" ["Hue"] =
      .ok "import { Hue } from 'a';\nHue".toList := by
    decide +kernel
  have hsecond : ensure rivalRules.importHosts "import { Hue } from 'a';\nHue".toList "b" ["Hue"] =
      .ok "import { Hue } from 'a';\nimport { Hue } from 'b';\nHue".toList := by
    decide +kernel
  rw [hneeds, settle_rivals, addImports, List.foldl_cons,
    addImport_of_ok hfirst (by decide), List.foldl_cons,
    addImport_of_ok hsecond (by decide)]
  rfl

/-- A name that is added from two modules is bound by both imports. -/
theorem boundOnce_newText_rivals :
    RuleSet.load rivals = .ok rivalRules ∧
      (∀ x, bindings (settle rivalRules (Path.extension ⟨"a.ts"⟩) "Hue".toList).1 x ≤ 1) ∧
      1 < bindings (file rivalRules ⟨"a.ts"⟩ "Hue".toList).newText "Hue" := by
  refine ⟨load_rivals, bindings_rivals, ?_⟩
  refine (boundOnce_newText load_rivals (by decide) ⟨"a.ts"⟩ "Hue".toList bindings_rivals "Hue").2
    "a" "b" (by decide) ⟨["Hue"], ?_, by decide⟩ ⟨["Hue"], ?_, by decide⟩ (by simp [rivalRules]) <;>
  · rw [importsAdded_file, addImports_rivals]
    decide

/-- A name may come to be bound twice: modules are looked at one after the other, and which names
are bound is looked up once, before the first of them. -/
theorem not_boundOnce :
    ¬ ∀ (config : Config) (set : RuleSet) (path : Path) (t : Text), RuleSet.load config = .ok set →
      (∀ module ∈ set.modules, Quotable module) →
      (∀ x, bindings (settle set path.extension t).1 x ≤ 1) →
      ∀ x, bindings (file set path t).newText x ≤ 1 := by
  intro h
  have honce := h rivals rivalRules ⟨"a.ts"⟩ "Hue".toList load_rivals (by decide) bindings_rivals
    "Hue"
  have htwice : bindings "import { Hue } from 'a';\nimport { Hue } from 'b';\nHue".toList "Hue" =
      2 := by
    decide +kernel
  rw [text_file, addImports_rivals, htwice] at honce
  exact absurd honce (by decide)

end Fix

end DesignTokens
