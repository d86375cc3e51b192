import Mathlib.Data.List.Forall2
import DesignTokens.Proofs.Names.Order
import DesignTokens.Rule.RuleSet

/-! # Rule sets that were loaded

A loaded set has a rule for every entry of its configuration, in the order of the entries. A rule
has the pattern and the replacement of its entry, and every name that a set asks for, because a rule
requires it or because it is used, is an identifier.

## Main definitions

* `Rule.MadeFrom`, `Rule.CompiledFrom` - what a rule has of the entry that it was made from
* `RuleSet.AsksForIdentifiers` - whether every name that a set asks for is an identifier
* `RuleSet.modules` - the modules that a set asks for names from
* `RuleSet.LoadedFrom` - what a loaded set has of its configuration

## Main results

* `RuleSet.compiledFrom_of_compileFrom` - the rules are made from the entries one by one
* `RuleSet.asksForIdentifiers_of_load` - a set that was loaded asks for identifiers
-/

namespace DesignTokens

open Text

/-- What a rule has of the entry that it was made from. -/
structure Rule.MadeFrom (rule : Rule) (entry : Config.RuleEntry) : Prop where
  kind : rule.kind = entry.kind
  pattern : Pattern.read entry.pattern = .ok rule.pattern
  replacement : rule.replacement = entry.replacement
  appliesTo : rule.appliesTo = Names.ofList (entry.appliesTo.map normalizeExtension)
  requires : rule.requires = entry.requires.map fun r => ⟨r.module, Names.ofList r.symbols⟩
  symbols : ∀ r, entry.requires = some r → ∀ x ∈ r.symbols, isIdentifier x.toList = true

/-- The id of the rule that is made from an entry. -/
def RuleSet.idOf (entry : Config.RuleEntry) : String :=
  String.ofList (trim entry.id.toList)

/-- What a rule has of the entry that it was made from, its name and its texts included. -/
structure Rule.CompiledFrom (rule : Rule) (entry : Config.RuleEntry) : Prop
    extends rule.MadeFrom entry where
  id : rule.id = RuleSet.idOf entry
  description : rule.description = entry.description
  extensions : ∀ x, x ∈ rule.appliesTo ↔ ∃ e ∈ entry.appliesTo, normalizeExtension e = x

namespace RuleSet

theorem bind_eq_ok {ε α β : Type} {x : Except ε α} {f : α → Except ε β} {b : β} :
    (x >>= f) = .ok b ↔ ∃ a, x = .ok a ∧ f a = .ok b := by
  cases x with
  | error e => exact ⟨fun h => (nomatch h), fun ⟨_, h, _⟩ => (nomatch h)⟩
  | ok a => exact ⟨fun h => ⟨a, rfl, h⟩, fun ⟨_, h, h'⟩ => by cases h; exact h'⟩

theorem checkSymbol_eq_ok {module symbol : String} (h : checkSymbol module symbol = .ok ()) :
    isIdentifier symbol.toList = true := by
  rw [checkSymbol] at h
  split at h
  · assumption
  · cases h

theorem forM_checkSymbol_eq_ok {module : String} {symbols : List String} {u : Unit}
    (h : symbols.forM (checkSymbol module) = .ok u) :
    ∀ x ∈ symbols, isIdentifier x.toList = true := by
  induction symbols with
  | nil => simp
  | cons symbol symbols ih =>
    obtain ⟨_, hsymbol, hrest⟩ := bind_eq_ok.mp h
    intro x hx
    rcases List.mem_cons.mp hx with rfl | hx
    · exact checkSymbol_eq_ok hsymbol
    · exact ih hrest x hx

/-! ### Rules -/

theorem mem_appliesTo {entry : Config.RuleEntry} {x : String} :
    x ∈ Names.ofList (entry.appliesTo.map normalizeExtension) ↔
      ∃ e ∈ entry.appliesTo, normalizeExtension e = x := by
  rw [Names.mem_ofList, List.mem_map]

theorem compileRule_eq_ok {seen : List String} {index : Nat} {entry : Config.RuleEntry}
    {rule : Rule} (h : compileRule seen index entry = .ok rule) : rule.CompiledFrom entry := by
  rw [compileRule] at h
  simp only at h
  split at h
  · cases h
  · split at h
    · cases h
    · cases hread : Pattern.read entry.pattern with
      | error fault =>
        rw [hread] at h
        cases h
      | ok pattern =>
        simp only [hread] at h
        split at h
        · cases h
        · cases hrequires : entry.requires with
          | none =>
            rw [hrequires] at h
            cases h
            refine ⟨⟨rfl, hread, rfl, rfl, by rw [hrequires], ?_⟩, rfl, rfl, fun _ => mem_appliesTo⟩
            simp [hrequires]
          | some r =>
            rw [hrequires] at h
            obtain ⟨_, hsymbols, h⟩ := bind_eq_ok.mp h
            cases h
            refine ⟨⟨rfl, hread, rfl, rfl, by rw [hrequires], ?_⟩, rfl, rfl, fun _ => mem_appliesTo⟩
            intro r' hr'
            obtain rfl : r = r' := Option.some.inj (hrequires.symm.trans hr')
            exact forM_checkSymbol_eq_ok hsymbols

/-- The rules are made from the entries one by one. -/
theorem compiledFrom_of_compileFrom {seen : List String} {index : Nat}
    {entries : List Config.RuleEntry} {rules : List Rule}
    (h : compileFrom seen index entries = .ok rules) :
    List.Forall₂ (fun entry rule => rule.CompiledFrom entry) entries rules := by
  induction entries generalizing seen index rules with
  | nil =>
    cases h
    exact .nil
  | cons entry entries ih =>
    rw [compileFrom] at h
    obtain ⟨rule, hrule, h⟩ := bind_eq_ok.mp h
    obtain ⟨rest, hrest, h⟩ := bind_eq_ok.mp h
    cases h
    exact .cons (compileRule_eq_ok hrule) (ih hrest)

/-- Every rule is made from an entry. -/
theorem madeFrom_of_compileFrom {seen : List String} {index : Nat} {entries : List Config.RuleEntry}
    {rules : List Rule} (h : compileFrom seen index entries = .ok rules) :
    ∀ rule ∈ rules, ∃ entry ∈ entries, rule.MadeFrom entry := by
  intro rule hrule
  have hall := compiledFrom_of_compileFrom h
  obtain ⟨i, hi, rfl⟩ := List.getElem_of_mem hrule
  have hi' : i < entries.length := hall.length_eq ▸ hi
  exact ⟨entries[i], List.getElem_mem hi', (hall.get hi' hi).toMadeFrom⟩

/-- From every entry a rule is made. -/
theorem exists_madeFrom_of_compileFrom {seen : List String} {index : Nat}
    {entries : List Config.RuleEntry} {rules : List Rule}
    (h : compileFrom seen index entries = .ok rules) :
    ∀ entry ∈ entries, ∃ rule ∈ rules, rule.MadeFrom entry := by
  intro entry hentry
  have hall := compiledFrom_of_compileFrom h
  obtain ⟨i, hi, rfl⟩ := List.getElem_of_mem hentry
  have hi' : i < rules.length := hall.length_eq ▸ hi
  exact ⟨rules[i], List.getElem_mem hi', (hall.get hi hi').toMadeFrom⟩

theorem compile_single {entry : Config.RuleEntry} {rule : Rule}
    (hrule : compileRule [] 0 entry = .ok rule)
    (hcheck : checkConvergence [] ([rule].filter Rule.isReplacing) = .ok ()) :
    compile [entry] = .ok [rule] := by
  have hfrom : compileFrom [] 0 [entry] = .ok [rule] := by
    rw [compileFrom, hrule]
    rfl
  exact bind_eq_ok.mpr ⟨_, hfrom, bind_eq_ok.mpr ⟨(), hcheck, rfl⟩⟩

/-! ### Rule sets -/

/-- Every name that a rule of a set requires, and every name that the set wants imported where it is
used, is an identifier. -/
structure AsksForIdentifiers (set : RuleSet) : Prop where
  required : ∀ rule ∈ set.rules, ∀ r, rule.requires = some r →
    ∀ x ∈ r.symbols, isIdentifier x.toList = true
  used : ∀ usage ∈ set.usageImports, isIdentifier usage.symbol.toList = true

/-- The modules that a set asks for names from. -/
def modules (set : RuleSet) : List String :=
  (set.rules.filterMap (·.requires)).map (·.module) ++ set.usageImports.map (·.module)

theorem compileUsage_eq_ok {entry : Config.UsageEntry} {usage : UsageImport}
    (h : compileUsage entry = .ok usage) :
    usage = ⟨entry.symbol, entry.module⟩ ∧ isIdentifier usage.symbol.toList = true := by
  obtain ⟨_, hsymbol, h⟩ := bind_eq_ok.mp h
  obtain ⟨_, -, h⟩ := bind_eq_ok.mp h
  cases h
  exact ⟨rfl, checkSymbol_eq_ok hsymbol⟩

/-- The names to import where they are used are those of the entries, and are identifiers. -/
theorem mapM_compileUsage_eq_ok {entries : List Config.UsageEntry} {usages : List UsageImport}
    (h : entries.mapM compileUsage = .ok usages) :
    usages = entries.map (fun u => ⟨u.symbol, u.module⟩) ∧
      ∀ usage ∈ usages, isIdentifier usage.symbol.toList = true := by
  induction entries generalizing usages with
  | nil =>
    rw [List.mapM_nil] at h
    cases h
    simp
  | cons entry entries ih =>
    rw [List.mapM_cons] at h
    obtain ⟨usage, husage, h⟩ := bind_eq_ok.mp h
    obtain ⟨rest, hrest, h⟩ := bind_eq_ok.mp h
    cases h
    obtain ⟨hmade, hsymbol⟩ := compileUsage_eq_ok husage
    obtain ⟨hmades, hsymbols⟩ := ih hrest
    rw [List.map_cons, ← hmade, ← hmades]
    exact ⟨rfl, List.forall_mem_cons.mpr ⟨hsymbol, hsymbols⟩⟩

/-- The table that was checked is the one that is made. -/
theorem eq_of_checkNames {version : Nat} {names : ByName String} {table : CanonicalNames}
    (h : checkNames version names = .ok table) : table = ⟨version, names⟩ := by
  obtain ⟨_, -, h⟩ := bind_eq_ok.mp h
  obtain ⟨_, -, h⟩ := bind_eq_ok.mp h
  cases h
  rfl

/-- A table that was checked changes no canonical spelling. -/
theorem chain?_eq_none_of_checkNames {version : Nat} {names : ByName String}
    {table : CanonicalNames} (h : checkNames version names = .ok table) :
    CanonicalNames.chain? names = none := by
  obtain ⟨_, -, h⟩ := bind_eq_ok.mp h
  obtain ⟨_, hchain, -⟩ := bind_eq_ok.mp h
  rw [checkChain] at hchain
  split at hchain
  · cases hchain
  · assumption

/-- What a loaded set has of its configuration. -/
structure LoadedFrom (set : RuleSet) (config : Config) : Prop where
  rules : compileFrom [] 0 config.rules = .ok set.rules
  canonical : set.canonical = ⟨config.canonicalNames.version, config.canonicalNames.names⟩
  usages : config.imports.mapM compileUsage = .ok set.usageImports

theorem loadedFrom_of_load {config : Config} {set : RuleSet} (h : load config = .ok set) :
    set.LoadedFrom config := by
  obtain ⟨rules, hrules, h⟩ := bind_eq_ok.mp h
  obtain ⟨names, hnames, h⟩ := bind_eq_ok.mp h
  obtain ⟨_, -, h⟩ := bind_eq_ok.mp h
  obtain ⟨usages, husages, h⟩ := bind_eq_ok.mp h
  cases h
  obtain ⟨rules', hfrom, hrules⟩ := bind_eq_ok.mp hrules
  obtain ⟨_, -, hrules⟩ := bind_eq_ok.mp hrules
  cases hrules
  exact ⟨hfrom, eq_of_checkNames hnames, husages⟩

/-- A set that was loaded asks for identifiers. -/
theorem asksForIdentifiers_of_load {config : Config} {set : RuleSet} (h : load config = .ok set) :
    set.AsksForIdentifiers := by
  have hloaded := loadedFrom_of_load h
  refine ⟨?_, (mapM_compileUsage_eq_ok hloaded.usages).2⟩
  intro rule hrule r hr x hx
  obtain ⟨entry, -, hmade⟩ := madeFrom_of_compileFrom hloaded.rules rule hrule
  rw [hmade.requires] at hr
  obtain ⟨r', hr', rfl⟩ := Option.map_eq_some_iff.mp hr
  exact hmade.symbols r' hr' x (Names.mem_ofList.mp hx)

/-- A loaded set asks for names from the modules that its configuration has. -/
theorem LoadedFrom.mem_modules {config : Config} {set : RuleSet} {module : String}
    (h : set.LoadedFrom config) (hmodule : module ∈ set.modules) :
    (∃ entry ∈ config.rules, ∃ r, entry.requires = some r ∧ r.module = module) ∨
      ∃ usage ∈ config.imports, usage.module = module := by
  rw [modules, List.mem_append, List.mem_map, List.mem_map] at hmodule
  rcases hmodule with ⟨r, hr, rfl⟩ | ⟨usage, husage, rfl⟩
  · obtain ⟨rule, hrule, hr⟩ := List.mem_filterMap.mp hr
    obtain ⟨entry, hentry, hmade⟩ := madeFrom_of_compileFrom h.rules rule hrule
    rw [hmade.requires] at hr
    obtain ⟨r', hr', rfl⟩ := Option.map_eq_some_iff.mp hr
    exact .inl ⟨entry, hentry, r', hr', rfl⟩
  · rw [(mapM_compileUsage_eq_ok h.usages).1] at husage
    obtain ⟨entry, hentry, rfl⟩ := List.mem_map.mp husage
    exact .inr ⟨entry, hentry, rfl⟩

end RuleSet

end DesignTokens
