import DesignTokens.Proofs.Rule.Quoted

/-! # Faults of configurations

Loading stops at the first fault of a configuration. All its faults can be listed as well, one check
after the other and each for every entry that fails it: first those of each rule by itself, then the
rules that match what a later one puts in, then the table whose spellings have no pattern and the
canonical spellings that the table or a rule would change, and last the names that cannot be
imported or have no pattern. Loading stops at the first of this list, and it goes through if the
list is empty.

## Main definitions

* `RuleSet.Usable` - an entry that a rule can be made from
* `RuleSet.faults` - all faults of a configuration in the order of the checks
* `RuleSet.Valid` - a configuration without fault
* `RuleSet.StopsAtFirst` - what a computation that stops at the first of some faults comes to
* `RuleSet.Holds` - what a loaded set has of every entry of its configuration

## Main results

* `RuleSet.stopsAtFirst_load` - loading stops at the first fault
* `RuleSet.faults_eq_nil_iff` - the configurations without fault are the valid ones
-/

namespace DesignTokens

open Text

namespace Config.RuleEntry

/-- Whether an entry is for a rule that replaces its matches. -/
def replaces (entry : RuleEntry) : Bool :=
  entry.kind = .replace && entry.replacement.isSome

/-- Whether the pattern of an entry has a match in a text. -/
def hasMatch (entry : RuleEntry) (t : String) : Bool :=
  (Pattern.read entry.pattern).toOption.any (·.isMatch t.toList)

/-- The replacement of an entry, if it has no reference to a group. -/
def literal? (entry : RuleEntry) : Option String :=
  entry.replacement.filter fun r => !r.toList.contains '$'

end Config.RuleEntry

namespace RuleSet

/-- An entry that a rule can be made from. -/
structure Usable (entry : Config.RuleEntry) : Prop where
  id : (idOf entry).isEmpty = false
  pattern : ∃ pattern, Pattern.read entry.pattern = .ok pattern
  detects : entry.kind = .detect → entry.replacement = none ∧ entry.requires = none
  symbols : ∀ r, entry.requires = some r → ∀ x ∈ r.symbols, isIdentifier x.toList = true

/-! ### All faults -/

/-- A fault where something is the case. -/
def faultIf (p : Prop) [Decidable p] (fault : ConfigError) : List ConfigError :=
  if p then [fault] else []

/-- The names that cannot be imported from a module. -/
def symbolFaults (module : String) (symbols : List String) : List ConfigError :=
  (symbols.filter fun symbol => !isIdentifier symbol.toList).map (.invalidSymbol module)

/-- The faults of an entry that comes after the entries `before`. -/
def entryFaults (before : List Config.RuleEntry) (entry : Config.RuleEntry) : List ConfigError :=
  faultIf (idOf entry = "") (.emptyId before.length) ++
    (faultIf (idOf entry ∈ before.map idOf) (.duplicateId (idOf entry)) ++
      (faultIf ((Pattern.read entry.pattern).isOk = false) (.invalidPattern (idOf entry)) ++
        (faultIf (entry.kind = .detect ∧ (entry.replacement.isSome ∨ entry.requires.isSome))
            (.unexpectedReplacement (idOf entry)) ++
          entry.requires.elim [] fun r => symbolFaults r.module r.symbols)))

/-- The faults of each of some entries that come after the entries `before`. -/
def entriesFaults (before : List Config.RuleEntry) : List Config.RuleEntry → List ConfigError
  | [] => []
  | entry :: rest => entryFaults before entry ++ entriesFaults (before ++ [entry]) rest

/-- The entries that match what a later one, or the entry itself, puts in place of a match. All the
entries are of rules that replace. -/
def convergenceFaults (earlier : List Config.RuleEntry) : List Config.RuleEntry → List ConfigError
  | [] => []
  | later :: rest =>
    (later.literal?.elim [] fun replacement =>
      ((earlier ++ [later]).filter (·.hasMatch replacement)).map fun entry =>
        .nonConvergent (idOf later) replacement (idOf entry)) ++
      convergenceFaults (earlier ++ [later]) rest

/-- The entries of a table in increasing order of their names. -/
def inOrder (names : ByName String) : ByName String :=
  names.mergeSort fun a b => !nameLt b.1 a.1

/-- The fault of a text that is no pattern. -/
def patternFaults (id : String) (source : Text) : List ConfigError :=
  faultIf ((Pattern.read (String.ofList source)).isOk = false) (.invalidPattern id)

/-- The fault of a table whose spellings have no pattern. An empty table needs none. -/
def matcherFaults (names : ByName String) : List ConfigError :=
  if names.isEmpty then [] else patternFaults "canonical_names" (CanonicalNames.matcher names)

/-- The canonical spellings that the table itself would change. -/
def chainFaults (names : ByName String) : List ConfigError :=
  ((inOrder names).filter fun entry =>
    matches? (CanonicalNames.probe names) entry.2.toList).map fun entry =>
      .canonicalChain entry.1 entry.2

/-- The rules that match a canonical spelling. All the entries are of rules that replace. -/
def canonicalFaults (entries : List Config.RuleEntry) (names : ByName String) : List ConfigError :=
  (inOrder names).flatMap fun spelling =>
    (entries.filter (·.hasMatch spelling.2)).map fun entry =>
      .nonConvergent "canonical_names" spelling.2 (idOf entry)

/-- The faults of a name that has to be imported where it is used. -/
def usageFaults (usage : Config.UsageEntry) : List ConfigError :=
  symbolFaults usage.module [usage.symbol] ++
    patternFaults ("import:" ++ usage.symbol) (UsageImport.usagePattern usage.symbol)

/-- All faults of a configuration in the order of the checks. -/
def faults (config : Config) : List ConfigError :=
  (entriesFaults [] config.rules ++ convergenceFaults [] (config.rules.filter (·.replaces))) ++
    ((matcherFaults config.canonicalNames.names ++ chainFaults config.canonicalNames.names) ++
      (canonicalFaults (config.rules.filter (·.replaces)) config.canonicalNames.names ++
        config.imports.flatMap usageFaults))

/-- What an entry puts in place of a match, where that is literal, is matched by none of the entries
before it and not by the entry itself. -/
def Unmatched (before : List Config.RuleEntry) (later : Config.RuleEntry) : Prop :=
  later.replaces = true → ∀ replacement, later.replacement = some replacement →
    '$' ∉ replacement.toList → ∀ entry ∈ before ++ [later], entry.replaces = true →
      entry.hasMatch replacement = false

/-- A configuration without fault. -/
structure Valid (config : Config) : Prop where
  usable : ∀ entry ∈ config.rules, Usable entry
  distinct : (config.rules.map idOf).Nodup
  /-- No literal replacement is matched by its own rule or by one before it. -/
  converges : ∀ front later back, config.rules = front ++ later :: back → Unmatched front later
  /-- The spellings of the table have a pattern. -/
  matcher : config.canonicalNames.names ≠ [] →
    HasPattern (CanonicalNames.matcher config.canonicalNames.names)
  /-- The table leaves its canonical spellings alone. -/
  settled : ∀ spelling ∈ config.canonicalNames.names,
    matches? (CanonicalNames.probe config.canonicalNames.names) spelling.2.toList = false
  /-- No rule that replaces matches a canonical spelling. -/
  canonical : ∀ spelling ∈ config.canonicalNames.names, ∀ entry ∈ config.rules,
    entry.replaces = true → entry.hasMatch spelling.2 = false
  usages : ∀ usage ∈ config.imports, isIdentifier usage.symbol.toList = true ∧
    HasPattern (UsageImport.usagePattern usage.symbol)

/-- What a loaded set has of every entry of its configuration, in the order of the entries. -/
structure Holds (set : RuleSet) (config : Config) : Prop where
  rules : List.Forall₂ (fun entry rule => rule.CompiledFrom entry) config.rules set.rules
  canonical : set.canonical = ⟨config.canonicalNames.version, config.canonicalNames.names⟩
  usages : set.usageImports = config.imports.map fun u => ⟨u.symbol, u.module⟩
  hosts : set.importHosts = config.importHosts.map fun h => ⟨h.module, h.host, h.anchor⟩

/-! ### Stopping at the first fault -/

/-- A computation fails with the first of given faults and goes through if there is none. -/
def StopsAtFirst {ε α : Type} (faults : List ε) (x : Except ε α) : Prop :=
  ∀ e, x = .error e ↔ faults.head? = some e

section

variable {ε α β : Type} {faults more : List ε} {x : Except ε α} {f : α → Except ε β}

theorem stopsAtFirst_ok (a : α) : StopsAtFirst ([] : List ε) (.ok a) := by
  intro e
  simp

theorem stopsAtFirst_error {e : ε} (h : faults.head? = some e) :
    StopsAtFirst faults (.error e : Except ε α) := by
  intro e'
  rw [h, Option.some.injEq, Except.error.injEq]

theorem StopsAtFirst.exists_ok_iff (h : StopsAtFirst faults x) :
    (∃ a, x = .ok a) ↔ faults = [] := by
  cases x with
  | ok a =>
    have hnone : faults.head? = none := by
      cases hhead : faults.head? with
      | none => rfl
      | some e => cases (h e).mpr hhead
    simpa using hnone
  | error e =>
    have hsome := (h e).mp rfl
    constructor
    · rintro ⟨a, ha⟩
      cases ha
    · rintro rfl
      cases hsome

/-- Of two computations in a row the second one is reached if the first has no fault. -/
theorem StopsAtFirst.bind (hx : StopsAtFirst faults x)
    (hf : ∀ a, x = .ok a → StopsAtFirst more (f a)) : StopsAtFirst (faults ++ more) (x >>= f) := by
  cases x with
  | ok a =>
    obtain rfl := hx.exists_ok_iff.mp ⟨a, rfl⟩
    exact hf a rfl
  | error e =>
    apply stopsAtFirst_error
    rw [List.head?_append, (hx e).mp rfl, Option.some_or]

/-- A check in front of a computation. -/
theorem StopsAtFirst.check {p q : Prop} [Decidable p] [Decidable q] {fault : ConfigError}
    {faults : List ConfigError} {x : Except ConfigError α} (hiff : q ↔ p)
    (h : ¬ p → StopsAtFirst faults x) :
    StopsAtFirst (faultIf p fault ++ faults) (if q then .error fault else x) := by
  by_cases hp : p
  · rw [if_pos (hiff.mpr hp), faultIf, if_pos hp]
    exact stopsAtFirst_error rfl
  · rw [if_neg (hiff.not.mpr hp), faultIf, if_neg hp]
    exact h hp

theorem StopsAtFirst.forM {γ : Type} {xs : List γ} {check : γ → Except ε Unit}
    {faultsOf : γ → List ε} (h : ∀ x ∈ xs, StopsAtFirst (faultsOf x) (check x)) :
    StopsAtFirst (xs.flatMap faultsOf) (xs.forM check) := by
  induction xs with
  | nil => exact stopsAtFirst_ok ()
  | cons x xs ih =>
    exact (h x List.mem_cons_self).bind fun _ _ => ih fun y hy => h y (List.mem_cons_of_mem x hy)

theorem StopsAtFirst.map (h : StopsAtFirst faults x) (g : α → β) :
    StopsAtFirst faults (x >>= fun a => .ok (g a)) := by
  rw [← List.append_nil faults]
  exact h.bind fun a _ => stopsAtFirst_ok (g a)

theorem StopsAtFirst.mapM {γ : Type} {xs : List γ} {make : γ → Except ε α}
    {faultsOf : γ → List ε} (h : ∀ x ∈ xs, StopsAtFirst (faultsOf x) (make x)) :
    StopsAtFirst (xs.flatMap faultsOf) (xs.mapM make) := by
  induction xs with
  | nil => exact stopsAtFirst_ok []
  | cons x xs ih =>
    rw [List.mapM_cons, List.flatMap_cons]
    refine (h x List.mem_cons_self).bind fun a _ => ?_
    exact (ih fun y hy => h y (List.mem_cons_of_mem x hy)).map (a :: ·)

end

/-! ### Rules by themselves -/

theorem stopsAtFirst_checkSymbol (module symbol : String) :
    StopsAtFirst (symbolFaults module [symbol]) (checkSymbol module symbol) := by
  rw [checkSymbol]
  cases hsymbol : isIdentifier symbol.toList with
  | true =>
    rw [symbolFaults, List.filter_cons_of_neg (by simp [hsymbol])]
    exact stopsAtFirst_ok ()
  | false =>
    rw [symbolFaults, List.filter_cons_of_pos (by simp [hsymbol])]
    exact stopsAtFirst_error rfl

theorem symbolFaults_eq_flatMap (module : String) (symbols : List String) :
    symbolFaults module symbols = symbols.flatMap fun symbol => symbolFaults module [symbol] := by
  induction symbols with
  | nil => rfl
  | cons symbol symbols ih =>
    rw [List.flatMap_cons, ← ih, symbolFaults, symbolFaults, symbolFaults, ← List.map_append,
      ← List.filter_append]
    rfl

/-- Making a rule stops at the first fault of its entry. -/
theorem stopsAtFirst_compileRule {seen : List String} {before : List Config.RuleEntry}
    {entry : Config.RuleEntry} (hseen : ∀ id, id ∈ seen ↔ id ∈ before.map idOf) :
    StopsAtFirst (entryFaults before entry) (compileRule seen before.length entry) := by
  rw [compileRule, entryFaults]
  -- The faults stand in the order of the checks, and each check is reached if those before it pass.
  refine .check String.isEmpty_iff fun _ => ?_
  refine .check (List.contains_iff_mem.trans (hseen _)) fun _ => ?_
  cases hread : Pattern.read entry.pattern with
  | error fault =>
    exact stopsAtFirst_error rfl
  | ok pattern =>
    refine .check (by simp) fun _ => ?_
    cases hrequires : entry.requires with
    | none => exact stopsAtFirst_ok _
    | some r =>
      rw [Option.elim_some, symbolFaults_eq_flatMap]
      exact (StopsAtFirst.forM fun symbol _ => stopsAtFirst_checkSymbol r.module symbol).map _

/-- Making rules stops at the first fault of their entries. -/
theorem stopsAtFirst_compileFrom {seen : List String} {before entries : List Config.RuleEntry}
    (hseen : ∀ id, id ∈ seen ↔ id ∈ before.map idOf) :
    StopsAtFirst (entriesFaults before entries) (compileFrom seen before.length entries) := by
  induction entries generalizing seen before with
  | nil => exact stopsAtFirst_ok []
  | cons entry entries ih =>
    rw [compileFrom, entriesFaults]
    refine (stopsAtFirst_compileRule hseen).bind fun rule hrule => ?_
    -- The ids seen are those of the entries before, as each rule has the id of its entry.
    have hseen' : ∀ id, id ∈ rule.id :: seen ↔ id ∈ (before ++ [entry]).map idOf := by
      intro id
      rw [(compileRule_eq_ok hrule).id, List.map_append, List.mem_append, ← hseen]
      simp [or_comm]
    have hrest := ih hseen'
    rw [List.length_append, List.length_singleton] at hrest
    exact hrest.map (rule :: ·)

/-! ### Rules among each other -/

section

variable {entries earlier : List Config.RuleEntry} {rules : List Rule} {entry : Config.RuleEntry}
  {rule : Rule} {names : ByName String}

theorem isReplacing_eq (h : rule.CompiledFrom entry) :
    rule.isReplacing = entry.replaces := by
  rw [Rule.isReplacing, h.kind, h.replacement, Config.RuleEntry.replaces]

/-- Rules match what the entries match that they were made from. -/
theorem isMatch_eq (h : rule.CompiledFrom entry) (t : String) :
    rule.pattern.isMatch t.toList = entry.hasMatch t := by
  rw [Config.RuleEntry.hasMatch, h.pattern]
  rfl

theorem forall₂_isReplacing
    (h : List.Forall₂ (fun entry rule => rule.CompiledFrom entry) entries rules) :
    List.Forall₂ (fun entry rule => rule.CompiledFrom entry) (entries.filter (·.replaces))
      (rules.filter Rule.isReplacing) := by
  refine List.rel_filter (fun entry rule hrule => ?_) h
  exact iff_of_eq (congrArg (· = true) (isReplacing_eq hrule).symm)

/-- The first rule of some that matches a text is made from the first entry that does. -/
theorem head?_hasMatch (h : List.Forall₂ (fun entry rule => rule.CompiledFrom entry) entries rules)
    (t : String) (fault : String → ConfigError) :
    ((entries.filter (·.hasMatch t)).map fun entry => fault (idOf entry)).head? =
      (rules.find? (·.pattern.isMatch t.toList)).map fun rule => fault rule.id := by
  rw [List.head?_map, List.head?_filter]
  induction h with
  | nil => rfl
  | cons hrule _ ih =>
    rw [List.find?_cons, List.find?_cons, isMatch_eq hrule]
    split
    · rw [Option.map_some, Option.map_some, hrule.id]
    · exact ih

/-- The check between rules stops at the first of the faults between their entries. -/
theorem stopsAtFirst_checkConvergence {before : List Rule}
    (hbefore : List.Forall₂ (fun entry rule => rule.CompiledFrom entry) earlier before)
    (h : List.Forall₂ (fun entry rule => rule.CompiledFrom entry) entries rules) :
    StopsAtFirst (convergenceFaults earlier entries) (checkConvergence before rules) := by
  induction h generalizing earlier before with
  | nil => exact stopsAtFirst_ok ()
  | @cons entry rule entries rules hrule _ ih =>
    have hnext := List.rel_append hbefore (.cons hrule .nil)
    rw [checkConvergence, convergenceFaults, Rule.literalReplacement?, hrule.replacement,
      ← Config.RuleEntry.literal?]
    cases hliteral : entry.literal? with
    | none => exact ih hnext
    | some replacement =>
      -- A rule that finds the replacement is a fault, and the first such rule is the first fault.
      have hfaults := head?_hasMatch hnext replacement (.nonConvergent rule.id replacement)
      dsimp only [Option.elim_some]
      -- The check stops at this rule, or finds no fault in it and goes on.
      cases hfound : (before ++ [rule]).find? (·.pattern.isMatch replacement.toList) with
      | some found =>
        rw [hfound, Option.map_some] at hfaults
        apply stopsAtFirst_error
        rw [List.head?_append, ← hrule.id, hfaults, Option.some_or]
      | none =>
        rw [hfound, Option.map_none, List.head?_eq_none_iff] at hfaults
        rw [← hrule.id, hfaults, List.nil_append]
        exact ih hnext

end

/-! ### Canonical spellings -/

section

variable {entries : List Config.RuleEntry} {rules : List Rule} {names : ByName String}

theorem inOrder_eq (h : Names.Increasing (names.map (·.1))) : inOrder names = names := by
  refine List.mergeSort_of_pairwise ?_
  refine (List.pairwise_map.mp h).imp fun hlt => ?_
  rw [nameLt_asymm hlt]
  rfl

theorem mem_inOrder {entry : String × String} : entry ∈ inOrder names ↔ entry ∈ names :=
  List.mem_mergeSort

theorem stopsAtFirst_checkPattern (id : String) (source : Text) :
    StopsAtFirst (patternFaults id source) (checkPattern id source) := by
  rw [patternFaults, checkPattern]
  cases Pattern.read (String.ofList source) with
  | error fault => exact stopsAtFirst_error rfl
  | ok pattern => exact stopsAtFirst_ok ()

theorem stopsAtFirst_checkMatcher (names : ByName String) :
    StopsAtFirst (matcherFaults names) (checkMatcher names) := by
  rw [matcherFaults, checkMatcher]
  split
  · exact stopsAtFirst_ok ()
  · exact stopsAtFirst_checkPattern _ _

theorem stopsAtFirst_checkChain (h : Names.Increasing (names.map (·.1))) :
    StopsAtFirst (chainFaults names) (checkChain names) := by
  have hfaults : (chainFaults names).head? =
      (CanonicalNames.chain? names).map fun entry => .canonicalChain entry.1 entry.2 := by
    rw [chainFaults, inOrder_eq h, List.head?_map, List.head?_filter, CanonicalNames.chain?]
  rw [checkChain]
  cases hchain : CanonicalNames.chain? names with
  | some entry =>
    rw [hchain, Option.map_some] at hfaults
    exact stopsAtFirst_error hfaults
  | none =>
    rw [hchain, Option.map_none, List.head?_eq_none_iff] at hfaults
    rw [hfaults]
    exact stopsAtFirst_ok _

/-- The check of a table stops at its pattern, or at the first canonical spelling that the table
would change. -/
theorem stopsAtFirst_checkNames (version : Nat) (h : Names.Increasing (names.map (·.1))) :
    StopsAtFirst (matcherFaults names ++ chainFaults names) (checkNames version names) :=
  (stopsAtFirst_checkMatcher names).bind fun _ _ => (stopsAtFirst_checkChain h).map _

/-- The check between rules and canonical spellings stops at the first spelling that an entry
matches, with the first entry that does. -/
theorem stopsAtFirst_checkCanonical
    (h : List.Forall₂ (fun entry rule => rule.CompiledFrom entry) entries rules)
    (hnames : Names.Increasing (names.map (·.1))) :
    StopsAtFirst (canonicalFaults (entries.filter (·.replaces)) names)
      (checkCanonical rules names) := by
  rw [canonicalFaults, inOrder_eq hnames, checkCanonical]
  refine .forM fun spelling _ => ?_
  have hfaults := head?_hasMatch (forall₂_isReplacing h) spelling.2
    (.nonConvergent "canonical_names" spelling.2)
  rw [List.find?_filter] at hfaults
  simp only [Bool.decide_and, Bool.decide_eq_true] at hfaults
  cases hfound : rules.find? fun r => r.isReplacing && r.pattern.isMatch spelling.2.toList with
  | some found =>
    rw [hfound, Option.map_some] at hfaults
    exact stopsAtFirst_error hfaults
  | none =>
    rw [hfound, Option.map_none, List.head?_eq_none_iff] at hfaults
    rw [hfaults]
    exact stopsAtFirst_ok _

end

/-! ### Configurations -/

theorem stopsAtFirst_compileUsage (entry : Config.UsageEntry) :
    StopsAtFirst (usageFaults entry) (compileUsage entry) :=
  (stopsAtFirst_checkSymbol entry.module entry.symbol).bind fun _ _ =>
    (stopsAtFirst_checkPattern _ _).map _

/-- Loading stops at the first fault of a configuration. -/
theorem stopsAtFirst_load {config : Config}
    (hnames : Names.Increasing (config.canonicalNames.names.map (·.1))) :
    StopsAtFirst (faults config) (load config) := by
  rw [faults, load]
  refine .bind (.bind ?_ fun rules hrules => ?_) fun rules hrules => ?_
  · exact @stopsAtFirst_compileFrom [] [] config.rules (by simp)
  · have hconverge := @stopsAtFirst_checkConvergence _ [] _ [] .nil
      (forall₂_isReplacing (compiledFrom_of_compileFrom hrules))
    exact hconverge.map _
  · obtain ⟨rules', hfrom, hrules⟩ := bind_eq_ok.mp hrules
    obtain ⟨_, -, hrules⟩ := bind_eq_ok.mp hrules
    cases hrules
    refine (stopsAtFirst_checkNames _ hnames).bind fun table htable => ?_
    rw [eq_of_checkNames htable]
    refine (stopsAtFirst_checkCanonical (compiledFrom_of_compileFrom hfrom) hnames).bind
      fun _ _ => ?_
    exact (StopsAtFirst.mapM fun entry _ => stopsAtFirst_compileUsage entry).map _

/-! ### Configurations without fault -/

@[simp] theorem faultIf_eq_nil_iff {p : Prop} [Decidable p] {fault : ConfigError} :
    faultIf p fault = [] ↔ ¬ p := by
  rw [faultIf]
  split <;> simp_all

@[simp] theorem symbolFaults_eq_nil_iff {module : String} {symbols : List String} :
    symbolFaults module symbols = [] ↔ ∀ x ∈ symbols, isIdentifier x.toList = true := by
  rw [symbolFaults, List.map_eq_nil_iff, List.filter_eq_nil_iff]
  simp

@[simp] theorem patternFaults_eq_nil_iff {id : String} {source : Text} :
    patternFaults id source = [] ↔ HasPattern source := by
  rw [patternFaults, faultIf_eq_nil_iff, hasPattern_iff_isOk, Bool.not_eq_false]

theorem matcherFaults_eq_nil_iff {names : ByName String} :
    matcherFaults names = [] ↔ (names ≠ [] → HasPattern (CanonicalNames.matcher names)) := by
  rw [matcherFaults]
  cases names <;> simp

/-- An entry without fault is usable and has an id of its own. -/
theorem entryFaults_eq_nil_iff {before : List Config.RuleEntry} {entry : Config.RuleEntry} :
    entryFaults before entry = [] ↔ Usable entry ∧ idOf entry ∉ before.map idOf := by
  have hpattern : ¬ (Pattern.read entry.pattern).isOk = false ↔
      ∃ pattern, Pattern.read entry.pattern = .ok pattern := by
    cases Pattern.read entry.pattern <;> simp [Except.isOk, Except.toBool]
  have hsymbols : (entry.requires.elim [] fun r => symbolFaults r.module r.symbols) = [] ↔
      ∀ r, entry.requires = some r → ∀ x ∈ r.symbols, isIdentifier x.toList = true := by
    cases entry.requires <;> simp
  have hdetects : ¬ (entry.kind = .detect ∧ (entry.replacement.isSome ∨ entry.requires.isSome)) ↔
      (entry.kind = .detect → entry.replacement = none ∧ entry.requires = none) := by
    simp
  simp only [entryFaults, List.append_eq_nil_iff, faultIf_eq_nil_iff, hpattern, hsymbols, hdetects]
  constructor
  · rintro ⟨hid, hnew, hread, hdetect, hsymbol⟩
    exact ⟨⟨by simpa using hid, hread, hdetect, hsymbol⟩, hnew⟩
  · rintro ⟨⟨hid, hread, hdetect, hsymbol⟩, hnew⟩
    exact ⟨by simpa using hid, hnew, hread, hdetect, hsymbol⟩

theorem entriesFaults_eq_nil_iff {before entries : List Config.RuleEntry} :
    entriesFaults before entries = [] ↔ (∀ entry ∈ entries, Usable entry) ∧
      (entries.map idOf).Nodup ∧ ∀ entry ∈ entries, idOf entry ∉ before.map idOf := by
  induction entries generalizing before with
  | nil => simp [entriesFaults]
  | cons entry entries ih =>
    rw [entriesFaults, List.append_eq_nil_iff, entryFaults_eq_nil_iff, ih]
    simp only [List.map_append, List.map_cons, List.map_nil, List.mem_append, List.mem_singleton,
      List.nodup_cons, List.forall_mem_cons, not_or, forall_and, List.mem_map, not_exists, not_and]
    constructor
    · rintro ⟨⟨husable, hnew⟩, hall, hdistinct, hseen, hown⟩
      exact ⟨⟨husable, hall⟩, ⟨hown, hdistinct⟩, hnew, hseen⟩
    · rintro ⟨⟨husable, hall⟩, ⟨hown, hdistinct⟩, hnew, hseen⟩
      exact ⟨⟨husable, hnew⟩, hall, hdistinct, hseen, hown⟩

theorem literal?_eq_some_iff {entry : Config.RuleEntry} {replacement : String} :
    entry.literal? = some replacement ↔
      entry.replacement = some replacement ∧ '$' ∉ replacement.toList := by
  rw [Config.RuleEntry.literal?, Option.filter_eq_some_iff]
  simp

/-- To ask something of every entry and of those before it is to ask it of the first entry and,
with this one in front, of the rest. -/
theorem forall_split_cons {first : Config.RuleEntry} {entries : List Config.RuleEntry}
    {p : List Config.RuleEntry → Config.RuleEntry → Prop} :
    (∀ front later back, first :: entries = front ++ later :: back → p front later) ↔
      p [] first ∧ ∀ front later back, entries = front ++ later :: back →
        p (first :: front) later := by
  constructor
  · intro h
    refine ⟨h [] first entries rfl, fun front later back heq => ?_⟩
    exact h (first :: front) later back (by rw [heq]; rfl)
  · rintro ⟨hfirst, hlater⟩ front later back heq
    cases front with
    | nil =>
      cases heq
      exact hfirst
    | cons other front =>
      obtain ⟨rfl, hback⟩ := List.cons.inj heq
      exact hlater front later back hback

theorem unmatched_iff {before : List Config.RuleEntry} {later : Config.RuleEntry}
    (h : later.replaces = true) : Unmatched before later ↔
      (later.literal?.elim [] fun replacement =>
        ((before.filter (·.replaces) ++ [later]).filter (·.hasMatch replacement)).map fun entry =>
          ConfigError.nonConvergent (idOf later) replacement (idOf entry)) = [] := by
  have hfilter : before.filter (·.replaces) ++ [later] =
      (before ++ [later]).filter (·.replaces) := by
    rw [List.filter_append, List.filter_cons_of_pos h, List.filter_nil]
  rw [hfilter]
  cases hliteral : later.literal? with
  | none =>
    simp only [Option.elim_none, iff_true]
    intro _ replacement hreplacement hdollar
    rw [literal?_eq_some_iff.mpr ⟨hreplacement, hdollar⟩] at hliteral
    cases hliteral
  | some replacement =>
    obtain ⟨hreplacement, hdollar⟩ := literal?_eq_some_iff.mp hliteral
    rw [Option.elim_some, List.map_eq_nil_iff, List.filter_eq_nil_iff]
    simp only [List.mem_filter, and_imp, Bool.not_eq_true]
    constructor
    · intro hunmatched
      exact hunmatched h replacement hreplacement hdollar
    · intro hnot _ other hother _
      obtain rfl := Option.some.inj (hreplacement.symm.trans hother)
      exact hnot

/-- Among rules that replace there is no fault if no literal replacement is matched. -/
theorem convergenceFaults_eq_nil_iff (earlier entries : List Config.RuleEntry) :
    convergenceFaults (earlier.filter (·.replaces)) (entries.filter (·.replaces)) = [] ↔
      ∀ front later back, entries = front ++ later :: back →
        Unmatched (earlier ++ front) later := by
  induction entries generalizing earlier with
  | nil => simp [convergenceFaults]
  | cons first entries ih =>
    have hrest := ih (earlier ++ [first])
    simp only [List.append_assoc, List.singleton_append] at hrest
    rw [forall_split_cons, ← hrest, List.append_nil, List.filter_append]
    -- An entry that does not replace is not looked at, and nothing is asked of it.
    by_cases hfirst : first.replaces = true
    · rw [List.filter_cons_of_pos hfirst, List.filter_cons_of_pos hfirst, List.filter_nil,
        convergenceFaults, List.append_eq_nil_iff, unmatched_iff hfirst]
    · rw [List.filter_cons_of_neg hfirst, List.filter_cons_of_neg hfirst, List.filter_nil,
        List.append_nil]
      exact ⟨fun h => ⟨fun hreplaces => absurd hreplaces hfirst, h⟩, And.right⟩

/-- The configurations without fault are the valid ones. -/
theorem faults_eq_nil_iff {config : Config} : faults config = [] ↔ Valid config := by
  have hconverges := convergenceFaults_eq_nil_iff [] config.rules
  rw [List.filter_nil] at hconverges
  have hchain : chainFaults config.canonicalNames.names = [] ↔
      ∀ spelling ∈ config.canonicalNames.names,
        matches? (CanonicalNames.probe config.canonicalNames.names) spelling.2.toList = false := by
    rw [chainFaults, List.map_eq_nil_iff, List.filter_eq_nil_iff]
    simp only [mem_inOrder, Bool.not_eq_true]
  have hcanonical : canonicalFaults (config.rules.filter (·.replaces)) config.canonicalNames.names
      = [] ↔ ∀ spelling ∈ config.canonicalNames.names, ∀ entry ∈ config.rules,
        entry.replaces = true → entry.hasMatch spelling.2 = false := by
    rw [canonicalFaults, List.flatMap_eq_nil_iff]
    simp only [mem_inOrder, List.map_eq_nil_iff, List.filter_eq_nil_iff, List.mem_filter, and_imp,
      Bool.not_eq_true]
  have husages : config.imports.flatMap usageFaults = [] ↔
      ∀ usage ∈ config.imports, isIdentifier usage.symbol.toList = true ∧
        HasPattern (UsageImport.usagePattern usage.symbol) := by
    rw [List.flatMap_eq_nil_iff]
    simp [usageFaults]
  -- The faults are listed by kind, and the configuration is valid when no list has any.
  simp only [faults, List.append_eq_nil_iff, entriesFaults_eq_nil_iff, hconverges,
    matcherFaults_eq_nil_iff, hchain, hcanonical, husages]
  constructor
  · rintro ⟨⟨⟨husable, hdistinct, -⟩, hconverge⟩, ⟨hmatcher, hsettled⟩, hcanon, husage⟩
    exact ⟨husable, hdistinct, hconverge, hmatcher, hsettled, hcanon, husage⟩
  · rintro ⟨husable, hdistinct, hconverge, hmatcher, hsettled, hcanon, husage⟩
    exact ⟨⟨⟨husable, hdistinct, by simp⟩, hconverge⟩, ⟨hmatcher, hsettled⟩, hcanon, husage⟩

/-! ### What is loaded -/

/-- A loaded set has something of every entry of its configuration. -/
theorem holds_of_load {config : Config} {set : RuleSet} (h : load config = .ok set) :
    set.Holds config := by
  have hloaded := loadedFrom_of_load h
  refine ⟨compiledFrom_of_compileFrom hloaded.rules, hloaded.canonical,
    (mapM_compileUsage_eq_ok hloaded.usages).1, ?_⟩
  obtain ⟨_, -, h⟩ := bind_eq_ok.mp h
  obtain ⟨_, -, h⟩ := bind_eq_ok.mp h
  obtain ⟨_, -, h⟩ := bind_eq_ok.mp h
  obtain ⟨_, -, h⟩ := bind_eq_ok.mp h
  cases h
  rfl

/-- The configurations that load are those without fault; any other is refused for the first of its
faults. Every pattern counts, those that loading makes of spellings and names like those of the
rules. A set that was loaded has a rule for every entry, and the spellings, names and hosts of the
configuration, all in the order of the configuration. -/
theorem load_eq_error_iff {config : Config}
    (hnames : Names.Increasing (config.canonicalNames.names.map (·.1))) :
    ((∃ set, load config = .ok set) ↔ Valid config) ∧
      (∀ fault, load config = .error fault ↔ (faults config).head? = some fault) ∧
      ∀ set, load config = .ok set → set.Holds config := by
  have hstops := stopsAtFirst_load hnames
  refine ⟨?_, hstops, fun set hset => holds_of_load hset⟩
  rw [hstops.exists_ok_iff, faults_eq_nil_iff]

/-- Two rules of one name, of which the second cannot be read and is told to put something in place
of what it only reports. -/
def repeated : Config where
  rules := [
    { id := "colour", kind := .detect, pattern := "red" },
    { id := " colour", kind := .detect, pattern := "(", replacement := some "blue" }]
  imports := [{ symbol := "1", module := "theme" }]

/-- The name is what the configuration is refused for. -/
theorem load_repeated :
    Names.Increasing (repeated.canonicalNames.names.map (·.1)) ∧
      load repeated = .error (.duplicateId "colour") := by
  have hnames : Names.Increasing (repeated.canonicalNames.names.map (·.1)) := by decide
  refine ⟨hnames, ((load_eq_error_iff hnames).2.1 _).mpr ?_⟩
  decide

end RuleSet

end DesignTokens
