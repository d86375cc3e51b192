import DesignTokens.Config.Basic
import DesignTokens.Toml.Document

/-! # Configurations in documents

A configuration is written as a document. A record of it is a table with a key for each field, or
an array of the fields in their order: in a table no other keys may stand and an optional field may
be left out; in an array only fields with a default may be left out, at the end, and what follows
the last field does not count.

## Main definitions

* `Config.Decoder` - what reads a value of a document as part of a configuration
* `Config.ofEntries` - the configuration in the entries of a document
* `Config.read` - the configuration in the text of a document
-/

namespace DesignTokens.Config

open Toml

/-- What reads a value of a document; nothing if the value has another form. -/
abbrev Decoder (α : Type) := Value → Option α

namespace Decoder

variable {α β : Type}

/-- Strings. -/
def string : Decoder String
  | .string s => some s
  | _ => none

/-- Arrays of values of one form. -/
def list (item : Decoder α) : Decoder (List α)
  | .array _ items => items.mapM item
  | _ => none

/-- Whole numbers of 32 bits. -/
def word : Decoder Nat
  | .integer (some (.ofNat n)) => if n < 0x100000000 then some n else none
  | _ => none

/-- The key under which a date stands where a table is wanted. -/
def dateKey : String := "$__toml_private_datetime"

/-- Tables with values of one form under any keys. A date counts as a table with one entry. -/
def table (item : Decoder α) : Decoder (ByName α)
  | .table _ entries =>
    (entries.mapM fun entry => (item entry.2).map (entry.1, ·)).map ByName.ofList
  | .date text => (item (.string text)).map fun value => ByName.ofList [(dateKey, value)]
  | _ => none

/-- The words for the kinds of rules; a word may also be the only key of a table, with nothing as
its value. -/
def kind : Decoder Kind
  | .string word => ofWord word
  | .table _ [(word, .table _ [])] => ofWord word
  | .table _ [(word, .array _ [])] => ofWord word
  | _ => none
where
  /-- The kind that a word stands for. -/
  ofWord : String → Option Kind
    | "detect" => some .detect
    | "rewrite" => some .replace
    | _ => none

end Decoder

/-- The fields of a record as they stand in a document. -/
inductive Fields where
  | keyed (entries : Entries)
  | listed (items : List Value)

namespace Fields

variable {α : Type}

/-- The fields of a record with the given keys. -/
def of? (keys : List String) : Value → Option Fields
  | .table _ entries =>
    if entries.all fun entry => keys.contains entry.1 then some (.keyed entries) else none
  | .array _ items => some (.listed items)
  | _ => none

/-- The value of a field that has to be there, by its key and its place. -/
def required (fields : Fields) (key : String) (place : Nat) (item : Decoder α) : Option α :=
  match fields with
  | keyed entries => (entries.lookup key).bind item
  | listed items => items[place]?.bind item

/-- The value of a field that may be left out. -/
def withDefault (fields : Fields) (key : String) (place : Nat) (item : Decoder α) (default : α) :
    Option α :=
  let found :=
    match fields with
    | keyed entries => entries.lookup key
    | listed items => items[place]?
  match found with
  | some value => item value
  | none => some default

/-- The value of a field that may be left out of a table but not of an array. -/
def optional (fields : Fields) (key : String) (place : Nat) (item : Decoder α) :
    Option (Option α) :=
  match fields with
  | keyed entries =>
    match entries.lookup key with
    | some value => (item value).map some
    | none => some none
  | listed items => (items[place]?.bind item).map some

end Fields

/-- Reads the names that a rule requires. -/
def RequirementEntry.decode : Decoder RequirementEntry := fun value => do
  let fields ← Fields.of? ["module", "symbols"] value
  return {
    module := ← fields.required "module" 0 .string
    symbols := ← fields.required "symbols" 1 (.list .string) }

/-- Reads a rule. -/
def RuleEntry.decode : Decoder RuleEntry := fun value => do
  let fields ← Fields.of?
    ["id", "kind", "pattern", "replacement", "description", "applies_to", "requires"] value
  return {
    id := ← fields.required "id" 0 .string
    kind := ← fields.required "kind" 1 .kind
    pattern := ← fields.required "pattern" 2 .string
    replacement := ← fields.optional "replacement" 3 .string
    description := ← fields.withDefault "description" 4 .string ""
    appliesTo := ← fields.withDefault "applies_to" 5 (.list .string) []
    requires := ← fields.optional "requires" 6 RequirementEntry.decode }

/-- Reads the canonical spellings. -/
def CanonicalEntry.decode : Decoder CanonicalEntry := fun value => do
  let fields ← Fields.of? ["version", "names"] value
  return {
    version := ← fields.withDefault "version" 0 .word 1
    names := ← fields.withDefault "names" 1 (.table .string) [] }

/-- Reads a name that has to be imported where it is used. -/
def UsageEntry.decode : Decoder UsageEntry := fun value => do
  let fields ← Fields.of? ["symbol", "module"] value
  return {
    symbol := ← fields.required "symbol" 0 .string
    module := ← fields.required "module" 1 .string }

/-- Reads an import that may take names of another module. -/
def HostEntry.decode : Decoder HostEntry := fun value => do
  let fields ← Fields.of? ["module", "host", "anchor"] value
  return {
    module := ← fields.required "module" 0 .string
    host := ← fields.required "host" 1 .string
    anchor := ← fields.optional "anchor" 2 .string }

/-- Reads the fixed text of a report. -/
def ReportEntry.decode : Decoder ReportEntry := fun value => do
  let fields ← Fields.of? ["title", "reference", "actions", "checklist"] value
  return {
    title := ← fields.withDefault "title" 0 .string ({} : ReportEntry).title
    reference := ← fields.withDefault "reference" 1 (.list .string) []
    actions := ← fields.withDefault "actions" 2 (.list .string) []
    checklist := ← fields.withDefault "checklist" 3 (.list .string) [] }

/-- Reads which files to look at. -/
def FilesEntry.decode : Decoder FilesEntry := fun value => do
  let fields ← Fields.of? ["extensions", "exclude"] value
  return {
    extensions := ← fields.withDefault "extensions" 0 (.list .string) ({} : FilesEntry).extensions
    exclude := ← fields.withDefault "exclude" 1 (.list .string) [] }

/-- The configuration in the entries of a document. -/
def ofEntries (entries : Entries) : Option Config := do
  let fields ← Fields.of?
    ["rules", "canonical_names", "imports", "import_hosts", "report", "files"]
    (.table .header entries)
  return {
    rules := ← fields.withDefault "rules" 0 (.list RuleEntry.decode) []
    canonicalNames := ← fields.withDefault "canonical_names" 1 CanonicalEntry.decode {}
    imports := ← fields.withDefault "imports" 2 (.list UsageEntry.decode) []
    importHosts := ← fields.withDefault "import_hosts" 3 (.list HostEntry.decode) []
    report := ← fields.withDefault "report" 4 ReportEntry.decode {}
    files := ← fields.withDefault "files" 5 FilesEntry.decode {} }

/-- The configuration in the text of a document. -/
def read (t : Text) : Option Config :=
  match Toml.read t with
  | .ok entries => ofEntries entries
  | .error _ => none

end DesignTokens.Config
