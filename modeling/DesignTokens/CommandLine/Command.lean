import DesignTokens.Path

/-! # Commands

What the program can be asked to do, and the options that each command takes.

## Main definitions

* `CommandLine.Command` - a command with all its arguments
* `CommandLine.Switch` - an option, and how it is written
* `CommandLine.Verb` - the name of a command, and the options it takes
-/

namespace DesignTokens.CommandLine

/-- Which files a command is about, and which rules it uses. -/
structure Target where
  root : Path := ⟨"."⟩
  config : Option Path := none
  /-- The extensions that take the place of the configured ones, unless there are none. -/
  extensions : List String := []
  excludes : List String := []
  noDefaultExcludes : Bool := false
  verbose : Bool := false
  deriving Repr, DecidableEq

/-- How a command reports. -/
structure Output where
  /-- The file that the document is written to. -/
  report : Option Path := none
  json : Bool := false
  deriving Repr, DecidableEq

/-- A command with all its arguments. -/
inductive Command where
  /-- Report what the rules find. -/
  | audit (target : Target) (output : Output)
  /-- Fix files, and report what is left. -/
  | fix (target : Target) (output : Output) (dryRun interactive : Bool)
  /-- List the rules. -/
  | rules (config : Option Path)
  /-- List the files. -/
  | scan (target : Target)
  deriving Repr, DecidableEq

/-- An option. -/
inductive Switch where
  | config
  | ext
  | exclude
  | noDefaultExcludes
  | verbose
  | report
  | json
  | dryRun
  | interactive
  | help
  | version
  deriving Repr, DecidableEq

/-- What an option takes: nothing, a path that is not empty, or any texts, one each time it is
given. -/
inductive Switch.Value where
  | nothing
  | path
  | texts
  deriving Repr, DecidableEq

namespace Switch

/-- The name of an option after two dashes. -/
def long : Switch → String
  | config => "config"
  | ext => "ext"
  | exclude => "exclude"
  | noDefaultExcludes => "no-default-excludes"
  | verbose => "verbose"
  | report => "report"
  | json => "json"
  | dryRun => "dry-run"
  | interactive => "interactive"
  | help => "help"
  | version => "version"

/-- The letter of an option after one dash. -/
def short? : Switch → Option Char
  | exclude => some 'e'
  | verbose => some 'v'
  | interactive => some 'i'
  | help => some 'h'
  | version => some 'V'
  | _ => none

/-- What an option takes. -/
def value : Switch → Value
  | config | report => .path
  | ext | exclude => .texts
  | _ => .nothing

end Switch

/-- The name of a command. -/
inductive Verb where
  | audit
  | fix
  | rules
  | scan
  deriving Repr, DecidableEq

namespace Verb

/-- All names of commands. -/
def all : List Verb :=
  [audit, fix, rules, scan]

/-- The word for a command. -/
def word : Verb → String
  | audit => "audit"
  | fix => "fix"
  | rules => "rules"
  | scan => "scan"

/-- The command that a word stands for. -/
def ofWord? (word : String) : Option Verb :=
  all.find? (·.word = word)

/-- The options about files and rules. -/
def targetSwitches : List Switch :=
  [.config, .ext, .exclude, .noDefaultExcludes, .verbose]

/-- The options that a command takes. -/
def switches : Verb → List Switch
  | audit => targetSwitches ++ [.report, .json, .help]
  | fix => targetSwitches ++ [.report, .json, .dryRun, .interactive, .help]
  | rules => [.config, .help]
  | scan => targetSwitches ++ [.help]

/-- Whether a command takes a root. -/
def takesRoot (verb : Verb) : Bool :=
  verb ≠ rules

end Verb

end DesignTokens.CommandLine
