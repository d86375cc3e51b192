import DesignTokens.CommandLine.Reader
import DesignTokens.Config.Resolve
import DesignTokens.Report.Json
import DesignTokens.Report.Listing
import DesignTokens.Report.Markdown
import DesignTokens.Rule.Listing
import DesignTokens.Run

/-! # The program

What each command does, with any storage and any console. A command that cannot be carried out ends
with a message and the exit code one; arguments that are no command end with the code two.

## Main definitions

* `CommandLine.Console` - where a command writes to, and whom it asks
* `CommandLine.perform` - what a command does
* `CommandLine.program` - the whole program
-/

namespace DesignTokens.CommandLine

/-- Where a command writes lines to, and whom it asks. -/
structure Console (m : Type → Type) where
  out : String → m Unit
  err : String → m Unit
  /-- Asks a question that is answered with yes or no. -/
  ask : String → m Bool

/-- What a command works with. -/
structure Host (m : Type → Type) where
  storage : Storage m
  console : Console m

/-- The version of the program. -/
def versionLine : String := "token-refactor 0.1.0"

/-- How the program is called. -/
def usageLine : String :=
  "Usage: token-refactor <" ++ String.intercalate "|" (Verb.all.map Verb.word) ++ "|help> [options]"

/-- Why there is no command, in words. -/
def Stop.message : Stop → String
  | help => usageLine
  | version => versionLine
  | nothingGiven => usageLine
  | unknownCommand => "error: unrecognized subcommand"
  | unknownArgument => "error: unexpected argument"
  | badValue => "error: a value is required"
  | conflict => "error: an argument cannot be used with another or again"
  | unexpectedValue => "error: unexpected value"

/-- The options of a walk; given extensions take the place of the configured ones. -/
def walkOptions (target : Target) (files : Config.FilesEntry) : Except String Walk.Options :=
  let extensions :=
    if target.extensions.isEmpty then files.extensions else target.extensions
  match (Walk.Options.ofExtensions extensions).exclude (files.exclude ++ target.excludes) with
  | .error pattern => .error (Walk.Options.excludeMessage pattern)
  | .ok options => .ok { options with defaultExcludes := !target.noDefaultExcludes }

/-- The lines that a change is shown as before it is confirmed. -/
def changeListing (path : Path) (outcome : Fix.Outcome) : List String :=
  ("\nWould update: " ++ path.text) :: outcome.fired.map ("  rule " ++ ·) ++
    outcome.importsAdded.map fun (module, symbols) =>
      "  + import \x7b " ++ String.intercalate ", " symbols ++ " \x7d from '" ++ module ++ "'"

section Commands

variable {m : Type → Type} [Monad m]

/-- Work that may end with a message. -/
abbrev Work (m : Type → Type) := ExceptT String m

/-- A value, or the end with a message. -/
def orStop {ε α : Type} (message : ε → String) (value : Except ε α) : Work m α :=
  ExceptT.mk (pure (value.mapError message))

/-- Writes lines. -/
def Console.print (console : Console m) (lines : List String) : m Unit :=
  lines.forM console.out

/-- Shows a change and asks whether to write it. -/
def Console.confirm (console : Console m) (path : Path) (outcome : Fix.Outcome) : m Bool := do
  console.print (changeListing path outcome)
  console.ask "Write this file?"

/-- The configuration, and where it comes from. -/
def Host.config (host : Host m) (explicit : Option Path) (root : Path) :
    Work m (Config × Option Path) := do
  let found : Except ConfigError (Config × Option Path) ←
    (Config.resolve host.storage explicit root : m _)
  orStop (fun _ => "failed to load rule configuration") found

/-- The configuration and its rules. -/
def Host.rules (host : Host m) (explicit : Option Path) (root : Path) (verbose : Bool) :
    Work m (Config × RuleSet) := do
  let (config, origin) ← host.config explicit root
  let rules ← orStop (fun _ => "invalid rule configuration") (RuleSet.load config)
  if verbose then
    host.console.err ("info: Using " ++ (origin.map Path.text).getD "builtin rules" ++ " (" ++
      toString rules.rules.length ++ " rules, canonical names v" ++
      toString rules.canonical.version ++ ")")
  return (config, rules)

/-- Writes the document of a report, if it is wanted. -/
def Host.writeReport (host : Host m) (report : Report) (config : Config) (path : Path)
    (verbose : Bool) : Work m Unit := do
  let written : Except String Unit ←
    (host.storage.write path (report.markdown config.report).toList : m _)
  orStop (fun _ => "Failed to write report " ++ path.text) written
  if verbose then host.console.err ("info: Report written to " ++ path.text)

/-- Shows a report. -/
def Host.finish (host : Host m) (report : Report) (config : Config) (output : Output)
    (verbose : Bool) : Work m Unit := do
  match output.report with
  | some path => host.writeReport report config path verbose
  | none => pure ()
  if output.json then host.console.out report.json
  else host.console.print (report.listing verbose)

/-- Runs in a mode and shows the report. -/
def Host.run (host : Host m) (target : Target) (output : Output) (mode : Mode)
    (confirm : Path → Fix.Outcome → m Bool) : Work m Report := do
  let (config, rules) ← host.rules target.config target.root target.verbose
  let options ← orStop id (walkOptions target config.files)
  let found : Except Run.NoRoot Report ←
    (Run.Job.run ⟨target.root, mode, rules, options⟩ host.storage confirm : m _)
  let report ← orStop Run.NoRoot.message found
  host.finish report config output target.verbose
  return report

/-- Lists the files that a run would look at. -/
def Host.scan (host : Host m) (target : Target) : Work m Unit := do
  if !(← host.storage.isFolder target.root) then
    throw (Run.NoRoot.message ⟨target.root⟩)
  let (config, _) ← host.config target.config target.root
  let options ← orStop id (walkOptions target config.files)
  let (files, failures) ← (Run.walk host.storage options target.root : m _)
  host.console.print
    (("Would scan " ++ toString files.length ++ " files:") :: files.map ("  " ++ ·.text))
  failures.forM fun failure =>
    host.console.err ("warn: " ++ failure.file.text ++ ": " ++ failure.description)

/-- What a command does, and the exit code it ends with. -/
def perform (host : Host m) : Command → Work m UInt32
  | .audit target output => do
    discard (host.run target output .audit fun _ _ => pure true)
    return 0
  | .fix target output dryRun interactive => do
    let mode := if dryRun then Mode.dryRun else .fix
    let confirm := if interactive then host.console.confirm else fun _ _ => pure true
    let report ← host.run target output mode confirm
    return if report.hasFailures then 1 else 0
  | .rules config => do
    let (_, rules) ← host.rules config ⟨"."⟩ false
    host.console.print rules.listing
    return 0
  | .scan target => do
    host.scan target
    return 0

/-- The whole program: what is done with arguments, and the exit code. -/
def program (host : Host m) (arguments : List String) : m UInt32 := do
  match read arguments with
  | .error stop =>
    if stop = .help || stop = .version then
      host.console.out stop.message
      return 0
    else
      host.console.err stop.message
      return 2
  | .ok command =>
    match ← (perform host command).run with
    | .ok code => return code
    | .error message =>
      host.console.err ("Error: " ++ message)
      return 1

end Commands

end DesignTokens.CommandLine
