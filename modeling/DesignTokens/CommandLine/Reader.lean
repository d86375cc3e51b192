import DesignTokens.CommandLine.Command

/-! # Reading the command line

Arguments are read from left to right. An option that takes a value takes it from the same argument,
after an equals sign or right after its letter, or from the next argument, unless that one looks
like an option. Values are looked at only when the next option or root comes, so that an argument
that is not known at all is reported before a bad value in front of it. After two dashes everything
is taken as it is.

## Main definitions

* `CommandLine.Stop` - why there is no command
* `CommandLine.Given` - what was given so far
* `CommandLine.read` - the command that arguments stand for
-/

namespace DesignTokens.CommandLine

/-- Why there is no command. -/
inductive Stop where
  | help
  | version
  | nothingGiven
  | unknownCommand
  | unknownArgument
  | badValue
  | conflict
  | unexpectedValue
  deriving Repr, DecidableEq

/-- What was given so far. -/
structure Given where
  /-- The options with their values, in order; an option that takes nothing has an empty one. -/
  options : List (Switch × String) := []
  root : Option String := none
  deriving Repr, DecidableEq

namespace Given

/-- Whether an option was given. -/
def has (given : Given) (switch : Switch) : Bool :=
  given.options.any (·.1 = switch)

/-- The values of an option, in order. -/
def values (given : Given) (switch : Switch) : List String :=
  (given.options.filter (·.1 = switch)).map (·.2)

/-- The path that an option was given. -/
def path? (given : Given) (switch : Switch) : Option Path :=
  (given.values switch).head?.map Path.mk

/-- One more option. Only options that take texts may be repeated. -/
def add (given : Given) (switch : Switch) (value : String) : Except Stop Given :=
  if switch.value ≠ .texts && given.has switch then .error .conflict
  else if switch.value = .path && value.isEmpty then .error .badValue
  else .ok { given with options := given.options ++ [(switch, value)] }

/-- The root. -/
def addRoot (given : Given) (value : String) : Except Stop Given :=
  if value.isEmpty then .error .badValue else .ok { given with root := some value }

end Given

/-- What was read and not looked at yet. -/
inductive Pending where
  | nothing
  /-- An option whose value has to come. -/
  | awaiting (switch : Switch)
  | option (switch : Switch) (value : String)
  | root (value : String)
  deriving Repr, DecidableEq

/-- The state of reading. -/
structure Reading where
  given : Given := {}
  pending : Pending := .nothing
  /-- Whether the root was read. -/
  hasRoot : Bool := false
  /-- Whether two dashes were read. -/
  plain : Bool := false
  deriving Repr, DecidableEq

namespace Reading

/-- What was given once the pending part is looked at. -/
def settle (reading : Reading) : Except Stop Given :=
  match reading.pending with
  | .nothing => .ok reading.given
  | .awaiting _ => .error .badValue
  | .option switch value => reading.given.add switch value
  | .root value => reading.given.addRoot value

/-- A reading with nothing pending. -/
def settled (reading : Reading) : Except Stop Reading := do
  return { reading with given := ← reading.settle, pending := .nothing }

/-- Reads an option with the value in the same argument, if there is one. -/
def option (reading : Reading) (switch : Switch) (value : Option String) : Except Stop Reading :=
  match switch.value, value with
  | .nothing, some _ => .error .unexpectedValue
  | .nothing, none => do
    let reading ← reading.settled
    match switch with
    | .help => .error .help
    | .version => .error .version
    | _ => return { reading with given := ← reading.given.add switch "" }
  | _, some value => do
    let reading ← reading.settled
    return { reading with given := ← reading.given.add switch value }
  | _, none => do
    return { ← reading.settled with pending := .awaiting switch }

/-- Reads an option that is written with two dashes, which are left out here. -/
def long (switches : List Switch) (reading : Reading) (t : Text) : Except Stop Reading :=
  let (name, value) :=
    match Text.splitFirst? '=' t with
    | some (name, value) => (name, some (String.ofList value))
    | none => (t, none)
  match switches.find? (·.long.toList = name) with
  | some switch => reading.option switch value
  | none => .error .unknownArgument

/-- The value that follows the letter of an option, with or without an equals sign. -/
def attached? : Text → Option String
  | [] => none
  | '=' :: value => some (String.ofList value)
  | value => some (String.ofList value)

/-- Reads options that are written as letters after one dash. The first one that takes a value takes
what follows it. -/
def short (switches : List Switch) (reading : Reading) : Text → Except Stop Reading
  | [] => .ok reading
  | letter :: rest =>
    match switches.find? (·.short? = some letter) with
    | none => .error .unknownArgument
    | some switch =>
      if switch.value = .nothing then do
        short switches (← reading.option switch none) rest
      else reading.option switch (attached? rest)

/-- Reads an argument as it is: the value of an option that waits for one, or else the root. -/
def plainArgument (takesRoot : Bool) (reading : Reading) (argument : String) :
    Except Stop Reading :=
  match reading.plain, reading.pending with
  | false, .awaiting switch => .ok { reading with pending := .option switch argument }
  | _, _ =>
    if takesRoot && !reading.hasRoot then do
      return { ← reading.settled with pending := .root argument, hasRoot := true }
    else .error .unknownArgument

/-- Reads one argument. -/
def argument (verb : Verb) (reading : Reading) (argument : String) : Except Stop Reading :=
  if reading.plain then reading.plainArgument verb.takesRoot argument
  else
    match argument.toList with
    | ['-', '-'] => .ok { reading with plain := true }
    | '-' :: '-' :: t => long verb.switches reading t
    | '-' :: c :: t => short verb.switches reading (c :: t)
    | _ => reading.plainArgument verb.takesRoot argument

end Reading

/-- What is given to a command. -/
def readGiven (verb : Verb) (arguments : List String) : Except Stop Given := do
  let given ← (← arguments.foldlM (Reading.argument verb) {}).settle
  if given.has .dryRun && given.has .interactive then .error .conflict else .ok given

/-- The part about files and rules. -/
def Given.target (given : Given) : Target where
  root := ⟨given.root.getD "."⟩
  config := given.path? .config
  extensions := given.values .ext
  excludes := given.values .exclude
  noDefaultExcludes := given.has .noDefaultExcludes
  verbose := given.has .verbose

/-- The part about reports. -/
def Given.output (given : Given) : Output where
  report := given.path? .report
  json := given.has .json

/-- The command with what is given to it. -/
def Verb.command (verb : Verb) (given : Given) : Command :=
  match verb with
  | audit => .audit given.target given.output
  | fix => .fix given.target given.output (given.has .dryRun) (given.has .interactive)
  | rules => .rules (given.path? .config)
  | scan => .scan given.target

/-- The words that may stand where a command is wanted. -/
def isCommandWord (word : String) : Bool :=
  word = "help" || (Verb.ofWord? word).isSome

/-- What asking for help leads to: at most one command may be named. -/
def readHelp : List String → Stop
  | [] => .help
  | [word] => if isCommandWord word then .help else .unknownCommand
  | _ => .unknownCommand

/-- Why there is no command if the first argument is not the word for one. -/
def firstStop (argument : String) (rest : List String) : Stop :=
  match argument.toList with
  | ['-', '-'] =>
    match rest with
    | [] => .nothingGiven
    | word :: _ => if isCommandWord word then .unknownArgument else .unknownCommand
  | '-' :: '-' :: t => stopOf (Reading.long [.help, .version] {} t)
  | '-' :: c :: t => stopOf (Reading.short [.help, .version] {} (c :: t))
  | _ => .unknownCommand
where
  /-- Before the command every option ends the reading. -/
  stopOf : Except Stop Reading → Stop
    | .error stop => stop
    | .ok _ => .unknownArgument

/-- The command that arguments stand for. -/
def read : List String → Except Stop Command
  | [] => .error .nothingGiven
  | word :: rest =>
    match Verb.ofWord? word with
    | some verb => (readGiven verb rest).map verb.command
    | none => .error (if word = "help" then readHelp rest else firstStop word rest)

end DesignTokens.CommandLine
