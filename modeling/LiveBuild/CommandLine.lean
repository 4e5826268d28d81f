import LiveBuild.Log
import LiveBuild.Path.Basic

/-!
# Command lines

A command line has two levels: options of the whole program, and behind a subcommand that
subcommand's files. Global options are understood on both, each at most once a level, and what the
second level says of them counts. Two dashes end the options of a level.
-/

namespace LiveBuild

inductive Command where
  | build (files : List Path)
  | watch (files : List Path)
  | diff (previous current : Path)
deriving DecidableEq, Repr, Inhabited

structure CommandLine where
  config : Option Path := none
  logLevel : Option LogLevel := none
  isDryRun : Bool := false
  command : Command
deriving DecidableEq, Repr, Inhabited

/-- Why arguments do not make up a run. -/
inductive UsageError where
  | help
  | version
  | nothingGiven
  | missingSubcommand
  | unknownSubcommand
  | unknownArgument
  | missingArgument
  | unusableValue
  | repeatedOption
  /-- An option that takes no value was given one. -/
  | unexpectedValue
deriving DecidableEq, Repr, Inhabited

namespace CommandLine

inductive Subcommand where
  | build
  | watch
  | diff
deriving DecidableEq, Repr

def Subcommand.ofName? : String → Option Subcommand
  | "build" => some build
  | "watch" => some watch
  | "diff" => some diff
  | _ => none

def isSubcommandName (name : String) : Bool :=
  name == "help" || (Subcommand.ofName? name).isSome

inductive Level where
  | program
  | subcommand (subcommand : Subcommand)
deriving DecidableEq, Repr

def Level.isProgram (level : Level) : Bool := level == .program

inductive Slot where
  | config
  | logLevel
  | files
deriving DecidableEq, Repr

/-- What was read of one level so far. Values wait until the next argument shows that they are
complete; only then are they looked at. -/
structure Reading where
  config : Option Path := none
  logLevel : Option LogLevel := none
  isDryRun : Bool := false
  files : List Path := []
  waiting : Option (Slot × List String) := none
  /-- Whether two dashes have ended the options. -/
  isTrailing : Bool := false
deriving Repr, Inhabited

namespace Reading

/-- Look at the values of a slot. An option takes one value and may be given once; no value may be
empty. -/
def accept (r : Reading) : Slot → List String → Except UsageError Reading
  | .config, [value] =>
      if r.config.isSome then .error .repeatedOption
      else if value.isEmpty then .error .unusableValue
      else .ok { r with config := some (Path.ofString value) }
  | .logLevel, [value] =>
      if r.logLevel.isSome then .error .repeatedOption
      else
        match LogLevel.ofName? value with
        | some level => .ok { r with logLevel := some level }
        | none => .error .unusableValue
  | .files, values =>
      if values.any (·.isEmpty) then .error .unusableValue
      else .ok { r with files := r.files ++ values.map Path.ofString }
  | _, _ => .error .unusableValue

def settle (r : Reading) : Except UsageError Reading :=
  match r.waiting with
  | none => .ok r
  | some (slot, values) => { r with waiting := none }.accept slot values

def open? (r : Reading) : Option Slot :=
  match r.waiting with
  | some (.files, _) => none
  | some (slot, []) => some slot
  | _ => none

def option (r : Reading) (slot : Slot) (attached? : Option String) : Except UsageError Reading := do
  let r ← r.settle
  match attached? with
  | some value => r.accept slot [value]
  | none => return { r with waiting := some (slot, []) }

def request (r : Reading) (answer : UsageError) (attached? : Option String) :
    Except UsageError Reading := do
  if attached?.isSome then
    throw .unexpectedValue
  let _ ← r.settle
  throw answer

def dryRun (r : Reading) (attached? : Option String) : Except UsageError Reading := do
  if attached?.isSome then
    throw .unexpectedValue
  let r ← r.settle
  if r.isDryRun then throw .repeatedOption else return { r with isDryRun := true }

def long (r : Reading) (level : Level) (name : String) (attached? : Option String) :
    Except UsageError Reading :=
  match name with
  | "log-level" => r.option .logLevel attached?
  | "dry-run" => r.dryRun attached?
  | "help" => r.request .help attached?
  | "config" => if level.isProgram then r.option .config attached? else .error .unknownArgument
  | "version" => if level.isProgram then r.request .version attached? else .error .unknownArgument
  | _ => .error .unknownArgument

/-- Short options end the reading, so the first of a group is the only one that counts. -/
def short (r : Reading) (level : Level) (letter : Char) : Except UsageError Reading :=
  if letter = 'h' then r.request .help none
  else if letter = 'V' ∧ level = .program then r.request .version none
  else .error .unknownArgument

def fileCount (r : Reading) : Nat :=
  r.files.length +
    match r.waiting with
    | some (.files, values) => values.length
    | _ => 0

/-- An argument that is no option. Subcommands that take any number of files gather them; the two
files of a comparison are looked at one by one. -/
def file (r : Reading) (level : Level) (value : String) : Except UsageError Reading :=
  match level with
  | .program =>
      if r.isTrailing && isSubcommandName value then .error .unknownArgument
      else .error .unknownSubcommand
  | .subcommand .diff =>
      if r.fileCount < 2 then do
        let r ← r.settle
        return { r with waiting := some (.files, [value]) }
      else
        .error .unknownArgument
  | .subcommand _ =>
      match r.waiting with
      | some (.files, values) => .ok { r with waiting := some (.files, values ++ [value]) }
      | _ => do
          let r ← r.settle
          return { r with waiting := some (.files, [value]) }

end Reading

/-- The shapes of an argument before two dashes alone. -/
inductive Shape where
  | dashes
  | long (name : String) (attached : Option String)
  | short (letter : Char)
  | plain
deriving DecidableEq, Repr

/-- A dash alone is no option. -/
def Shape.of (argument : String) : Shape :=
  match argument.toList with
  | ['-', '-'] => .dashes
  | '-' :: '-' :: rest =>
      match rest.span (· ≠ '=') with
      | (name, _ :: value) => .long (String.ofList name) (some (String.ofList value))
      | (name, []) => .long (String.ofList name) none
  | '-' :: letter :: _ => .short letter
  | _ => .plain

def Reading.take (r : Reading) (level : Level) (argument : String) : Except UsageError Reading :=
  if r.isTrailing then
    r.file level argument
  else
    match Shape.of argument with
    | .dashes => .ok { r with isTrailing := true }
    | .long name attached? => r.long level name attached?
    | .short letter => r.short level letter
    | .plain =>
        match r.open? with
        | some slot => .ok { r with waiting := some (slot, [argument]) }
        | none => r.file level argument

/-- What help is asked about: nothing, or one subcommand. -/
def helpTopic : List String → UsageError
  | [] => .help
  | [name] => if isSubcommandName name then .help else .unknownSubcommand
  | _ => .unknownSubcommand

def readSubcommand (subcommand : Subcommand) (r : Reading) :
    List String → Except UsageError Reading
  | [] => r.settle
  | argument :: rest => do
      let r ← r.take (.subcommand subcommand) argument
      readSubcommand subcommand r rest

def Subcommand.command (subcommand : Subcommand) (files : List Path) : Except UsageError Command :=
  let files' : List Path := if files.isEmpty then ["pages"] else files
  match subcommand, files with
  | .build, _ => .ok (.build files')
  | .watch, _ => .ok (.watch files')
  | .diff, previous :: current :: _ => .ok (.diff previous current)
  | .diff, _ => .error .missingArgument

/-- Nothing at all was given, as opposed to options without a subcommand. -/
def missing (r : Reading) : UsageError :=
  if r.config.isSome || r.logLevel.isSome || r.isDryRun then .missingSubcommand else .nothingGiven

/-- Read the arguments from the program's level on. Values that wait there are looked at after the
subcommand has been read. -/
def read (r : Reading) : List String → Except UsageError CommandLine
  | [] => do
      let r ← r.settle
      throw (missing r)
  | argument :: rest =>
      if r.isTrailing || r.open?.isSome then do
        let r ← r.take .program argument
        read r rest
      else if argument = "help" then
        .error (helpTopic rest)
      else
        match Subcommand.ofName? argument with
        | some subcommand => do
            let below ← readSubcommand subcommand {} rest
            let command ← subcommand.command below.files
            let r ← r.settle
            return {
              config := r.config
              logLevel := below.logLevel <|> r.logLevel
              isDryRun := r.isDryRun || below.isDryRun
              command }
        | none => do
            let r ← r.take .program argument
            read r rest

def parse (arguments : List String) : Except UsageError CommandLine := read {} arguments

end CommandLine

end LiveBuild
