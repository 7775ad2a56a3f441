import SqlIndent.Layout
import SqlIndent.Text.Basic

/-!
# Command-line arguments

There are three commands. Some options may stand before and after the name of the command; given on
both sides, the one after counts. An option that takes a value is settled when the next option or
file comes, or at the end: only then a missing value, a repetition or a bad value is an error. An
unknown option is an error at once.
-/

namespace SqlIndent

/-- What to do. -/
inductive Command where
  /-- Formats files. -/
  | format (write edits : Bool) (files : List Text)
  /-- Reports files that are not formatted. -/
  | check (files : List Text)
  /-- Shows the configuration in force. -/
  | config
deriving DecidableEq, Repr

/-- What a command line asks for. -/
structure Invocation where
  command : Command
  /-- The configuration file. -/
  config : Option Text
  /-- Whether words keep their case. -/
  lowercase : Bool
  indentSize : Option Nat
  verbose : Bool
deriving DecidableEq, Repr

/-- The layout options in force: those of the command line go before those of the configuration. -/
def Invocation.options (i : Invocation) (base : Options) : Options where
  uppercase := if i.lowercase then false else base.uppercase
  indentSize := i.indentSize.getD base.indentSize

/-- Why a command line leads to no command. -/
inductive UsageError where
  /-- Help was asked for. -/
  | help
  /-- The version was asked for. -/
  | version
  /-- Nothing was given. -/
  | nothingGiven
  | missingCommand
  | unknownCommand
  | missingFiles
  | unknownArgument
  /-- Two options exclude each other, or one is given twice on one side. -/
  | conflict
  /-- An option lacks its value, or a path is empty. -/
  | missingValue
  /-- The size of the indentation is no number of 64 bits. -/
  | badNumber
  /-- An option that takes no value has one. -/
  | surplusValue
deriving DecidableEq, Repr

/-- Asking for help or for the version is no failure. -/
def UsageError.exitCode : UsageError → Nat
  | help | version => 0
  | _ => 2

namespace Arguments

/-! ## Options -/

/-- Where an option stands. -/
inductive Side where
  /-- Before the name of the command. -/
  | before
  | format
  | check
  | config
deriving DecidableEq, Repr

/-- Options that are given or not. -/
inductive Flag where
  | lowercase
  | verbose
  | write
  | edits
  | help
  | version
deriving DecidableEq, Repr

/-- Options with a value. -/
inductive Setting where
  | config
  | indentSize
deriving DecidableEq, Repr

/-- The sides on which a flag is known. -/
def Flag.knownOn : Flag → Side → Bool
  | write, s | edits, s => s == .format
  | version, s => s == .before
  | _, _ => true

/-- The flag of a long name. -/
def longFlag? (side : Side) (name : Text) : Option Flag :=
  let named : List (String × Flag) :=
    [("lowercase", .lowercase), ("verbose", .verbose), ("write", .write), ("edits", .edits),
     ("help", .help), ("version", .version)]
  ((named.find? fun f => f.1.toList == name).map Prod.snd).filter (·.knownOn side)

/-- The flag of a single letter. -/
def shortFlag? (side : Side) (letter : Char) : Option Flag :=
  let named : List (Char × Flag) :=
    [('v', .verbose), ('w', .write), ('h', .help), ('V', .version)]
  (named.lookup letter).filter (·.knownOn side)

/-- The setting of a long name. -/
def setting? (name : Text) : Option Setting :=
  if name = "config".toList then some .config
  else if name = "indent-size".toList then some .indentSize
  else none

/-! ## What is given so far -/

/-- What is given on one side. -/
structure Given where
  config : Option Text := none
  indentSize : Option Nat := none
  flags : List Flag := []
  files : List Text := []
deriving DecidableEq, Repr

/-- What waits to be settled. -/
inductive Pending where
  | nothing
  | setting (s : Setting) (value : Option Text)
  | files (paths : List Text)
deriving DecidableEq, Repr

/-- The largest size of an indentation. -/
def maxIndentSize : Nat := Nat.pow 2 64 - 1

/-- A number in decimal digits, with or without a plus sign. -/
def number? (t : Text) : Option Nat :=
  let digits := match t with
    | '+' :: rest => rest
    | t => t
  let n := digits.foldl (fun n c => 10 * n + (c.toNat - '0'.toNat)) 0
  if !digits.isEmpty && digits.all (fun c => '0' ≤ c && c ≤ '9') && n ≤ maxIndentSize then some n
  else none

/-- Takes the value of a setting. -/
def Given.set (g : Given) (s : Setting) (value : Text) : Except UsageError Given :=
  match s with
  | .config =>
    if g.config.isSome then .error .conflict
    else if value.isEmpty then .error .missingValue
    else .ok { g with config := some value }
  | .indentSize =>
    if g.indentSize.isSome then .error .conflict
    else match number? value with
      | some n => .ok { g with indentSize := some n }
      | none => .error .badNumber

/-- Settles what waits. -/
def Given.settle (g : Given) : Pending → Except UsageError Given
  | .nothing => .ok g
  | .setting _ none => .error .missingValue
  | .setting s (some value) => g.set s value
  | .files paths =>
    if paths.any List.isEmpty then .error .missingValue
    else .ok { g with files := g.files ++ paths }

/-- Takes a flag. -/
def Given.raise (g : Given) (f : Flag) : Except UsageError Given :=
  match f with
  | .help => .error .help
  | .version => .error .version
  | f => if g.flags.contains f then .error .conflict else .ok { g with flags := f :: g.flags }

/-! ## Reading -/

/-- The state of reading one side. -/
structure Reading where
  given : Given := {}
  pending : Pending := .nothing
  /-- Whether everything from now on is a file, after `--`. -/
  filesOnly : Bool := false
deriving DecidableEq, Repr

/-- Settles what waits, and forgets it. -/
def Reading.settle (r : Reading) : Except UsageError Reading := do
  return { r with given := ← r.given.settle r.pending, pending := .nothing }

/-- Whether the next argument is the value of a setting. -/
def Reading.awaitsValue (r : Reading) : Bool :=
  !r.filesOnly && match r.pending with
    | .setting _ none => true
    | _ => false

/-- Reads the flags of a cluster of letters. -/
def Reading.letters (side : Side) (r : Reading) : Text → Except UsageError Reading
  | [] => .ok r
  | letter :: rest =>
    match shortFlag? side letter with
    | none => .error .unknownArgument
    | some f => do
      let r ← r.settle
      let r : Reading := { r with given := ← r.given.raise f }
      r.letters side rest

/-- Reads an option by its long name, with the value after an equals sign if there is one. -/
def Reading.long (side : Side) (r : Reading) (name : Text) (value : Option Text) :
    Except UsageError Reading :=
  match setting? name, longFlag? side name, value with
  | some s, _, some v => do
    let r ← r.settle
    return { r with given := ← r.given.set s v }
  | some s, _, none => do
    let r ← r.settle
    return { r with pending := .setting s none }
  | none, some _, some _ => .error .surplusValue
  | none, some f, none => do
    let r ← r.settle
    return { r with given := ← r.given.raise f }
  | none, none, _ => .error .unknownArgument

/-- The side after the name of a command. -/
def side? (name : Text) : Option Side :=
  if name = "fmt".toList then some .format
  else if name = "check".toList then some .check
  else if name = "config".toList then some .config
  else none

/-- Whether a name is that of a command, or of the help on them. -/
def isCommandName (name : Text) : Bool :=
  name = "help".toList || (side? name).isSome

/-- Reads an argument that is no option. Before the command it could only be a command, and after
`--` the name of one is not taken for it. -/
def Reading.operand (side : Side) (r : Reading) (arg : Text) : Except UsageError Reading :=
  match side with
  | .before =>
    .error (if r.filesOnly && isCommandName arg then .unknownArgument else .unknownCommand)
  | .config => .error .unknownArgument
  | .format | .check =>
    match r.pending with
    | .files paths => .ok { r with pending := .files (paths ++ [arg]) }
    | _ => do
      let r ← r.settle
      return { r with pending := .files [arg] }

/-- An argument by its form. -/
inductive Form where
  /-- `--` -/
  | separator
  /-- `--name` or `--name=value` -/
  | long (name : Text) (value : Option Text)
  /-- `-abc` -/
  | letters (letters : Text)
  /-- Anything else, a lone dash too. -/
  | operand
deriving DecidableEq, Repr

/-- The form of an argument. -/
def Form.ofText : Text → Form
  | ['-', '-'] => .separator
  | '-' :: '-' :: rest =>
    match rest.dropWhile (· != '=') with
    | [] => .long rest none
    | _ :: value => .long (rest.takeWhile (· != '=')) (some value)
  | '-' :: letter :: rest => .letters (letter :: rest)
  | _ => .operand

/-- Reads one argument. -/
def Reading.step (side : Side) (r : Reading) (arg : Text) : Except UsageError Reading :=
  if r.filesOnly then r.operand side arg
  else match Form.ofText arg with
    | .separator => .ok { r with filesOnly := true }
    | .long name value => r.long side name value
    | .letters letters => r.letters side letters
    | .operand =>
      match r.pending with
      | .setting s none => .ok { r with pending := .setting s (some arg) }
      | _ => r.operand side arg

/-- What the arguments after the name of a command give. -/
def readCommand (side : Side) (args : List Text) : Except UsageError Given := do
  return (← (← args.foldlM (Reading.step side) {}).settle).given

/-- The command of what is given after its name. -/
def command (side : Side) (g : Given) : Except UsageError Command :=
  match side with
  | .format =>
    if g.flags.contains .write && g.flags.contains .edits then .error .conflict
    else if g.files.isEmpty then .error .missingFiles
    else .ok (.format (g.flags.contains .write) (g.flags.contains .edits) g.files)
  | .check => if g.files.isEmpty then .error .missingFiles else .ok (.check g.files)
  | _ => .ok .config

/-- The answer to `help` and the names after it: at most one, that of a command. -/
def helpOn : List Text → UsageError
  | [] => .help
  | [name] => if isCommandName name then .help else .unknownCommand
  | _ => .unknownCommand

/-- The invocation of what is given before and after the name of a command. -/
def invocation (before after : Given) (command : Command) : Invocation where
  command := command
  config := after.config <|> before.config
  lowercase := before.flags.contains .lowercase || after.flags.contains .lowercase
  indentSize := after.indentSize <|> before.indentSize
  verbose := before.flags.contains .verbose || after.flags.contains .verbose

/-- Reads the arguments from before the name of the command on. What waits before the name is settled
after everything else. -/
def read (r : Reading) : List Text → Except UsageError Invocation
  | [] => do
    let r ← r.settle
    .error (if r.given = {} then .nothingGiven else .missingCommand)
  | arg :: rest =>
    if r.filesOnly || r.awaitsValue then do
      read (← r.step .before arg) rest
    else if arg = "help".toList then .error (helpOn rest)
    else match side? arg with
      | some side => do
        let after ← readCommand side rest
        let command ← command side after
        return invocation (← r.settle).given after command
      | none => do
        read (← r.step .before arg) rest

end Arguments

/-- The invocation that command-line arguments describe. -/
def parseArguments (args : List Text) : Except UsageError Invocation :=
  Arguments.read {} args

end SqlIndent
