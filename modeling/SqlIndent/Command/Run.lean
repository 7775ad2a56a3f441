import SqlIndent.Command.Arguments
import SqlIndent.Config.Lookup
import SqlIndent.Discovery
import SqlIndent.Document.Json

/-!
# Running commands

A command reads files and the standard input, prints text and notices, and may change files. One
argument or file that fails does not keep the others from being handled; the exit code tells at the
end whether something failed.
-/

namespace SqlIndent

/-- A line for the user. -/
inductive Notice where
  /-- Something failed that belongs to no file argument. -/
  | failed (e : Error)
  /-- A file argument, or a file, could not be handled. -/
  | failedOn (subject : Text) (e : Error)
  /-- A file could not be read while checking. -/
  | unreadable (subject : Text) (cause : ReadError)
  /-- The configuration cannot be written, its indentation being too large. -/
  | unwritableConfig
  /-- A file, or the standard input, is not formatted. -/
  | needsFormatting (subject : Text)
deriving DecidableEq, Repr

namespace Notice

/-- The wording of a notice, without the line feed that ends it. -/
def wording : Notice → String
  | failed e => "Error: " ++ e.message
  | failedOn subject e => String.ofList subject ++ ": " ++ e.message
  | unreadable subject cause => String.ofList subject ++ ": " ++ cause.message
  | unwritableConfig => "Error: out-of-range value for u64 type"
  | needsFormatting subject => String.ofList subject ++ ": needs formatting"

/-- The line of a notice. -/
def line (n : Notice) : String :=
  n.wording ++ "\n"

/-- Whether a notice tells of a failure. -/
def isFailure : Notice → Bool
  | needsFormatting _ => false
  | _ => true

end Notice

/-- What a command has to work with, and what it has done so far. -/
structure Work where
  tree : FileTree
  /-- What can still be read from the standard input. -/
  input : ByteArray
  /-- The text printed so far. -/
  printed : Text := []
  /-- The notices so far. -/
  notices : List Notice := []

namespace Work

/-- Adds a notice. -/
def notify (w : Work) (n : Notice) : Work :=
  { w with notices := w.notices ++ [n] }

/-- Prints a text. -/
def print (w : Work) (t : Text) : Work :=
  { w with printed := w.printed ++ t }

/-- Reads all of the standard input; nothing is left for a second time. -/
def readInput (w : Work) : Work × Except ReadError Text :=
  ({ w with input := .empty },
    match decode? w.input with
    | some text => .ok text
    | none => .error .notUtf8)

end Work

/-- The file argument that stands for the standard input. -/
def isInputArgument (arg : Text) : Bool :=
  Path.isPart ['-'] arg

/-- Whether a command reads the standard input. -/
def Command.readsInput : Command → Bool
  | format _ _ files | check files => files.any isInputArgument
  | config => false

/-- The name by which the standard input is shown. -/
def inputName : Text :=
  "<stdin>".toList

/-- What is the same for all files of a run. -/
structure Job where
  options : Options
  keywords : KeywordSet

/-- What `format` does with formatted text. -/
inductive Delivery where
  /-- Prints the text. -/
  | print
  /-- Prints the replacement as a line of JSON. -/
  | edits
  /-- Writes the text back to its file. -/
  | write
deriving DecidableEq, Repr

/-- What is printed for a replacement. -/
def Delivery.rendered (d : Delivery) (r : Replacement) : Text :=
  match d with
  | .edits => r.toJson ++ ['\n']
  | _ => r.newText

namespace Job

/-! ## Formatting -/

/-- Formats a file that was found. A file is written only if its text changes. -/
def formatFile (j : Job) (d : Delivery) (w : Work) (f : Found) : Work :=
  match w.tree.readAt f.location with
  | .error cause => w.notify (.failedOn f.shown (.unreadable cause))
  | .ok source =>
    let r := reformatting j.options j.keywords source
    if d ≠ .write then w.print (d.rendered r)
    else if r.newText = source then w
    else { w with tree := w.tree.write f.location (encode r.newText) }

/-- Formats the standard input. The result is printed, even where files are written. -/
def formatInput (j : Job) (d : Delivery) (w : Work) : Work :=
  match w.readInput with
  | (w, .error cause) => w.notify (.failed (.unreadable cause))
  | (w, .ok source) => w.print (d.rendered (reformatting j.options j.keywords source))

/-- Formats what a file argument stands for. -/
def formatArgument (j : Job) (d : Delivery) (w : Work) (arg : Text) : Work :=
  if isInputArgument arg then j.formatInput d w
  else match w.tree.discover arg with
    | .error e => w.notify (.failedOn arg e)
    | .ok found => found.foldl (j.formatFile d) w

/-! ## Checking -/

/-- Notes a text that is not formatted. -/
def checkText (j : Job) (w : Work) (subject source : Text) : Work :=
  if isFormatted j.options j.keywords source then w else w.notify (.needsFormatting subject)

/-- Checks a file that was found. -/
def checkFile (j : Job) (w : Work) (f : Found) : Work :=
  match w.tree.readAt f.location with
  | .error cause => w.notify (.unreadable f.shown cause)
  | .ok source => j.checkText w f.shown source

/-- Checks the standard input. -/
def checkInput (j : Job) (w : Work) : Work :=
  match w.readInput with
  | (w, .error cause) => w.notify (.failed (.unreadable cause))
  | (w, .ok source) => j.checkText w inputName source

/-- Checks what a file argument stands for. -/
def checkArgument (j : Job) (w : Work) (arg : Text) : Work :=
  if isInputArgument arg then j.checkInput w
  else match w.tree.discover arg with
    | .error e => w.notify (.failedOn arg e)
    | .ok found => found.foldl j.checkFile w

/-! ## Showing the configuration -/

/-- Prints the configuration in force. -/
def showConfig (j : Job) (w : Work) : Work :=
  if j.options.indentSize ≤ maxWritableIndent then
    w.print (writeConfig j.options j.keywords.toLists)
  else w.notify .unwritableConfig

/-- Runs a command. -/
def run (j : Job) (w : Work) : Command → Work
  | .format write edits files =>
    let d : Delivery := if write then .write else if edits then .edits else .print
    files.foldl (j.formatArgument d) w
  | .check files => files.foldl j.checkArgument w
  | .config => j.showConfig w

end Job

/-- The exit code: 2 if something failed, else 1 if something is not formatted, else 0. -/
def Work.exitCode (w : Work) : Nat :=
  if w.notices.any Notice.isFailure then 2
  else if w.notices.isEmpty then 0
  else 1

/-- Runs what a command line asks for in a directory tree; errors name the working directory
`directory`. -/
def Invocation.run (i : Invocation) (tree : FileTree) (input : ByteArray) (directory : Text) : Work :=
  let w : Work := { tree, input }
  match Config.lookup tree i.config tree.herePath directory with
  | .error e => w.notify (.failed e)
  | .ok config =>
    let job : Job := { options := i.options config.format, keywords := config.keywordSet }
    job.run w i.command

end SqlIndent
