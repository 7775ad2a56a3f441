import SqlIndent.Command.Run

/-!
# The command line

The part of the file system to which the arguments may lead is read, the command runs on what was
read, and then the files whose content changed are written and the output is printed. All decisions
are made by `parseArguments` and `Invocation.run`.
-/

namespace SqlIndent.CommandLine

/-! ## What has to be read -/

/-- The places on the way of parts from a place, with both ends. Each part is taken for a name, or for
dots. -/
def placesOn (l : Location) : List Text → List Location
  | [] => [l]
  | part :: rest =>
    if Path.isIdle part then placesOn l rest
    else l :: placesOn (if part = Path.above then l.dropLast else l ++ [part]) rest

/-- Whether a part may stand for names. -/
def hasWildcard (part : Text) : Bool :=
  part.any fun c => c == '*' || c == '?' || c == '['

/-- A place at or above all those to which parts may lead from a place. From the first part with
wildcards on, every part that begins with a dot may lead up. -/
def baseOf (l : Location) : List Text → Location
  | [] => l
  | part :: rest =>
    if hasWildcard part then
      l.take (l.length - ((part :: rest).countP fun p => p.head? == some '.'))
    else if Path.isIdle part then baseOf l rest
    else baseOf (if part = Path.above then l.dropLast else l ++ [part]) rest

/-- The place at which a path starts. -/
def startIn (here : Location) (path : Text) : Location :=
  if Path.isAbsolute path then [] else here

/-- The file arguments of a command. -/
def filesOf : Command → List Text
  | .format _ _ files | .check files => files
  | .config => []

/-! ## Reading and writing -/

/-- Reads a stream to its end. -/
partial def readToEnd (stream : IO.FS.Stream) (bytes : ByteArray) : IO ByteArray := do
  let chunk ← stream.read 65536
  if chunk.isEmpty then return bytes else readToEnd stream (bytes ++ chunk)

/-- A place, for the operating system. -/
def entryAt (place : Location) : IO.FS.DirEntry where
  root := "/"
  fileName := String.ofList (Path.joinAll [] place)

/-- What stands at a place, with the bytes of a file or of something else if they are asked for. What
cannot be read is left out. -/
def nodeAt (fileBytes otherBytes : Bool) (place : Location) : IO (List (Location × Node)) := do
  let path := (entryAt place).path
  let bytesIf (wanted : Bool) : IO ByteArray :=
    if wanted then IO.FS.readBinFile path else pure .empty
  if place.isEmpty then return []
  try
    match (← path.metadata).type with
    | .dir => return [(place, .directory)]
    | .file => return [(place, .file (← bytesIf fileBytes))]
    | _ => return [(place, .special (← bytesIf otherBytes))]
  catch _ => return []

/-- What stands below a place. Of SQL files only the bytes are read. -/
partial def nodesBelow (place : Location) : IO (List (Location × Node)) := do
  let entries ← try (entryAt place).path.readDir catch _ => pure #[]
  let mut nodes := []
  for entry in entries do
    let name := entry.fileName.toList
    let child := place ++ [name]
    nodes := nodes ++ (← nodeAt (hasSqlExtension name) false child) ++ (← nodesBelow child)
  return nodes

/-- The part of the file system to which an invocation may lead. Places that a path names come first,
so that their bytes are there. -/
def readTree (i : Invocation) (here : Location) : IO (Option FileTree) := do
  let mut nodes ← nodeAt true false here
  let config := i.config.getD Config.fileName
  for place in placesOn (startIn here config) (Path.parts config) do
    nodes := nodes ++ (← nodeAt true true place)
  for file in filesOf i.command do
    for place in placesOn (startIn here file) (Path.parts file) do
      nodes := nodes ++ (← nodeAt true false place)
  for file in filesOf i.command do
    nodes := nodes ++ (← nodesBelow (baseOf (startIn here file) (Path.parts file)))
  return (FileTree.ofNodes? nodes).bind (·.enter? here)

/-- Writes the files whose content differs between two trees. -/
def writeChanges (old new : FileTree) : IO Unit :=
  for (place, _) in old.nodes do
    match old.content? place, new.content? place with
    | some before, some after =>
      if before.data ≠ after.data then
        IO.FS.writeBinFile (entryAt place).path after
    | _, _ => pure ()

/-- How the program is called. -/
def usage : String :=
  "usage: sqlfmt-plus [--config PATH] [--lowercase] [--indent-size N] [-v] COMMAND\n\n" ++
  "  fmt [-w | --edits] FILES...   format SQL files (- reads the standard input)\n" ++
  "  check FILES...                tell which files are not formatted\n" ++
  "  config                        print the configuration in force\n"

/-- Runs an invocation in the working directory. -/
def perform (i : Invocation) : IO UInt32 := do
  let directory := (toString (← IO.currentDir)).toList
  let here := (Path.parts directory).filter (!Path.isIdle ·)
  let some tree ← readTree i here
    | throw (IO.userError "the file system cannot be read")
  let input ←
    if i.command.readsInput then readToEnd (← IO.getStdin) .empty else pure .empty
  let done := i.run tree input directory
  writeChanges tree done.tree
  IO.print (String.ofList done.printed)
  for notice in done.notices do
    IO.eprint notice.line
  return done.exitCode.toUInt32

end SqlIndent.CommandLine

open SqlIndent in
/-- Formats SQL files. -/
def main (args : List String) : IO UInt32 :=
  match parseArguments (args.map String.toList) with
  | .ok i => CommandLine.perform i
  | .error e => do
    if e.exitCode = 0 then IO.print CommandLine.usage else IO.eprint CommandLine.usage
    return e.exitCode.toUInt32
