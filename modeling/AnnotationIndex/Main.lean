import AnnotationIndex.Command.Needs

/-!
# The command line

Reads what a command needs from the disk, carries the command out, and brings what changed back to
the disk. Results go to standard output, everything else to standard error.
-/

namespace AnnotationIndex

def logVariable : String := "ANNOTATION_COLLECTOR_LOG"

def onDiskDirectory (place : String) : IO Bool := do
  match ← (IO.FS.realPath place).toBaseIO with
  | .ok found => found.isDir
  | .error _ => return false

def addFromDisk (tree : FileTree) (location : Location) : IO FileTree := do
  let place := location.path.text
  if (tree.node? location).isSome then return tree
  else if ← onDiskDirectory place then return tree.place location .directory
  else
    match ← (IO.FS.readBinFile place).toBaseIO with
    | .ok content => return tree.place location (.file content.toList)
    | .error _ => return tree

/-- Adds all that a directory holds on the disk. -/
partial def addBelow (tree : FileTree) (location : Location) : IO FileTree := do
  if tree.node? location ≠ some .directory then return tree
  match ← (do (← IO.FS.realPath location.path.text).readDir : IO _).toBaseIO with
  | .error _ => return tree
  | .ok entries =>
    entries.foldlM (fun tree entry => do
      let tree ← addFromDisk tree (location ++ [Text.utf8Bytes entry.fileName])
      addBelow tree (location ++ [Text.utf8Bytes entry.fileName])) tree

def addNeed (tree : FileTree) (need : Need) : IO FileTree := do
  let (path, all) := match need with
    | .file path => (path, false)
    | .everything path => (path, true)
  let tree ← (FileTree.passed tree.current path.components).foldlM addFromDisk tree
  match tree.locate path with
  | .ok location => if all then addBelow tree location else return tree
  | .error _ => return tree

def gatherNeeds (i : Invocation) (tree : FileTree) : Nat → IO FileTree
  | 0 => return tree
  | rounds + 1 => do
    let tree ← (i.needs tree).foldlM addNeed tree
    gatherNeeds i tree rounds

def currentTree : IO FileTree := do
  let names := (Text.splitWhere (· == '/') (← IO.currentDir).toString.toList).filter (!·.isEmpty)
  return .ofCurrent (names.map (Text.utf8Bytes ∘ String.ofList))

/-- Brings a change to the disk. A file is written next to its place and then moved there. -/
def applyChange : FileTree.Change → IO Unit
  | .makeDirectory path => IO.FS.createDirAll path.text
  | .writeFile path content => do
    IO.FS.writeBinFile (temporaryPath path).text ⟨content.toArray⟩
    IO.FS.rename (temporaryPath path).text path.text
  | .removeFile path => IO.FS.removeFile path.text

def eventLine (e : Event) : String :=
  let level := match e.level with
    | .error => "ERROR "
    | .warn => " WARN "
    | .info => " INFO "
    | .debug => "DEBUG "
    | .trace => "TRACE "
  level ++ e.message

def failureText (f : Failure) : String :=
  match f.chain.map Link.message with
  | [] => "Error"
  | [message] => "Error: " ++ message
  | message :: causes => "Error: " ++ message ++ "\n\nCaused by:" ++
      String.join (causes.map ("\n    " ++ ·))

def runCommand (i : Invocation) (setting : Option String) : IO UInt32 := do
  let before ← gatherNeeds i (← currentTree) 3
  let outcome := i.perform before
  let shown := outcome.events.filter (LogFilter.ofSetting setting i.verbosity).admits
  for e in shown do IO.eprintln (eventLine e)
  for change in FileTree.changes before outcome.tree do applyChange change
  match outcome.ending with
  | .done result => IO.println result.pretty
  | .failed f => IO.eprintln (failureText f)
  | _ => pure ()
  return outcome.ending.code.toUInt32

end AnnotationIndex

open AnnotationIndex in
def main (args : List String) : IO UInt32 := do
  match Arguments.read args with
  | .ok i => runCommand i (← IO.getEnv logVariable)
  | .error .helpRequested => IO.println Arguments.usage; return 0
  | .error e =>
    IO.eprintln ("error: " ++ e.message ++ "\n\n" ++ Arguments.usage)
    return (Ending.refused e).code.toUInt32
