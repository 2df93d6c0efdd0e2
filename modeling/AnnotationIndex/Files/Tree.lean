import AnnotationIndex.Data.KeyMap
import AnnotationIndex.Path
import AnnotationIndex.Text.Utf8

/-!
# File trees

A file tree holds directories and files, each at a location below the root. A path leads to a
location from the current directory or, if it is absolute, from the root. All operations on a tree
go through the location that a path leads to, so two spellings of a path behave alike.
-/

namespace AnnotationIndex

inductive Fault where
  | notFound
  | notADirectory
  | isADirectory
  | alreadyExists
  | busy
  | nameTooLong
  | tooManyLinks
  | unusablePath
  | notText
  deriving DecidableEq, Repr

def Fault.message : Fault → String
  | .notFound => "No such file or directory"
  | .notADirectory => "Not a directory"
  | .isADirectory => "Is a directory"
  | .alreadyExists => "File exists"
  | .busy => "Device or resource busy"
  | .nameTooLong => "File name too long"
  | .tooManyLinks => "Too many levels of symbolic links"
  | .unusablePath => "file name contained an unexpected NUL byte"
  | .notText => "stream did not contain valid UTF-8"

abbrev Location := List (List UInt8)

def Location.path (location : Location) : Path :=
  if location.isEmpty then ⟨[Path.slash]⟩ else ⟨location.flatMap (Path.slash :: ·)⟩

/-- Makes a directory and all that lead to it, where at most `depth` are missing, given how one is made
and how one is recognised. Those that were made stay if another one cannot be made. -/
def ensureWithin {τ : Type} (make : τ → Path → Except Fault τ) (isDirectory : τ → Path → Bool) :
    Nat → τ → Path → Except Fault Unit × τ
  | 0, t, _ => (.error .notFound, t)
  | depth + 1, t, p =>
    if p.bytes.isEmpty then (.ok (), t)
    else
      let existing (t : τ) (fault : Fault) : Except Fault Unit × τ :=
        (if isDirectory t p then .ok () else .error fault, t)
      match make t p with
      | .ok t => (.ok (), t)
      | .error .notFound =>
        match p.parent? with
        | none => (.error .notFound, t)
        | some parent =>
          match ensureWithin make isDirectory depth t parent with
          | (.error fault, t) => (.error fault, t)
          | (.ok (), t) =>
            match make t p with
            | .ok t => (.ok (), t)
            | .error fault => existing t fault
      | .error fault => existing t fault

inductive Node where
  | directory
  | file (content : List UInt8)
  deriving DecidableEq, Repr

instance lawfulOrderLTBytes : Std.LawfulOrderLT (List UInt8) := inferInstance

/-- What lies below the root, by its absolute path, and the current directory. -/
structure FileTree where
  nodes : KeyMap (List UInt8) Node
  current : Location

namespace FileTree

def ofCurrent (current : Location) : FileTree :=
  { nodes := .ofList ((List.range current.length).map fun n =>
      (Location.path (current.take (n + 1)) |>.bytes, .directory))
    current }

def node? (t : FileTree) (location : Location) : Option Node :=
  if location.isEmpty then some .directory else t.nodes.get? location.path.bytes

def place (t : FileTree) (location : Location) (node : Node) : FileTree :=
  { t with nodes := t.nodes.insert location.path.bytes node }

def remove (t : FileTree) (location : Location) : FileTree :=
  { t with nodes := t.nodes.erase location.path.bytes }

def nameLimit : Nat := 255

/-- The location that components lead to from a location. Everything before the last component has
to be a directory. -/
def walk (t : FileTree) : Location → List Path.Component → Except Fault Location
  | location, [] => .ok location
  | location, c :: rest =>
    match t.node? location with
    | none => .error .notFound
    | some (.file _) => .error .notADirectory
    | some .directory =>
      match c with
      | .root => t.walk [] rest
      | .here => t.walk location rest
      | .parent => t.walk location.dropLast rest
      | .name name =>
        if nameLimit < name.length then .error .nameTooLong
        else t.walk (location ++ [name]) rest

def pathLimit : Nat := 4095

def pathFault? (p : Path) : Option Fault :=
  if p.bytes.contains 0 then some .unusablePath
  else if p.bytes.isEmpty then some .notFound
  else if pathLimit < p.bytes.length then some .nameTooLong
  else none

def locate (t : FileTree) (p : Path) : Except Fault Location :=
  match pathFault? p with
  | some fault => .error fault
  | none =>
    match t.walk t.current p.components with
    | .error fault => .error fault
    | .ok location =>
      match t.node? location with
      | some (.file _) => if p.leadsToDirectory then .error .notADirectory else .ok location
      | _ => .ok location

def find (t : FileTree) (p : Path) : Except Fault (Location × Node) :=
  match t.locate p with
  | .error fault => .error fault
  | .ok location =>
    match t.node? location with
    | some node => .ok (location, node)
    | none => .error .notFound

def isDirectory (t : FileTree) (p : Path) : Bool :=
  match t.find p with
  | .ok (_, .directory) => true
  | _ => false

def isFile (t : FileTree) (p : Path) : Bool :=
  match t.find p with
  | .ok (_, .file _) => true
  | _ => false

def contains (t : FileTree) (p : Path) : Bool := (t.find p).toBool

def canonical (t : FileTree) (p : Path) : Except Fault Path := (t.find p).map fun f => f.1.path

def read (t : FileTree) (p : Path) : Except Fault (List UInt8) :=
  match t.find p with
  | .error fault => .error fault
  | .ok (_, .directory) => .error .isADirectory
  | .ok (_, .file content) => .ok content

def readText (t : FileTree) (p : Path) : Except Fault String :=
  match t.read p with
  | .error fault => .error fault
  | .ok content =>
    match Text.strictText? content with
    | some text => .ok text
    | none => .error .notText

/-- Everything below a location, as paths in the order of their bytes. -/
def below (t : FileTree) (location : Location) : List (Path × Node) :=
  let start := location.flatMap (Path.slash :: ·) ++ [Path.slash]
  t.nodes.entries.filterMap fun (bytes, node) =>
    if start.isPrefixOf bytes then some (⟨bytes⟩, node) else none

def filesBelow (t : FileTree) (location : Location) : List Path :=
  (t.below location).filterMap fun
    | (p, .file _) => some p
    | (_, .directory) => none

structure Slot where
  parent : Location
  name : List UInt8
  asDirectory : Bool

def Slot.location (s : Slot) : Location := s.parent ++ [s.name]

def parentComponents (p : Path) : List Path.Component :=
  if p.lastWritten? = some [Path.dot] then p.components else p.components.dropLast

/-- The name in which a path ends; none if it ends in the root, in a dot or in two dots. -/
def lastName? (p : Path) : Option (List UInt8) :=
  match p.lastWritten? with
  | none => none
  | some piece =>
    match Path.componentOf? piece with
    | some (.name name) => some name
    | _ => none

def slot? (t : FileTree) (p : Path) : Except Fault (Option Slot) :=
  match pathFault? p with
  | some fault => .error fault
  | none =>
    match t.walk t.current (parentComponents p) with
    | .error fault => .error fault
    | .ok parent =>
      match t.node? parent with
      | none => .error .notFound
      | some (.file _) => .error .notADirectory
      | some .directory =>
        match lastName? p with
        | none => .ok none
        | some name =>
          if nameLimit < name.length then .error .nameTooLong
          else .ok (some ⟨parent, name, p.leadsToDirectory⟩)

def write (t : FileTree) (p : Path) (content : List UInt8) : Except Fault FileTree :=
  match t.slot? p with
  | .error fault => .error fault
  | .ok none => .error .isADirectory
  | .ok (some slot) =>
    if slot.asDirectory || t.node? slot.location = some .directory then .error .isADirectory
    else .ok (t.place slot.location (.file content))

def makeDirectory (t : FileTree) (p : Path) : Except Fault FileTree :=
  match t.slot? p with
  | .error fault => .error fault
  | .ok none => .error .alreadyExists
  | .ok (some slot) =>
    match t.node? slot.location with
    | some _ => .error .alreadyExists
    | none => .ok (t.place slot.location .directory)

def ensureDirectories (t : FileTree) (p : Path) : Except Fault Unit × FileTree :=
  ensureWithin makeDirectory isDirectory (p.components.length + 1) t p

def makeDirectories (t : FileTree) (p : Path) : Except Fault FileTree :=
  match t.ensureDirectories p with
  | (.ok (), t) => .ok t
  | (.error fault, _) => .error fault

def removeFile (t : FileTree) (p : Path) : Except Fault FileTree :=
  match t.slot? p with
  | .error fault => .error fault
  | .ok none => .error .isADirectory
  | .ok (some slot) =>
    match t.node? slot.location with
    | none => .error .notFound
    | some .directory => .error .isADirectory
    | some (.file _) =>
      if slot.asDirectory then .error .notADirectory else .ok (t.remove slot.location)

def moveFile (t : FileTree) (source target : Path) : Except Fault FileTree :=
  match t.slot? source, t.slot? target with
  | .error fault, _ => .error fault
  | _, .error fault => .error fault
  | .ok none, _ => .error .busy
  | _, .ok none => .error .busy
  | .ok (some a), .ok (some b) =>
    match t.node? a.location with
    | none => .error .notFound
    | some .directory => .error .isADirectory
    | some (.file content) =>
      if a.asDirectory || b.asDirectory then .error .notADirectory
      else if t.node? b.location = some .directory then .error .isADirectory
      else if a.location = b.location then .ok t
      else .ok ((t.remove a.location).place b.location (.file content))

def removeAll (t : FileTree) (p : Path) : Except Fault FileTree :=
  match t.find p with
  | .error fault => .error fault
  | .ok (location, _) =>
    let gone := (t.below location).map (·.1.bytes)
    .ok { t.remove location with
      nodes := gone.foldl (fun nodes bytes => nodes.erase bytes) (t.remove location).nodes }

end FileTree

end AnnotationIndex
