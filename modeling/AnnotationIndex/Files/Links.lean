import AnnotationIndex.Files.Tree

/-!
# File trees with links

A file tree in which a file may have several names, and in which a symbolic link may stand for a path.
A path that comes to a link goes on from the directory of the link with what the link stands for.
Reading and writing follow a link at the end of a path. Making a directory, moving and removing do
not: they are about the link itself.
-/

namespace AnnotationIndex

open FileTree

inductive Entry where
  | directory
  /-- A file, with the number of its content. A file with several names has one number. -/
  | file (id : Nat)
  | link (target : Path)
  /-- Something that takes what is written to it and keeps nothing. -/
  | device
  deriving DecidableEq, Repr

instance isLinearOrderLocation : Std.IsLinearOrder Location := inferInstance

instance lawfulOrderLTLocation : Std.LawfulOrderLT Location := inferInstance

/-- What lies below the root, the contents of files, and the current directory. -/
structure LinkedTree where
  entries : KeyMap Location Entry
  contents : Nat → List UInt8
  current : Location

/-- The components of a path, with a dot at the end if the path says that it leads to a directory. -/
def Path.steps (p : Path) : List Path.Component :=
  p.components ++ if p.leadsToDirectory then [.here] else []

namespace LinkedTree

def entryAt (t : LinkedTree) (location : Location) : Option Entry :=
  if location.isEmpty then some .directory else t.entries.get? location

def content? (t : LinkedTree) (location : Location) : Option (List UInt8) :=
  match t.entryAt location with
  | some (.file id) => some (t.contents id)
  | some .device => some []
  | _ => none

def target? (t : LinkedTree) (location : Location) : Option Path :=
  match t.entryAt location with
  | some (.link target) => some target
  | _ => none

def fresh (t : LinkedTree) : Nat :=
  t.entries.values.foldr (fun entry n => match entry with
    | .file id => max (id + 1) n
    | _ => n) 0

def place (t : LinkedTree) (location : Location) (entry : Entry) : LinkedTree :=
  { t with entries := t.entries.insert location entry }

def remove (t : LinkedTree) (location : Location) : LinkedTree :=
  { t with entries := t.entries.erase location }

def fill (t : LinkedTree) (id : Nat) (content : List UInt8) : LinkedTree :=
  { t with contents := fun other => if other = id then content else t.contents other }

/-- How far components lead without following a link. -/
inductive Stride where
  | fails (fault : Fault)
  | arrives (location : Location)
  /-- There is a link. The way goes on from the location with the components. -/
  | turns (location : Location) (components : List Path.Component)

/-- Follows components from a location to the next link. Everything before the last component has to
be a directory. -/
def stride (t : LinkedTree) : Location → List Path.Component → Stride
  | location, [] => .arrives location
  | location, c :: rest =>
    match t.entryAt location with
    | none => .fails .notFound
    | some .directory =>
      match c with
      | .root => t.stride [] rest
      | .here => t.stride location rest
      | .parent => t.stride location.dropLast rest
      | .name name =>
        if nameLimit < name.length then .fails .nameTooLong
        else
          match t.target? (location ++ [name]) with
          | none => t.stride (location ++ [name]) rest
          | some target =>
            match pathFault? target with
            | some fault => .fails fault
            | none => .turns location (target.steps ++ rest)
    | some _ => .fails .notADirectory

def linkLimit : Nat := 40

/-- The location that components lead to from a location, through so many links at most. -/
def walk (t : LinkedTree) (links : Nat) (location : Location) (components : List Path.Component) :
    Except Fault Location :=
  match t.stride location components with
  | .fails fault => .error fault
  | .arrives location => .ok location
  | .turns location components =>
    match links with
    | 0 => .error .tooManyLinks
    | links + 1 => t.walk links location components

def locate (t : LinkedTree) (p : Path) : Except Fault Location :=
  match pathFault? p with
  | some fault => .error fault
  | none => t.walk linkLimit t.current p.steps

def contains (t : LinkedTree) (p : Path) : Bool :=
  match t.locate p with
  | .ok location => (t.entryAt location).isSome
  | .error _ => false

def isDirectory (t : LinkedTree) (p : Path) : Bool :=
  match t.locate p with
  | .ok location => t.entryAt location = some .directory
  | .error _ => false

def read (t : LinkedTree) (p : Path) : Except Fault (List UInt8) :=
  match t.locate p with
  | .error fault => .error fault
  | .ok location =>
    match t.content? location with
    | some content => .ok content
    | none => .error (if (t.entryAt location).isSome then .isADirectory else .notFound)

/-- The slot that a path names; none if it ends in no name. -/
def slot? (t : LinkedTree) (p : Path) : Except Fault (Option Slot) :=
  match pathFault? p with
  | some fault => .error fault
  | none =>
    match t.walk linkLimit t.current (parentComponents p) with
    | .error fault => .error fault
    | .ok parent =>
      match t.entryAt parent with
      | none => .error .notFound
      | some .directory =>
        match lastName? p with
        | none => .ok none
        | some name =>
          if nameLimit < name.length then .error .nameTooLong
          else .ok (some ⟨parent, name, p.leadsToDirectory⟩)
      | some _ => .error .notADirectory

def write (t : LinkedTree) (p : Path) (content : List UInt8) : Except Fault LinkedTree :=
  if p.leadsToDirectory then .error .isADirectory
  else
    match t.locate p with
    | .error fault => .error fault
    | .ok location =>
      match t.entryAt location with
      | none => .ok ((t.place location (.file t.fresh)).fill t.fresh content)
      | some (.file id) => .ok (t.fill id content)
      | some .device => .ok t
      | some .directory => .error .isADirectory
      | some (.link _) => .error .tooManyLinks

def makeDirectory (t : LinkedTree) (p : Path) : Except Fault LinkedTree :=
  match t.slot? p with
  | .error fault => .error fault
  | .ok none => .error .alreadyExists
  | .ok (some slot) =>
    match t.entryAt slot.location with
    | some _ => .error .alreadyExists
    | none => .ok (t.place slot.location .directory)

def ensureDirectories (t : LinkedTree) (p : Path) : Except Fault Unit × LinkedTree :=
  ensureWithin makeDirectory isDirectory (p.components.length + 1) t p

def removeFile (t : LinkedTree) (p : Path) : Except Fault LinkedTree :=
  match t.slot? p with
  | .error fault => .error fault
  | .ok none => .error .isADirectory
  | .ok (some slot) =>
    match t.entryAt slot.location with
    | none => .error .notFound
    | some .directory => .error .isADirectory
    | some _ => if slot.asDirectory then .error .notADirectory else .ok (t.remove slot.location)

/-- The tree with what a path names, which is no directory, moved in place of what another path names.
Where both name one file, nothing is moved. -/
def moveFile (t : LinkedTree) (source target : Path) : Except Fault LinkedTree :=
  match t.slot? source, t.slot? target with
  | .error fault, _ => .error fault
  | _, .error fault => .error fault
  | .ok none, _ => .error .busy
  | _, .ok none => .error .busy
  | .ok (some a), .ok (some b) =>
    match t.entryAt a.location with
    | none => .error .notFound
    | some .directory => .error .isADirectory
    | some entry =>
      if a.asDirectory || b.asDirectory then .error .notADirectory
      else if t.entryAt b.location = some .directory then .error .isADirectory
      else if t.entryAt b.location = some entry && entry matches .file _ then .ok t
      else .ok ((t.remove a.location).place b.location entry)

end LinkedTree

end AnnotationIndex
