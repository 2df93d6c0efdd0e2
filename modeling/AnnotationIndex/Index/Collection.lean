import AnnotationIndex.Index.Record
import AnnotationIndex.Path

/-!
# Collections

The records of many types, grouped by the kind of annotation. Nothing is merged: an annotation
that is repeated yields one target for each time it is written.
-/

namespace AnnotationIndex

open Java

structure ClassTarget where
  typeName : String
  arguments : List (Argument Value)
  deriving Repr

structure MemberTarget where
  typeName : String
  member : String
  arguments : List (Argument Value)
  deriving Repr

structure Targets where
  classes : List ClassTarget
  methods : List MemberTarget
  properties : List MemberTarget
  deriving Repr, Inhabited

def Targets.empty : Targets := ⟨[], [], []⟩

structure Collection where
  annotations : KeyMap String Targets
  locations : KeyMap String Path
  knownTypes : KeySet

namespace Collection

def empty : Collection := ⟨.empty, .empty, KeyMap.empty⟩

def addTarget (annotations : KeyMap String Targets) (kind : String) (f : Targets → Targets) :
    KeyMap String Targets :=
  annotations.alter kind fun targets => f (targets.getD .empty)

def addClass (typeName : String) (annotations : KeyMap String Targets) (r : ClassRecord) :
    KeyMap String Targets :=
  addTarget annotations r.kind fun t => { t with classes := t.classes ++ [⟨typeName, r.arguments⟩] }

def addMethod (typeName : String) (annotations : KeyMap String Targets) (r : MemberRecord) :
    KeyMap String Targets :=
  addTarget annotations r.kind fun t =>
    { t with methods := t.methods ++ [⟨typeName, r.member, r.arguments⟩] }

def addProperty (typeName : String) (annotations : KeyMap String Targets) (r : MemberRecord) :
    KeyMap String Targets :=
  addTarget annotations r.kind fun t =>
    { t with properties := t.properties ++ [⟨typeName, r.member, r.arguments⟩] }

def add (c : Collection) (typeName : String) (location : Path) (records : Records) : Collection :=
  if records.isEmpty then c
  else
    let annotations := records.classes.foldl (addClass typeName) c.annotations
    let annotations := records.methods.foldl (addMethod typeName) annotations
    let annotations := records.properties.foldl (addProperty typeName) annotations
    { c with annotations, locations := c.locations.insert typeName location }

def addAll (c : Collection) (records : List TypeRecords) (locate : String → Option Path) :
    Collection :=
  records.foldl (fun c r =>
    match locate r.typeName with
    | some location => c.add r.typeName location r.records
    | none => c) c

def total (c : Collection) (f : Targets → Nat) : Nat :=
  c.annotations.values.foldl (fun sum t => sum + f t) 0

def classCount (c : Collection) : Nat := c.total (·.classes.length)

def methodCount (c : Collection) : Nat := c.total (·.methods.length)

def propertyCount (c : Collection) : Nat := c.total (·.properties.length)

end Collection

end AnnotationIndex
