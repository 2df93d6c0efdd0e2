import AnnotationIndex.Java.Document
import AnnotationIndex.Log
import AnnotationIndex.Store.Fingerprint

/-!
# Records

A record says that a type or one of its members carries an annotation. Annotation types contribute
none, and neither do types that carry an annotation meant for annotation types.
-/

namespace AnnotationIndex

open Java

structure ClassRecord where
  kind : String
  arguments : List (Argument Value)
  deriving Repr

structure MemberRecord where
  kind : String
  arguments : List (Argument Value)
  member : String
  deriving Repr

structure Records where
  classes : List ClassRecord
  methods : List MemberRecord
  properties : List MemberRecord
  deriving Repr, Inhabited

namespace Records

def empty : Records := ⟨[], [], []⟩

def isEmpty (r : Records) : Bool := r.classes.isEmpty && r.methods.isEmpty && r.properties.isEmpty

def size (r : Records) : Nat := r.classes.length + r.methods.length + r.properties.length

end Records

structure TypeRecords where
  typeName : String
  records : Records
  deriving Repr

def defaultIgnored : List String :=
  ["java.lang.Deprecated", "java.lang.FunctionalInterface", "java.lang.Override",
    "java.lang.SafeVarargs", "java.lang.SuppressWarnings", "java.lang.annotation.Inherited"]

def defaultMarkers : List String :=
  ["java.lang.annotation.Documented", "java.lang.annotation.Repeatable",
    "java.lang.annotation.Retention", "java.lang.annotation.Target"]

structure ExtractOptions where
  ignored : KeySet := KeySet.ofList defaultIgnored
  /-- A type with one of these annotations is an annotation type in disguise. -/
  markers : KeySet := KeySet.ofList defaultMarkers
  captureArguments : Bool := true

namespace ExtractOptions

def saltKey (o : ExtractOptions) : String :=
  "args=" ++ (if o.captureArguments then "true" else "false") ++ ";" ++
    String.join (o.ignored.toList.map fun kind => "i:" ++ kind ++ ";") ++
    String.join (o.markers.toList.map fun kind => "d:" ++ kind ++ ";")

/-- A digest of everything besides the source that shapes the records. -/
def salt (o : ExtractOptions) : String := shortDigest o.saltKey

/-- Whether a type defines an annotation. -/
def isDefinition (o : ExtractOptions) (t : TypeDecl) : Bool :=
  t.kind = .annotationType || t.annotations.any fun a => o.markers.contains a.kind

def recorded (o : ExtractOptions) (uses : List AnnotationUse) : List AnnotationUse :=
  uses.filter fun a => !o.ignored.contains a.kind

def argumentsOf (o : ExtractOptions) (a : AnnotationUse) : List (Argument Value) :=
  if o.captureArguments then a.arguments else []

def memberRecords (o : ExtractOptions) (kind : MemberKind) (members : List Member) :
    List MemberRecord :=
  (members.filter (·.kind = kind)).flatMap fun m =>
    (o.recorded m.annotations).map fun a => ⟨a.kind, o.argumentsOf a, m.name⟩

def extract (o : ExtractOptions) (t : TypeDecl) : Records :=
  if o.isDefinition t then .empty
  else
    { classes := (o.recorded t.annotations).map fun a => ⟨a.kind, o.argumentsOf a⟩
      methods := o.memberRecords .method t.members
      properties := o.memberRecords .property t.members }

def events (o : ExtractOptions) (t : TypeDecl) : List Event :=
  if o.isDefinition t then []
  else
    (o.recorded t.annotations).map (fun a =>
      .debug .extract ("Found annotation " ++ a.kind ++ " on " ++ t.name)) ++
    t.members.flatMap fun m => (o.recorded m.annotations).map fun a =>
      .debug .extract ("Found annotation " ++ a.kind ++ " on " ++ t.name ++ "::" ++ m.name)

end ExtractOptions

namespace ClassRecord

def toJson (r : ClassRecord) : Json :=
  .object [("kind", .string r.kind), ("arguments", .array (argumentsToJson r.arguments))]

open Decoder in
def decoder : Decoder ClassRecord := fun levels j => do
  let fs ← fields ["kind", "arguments"] false levels j
  let kind ← fs.required "kind" text
  let arguments ← fs.withDefault "arguments" (list argumentDecoder) []
  return ⟨kind, arguments⟩

end ClassRecord

namespace MemberRecord

def toJson (r : MemberRecord) : Json :=
  .object [("kind", .string r.kind), ("arguments", .array (argumentsToJson r.arguments)),
    ("member", .string r.member)]

open Decoder in
def decoder : Decoder MemberRecord := fun levels j => do
  let fs ← fields ["kind", "arguments", "member"] false levels j
  let kind ← fs.required "kind" text
  let arguments ← fs.withDefault "arguments" (list argumentDecoder) []
  let member ← fs.required "member" text
  return ⟨kind, arguments, member⟩

end MemberRecord

namespace Records

def toJson (r : Records) : Json :=
  .object [("classes", .array (r.classes.map ClassRecord.toJson)),
    ("methods", .array (r.methods.map MemberRecord.toJson)),
    ("properties", .array (r.properties.map MemberRecord.toJson))]

open Decoder in
def decoder : Decoder Records := fun levels j => do
  let fs ← fields ["classes", "methods", "properties"] false levels j
  let classes ← fs.required "classes" (list ClassRecord.decoder)
  let methods ← fs.required "methods" (list MemberRecord.decoder)
  let properties ← fs.required "properties" (list MemberRecord.decoder)
  return ⟨classes, methods, properties⟩

end Records

namespace TypeRecords

def toJson (r : TypeRecords) : Json :=
  .object [("type_name", .string r.typeName), ("records", r.records.toJson)]

open Decoder in
def decoder : Decoder TypeRecords := fun levels j => do
  let fs ← fields ["type_name", "records"] false levels j
  let typeName ← fs.required "type_name" text
  let records ← fs.required "records" Records.decoder
  return ⟨typeName, records⟩

end TypeRecords

end AnnotationIndex
