import AnnotationIndex.Failure
import AnnotationIndex.Index.Collection

/-!
# Artifacts

An artifact is a collection as a JSON document. Its maps are in order, so equal collections give
equal texts.
-/

namespace AnnotationIndex

open Java

structure Artifact where
  version : Nat
  argumentsCaptured : Bool
  types : KeyMap String Path
  annotations : KeyMap String Targets
  /-- The types that the indexed files could name by their simple names. -/
  knownTypes : KeySet

namespace Artifact

def ofCollection (c : Collection) (argumentsCaptured : Bool) : Artifact :=
  ⟨formatVersion, argumentsCaptured, c.locations, c.annotations, c.knownTypes⟩

end Artifact

def ClassTarget.toJson (t : ClassTarget) : Json :=
  .object (("type", .string t.typeName) :: argumentsMember t.arguments)

def MemberTarget.toJson (t : MemberTarget) : Json :=
  .object (("type", .string t.typeName) :: ("member", .string t.member) ::
    argumentsMember t.arguments)

def listMember (name : String) (items : List Json) : List (String × Json) :=
  if items.isEmpty then [] else [(name, .array items)]

def Targets.toJson (t : Targets) : Json :=
  .object (listMember "classes" (t.classes.map ClassTarget.toJson) ++
    listMember "methods" (t.methods.map MemberTarget.toJson) ++
    listMember "properties" (t.properties.map MemberTarget.toJson))

def pathsJson (m : KeyMap String Path) : Json := .object (m.entries.map fun (k, p) => (k, .string p.text))

def Artifact.toJson (a : Artifact) : Json :=
  .object ([("format_version", .ofNat a.version),
    ("arguments_captured", .truth a.argumentsCaptured),
    ("types", pathsJson a.types),
    ("annotations", .object (a.annotations.entries.map fun (k, t) => (k, t.toJson)))] ++
    listMember "known_types" (a.knownTypes.toList.map .string))

def Artifact.render (a : Artifact) : String := a.toJson.pretty ++ "\n"

/-- The text of the artifact for a collection. All of its paths have to be texts. -/
def Collection.render (c : Collection) (argumentsCaptured : Bool) : Except Failure String :=
  if c.locations.values.all Path.isText then .ok (Artifact.ofCollection c argumentsCaptured).render
  else .error .artifactNotRendered

open Decoder

def pathDecoder : Decoder Path := Decoder.map Path.ofText Decoder.text

def ClassTarget.decoder : Decoder ClassTarget := fun levels j => do
  let fs ← fields ["type", "arguments"] false levels j
  let typeName ← fs.required "type" text
  let arguments ← fs.withDefault "arguments" (list argumentDecoder) []
  return ⟨typeName, arguments⟩

def MemberTarget.decoder : Decoder MemberTarget := fun levels j => do
  let fs ← fields ["type", "member", "arguments"] false levels j
  let typeName ← fs.required "type" text
  let member ← fs.required "member" text
  let arguments ← fs.withDefault "arguments" (list argumentDecoder) []
  return ⟨typeName, member, arguments⟩

def Targets.decoder : Decoder Targets := fun levels j => do
  let fs ← fields ["classes", "methods", "properties"] false levels j
  let classes ← fs.withDefault "classes" (list ClassTarget.decoder) []
  let methods ← fs.withDefault "methods" (list MemberTarget.decoder) []
  let properties ← fs.withDefault "properties" (list MemberTarget.decoder) []
  return ⟨classes, methods, properties⟩

def Artifact.decoder : Decoder Artifact := fun levels j => do
  let fs ← fields ["format_version", "arguments_captured", "types", "annotations", "known_types"]
    false levels j
  let version ← fs.required "format_version" (whole 0 (UInt32.size - 1))
  let argumentsCaptured ← fs.required "arguments_captured" truth
  let types ← fs.required "types" (keyMap pathDecoder)
  let annotations ← fs.required "annotations" (keyMap Targets.decoder)
  let knownTypes ← fs.withDefault "known_types" keySet KeyMap.empty
  return ⟨version.toNat, argumentsCaptured, types, annotations, knownTypes⟩

def Artifact.parse? (text : String) : Option Artifact := decoder.run text

def Artifact.ofText (text : String) : Except ArtifactError Artifact :=
  match Artifact.parse? text with
  | none => .error .notAnArtifact
  | some a =>
    if a.version = formatVersion then .ok a else .error (.unsupportedVersion a.version)

def Artifact.load (tree : FileTree) (path : Path) : Except Failure Artifact :=
  match tree.readText path with
  | .error fault => .error (.artifactUnreadable path fault)
  | .ok text =>
    match Artifact.ofText text with
    | .error cause => .error (.artifactInvalid path cause)
    | .ok a => .ok a

def Artifact.loader (a : Artifact) : Loader := { locations := a.types, alsoKnown := a.knownTypes }

end AnnotationIndex
