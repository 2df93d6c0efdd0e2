import AnnotationIndex.Java.Header
import AnnotationIndex.Java.Value
import AnnotationIndex.Json.Decoder

/-!
# Annotations, declarations and headers as JSON

A value is written as its type with its content, and `null` as its type alone. Arguments and
argument names are left out where there are none.
-/

namespace AnnotationIndex.Java

open Number

private def typedJson (type : String) (content : Json) : Json :=
  .object [("type", .string type), ("value", content)]

private def argumentMembers (arguments : List Json) : List (String × Json) :=
  if arguments.isEmpty then [] else [("arguments", .array arguments)]

private def argumentJson (name : Option String) (value : Json) : Json :=
  .object ((name.map fun n => ("name", Json.string n)).toList ++ [("value", value)])

mutual

def Value.toJson : Value → Json
  | .string text => typedJson "string" (.string text)
  | .integer n => typedJson "integer" (.ofInt n.toInt)
  | .real x => typedJson "float" (.ofReal x)
  | .truth b => typedJson "boolean" (.truth b)
  | .character text => typedJson "char" (.string text)
  | .null => .object [("type", .string "null")]
  | .type name => typedJson "class" (.string name)
  | .constant name => typedJson "constant" (.string name)
  | .array items => typedJson "array" (.array (valuesToJson items))
  | .nested ⟨kind, arguments⟩ => typedJson "annotation"
    (.object (("kind", .string kind) :: argumentMembers (argumentsToJson arguments)))
  | .expression text => typedJson "expression" (.string text)

def valuesToJson : List Value → List Json
  | [] => []
  | v :: vs => v.toJson :: valuesToJson vs

def argumentsToJson : List (Argument Value) → List Json
  | [] => []
  | ⟨name, v⟩ :: rest => argumentJson name v.toJson :: argumentsToJson rest

end

def argumentsMember (arguments : List (Argument Value)) : List (String × Json) :=
  argumentMembers (argumentsToJson arguments)

def annotationJson (use : AnnotationUse) : Json :=
  .object (("kind", .string use.kind) :: argumentsMember use.arguments)

def DeclKind.word : DeclKind → String
  | .classType => "class"
  | .interfaceType => "interface"
  | .enumType => "enum"
  | .recordType => "record"
  | .annotationType => "annotation_type"

def MemberKind.word : MemberKind → String
  | .method => "method"
  | .property => "property"

def Member.toJson (m : Member) : Json :=
  .object [("name", .string m.name), ("kind", .string m.kind.word),
    ("annotations", .array (m.annotations.map annotationJson))]

def TypeDecl.toJson (t : TypeDecl) : Json :=
  .object [("name", .string t.name), ("kind", .string t.kind.word),
    ("annotations", .array (t.annotations.map annotationJson)),
    ("members", .array (t.members.map Member.toJson))]

def Header.toJson (h : Header) : Json :=
  .object [("package", Json.ofText? h.package), ("wildcards", .array (h.onDemand.map .string)),
    ("types", .array (h.types.map .string))]

open Decoder

/-- The types of values as they are written. -/
def valueTypes : List String :=
  ["string", "integer", "float", "boolean", "char", "null", "class", "constant", "array",
    "annotation", "expression"]

def int64Decoder : Decoder Int64 :=
  (whole Int64.minValue.toInt Int64.maxValue.toInt).map Int64.ofInt

def argumentDecoderOf (value : Decoder Value) : Decoder (Argument Value) := fun levels j => do
  let fs ← fields ["name", "value"] false levels j
  let name ← fs.withDefault "name" (orNull text) none
  let value ← fs.required "value" value
  return ⟨name, value⟩

def annotationDecoderOf (value : Decoder Value) : Decoder AnnotationUse := fun levels j => do
  let fs ← fields ["kind", "arguments"] false levels j
  let kind ← fs.required "kind" text
  let arguments ← fs.withDefault "arguments" (list (argumentDecoderOf value)) []
  return ⟨kind, arguments⟩

/-- A value in which at most `depth` values are nested, possibly in a document that is held. -/
def valueDecoderOf : Nat → Bool → Decoder Value
  | 0, _ => fun _ _ => none
  | depth + 1, held => fun levels j => do
    let ⟨type, content, levels, held⟩ ← tagged "type" "value" valueTypes held levels j
    match type, content with
    | "null", none => return .null
    | "null", some .null => return .null
    | "null", some _ => none
    | _, none => none
    | "string", some j => (text levels j).map .string
    | "integer", some j => (int64Decoder levels j).map .integer
    | "float", some j => (real levels j).map .real
    | "boolean", some j => (Decoder.truth levels j).map .truth
    | "char", some j => (text levels j).map .character
    | "class", some j => (text levels j).map .type
    | "constant", some j => (text levels j).map .constant
    | "array", some j => (list (valueDecoderOf depth held) levels j).map .array
    | "annotation", some j => (annotationDecoderOf (valueDecoderOf depth held) levels j).map .nested
    | "expression", some j => (text levels j).map .expression
    | _, _ => none

/-- A value. Each nested value takes a level, so the levels bound the nesting of values. -/
def valueDecoder : Decoder Value := fun levels j => valueDecoderOf (levels + 1) false levels j

def argumentDecoder : Decoder (Argument Value) := argumentDecoderOf valueDecoder

def annotationDecoder : Decoder AnnotationUse := annotationDecoderOf valueDecoder

def declKindDecoder : Decoder DeclKind :=
  oneOf ([.classType, .interfaceType, .enumType, .recordType, .annotationType].map
    fun k : DeclKind => (k.word, k))

def memberKindDecoder : Decoder MemberKind :=
  oneOf ([.method, .property].map fun k : MemberKind => (k.word, k))

def memberDecoder : Decoder Member := fun levels j => do
  let fs ← fields ["name", "kind", "annotations"] false levels j
  let name ← fs.required "name" text
  let kind ← fs.required "kind" memberKindDecoder
  let annotations ← fs.required "annotations" (list annotationDecoder)
  return ⟨name, kind, annotations⟩

def typeDeclDecoder : Decoder TypeDecl := fun levels j => do
  let fs ← fields ["name", "kind", "annotations", "members"] false levels j
  let name ← fs.required "name" text
  let kind ← fs.required "kind" declKindDecoder
  let annotations ← fs.required "annotations" (list annotationDecoder)
  let members ← fs.required "members" (list memberDecoder)
  return ⟨name, kind, annotations, members⟩

def Header.decoder : Decoder Header := fun levels j => do
  let fs ← fields ["package", "wildcards", "types"] false levels j
  let package ← fs.nullable "package" text
  let onDemand ← fs.required "wildcards" (list text)
  let types ← fs.required "types" (list text)
  return ⟨package, onDemand, types⟩

end AnnotationIndex.Java
