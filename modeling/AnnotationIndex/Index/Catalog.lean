import AnnotationIndex.Index.Artifact

/-!
# Queries

A catalog answers questions about an artifact. The annotation on a target is built from the recorded
arguments if the artifact has them. Otherwise the type is loaded, and the n-th record of a kind on a
target stands for the n-th annotation of that kind that is found there.
-/

namespace AnnotationIndex

open Java

structure Catalog where
  artifact : Artifact
  load : String → Except LoadError TypeDecl

structure TargetClass where
  typeName : String
  annotation : AnnotationUse
  deriving Repr

structure TargetMember where
  typeName : String
  member : String
  annotation : AnnotationUse
  deriving Repr

structure TypeView where
  classes : List AnnotationUse
  methods : KeyMap String (List AnnotationUse)
  properties : KeyMap String (List AnnotationUse)

/-- Each element with the number of earlier elements that have the same key. -/
def numbered {α κ : Type} [BEq κ] (key : α → κ) (earlier : List κ) : List α → List (α × Nat)
  | [] => []
  | x :: rest => (x, earlier.count (key x)) :: numbered key (key x :: earlier) rest

def nthOfKind? (uses : List AnnotationUse) (kind : String) (n : Nat) : Option AnnotationUse :=
  (uses.filter (·.kind = kind))[n]?

/-- The annotations on all members of one name and kind, as one sequence. -/
def memberAnnotations (decl : TypeDecl) (kind : MemberKind) (name : String) : List AnnotationUse :=
  (decl.members.filter fun m => m.kind = kind && m.name = name).flatMap (·.annotations)

def Targets.members (t : Targets) : MemberKind → List MemberTarget
  | .method => t.methods
  | .property => t.properties

/-- An answer that takes loading a type, if the artifact has no arguments. -/
structure Request (α : Type) where
  typeName : String
  answer : Except LoadError α

def Request.map {α β : Type} (f : α → β) (r : Request α) : Request β :=
  ⟨r.typeName, r.answer.map f⟩

def answers {α : Type} : List (Request α) → Except LoadError (List α)
  | [] => .ok []
  | r :: rest =>
    match r.answer with
    | .error e => .error e
    | .ok a => (answers rest).map (a :: ·)

/-- The types that are loaded for a list of requests: none after the first error. -/
def requestedTypes {α : Type} : List (Request α) → List String
  | [] => []
  | r :: rest => r.typeName :: if r.answer.toBool then requestedTypes rest else []

namespace Catalog

def classAnnotation (c : Catalog) (kind : String) (target : ClassTarget) (occurrence : Nat) :
    Except LoadError AnnotationUse :=
  if c.artifact.argumentsCaptured then .ok ⟨kind, target.arguments⟩
  else
    match c.load target.typeName with
    | .error e => .error e
    | .ok decl =>
      match nthOfKind? decl.annotations kind occurrence with
      | some use => .ok use
      | none => .error (.annotationNotFound kind target.typeName occurrence)

def memberAnnotation (c : Catalog) (memberKind : MemberKind) (kind : String)
    (target : MemberTarget) (occurrence : Nat) : Except LoadError AnnotationUse :=
  if c.artifact.argumentsCaptured then .ok ⟨kind, target.arguments⟩
  else
    match c.load target.typeName with
    | .error e => .error e
    | .ok decl =>
      if (decl.member? memberKind target.member).isNone then
        .error (.memberNotFound target.typeName memberKind target.member)
      else
        match nthOfKind? (memberAnnotations decl memberKind target.member) kind occurrence with
        | some use => .ok use
        | none => .error (.annotationNotFound kind (target.typeName ++ "::" ++ target.member)
            occurrence)

def classRequests (c : Catalog) (wanted : String → Bool) (kind : String) (targets : Targets) :
    List (Request TargetClass) :=
  ((numbered ClassTarget.typeName [] targets.classes).filter fun (t, _) => wanted t.typeName).map
    fun (t, n) => ⟨t.typeName, (c.classAnnotation kind t n).map fun use => ⟨t.typeName, use⟩⟩

def memberRequests (c : Catalog) (memberKind : MemberKind) (wanted : String → String → Bool)
    (kind : String) (targets : Targets) : List (Request TargetMember) :=
  ((numbered (fun t => (t.typeName, t.member)) [] (targets.members memberKind)).filter
    fun (t, _) => wanted t.typeName t.member).map fun (t, n) =>
      ⟨t.typeName, (c.memberAnnotation memberKind kind t n).map fun use =>
        ⟨t.typeName, t.member, use⟩⟩

def kinds (c : Catalog) : List String := c.artifact.annotations.keys

def findClasses (c : Catalog) (kind : String) : List (Request TargetClass) :=
  match c.artifact.annotations.get? kind with
  | some targets => c.classRequests (fun _ => true) kind targets
  | none => []

def findMembers (c : Catalog) (memberKind : MemberKind) (kind : String) :
    List (Request TargetMember) :=
  match c.artifact.annotations.get? kind with
  | some targets => c.memberRequests memberKind (fun _ _ => true) kind targets
  | none => []

def filterClasses (c : Catalog) (wanted : String → String → Bool) : List (Request TargetClass) :=
  c.artifact.annotations.entries.flatMap fun (kind, targets) =>
    c.classRequests (wanted kind) kind targets

def filterMembers (c : Catalog) (memberKind : MemberKind)
    (wanted : String → String → String → Bool) : List (Request TargetMember) :=
  c.artifact.annotations.entries.flatMap fun (kind, targets) =>
    c.memberRequests memberKind (wanted kind) kind targets

inductive ViewItem where
  | onClass (target : TargetClass)
  | onMember (kind : MemberKind) (target : TargetMember)
  deriving Repr

/-- What is recorded on one type, by kind, and for each kind first on the type, then on its methods
and then on its properties. -/
def typeRequests (c : Catalog) (typeName : String) : List (Request ViewItem) :=
  c.artifact.annotations.entries.flatMap fun (kind, targets) =>
    (c.classRequests (· = typeName) kind targets).map (Request.map .onClass) ++
    [MemberKind.method, .property].flatMap fun memberKind =>
      (c.memberRequests memberKind (fun t _ => t = typeName) kind targets).map
        (Request.map (.onMember memberKind))

end Catalog

namespace TypeView

def empty : TypeView := ⟨[], .empty, .empty⟩

private def addTo (m : KeyMap String (List AnnotationUse)) (target : TargetMember) :
    KeyMap String (List AnnotationUse) :=
  m.alter target.member fun uses => uses.getD [] ++ [target.annotation]

def add (v : TypeView) : Catalog.ViewItem → TypeView
  | .onClass target => { v with classes := v.classes ++ [target.annotation] }
  | .onMember .method target => { v with methods := addTo v.methods target }
  | .onMember .property target => { v with properties := addTo v.properties target }

def ofItems (items : List Catalog.ViewItem) : TypeView := items.foldl add empty

end TypeView

def Catalog.view (c : Catalog) (typeName : String) : Except LoadError TypeView :=
  (answers (c.typeRequests typeName)).map TypeView.ofItems

def Artifact.catalog (a : Artifact) (tree : FileTree) : Catalog := ⟨a, a.loader.decl tree⟩

/-- What is reported while types are loaded for a catalog. Each type is loaded once for a query. -/
def Artifact.loadEvents (a : Artifact) (tree : FileTree) (types : List String) : List Event :=
  if a.argumentsCaptured then [] else types.eraseDups.flatMap (a.loader.declEvents tree)

def TargetClass.toJson (t : TargetClass) : Json :=
  .object [("type", .string t.typeName), ("annotation", annotationJson t.annotation)]

def TargetMember.toJson (kind : MemberKind) (t : TargetMember) : Json :=
  .object [("type", .string t.typeName), (kind.word, .string t.member),
    ("annotation", annotationJson t.annotation)]

def TypeView.toJson (v : TypeView) : Json :=
  let uses (list : List AnnotationUse) : Json := .array (list.map annotationJson)
  let members (m : KeyMap String (List AnnotationUse)) : Json :=
    .object (m.entries.map fun (name, list) => (name, uses list))
  .object [("classes", uses v.classes), ("methods", members v.methods),
    ("properties", members v.properties)]

end AnnotationIndex
