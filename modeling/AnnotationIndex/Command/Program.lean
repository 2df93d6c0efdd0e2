import AnnotationIndex.Command.Arguments
import AnnotationIndex.Command.LogFilter
import AnnotationIndex.Index.Catalog
import AnnotationIndex.Run.Report

/-!
# The program

A command line is carried out on a file tree. The outcome is what is printed, what is reported, how
the program ends and the tree it leaves.
-/

namespace AnnotationIndex

inductive Ending where
  | done (result : Json)
  | failed (failure : Failure)
  | refused (error : Arguments.UsageError)
  /-- No result can be given, not even a failure. -/
  | crashed

def Ending.code : Ending → Nat
  | .done _ => 0
  | .failed _ => 1
  | .refused .helpRequested => 0
  | .refused _ => 2
  | .crashed => 101

def Ending.ofFailure : Failure → Ending
  | .load (.splitCharacter _) => .crashed
  | f => .failed f

def Ending.ofResult : Except Failure Json → Ending
  | .ok result => .done result
  | .error f => .ofFailure f

structure Outcome where
  ending : Ending
  events : List Event
  tree : FileTree

def answered {α : Type} (a : Artifact) (tree : FileTree) (name : String) (form : α → Json)
    (requests : List (Request α)) : Except Failure (String × Json) × List Event :=
  (match answers requests with
    | .ok found => .ok (name, .array (found.map form))
    | .error e => .error (.load e),
    a.loadEvents tree (requestedTypes requests))

def queryParts (a : Artifact) (tree : FileTree) (kind : String) (target : QueryTarget) :
    List (Except Failure (String × Json) × List Event) :=
  let c := a.catalog tree
  (if target.covers .classes then
    [answered a tree "classes" TargetClass.toJson (c.findClasses kind)] else []) ++
  (if target.covers .methods then
    [answered a tree "methods" (TargetMember.toJson .method) (c.findMembers .method kind)]
    else []) ++
  if target.covers .properties then
    [answered a tree "properties" (TargetMember.toJson .property) (c.findMembers .property kind)]
    else []

/-- All parts of a result, or the first failure; nothing is reported after it. -/
def gatherParts {α : Type} :
    List (Except Failure α × List Event) → Except Failure (List α) × List Event
  | [] => (.ok [], [])
  | (.error f, events) :: _ => (.error f, events)
  | (.ok part, events) :: rest =>
    let (parts, more) := gatherParts rest
    (parts.map (part :: ·), events ++ more)

def queryArtifact (tree : FileTree) (path : Path) (kind : String) (target : QueryTarget) :
    Except Failure Json × List Event :=
  match Artifact.load tree path with
  | .error f => (.error f, [])
  | .ok a =>
    let (parts, events) := gatherParts (queryParts a tree kind target)
    (parts.map fun parts =>
      .object ([("kind", .string kind), ("artifact", .string path.text)] ++ parts), events)

def describeType (tree : FileTree) (path : Path) (typeName : String) :
    Except Failure Json × List Event :=
  match Artifact.load tree path with
  | .error f => (.error f, [])
  | .ok a =>
    let c := a.catalog tree
    (match c.view typeName with
      | .ok view => .ok view.toJson
      | .error e => .error (.load e),
      a.loadEvents tree (requestedTypes (c.typeRequests typeName)))

/-- What the store in a directory says about itself. The store is created if there is none. -/
def describeStore (tree : FileTree) (directory : Path) : Except Failure Json × FileTree :=
  match DurableStore.openAt tree directory with
  | (.error f, tree) => (.error f, tree)
  | (.ok store, tree) =>
    let session : Session DurableStore := { store }
    match Session.stats DurableStore.backend session with
    | (.error fault, session) => (.error (.store fault), session.store.close tree)
    | (.ok stats, session) => (.ok stats.toJson, session.store.close tree)

def clearStore (tree : FileTree) (directory : Path) : Except Failure Json × FileTree :=
  match DurableStore.clear tree directory with
  | (.error f, tree) => (.error f, tree)
  | (.ok (), tree) => (.ok (.object [("cleared", .string directory.text)]), tree)

def Outcome.failed (tree : FileTree) (f : Failure) : Outcome := ⟨.ofFailure f, [], tree⟩

namespace Invocation

def perform (i : Invocation) (tree : FileTree) : Outcome :=
  match i.command with
  | .generate options =>
    match i.baseConfig tree with
    | .error f => .failed tree f
    | .ok config =>
      let (result, events, left) := regenerate (config.overridden options) tree
      ⟨.ofResult (result.map RunReport.toJson), events, left⟩
  | .query artifact kind target =>
    match i.artifactPath tree artifact with
    | .error f => .failed tree f
    | .ok path =>
      let (result, events) := queryArtifact tree path kind target
      ⟨.ofResult result, events, tree⟩
  | .forClass typeName artifact =>
    match i.artifactPath tree artifact with
    | .error f => .failed tree f
    | .ok path =>
      let (result, events) := describeType tree path typeName
      ⟨.ofResult result, events, tree⟩
  | .stats given =>
    match i.cacheDirectory tree given with
    | .error f => .failed tree f
    | .ok directory =>
      let (result, left) := describeStore tree directory
      ⟨.ofResult result, [], left⟩
  | .clear given =>
    match i.cacheDirectory tree given with
    | .error f => .failed tree f
    | .ok directory =>
      let (result, left) := clearStore tree directory
      ⟨.ofResult result, [], left⟩

end Invocation

/-- Carries out a command line. Only events that pass the filter are left. -/
def runProgram (args : List String) (logSetting : Option String) (tree : FileTree) : Outcome :=
  match Arguments.read args with
  | .error e => ⟨.refused e, [], tree⟩
  | .ok i =>
    let o := i.perform tree
    { o with events := o.events.filter (LogFilter.ofSetting logSetting i.verbosity).admits }

end AnnotationIndex
