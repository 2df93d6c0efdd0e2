import AnnotationIndex.Index.Catalog
import Mathlib.Data.List.Induction

/-!
# What collections hold

Adding the records of a type appends its targets, kind by kind. Whether the arguments are dropped
before or after that makes no difference.
-/

namespace AnnotationIndex

open Java

def Records.members (r : Records) : MemberKind → List MemberRecord
  | .method => r.methods
  | .property => r.properties

namespace TypeRecords

def classTargets (r : TypeRecords) (kind : String) : List ClassTarget :=
  (r.records.classes.filter (·.kind = kind)).map fun c => ⟨r.typeName, c.arguments⟩

def memberTargets (r : TypeRecords) (memberKind : MemberKind) (kind : String) :
    List MemberTarget :=
  ((r.records.members memberKind).filter (·.kind = kind)).map fun m =>
    ⟨r.typeName, m.member, m.arguments⟩

end TypeRecords

/-- The targets of several types for one kind of annotation, in order. -/
def targetsOf (records : List TypeRecords) (kind : String) : Targets :=
  ⟨records.flatMap (·.classTargets kind), records.flatMap (·.memberTargets .method kind),
    records.flatMap (·.memberTargets .property kind)⟩

namespace Collection

/-- The targets of a kind, none if nothing is recorded for it. -/
def targetsIn (annotations : KeyMap String Targets) (kind : String) : Targets :=
  (annotations.get? kind).getD .empty

theorem targetsIn_addTarget (annotations : KeyMap String Targets) (kind other : String)
    (f : Targets → Targets) :
    targetsIn (addTarget annotations kind f) other =
      if other = kind then f (targetsIn annotations kind) else targetsIn annotations other := by
  rw [targetsIn, addTarget, KeyMap.get?_alter]
  split <;> rfl

private theorem targetsIn_foldl {ρ τ : Type} (key : ρ → String) (item : ρ → τ)
    (push : List τ → Targets → Targets) (hnil : ∀ t, push [] t = t)
    (happend : ∀ xs ys t, push ys (push xs t) = push (xs ++ ys) t) (records : List ρ)
    (annotations : KeyMap String Targets) (kind : String) :
    targetsIn (records.foldl (fun a r => addTarget a (key r) (push [item r])) annotations) kind =
      push ((records.filter (key · = kind)).map item) (targetsIn annotations kind) := by
  induction records generalizing annotations with
  | nil => simp [hnil]
  | cons r records ih =>
    rw [List.foldl_cons, ih, targetsIn_addTarget]
    by_cases hkind : key r = kind
    · subst hkind
      simp [happend]
    · have hne : ¬ kind = key r := fun h => hkind h.symm
      simp [hkind, hne]

private theorem targetsIn_addClasses (name : String) (records : List ClassRecord)
    (annotations : KeyMap String Targets) (kind : String) :
    targetsIn (records.foldl (addClass name) annotations) kind =
      let t := targetsIn annotations kind
      { t with classes := t.classes ++
        (records.filter (·.kind = kind)).map fun r => ⟨name, r.arguments⟩ } :=
  targetsIn_foldl ClassRecord.kind (fun r => (⟨name, r.arguments⟩ : ClassTarget))
    (fun xs t => { t with classes := t.classes ++ xs }) (by simp) (by simp) records annotations kind

private theorem targetsIn_addMethods (name : String) (records : List MemberRecord)
    (annotations : KeyMap String Targets) (kind : String) :
    targetsIn (records.foldl (addMethod name) annotations) kind =
      let t := targetsIn annotations kind
      { t with methods := t.methods ++
        (records.filter (·.kind = kind)).map fun r => ⟨name, r.member, r.arguments⟩ } :=
  targetsIn_foldl MemberRecord.kind (fun r => (⟨name, r.member, r.arguments⟩ : MemberTarget))
    (fun xs t => { t with methods := t.methods ++ xs }) (by simp) (by simp) records annotations kind

private theorem targetsIn_addProperties (name : String) (records : List MemberRecord)
    (annotations : KeyMap String Targets) (kind : String) :
    targetsIn (records.foldl (addProperty name) annotations) kind =
      let t := targetsIn annotations kind
      { t with properties := t.properties ++
        (records.filter (·.kind = kind)).map fun r => ⟨name, r.member, r.arguments⟩ } :=
  targetsIn_foldl MemberRecord.kind (fun r => (⟨name, r.member, r.arguments⟩ : MemberTarget))
    (fun xs t => { t with properties := t.properties ++ xs }) (by simp) (by simp) records
    annotations kind

theorem annotations_add (c : Collection) (name : String) (location : Path) (records : Records) :
    (c.add name location records).annotations =
      records.properties.foldl (addProperty name) (records.methods.foldl (addMethod name)
        (records.classes.foldl (addClass name) c.annotations)) := by
  unfold add
  split
  · rename_i hempty
    simp only [Records.isEmpty, Bool.and_eq_true, List.isEmpty_iff] at hempty
    obtain ⟨⟨hclasses, hmethods⟩, hproperties⟩ := hempty
    rw [hclasses, hmethods, hproperties]
    rfl
  · rfl

theorem targetsIn_add (c : Collection) (location : Path) (r : TypeRecords) (kind : String) :
    targetsIn (c.add r.typeName location r.records).annotations kind =
      ⟨(targetsIn c.annotations kind).classes ++ r.classTargets kind,
        (targetsIn c.annotations kind).methods ++ r.memberTargets .method kind,
        (targetsIn c.annotations kind).properties ++ r.memberTargets .property kind⟩ := by
  rw [annotations_add, targetsIn_addProperties, targetsIn_addMethods, targetsIn_addClasses]
  rfl

theorem locations_add (c : Collection) (location : Path) (r : TypeRecords) :
    (c.add r.typeName location r.records).locations =
      if r.records.isEmpty then c.locations else c.locations.insert r.typeName location := by
  unfold add
  split <;> rfl

/-- The collection with the records of more types, each with its location. -/
def addEach (c : Collection) (items : List (TypeRecords × Path)) : Collection :=
  items.foldl (fun c item => c.add item.1.typeName item.2 item.1.records) c

theorem addAll_eq_addEach (c : Collection) (records : List TypeRecords)
    (locate : String → Option Path) :
    c.addAll records locate =
      c.addEach (records.filterMap fun r => (locate r.typeName).map (r, ·)) := by
  rw [addAll, addEach]
  induction records generalizing c with
  | nil => rfl
  | cons r records ih =>
    rw [List.foldl_cons, ih, List.filterMap_cons]
    cases locate r.typeName <;> rfl

theorem addEach_concat (c : Collection) (items : List (TypeRecords × Path))
    (item : TypeRecords × Path) :
    c.addEach (items ++ [item]) =
      (c.addEach items).add item.1.typeName item.2 item.1.records := by
  rw [addEach, List.foldl_append]
  rfl

theorem targetsIn_addEach (items : List (TypeRecords × Path)) (kind : String) :
    targetsIn (empty.addEach items).annotations kind = targetsOf (items.map (·.1)) kind := by
  induction items using List.reverseRecOn with
  | nil => rfl
  | append_singleton items item ih =>
    rw [addEach_concat, targetsIn_add, ih]
    simp [targetsOf]

theorem classes_addEach (items : List (TypeRecords × Path)) (kind : String) :
    (targetsIn (empty.addEach items).annotations kind).classes =
      items.flatMap (·.1.classTargets kind) := by
  rw [targetsIn_addEach, targetsOf, List.flatMap_map]

theorem members_addEach (items : List (TypeRecords × Path)) (memberKind : MemberKind)
    (kind : String) :
    (targetsIn (empty.addEach items).annotations kind).members memberKind =
      items.flatMap (·.1.memberTargets memberKind kind) := by
  cases memberKind <;> simp [targetsIn_addEach, targetsOf, Targets.members, List.flatMap_map]

end Collection

namespace KeyMap

variable {α β : Type}

def mapValues (f : α → β) (m : KeyMap String α) : KeyMap String β :=
  ⟨m.entries.map fun e => (e.1, f e.2), List.pairwise_map.2 m.sorted⟩

theorem get?_mapValues (f : α → β) (m : KeyMap String α) (key : String) :
    (m.mapValues f).get? key = (m.get? key).map f := by
  simp only [mapValues, get?]
  induction m.entries with
  | nil => rfl
  | cons e entries ih =>
    rw [List.map_cons, List.lookup_cons, List.lookup_cons, ih]
    split <;> rfl

theorem mapValues_alter (f : α → β) {g : Option α → α} {h : Option β → β}
    (hcomm : ∀ x, f (g x) = h (x.map f)) (m : KeyMap String α) (key : String) :
    (m.alter key g).mapValues f = (m.mapValues f).alter key h := by
  apply ext
  simp only [mapValues, alter]
  induction m.entries with
  | nil => simp [alterEntries, hcomm]
  | cons e entries ih =>
    simp only [alterEntries, List.map_cons]
    split
    · simp [hcomm]
    · split
      · simp [hcomm]
      · rw [List.map_cons, ih]

end KeyMap

def ClassTarget.bare (t : ClassTarget) : ClassTarget := { t with arguments := [] }

def MemberTarget.bare (t : MemberTarget) : MemberTarget := { t with arguments := [] }

def Targets.bare (t : Targets) : Targets :=
  ⟨t.classes.map .bare, t.methods.map .bare, t.properties.map .bare⟩

def ClassRecord.bare (r : ClassRecord) : ClassRecord := { r with arguments := [] }

def MemberRecord.bare (r : MemberRecord) : MemberRecord := { r with arguments := [] }

def Records.bare (r : Records) : Records :=
  ⟨r.classes.map .bare, r.methods.map .bare, r.properties.map .bare⟩

theorem Records.isEmpty_bare (r : Records) : r.bare.isEmpty = r.isEmpty := by
  simp [bare, isEmpty]

namespace Collection

def bare (c : Collection) : Collection :=
  { c with annotations := c.annotations.mapValues Targets.bare }

private theorem addTarget_bare {f g : Targets → Targets} (h : ∀ t, (f t).bare = g t.bare)
    (annotations : KeyMap String Targets) (kind : String) :
    (addTarget annotations kind f).mapValues Targets.bare =
      addTarget (annotations.mapValues Targets.bare) kind g := by
  apply KeyMap.mapValues_alter
  intro targets
  rw [h]
  cases targets <;> rfl

private theorem foldl_bare {ρ : Type} {drop : ρ → ρ} {step : KeyMap String Targets → ρ → KeyMap String Targets}
    (hstep : ∀ m r, (step m r).mapValues Targets.bare = step (m.mapValues Targets.bare) (drop r))
    (records : List ρ) (m : KeyMap String Targets) :
    (records.foldl step m).mapValues Targets.bare =
      (records.map drop).foldl step (m.mapValues Targets.bare) := by
  induction records generalizing m with
  | nil => rfl
  | cons r records ih => rw [List.foldl_cons, ih, hstep, List.map_cons, List.foldl_cons]

theorem add_bare (c : Collection) (name : String) (location : Path) (records : Records) :
    c.bare.add name location records.bare = (c.add name location records).bare := by
  have hclass : ∀ m r, (addClass name m r).mapValues Targets.bare =
      addClass name (m.mapValues Targets.bare) r.bare := by
    intro m r
    exact addTarget_bare (by simp [Targets.bare, ClassTarget.bare, ClassRecord.bare]) m r.kind
  have hmethod : ∀ m r, (addMethod name m r).mapValues Targets.bare =
      addMethod name (m.mapValues Targets.bare) r.bare := by
    intro m r
    exact addTarget_bare (by simp [Targets.bare, MemberTarget.bare, MemberRecord.bare]) m r.kind
  have hproperty : ∀ m r, (addProperty name m r).mapValues Targets.bare =
      addProperty name (m.mapValues Targets.bare) r.bare := by
    intro m r
    exact addTarget_bare (by simp [Targets.bare, MemberTarget.bare, MemberRecord.bare]) m r.kind
  unfold add
  rw [Records.isEmpty_bare]
  split
  · rfl
  · simp only [bare, Records.bare, foldl_bare hclass, foldl_bare hmethod, foldl_bare hproperty]

end Collection

end AnnotationIndex
