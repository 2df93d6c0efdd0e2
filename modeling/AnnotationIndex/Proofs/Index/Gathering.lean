import AnnotationIndex.Proofs.Data.KeyMap
import AnnotationIndex.Proofs.Data.LastMember
import AnnotationIndex.Proofs.Index.Collections

/-!
# Gathering records

A collection has the kinds of all records that were added to it and as many targets as there were
records, and it locates the types that its targets name.
-/

namespace AnnotationIndex

open Java

/-- The kinds of annotations that are recorded. -/
def Records.kinds (r : Records) : List String :=
  r.classes.map (·.kind) ++ r.methods.map (·.kind) ++ r.properties.map (·.kind)

theorem Records.isEmpty_eq_false_iff {r : Records} :
    r.isEmpty = false ↔ ∃ kind, kind ∈ r.kinds := by
  have hempty : r.isEmpty = true ↔ r.kinds = [] := by simp [isEmpty, kinds, and_assoc]
  rw [← Bool.not_eq_true, hempty, List.eq_nil_iff_forall_not_mem, not_forall_not]

/-- The types that targets name. -/
def Targets.typeNames (t : Targets) : List String :=
  t.classes.map (·.typeName) ++ t.methods.map (·.typeName) ++ t.properties.map (·.typeName)

theorem Targets.mem_typeNames {t : Targets} {name : String} :
    name ∈ t.typeNames ↔ (∃ x ∈ t.classes, x.typeName = name) ∨
      ∃ memberKind, ∃ x ∈ t.members memberKind, x.typeName = name := by
  have hmembers : (∃ memberKind, ∃ x ∈ t.members memberKind, x.typeName = name) ↔
      (∃ x ∈ t.methods, x.typeName = name) ∨ ∃ x ∈ t.properties, x.typeName = name := by
    constructor
    · rintro ⟨_ | _, h⟩
      · exact .inl h
      · exact .inr h
    · rintro (h | h)
      · exact ⟨.method, h⟩
      · exact ⟨.property, h⟩
  rw [hmembers]
  simp [typeNames]

theorem mem_typeNames_targetsOf {records : List TypeRecords} {kind name : String} :
    name ∈ (targetsOf records kind).typeNames ↔
      ∃ r ∈ records, r.typeName = name ∧ kind ∈ r.records.kinds := by
  have hone : ∀ r : TypeRecords, r.typeName = name ∧ kind ∈ r.records.kinds ↔
      name ∈ (r.classTargets kind).map (·.typeName) ∨
        name ∈ (r.memberTargets .method kind).map (·.typeName) ∨
          name ∈ (r.memberTargets .property kind).map (·.typeName) := by
    intro r
    simp [TypeRecords.classTargets, TypeRecords.memberTargets, Records.kinds, Records.members,
      and_or_left, and_comm]
  simp only [hone, targetsOf, Targets.typeNames, List.map_flatMap, List.mem_append,
    List.mem_flatMap, ← exists_or, ← and_or_left, or_assoc]

namespace Collection

private theorem contains_foldl {ρ : Type} (key : ρ → String) (change : ρ → Targets → Targets)
    (records : List ρ) (annotations : KeyMap String Targets) (kind : String) :
    (records.foldl (fun a r => addTarget a (key r) (change r)) annotations).contains kind = true ↔
      annotations.contains kind = true ∨ kind ∈ records.map key := by
  induction records generalizing annotations with
  | nil => simp
  | cons r records ih =>
    rw [List.foldl_cons, ih, addTarget, KeyMap.contains_alter, List.map_cons, List.mem_cons,
      Bool.or_eq_true, decide_eq_true_eq]
    tauto

theorem contains_add (c : Collection) (location : Path) (r : TypeRecords) (kind : String) :
    (c.add r.typeName location r.records).annotations.contains kind = true ↔
      c.annotations.contains kind = true ∨ kind ∈ r.records.kinds := by
  have hclasses : ∀ a, (r.records.classes.foldl (addClass r.typeName) a).contains kind = true ↔
      a.contains kind = true ∨ kind ∈ r.records.classes.map (·.kind) :=
    fun a => contains_foldl ClassRecord.kind _ _ a kind
  have hmethods : ∀ a, (r.records.methods.foldl (addMethod r.typeName) a).contains kind = true ↔
      a.contains kind = true ∨ kind ∈ r.records.methods.map (·.kind) :=
    fun a => contains_foldl MemberRecord.kind _ _ a kind
  have hproperties : ∀ a,
      (r.records.properties.foldl (addProperty r.typeName) a).contains kind = true ↔
        a.contains kind = true ∨ kind ∈ r.records.properties.map (·.kind) :=
    fun a => contains_foldl MemberRecord.kind _ _ a kind
  simp only [annotations_add, hproperties, hmethods, hclasses, Records.kinds, List.mem_append,
    or_assoc]

theorem total_eq (c : Collection) (n : Targets → Nat) :
    c.total n = (c.annotations.values.map n).sum := by
  rw [total, List.sum_eq_foldl, List.foldl_map]

private theorem sum_foldl {ρ : Type} {n : Targets → Nat} {d : Nat} (key : ρ → String)
    (change : ρ → Targets → Targets) (hempty : n .empty = 0)
    (h : ∀ r t, n (change r t) = n t + d) (records : List ρ) (annotations : KeyMap String Targets) :
    ((records.foldl (fun a r => addTarget a (key r) (change r)) annotations).values.map n).sum =
      (annotations.values.map n).sum + records.length * d := by
  induction records generalizing annotations with
  | nil => simp
  | cons r records ih =>
    have hold : ∀ old : Option Targets,
        n (change r (old.getD .empty)) = old.elim 0 n + d := by
      rintro (_ | t)
      · simp [h, hempty]
      · simp [h]
    rw [List.foldl_cons, ih, addTarget, KeyMap.sum_alter hold, List.length_cons, Nat.succ_mul,
      Nat.add_assoc, Nat.add_comm d]

theorem total_add {n : Targets → Nat} {classes methods properties : Nat} (hempty : n .empty = 0)
    (hclass : ∀ t x, n { t with classes := t.classes ++ [x] } = n t + classes)
    (hmethod : ∀ t x, n { t with methods := t.methods ++ [x] } = n t + methods)
    (hproperty : ∀ t x, n { t with properties := t.properties ++ [x] } = n t + properties)
    (c : Collection) (location : Path) (r : TypeRecords) :
    (c.add r.typeName location r.records).total n = c.total n +
      (r.records.classes.length * classes + r.records.methods.length * methods +
        r.records.properties.length * properties) := by
  have hclasses : ∀ a, ((r.records.classes.foldl (addClass r.typeName) a).values.map n).sum =
      (a.values.map n).sum + r.records.classes.length * classes :=
    sum_foldl ClassRecord.kind _ hempty (fun _ t => hclass t _) _
  have hmethods : ∀ a, ((r.records.methods.foldl (addMethod r.typeName) a).values.map n).sum =
      (a.values.map n).sum + r.records.methods.length * methods :=
    sum_foldl MemberRecord.kind _ hempty (fun _ t => hmethod t _) _
  have hproperties : ∀ a,
      ((r.records.properties.foldl (addProperty r.typeName) a).values.map n).sum =
        (a.values.map n).sum + r.records.properties.length * properties :=
    sum_foldl MemberRecord.kind _ hempty (fun _ t => hproperty t _) _
  rw [total_eq, total_eq, annotations_add, hproperties, hmethods, hclasses, Nat.add_assoc,
    Nat.add_assoc, Nat.add_assoc]

theorem contains_annotations (items : List (TypeRecords × Path)) (kind : String) :
    (empty.addEach items).annotations.contains kind = true ↔
      ∃ item ∈ items, kind ∈ item.1.records.kinds := by
  induction items using List.reverseRecOn with
  | nil => simp [addEach, empty, KeyMap.contains, KeyMap.get?, KeyMap.empty]
  | append_singleton items item ih =>
    rw [addEach_concat, contains_add, ih]
    simp [or_and_right, exists_or]

theorem get?_locations (items : List (TypeRecords × Path)) (name : String) :
    (empty.addEach items).locations.get? name = (items.findRev? fun item =>
      item.1.typeName = name && !item.1.records.isEmpty).map (·.2) := by
  induction items using List.reverseRecOn with
  | nil => rfl
  | append_singleton items item ih =>
    rw [addEach_concat, locations_add, findRev?_concat]
    cases item.1.records.isEmpty with
    | true => simpa using ih
    | false =>
      simp only [Bool.false_eq_true, if_false, KeyMap.get?_insert, ih, Bool.not_false,
        Bool.and_true, decide_eq_true_eq, eq_comm (a := name)]
      split <;> rfl

theorem contains_locations (items : List (TypeRecords × Path)) (name : String) :
    (empty.addEach items).locations.contains name = true ↔
      ∃ item ∈ items, item.1.typeName = name ∧ item.1.records.isEmpty = false := by
  rw [KeyMap.contains, get?_locations, Option.isSome_map, ← Option.ne_none_iff_isSome, Ne,
    findRev?_eq_none_iff]
  simp

/-- The types that are located are those that the targets name. -/
theorem located_iff (items : List (TypeRecords × Path)) (name : String) :
    (empty.addEach items).locations.contains name = true ↔
      ∃ kind, name ∈ (targetsIn (empty.addEach items).annotations kind).typeNames := by
  simp only [contains_locations, targetsIn_addEach, mem_typeNames_targetsOf,
    Records.isEmpty_eq_false_iff, List.mem_map]
  constructor
  · rintro ⟨item, hitem, hname, kind, hkind⟩
    exact ⟨kind, item.1, ⟨item, hitem, rfl⟩, hname, hkind⟩
  · rintro ⟨kind, -, ⟨item, hitem, rfl⟩, hname, hkind⟩
    exact ⟨item, hitem, hname, kind, hkind⟩

theorem total_addEach {n : Targets → Nat} (classes methods properties : Nat)
    (hempty : n .empty = 0)
    (hclass : ∀ t x, n { t with classes := t.classes ++ [x] } = n t + classes)
    (hmethod : ∀ t x, n { t with methods := t.methods ++ [x] } = n t + methods)
    (hproperty : ∀ t x, n { t with properties := t.properties ++ [x] } = n t + properties)
    (items : List (TypeRecords × Path)) :
    (empty.addEach items).total n = (items.map fun item =>
      item.1.records.classes.length * classes + item.1.records.methods.length * methods +
        item.1.records.properties.length * properties).sum := by
  induction items using List.reverseRecOn with
  | nil => rfl
  | append_singleton items item ih =>
    rw [addEach_concat, total_add hempty hclass hmethod hproperty, ih, List.map_append,
      List.sum_append_nat, List.map_singleton, List.sum_singleton]

theorem get?_eq_targetsIn (annotations : KeyMap String Targets) (kind : String) :
    annotations.get? kind =
      if annotations.contains kind then some (targetsIn annotations kind) else none := by
  rw [KeyMap.contains, targetsIn]
  cases annotations.get? kind <;> rfl

theorem mem_typeNames_targetsIn {annotations : KeyMap String Targets} {kind name : String} :
    name ∈ (targetsIn annotations kind).typeNames ↔
      ∃ targets, annotations.get? kind = some targets ∧ name ∈ targets.typeNames := by
  rw [targetsIn]
  cases annotations.get? kind <;> simp [Targets.typeNames, Targets.empty]

end Collection

/-- Whatever is added one after the other, a collection has exactly the kinds that are recorded,
under each kind its records in order, and as many targets as there were records. It locates exactly
the types that its targets name, where they were last added with records. -/
theorem collection_of_records (items : List (TypeRecords × Path)) :
    let c := Collection.empty.addEach items
    (∀ kind, kind ∈ c.annotations.keys ↔ ∃ item ∈ items, kind ∈ item.1.records.kinds) ∧
    (∀ kind, c.annotations.get? kind =
      if kind ∈ c.annotations.keys then some (targetsOf (items.map (·.1)) kind) else none) ∧
    c.classCount = (items.map (·.1.records.classes.length)).sum ∧
    c.methodCount = (items.map (·.1.records.methods.length)).sum ∧
    c.propertyCount = (items.map (·.1.records.properties.length)).sum ∧
    (∀ name, name ∈ c.locations.keys ↔
      ∃ kind targets, c.annotations.get? kind = some targets ∧ name ∈ targets.typeNames) ∧
    ∀ name, c.locations.get? name = (items.findRev? fun item =>
      item.1.typeName = name && !item.1.records.isEmpty).map (·.2) := by
  intro c
  have hget : ∀ kind, c.annotations.get? kind =
      if kind ∈ c.annotations.keys then some (targetsOf (items.map (·.1)) kind) else none := by
    intro kind
    simp only [KeyMap.mem_keys, Collection.get?_eq_targetsIn, c, Collection.targetsIn_addEach]
  refine ⟨fun kind => ?_, hget, ?_, ?_, ?_, fun name => ?_, Collection.get?_locations items⟩
  · rw [KeyMap.mem_keys]
    exact Collection.contains_annotations items kind
  · refine (Collection.total_addEach 1 0 0 rfl ?_ ?_ ?_ items).trans ?_ <;> simp
  · refine (Collection.total_addEach 0 1 0 rfl ?_ ?_ ?_ items).trans ?_ <;> simp
  · refine (Collection.total_addEach 0 0 1 rfl ?_ ?_ ?_ items).trans ?_ <;> simp
  · rw [KeyMap.mem_keys, Collection.located_iff]
    exact exists_congr fun kind => Collection.mem_typeNames_targetsIn

end AnnotationIndex
