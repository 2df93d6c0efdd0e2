import AnnotationIndex.Index.Record
import AnnotationIndex.Proofs.Java.Documents

/-!
# Documents of records

Records are read back from their documents if the floating point numbers in them are and the
documents are not nested too deep.
-/

namespace AnnotationIndex

open Decoder Java Json Number

variable {bound : Nat}

def Records.reals (r : Records) : List Binary64 :=
  r.classes.flatMap (realsOfArguments ·.arguments) ++
    r.methods.flatMap (realsOfArguments ·.arguments) ++
    r.properties.flatMap (realsOfArguments ·.arguments)

def realsOfRecords (rs : List TypeRecords) : List Binary64 := rs.flatMap (·.records.reals)

theorem exact_classRecord {r : ClassRecord} (h : ∀ x ∈ realsOfArguments r.arguments, ReadsBack x) :
    Exact bound ClassRecord.decoder r.toJson r := by
  have harguments : Exact bound _ _ _ := exact_arguments h
  unfold ClassRecord.toJson
  generalize Json.array (argumentsToJson r.arguments) = j at harguments ⊢
  apply exact_record (by simp) (by simp)
  intro levels hlevels
  simp [Fields.withDefault, Fields.required, List.lookup_cons, harguments levels hlevels, bind_within,
    depthOfMembers, depth, text]

theorem exact_memberRecord {r : MemberRecord}
    (h : ∀ x ∈ realsOfArguments r.arguments, ReadsBack x) :
    Exact bound MemberRecord.decoder r.toJson r := by
  have harguments : Exact bound _ _ _ := exact_arguments h
  unfold MemberRecord.toJson
  generalize Json.array (argumentsToJson r.arguments) = j at harguments ⊢
  apply exact_record (by simp) (by simp)
  intro levels hlevels
  simp [Fields.withDefault, Fields.required, List.lookup_cons, harguments levels hlevels, bind_within,
    depthOfMembers, depth, text]

theorem exact_records {r : Records} (h : ∀ x ∈ r.reals, ReadsBack x) :
    Exact bound Records.decoder r.toJson r := by
  have hclasses : Exact bound (list ClassRecord.decoder)
      (.array (r.classes.map ClassRecord.toJson)) r.classes := by
    apply exact_list
    intro c hc
    apply exact_classRecord
    intro x hx
    apply h
    simp only [Records.reals, List.mem_append, List.mem_flatMap]
    exact Or.inl (Or.inl ⟨c, hc, hx⟩)
  have hmethods : Exact bound (list MemberRecord.decoder)
      (.array (r.methods.map MemberRecord.toJson)) r.methods := by
    apply exact_list
    intro m hm
    apply exact_memberRecord
    intro x hx
    apply h
    simp only [Records.reals, List.mem_append, List.mem_flatMap]
    exact Or.inl (Or.inr ⟨m, hm, hx⟩)
  have hproperties : Exact bound (list MemberRecord.decoder)
      (.array (r.properties.map MemberRecord.toJson)) r.properties := by
    apply exact_list
    intro p hp
    apply exact_memberRecord
    intro x hx
    apply h
    simp only [Records.reals, List.mem_append, List.mem_flatMap]
    exact Or.inr ⟨p, hp, hx⟩
  unfold Records.toJson
  generalize Json.array (r.classes.map ClassRecord.toJson) = jc at hclasses ⊢
  generalize Json.array (r.methods.map MemberRecord.toJson) = jm at hmethods ⊢
  generalize Json.array (r.properties.map MemberRecord.toJson) = jp at hproperties ⊢
  apply exact_record (by simp) (by simp)
  intro levels hlevels
  simp [Fields.required, List.lookup_cons, hclasses levels hlevels, hmethods levels hlevels,
    hproperties levels hlevels, bind_within, within_within, depthOfMembers]

theorem exact_typeRecords {r : TypeRecords} (h : ∀ x ∈ r.records.reals, ReadsBack x) :
    Exact bound TypeRecords.decoder r.toJson r := by
  have hrecords : Exact bound _ _ _ := exact_records h
  unfold TypeRecords.toJson
  generalize r.records.toJson = j at hrecords ⊢
  apply exact_record (by simp) (by simp)
  intro levels hlevels
  simp [Fields.required, List.lookup_cons, hrecords levels hlevels, bind_within, depthOfMembers, depth,
    text]

private theorem printable_records {r : Records} (h : ∀ x ∈ r.reals, ReadsBack x) :
    r.toJson.Printable := by
  simp only [Records.reals, List.mem_append, List.mem_flatMap] at h
  have hclasses : ∀ c ∈ r.classes, c.toJson.Printable := by
    intro c hc
    have harguments := printable_argumentsToJson fun x hx => h x (Or.inl (Or.inl ⟨c, hc, hx⟩))
    simp only [ClassRecord.toJson]
    generalize Json.array (argumentsToJson c.arguments) = j at harguments ⊢
    simp [harguments]
  have hmembers : ∀ m ∈ r.methods ++ r.properties, m.toJson.Printable := by
    intro m hm
    have harguments : (Json.array (argumentsToJson m.arguments)).Printable := by
      apply printable_argumentsToJson
      intro x hx
      rcases List.mem_append.1 hm with hm | hm
      · exact h x (Or.inl (Or.inr ⟨m, hm, hx⟩))
      · exact h x (Or.inr ⟨m, hm, hx⟩)
    simp only [MemberRecord.toJson]
    generalize Json.array (argumentsToJson m.arguments) = j at harguments ⊢
    simp [harguments]
  simp only [List.mem_append] at hmembers
  simp only [Records.toJson, printable_object, List.mem_cons, List.not_mem_nil, or_false,
    forall_eq_or_imp, forall_eq, printable_array, List.forall_mem_map]
  exact ⟨hclasses, fun m hm => hmembers m (Or.inl hm), fun m hm => hmembers m (Or.inr hm)⟩

def recordsDocument (rs : List TypeRecords) : Json := .array (rs.map TypeRecords.toJson)

theorem run_records {rs : List TypeRecords} (h : ∀ x ∈ realsOfRecords rs, ReadsBack x) :
    (list TypeRecords.decoder).run (recordsDocument rs).compact =
      if (recordsDocument rs).depth ≤ depthLimit then some rs else none := by
  simp only [realsOfRecords, List.mem_flatMap] at h
  have hexact : Exact (depthLimit + 1) (list TypeRecords.decoder) (recordsDocument rs) rs := by
    apply exact_list
    intro r hr
    exact exact_typeRecords fun x hx => h x ⟨r, hr, hx⟩
  have hprintable : (recordsDocument rs).Printable := by
    simp only [recordsDocument, printable_array, List.forall_mem_map]
    intro r hr
    have hrecords := printable_records fun x hx => h x ⟨r, hr, hx⟩
    simp only [TypeRecords.toJson]
    generalize r.records.toJson = j at hrecords ⊢
    simp [hrecords]
  exact hexact.run (parse?_compact hprintable)

/-- No arguments are recorded. -/
structure Records.Bare (r : Records) : Prop where
  classes : ∀ c ∈ r.classes, c.arguments = []
  members : ∀ m ∈ r.methods ++ r.properties, m.arguments = []

theorem Records.Bare.reals_eq_nil {r : Records} (h : r.Bare) : r.reals = [] := by
  have hnone : realsOfArguments ([] : List (Argument Value)) = [] := rfl
  have hmembers := List.forall_mem_append.1 h.members
  simp only [reals, List.append_eq_nil_iff, List.flatMap_eq_nil_iff]
  refine ⟨⟨fun c hc => ?_, fun m hm => ?_⟩, fun m hm => ?_⟩
  · rw [h.classes c hc, hnone]
  · rw [hmembers.1 m hm, hnone]
  · rw [hmembers.2 m hm, hnone]

theorem Records.Bare.depth_le {r : Records} (h : r.Bare) : r.toJson.depth ≤ 4 := by
  have hmembers := List.forall_mem_append.1 h.members
  have hmember : ∀ m : MemberRecord, m.arguments = [] → m.toJson.depth ≤ 2 := by
    intro m hm
    simp [MemberRecord.toJson, hm, argumentsToJson, depth, depthOfMembers, depthOfItems]
  have hclasses : depthOfItems (r.classes.map ClassRecord.toJson) ≤ 2 := by
    apply depthOfItems_le
    intro c hc
    simp [ClassRecord.toJson, h.classes c hc, argumentsToJson, depth, depthOfMembers, depthOfItems]
  have hmethods := depthOfItems_le fun m hm => hmember m (hmembers.1 m hm)
  have hproperties := depthOfItems_le fun m hm => hmember m (hmembers.2 m hm)
  simp only [Records.toJson, depth, depthOfMembers]
  omega

theorem depth_recordsDocument_le {rs : List TypeRecords} (h : ∀ r ∈ rs, r.records.Bare) :
    (recordsDocument rs).depth ≤ 6 := by
  have hitems : depthOfItems (rs.map TypeRecords.toJson) ≤ 5 := by
    apply depthOfItems_le
    intro r hr
    have hrecords := (h r hr).depth_le
    simp only [TypeRecords.toJson, depth, depthOfMembers]
    omega
  simp only [recordsDocument, depth]
  omega

end AnnotationIndex
