import AnnotationIndex.Index.Artifact
import AnnotationIndex.Proofs.Java.Documents
import AnnotationIndex.Proofs.Text.Paths

/-!
# Documents of artifacts

An artifact is read back from its text if the floating point numbers in it are and its document is
not nested too deep.
-/

namespace AnnotationIndex

open Decoder Java Json Number

namespace KeyMap

variable {α : Type}

theorem alterEntries_append {key : String} {f : Option α → α} {entries : List (String × α)}
    (h : ∀ e ∈ entries, e.1 < key) : alterEntries key f entries = entries ++ [(key, f none)] := by
  induction entries with
  | nil => rfl
  | cons head rest ih =>
    obtain ⟨hhead, hrest⟩ := List.forall_mem_cons.1 h
    have hnot : ¬ key < head.1 := fun hlt => String.lt_irrefl _ (String.lt_trans hlt hhead)
    have hne : ¬ key = head.1 := by
      rintro rfl
      exact String.lt_irrefl _ hhead
    rw [alterEntries, if_neg hnot, if_neg hne, ih hrest, List.cons_append]

theorem ofList_entries (m : KeyMap String α) : ofList m.entries = m := by
  have hinserted : ∀ (more : List (String × α)) (front : KeyMap String α),
      (front.entries ++ more).Pairwise (fun a b => a.1 < b.1) →
        (more.foldl (fun m e => m.insert e.1 e.2) front).entries = front.entries ++ more := by
    intro more
    induction more with
    | nil => simp
    | cons e more ih =>
      intro front hsorted
      have hlast : (front.insert e.1 e.2).entries = front.entries ++ [e] := by
        refine alterEntries_append fun d hd => ?_
        exact (List.pairwise_append.1 hsorted).2.2 d hd e List.mem_cons_self
      rw [List.foldl_cons, ih _ (by simpa [hlast] using hsorted), hlast]
      simp
  exact ext (hinserted m.entries .empty m.sorted)

end KeyMap

variable {α β : Type} {bound : Nat}

theorem depthOfMembers_append (a b : List (String × Json)) :
    depthOfMembers (a ++ b) = max (depthOfMembers a) (depthOfMembers b) := by
  induction a with
  | nil => simp [depthOfMembers]
  | cons m a ih => simp [depthOfMembers, ih, Nat.max_assoc]

theorem keys_listMember (name : String) (items : List Json) :
    ((listMember name items).map (·.1)).Sublist [name] := by
  unfold listMember
  split <;> simp

theorem mem_listMember {name : String} {items : List Json} {m : String × Json}
    (h : m ∈ listMember name items) : m = (name, .array items) := by
  unfold listMember at h
  split at h
  · cases h
  · exact List.mem_singleton.1 h

theorem lookup_listMember_ne {name other : String} (h : other ≠ name) (items : List Json) :
    (listMember name items).lookup other = none := by
  have hne : (other == name) = false := by simpa using h
  unfold listMember
  split <;> simp [List.lookup_cons, hne]

/-- A list that is left out where it is empty is read exactly if it is where it is written. -/
theorem withDefault_listMember {d : Decoder β} {items : List Json} {v absent : β} {fs : Fields}
    {name : String} (hgiven : fs.given.lookup name = (listMember name items).lookup name)
    (h : Exact bound d (.array items) v) (habsent : items = [] → v = absent)
    (hlevels : fs.levels < bound) :
    fs.withDefault name d absent =
      if depthOfMembers (listMember name items) ≤ fs.levels then some v else none := by
  unfold Fields.withDefault
  cases items with
  | nil =>
    rw [hgiven, habsent rfl]
    simp [listMember, depthOfMembers]
  | cons item items =>
    rw [hgiven]
    simp [listMember, depthOfMembers, h fs.levels hlevels]

theorem argumentsMember_eq (arguments : List (Argument Value)) :
    argumentsMember arguments = listMember "arguments" (argumentsToJson arguments) := by
  unfold argumentsMember
  cases argumentsToJson arguments <;> rfl

def Targets.reals (t : Targets) : List Binary64 :=
  t.classes.flatMap (realsOfArguments ·.arguments) ++
    t.methods.flatMap (realsOfArguments ·.arguments) ++
    t.properties.flatMap (realsOfArguments ·.arguments)

/-- The floating point numbers in a collection. -/
def Collection.reals (c : Collection) : List Binary64 :=
  c.annotations.entries.flatMap (·.2.reals)

theorem argumentsToJson_nil {arguments : List (Argument Value)}
    (h : argumentsToJson arguments = []) : arguments = [] := by
  rw [argumentsToJson_eq_map] at h
  exact List.map_eq_nil_iff.1 h

theorem exact_classTarget {t : ClassTarget} (h : ∀ x ∈ realsOfArguments t.arguments, ReadsBack x) :
    Exact bound ClassTarget.decoder t.toJson t := by
  have harguments : Exact bound _ _ _ := exact_arguments h
  rw [ClassTarget.toJson, argumentsMember_eq]
  refine exact_record ?_ ?_ ?_
  · intro m hm
    rcases List.mem_cons.1 hm with rfl | hm
    · simp
    · simp [mem_listMember hm]
  · have hkeys : ["type", "arguments"].Nodup := by simp
    exact hkeys.sublist ((keys_listMember "arguments" _).cons_cons "type")
  · intro levels hlevels
    have hgiven := @withDefault_listMember _ _ _ _ _ []
      ⟨false, ("type", .string t.typeName) :: listMember "arguments" (argumentsToJson t.arguments),
        levels⟩ "arguments" rfl harguments argumentsToJson_nil hlevels
    simp [Fields.required, text, hgiven, bind_within, depthOfMembers, depth]

theorem exact_memberTarget {t : MemberTarget}
    (h : ∀ x ∈ realsOfArguments t.arguments, ReadsBack x) :
    Exact bound MemberTarget.decoder t.toJson t := by
  have harguments : Exact bound _ _ _ := exact_arguments h
  rw [MemberTarget.toJson, argumentsMember_eq]
  refine exact_record ?_ ?_ ?_
  · intro m hm
    rcases List.mem_cons.1 hm with rfl | hm
    · simp
    · rcases List.mem_cons.1 hm with rfl | hm
      · simp
      · simp [mem_listMember hm]
  · have hkeys : ["type", "member", "arguments"].Nodup := by simp
    exact hkeys.sublist (((keys_listMember "arguments" _).cons_cons "member").cons_cons "type")
  · intro levels hlevels
    have hgiven := @withDefault_listMember _ _ _ _ _ []
      ⟨false, ("type", .string t.typeName) :: ("member", .string t.member) ::
        listMember "arguments" (argumentsToJson t.arguments), levels⟩
      "arguments" rfl harguments argumentsToJson_nil hlevels
    simp [Fields.required, List.lookup_cons, text, hgiven, bind_within, depthOfMembers, depth]

theorem exact_targets {t : Targets} (h : ∀ x ∈ t.reals, ReadsBack x) :
    Exact bound Targets.decoder t.toJson t := by
  simp only [Targets.reals, List.mem_append, List.mem_flatMap] at h
  have hclasses : Exact bound (list ClassTarget.decoder)
      (.array (t.classes.map ClassTarget.toJson)) t.classes :=
    exact_list fun c hc => exact_classTarget fun x hx => h x (.inl (.inl ⟨c, hc, hx⟩))
  have hmethods : Exact bound (list MemberTarget.decoder)
      (.array (t.methods.map MemberTarget.toJson)) t.methods :=
    exact_list fun m hm => exact_memberTarget fun x hx => h x (.inl (.inr ⟨m, hm, hx⟩))
  have hproperties : Exact bound (list MemberTarget.decoder)
      (.array (t.properties.map MemberTarget.toJson)) t.properties :=
    exact_list fun p hp => exact_memberTarget fun x hx => h x (.inr ⟨p, hp, hx⟩)
  rw [Targets.toJson, List.append_assoc]
  refine exact_record ?_ ?_ ?_
  · intro m hm
    rcases List.mem_append.1 hm with hm | hm
    · simp [mem_listMember hm]
    · rcases List.mem_append.1 hm with hm | hm
      · simp [mem_listMember hm]
      · simp [mem_listMember hm]
  · have hkeys : (["classes"] ++ (["methods"] ++ ["properties"])).Nodup := by simp
    simp only [List.map_append]
    exact hkeys.sublist
      ((keys_listMember _ _).append ((keys_listMember _ _).append (keys_listMember _ _)))
  · intro levels hlevels
    let given := listMember "classes" (t.classes.map ClassTarget.toJson) ++
      (listMember "methods" (t.methods.map MemberTarget.toJson) ++
        listMember "properties" (t.properties.map MemberTarget.toJson))
    have hc := @withDefault_listMember _ _ _ _ _ [] ⟨false, given, levels⟩ "classes"
      (by simp [given, List.lookup_append, lookup_listMember_ne]) hclasses List.map_eq_nil_iff.1
      hlevels
    have hm := @withDefault_listMember _ _ _ _ _ [] ⟨false, given, levels⟩ "methods"
      (by simp [given, List.lookup_append, lookup_listMember_ne]) hmethods List.map_eq_nil_iff.1
      hlevels
    have hp := @withDefault_listMember _ _ _ _ _ [] ⟨false, given, levels⟩ "properties"
      (by simp [given, List.lookup_append, lookup_listMember_ne]) hproperties
      List.map_eq_nil_iff.1 hlevels
    simp only [given] at hc hm hp
    simp [hc, hm, hp, bind_within, within_within, depthOfMembers_append]

theorem exact_keyMap {d : Decoder α} {enc : α → Json} {m : KeyMap String α}
    (h : ∀ e ∈ m.entries, Exact bound d (enc e.2) e.2) :
    Exact bound (keyMap d) (.object (m.entries.map fun e => (e.1, enc e.2))) m := by
  intro levels hlevels
  cases levels with
  | zero => rfl
  | succ levels =>
    have hmembers : ∀ entries : List (String × α), (∀ e ∈ entries, Exact bound d (enc e.2) e.2) →
        (entries.map fun e => (e.1, enc e.2)).mapM
            (fun member => (d levels member.2).map (member.1, ·)) =
          if depthOfMembers (entries.map fun e => (e.1, enc e.2)) ≤ levels then some entries
          else none := by
      intro entries
      induction entries with
      | nil => intro _; rfl
      | cons e entries ih =>
        intro hentries
        obtain ⟨he, hmore⟩ := List.forall_mem_cons.1 hentries
        rw [List.map_cons, List.mapM_cons, he levels (Nat.lt_of_succ_lt hlevels), ih hmore]
        simp only [depthOfMembers, Nat.max_le]
        by_cases hfirst : (enc e.2).depth ≤ levels <;>
          by_cases hrest : depthOfMembers (entries.map fun e => (e.1, enc e.2)) ≤ levels <;>
          simp [hfirst, hrest]
    simp only [keyMap, hmembers m.entries h, depth, Nat.add_le_add_iff_right]
    split
    · exact congrArg some m.ofList_entries
    · rfl

theorem exact_keySet (s : KeySet) :
    Exact bound keySet (.array (s.toList.map .string)) s := by
  have hset : KeySet.ofList s.toList = s := by
    unfold KeySet.ofList KeySet.toList KeyMap.keys
    rw [List.map_map]
    exact (congrArg KeyMap.ofList (List.map_id _)).trans s.ofList_entries
  have htexts : Exact bound (list text) (.array (s.toList.map .string)) s.toList := exact_texts _
  have hread := htexts.map KeySet.ofList
  rwa [hset] at hread

theorem exact_artifact {c : Collection} (h : ∀ x ∈ c.reals, ReadsBack x)
    (hpaths : ∀ path ∈ c.locations.values, path.isText = true) (argumentsCaptured : Bool) :
    Exact bound Artifact.decoder (Artifact.ofCollection c argumentsCaptured).toJson
      (Artifact.ofCollection c argumentsCaptured) := by
  have hversion : ∀ levels, whole 0 4294967295 levels (.ofInt formatVersion) =
      some (formatVersion : Int) := whole_ofInt (by decide) (by decide) (by decide)
  have hflat : (Json.ofInt formatVersion).depth = 0 := rfl
  have hpath : ∀ p : Path, p.isText = true → Exact bound pathDecoder (.string p.text) p := by
    intro p hp
    have hread : Exact bound pathDecoder (.string p.text) (Path.ofText p.text) :=
      (exact_text p.text).map Path.ofText
    rwa [Path.ofText_text hp] at hread
  have htypes : Exact bound (keyMap pathDecoder) (pathsJson c.locations) c.locations :=
    @exact_keyMap _ _ _ (fun p : Path => .string p.text) c.locations
      fun e he => hpath e.2 (hpaths e.2 (List.mem_map_of_mem he))
  have hannotations : Exact bound (keyMap Targets.decoder)
      (.object (c.annotations.entries.map fun e => (e.1, e.2.toJson))) c.annotations := by
    refine exact_keyMap fun e he => exact_targets fun x hx => h x ?_
    exact List.mem_flatMap.2 ⟨e, he, hx⟩
  have hknown : Exact bound keySet (.array (c.knownTypes.toList.map .string)) c.knownTypes :=
    exact_keySet c.knownTypes
  have habsent : c.knownTypes.toList.map Json.string = [] → c.knownTypes = .empty := by
    intro hnil
    have hkeys : c.knownTypes.entries = [] := by simpa [KeySet.toList, KeyMap.keys] using hnil
    exact KeyMap.ext hkeys
  unfold Artifact.toJson Artifact.ofCollection
  change Exact bound Artifact.decoder
    (.object ([("format_version", Json.ofInt formatVersion), _, _, _] ++ _)) _
  generalize Json.ofInt formatVersion = jv at hversion hflat ⊢
  generalize pathsJson c.locations = jt at htypes ⊢
  generalize Json.object (c.annotations.entries.map fun e => (e.1, e.2.toJson)) = ja
    at hannotations ⊢
  refine exact_record ?_ ?_ ?_
  · intro m hm
    rcases List.mem_append.1 hm with hm | hm
    · simp only [List.mem_cons, List.not_mem_nil, or_false] at hm
      rcases hm with rfl | rfl | rfl | rfl <;> simp
    · simp [mem_listMember hm]
  · rw [List.map_append]
    have hkeys : (["format_version", "arguments_captured", "types", "annotations"] ++
        ["known_types"]).Nodup := by simp
    exact hkeys.sublist ((List.Sublist.refl _).append (keys_listMember _ _))
  · intro levels hlevels
    let given := ("format_version", jv) ::
      ("arguments_captured", .truth argumentsCaptured) :: ("types", jt) :: ("annotations", ja) ::
        listMember "known_types" (c.knownTypes.toList.map .string)
    have hset := @withDefault_listMember _ _ _ _ _ KeyMap.empty ⟨false, given, levels⟩ "known_types"
      (by simp [given, List.lookup_cons]) hknown habsent hlevels
    simp only [given] at hset
    simp [Fields.required, List.lookup_cons, hset, hversion, htypes levels hlevels,
      hannotations levels hlevels, Decoder.truth, bind_within, within_within, depthOfMembers, depth,
      hflat]

theorem printable_listMember {name : String} {items : List Json} (h : ∀ j ∈ items, j.Printable) :
    ∀ m ∈ listMember name items, m.2.Printable := by
  intro m hm
  rw [mem_listMember hm]
  exact printable_array.2 h

theorem printable_argumentsMember {arguments : List (Argument Value)}
    (h : ∀ x ∈ realsOfArguments arguments, ReadsBack x) :
    ∀ m ∈ argumentsMember arguments, m.2.Printable := by
  rw [argumentsMember_eq]
  exact printable_listMember (printable_array.1 (printable_argumentsToJson h))

theorem printable_targets {t : Targets} (h : ∀ x ∈ t.reals, ReadsBack x) : t.toJson.Printable := by
  simp only [Targets.reals, List.mem_append, List.mem_flatMap] at h
  have hclass : ∀ c ∈ t.classes, c.toJson.Printable := by
    intro c hc
    have harguments := printable_argumentsMember fun x hx => h x (.inl (.inl ⟨c, hc, hx⟩))
    simpa [ClassTarget.toJson] using harguments
  have hmember : ∀ m ∈ t.methods ++ t.properties, m.toJson.Printable := by
    intro m hm
    have hreals : ∀ x ∈ realsOfArguments m.arguments, ReadsBack x := by
      intro x hx
      rcases List.mem_append.1 hm with hm | hm
      · exact h x (.inl (.inr ⟨m, hm, hx⟩))
      · exact h x (.inr ⟨m, hm, hx⟩)
    simpa [MemberTarget.toJson] using printable_argumentsMember hreals
  obtain ⟨hmethod, hproperty⟩ := List.forall_mem_append.1 hmember
  rw [Targets.toJson, printable_object]
  intro m hm
  rw [List.mem_append, List.mem_append] at hm
  rcases hm with (hm | hm) | hm
  · exact printable_listMember (List.forall_mem_map.2 hclass) m hm
  · exact printable_listMember (List.forall_mem_map.2 hmethod) m hm
  · exact printable_listMember (List.forall_mem_map.2 hproperty) m hm

theorem printable_artifact {c : Collection} (h : ∀ x ∈ c.reals, ReadsBack x)
    (argumentsCaptured : Bool) :
    (Artifact.ofCollection c argumentsCaptured).toJson.Printable := by
  have htypes : (pathsJson c.locations).Printable :=
    printable_object.2 (List.forall_mem_map.2 fun e _ => printable_string e.2.text)
  have hannotations : ∀ e ∈ c.annotations.entries, e.2.toJson.Printable :=
    fun e he => printable_targets fun x hx => h x (List.mem_flatMap.2 ⟨e, he, hx⟩)
  have hknown : ∀ m ∈ listMember "known_types" (c.knownTypes.toList.map Json.string),
      m.2.Printable := printable_listMember (by simp)
  have hversion : (Json.ofNat formatVersion).Printable := isNumber_nat formatVersion
  have hannotated : (Json.object (c.annotations.entries.map fun e => (e.1, e.2.toJson))).Printable :=
    printable_object.2 (List.forall_mem_map.2 hannotations)
  rw [Artifact.toJson, printable_object]
  intro m hm
  rcases List.mem_append.1 hm with hm | hm
  · simp only [List.mem_cons, List.not_mem_nil, or_false] at hm
    rcases hm with rfl | rfl | rfl | rfl
    · exact hversion
    · trivial
    · exact htypes
    · exact hannotated
  · exact hknown m hm

theorem render_eq_ok_iff {c : Collection} {argumentsCaptured : Bool} {text : String} :
    c.render argumentsCaptured = .ok text ↔ (∀ path ∈ c.locations.values, path.isText = true) ∧
      text = (Artifact.ofCollection c argumentsCaptured).render := by
  rw [Collection.render]
  split
  · rename_i hpaths
    rw [List.all_eq_true] at hpaths
    exact ⟨fun h => ⟨hpaths, (Except.ok.inj h).symm⟩, fun h => congrArg Except.ok h.2.symm⟩
  · rename_i hpaths
    rw [List.all_eq_true] at hpaths
    exact iff_of_false nofun fun h => hpaths h.1

theorem parse?_render {c : Collection} (h : ∀ x ∈ c.reals, ReadsBack x) (argumentsCaptured : Bool) :
    Json.parse? (Artifact.ofCollection c argumentsCaptured).render =
      some (Artifact.ofCollection c argumentsCaptured).toJson :=
  parse?_pretty (printable_artifact h argumentsCaptured)

theorem ofText_render_eq {c : Collection} (h : ∀ x ∈ c.reals, ReadsBack x)
    (hpaths : ∀ path ∈ c.locations.values, path.isText = true) (argumentsCaptured : Bool) :
    Artifact.ofText (Artifact.ofCollection c argumentsCaptured).render =
      if (Artifact.ofCollection c argumentsCaptured).toJson.depth ≤ depthLimit then
        .ok (Artifact.ofCollection c argumentsCaptured)
      else .error .notAnArtifact := by
  have hparse : Artifact.parse? (Artifact.ofCollection c argumentsCaptured).render = _ :=
    (exact_artifact h hpaths argumentsCaptured).run (parse?_render h argumentsCaptured)
  rw [Artifact.ofText, hparse]
  by_cases hdepth : (Artifact.ofCollection c argumentsCaptured).toJson.depth ≤ depthLimit
  · rw [if_pos hdepth, if_pos hdepth]
    rfl
  · rw [if_neg hdepth, if_neg hdepth]

/-- The text of a collection holds one document. It is read as an artifact if and only if that is
nested no deeper than allowed, and then it is the artifact that was written. -/
theorem ofText_render {c : Collection} (h : ∀ x ∈ c.reals, ReadsBack x)
    (hpaths : ∀ path ∈ c.locations.values, path.isText = true) (argumentsCaptured : Bool) :
    ∃ text j, c.render argumentsCaptured = .ok text ∧ Json.parse? text = some j ∧
      ((∃ a, Artifact.ofText text = .ok a) ↔ j.depth ≤ 127) ∧
      ∀ a, Artifact.ofText text = .ok a →
        a = Artifact.ofCollection c argumentsCaptured ∧ a.render = text := by
  refine ⟨_, _, render_eq_ok_iff.2 ⟨hpaths, rfl⟩, parse?_render h argumentsCaptured, ?_, ?_⟩
  · rw [ofText_render_eq h hpaths]
    by_cases hdepth : (Artifact.ofCollection c argumentsCaptured).toJson.depth ≤ depthLimit
    · rw [if_pos hdepth]
      exact ⟨fun _ => hdepth, fun _ => ⟨_, rfl⟩⟩
    · rw [if_neg hdepth]
      refine ⟨?_, fun hle => absurd hle hdepth⟩
      rintro ⟨a, ha⟩
      cases ha
  · intro a ha
    rw [ofText_render_eq h hpaths] at ha
    split at ha
    · cases ha
      exact ⟨rfl, rfl⟩
    · cases ha

namespace Samples

/-- An annotation with a number in a list in an annotation. -/
def nesting : Collection where
  annotations := .ofList [("K", { Targets.empty with classes := [⟨"A", [⟨some "x",
    .nested ⟨"L", [⟨none, .array [.real ⟨false, 6755399441055744, -52⟩]⟩]⟩⟩]⟩] })]
  locations := .ofList [("A", .ofText "/A.java")]
  knownTypes := .ofList ["L"]

theorem reals_nesting : ∀ x ∈ nesting.reals, ReadsBack x := by
  decide +kernel

theorem paths_nesting : ∀ path ∈ nesting.locations.values, path.isText = true := by
  decide +kernel

end Samples

theorem ofText_render_nesting : (∀ x ∈ Samples.nesting.reals, ReadsBack x) ∧
    (∀ path ∈ Samples.nesting.locations.values, path.isText = true) ∧
    ∃ text j, Samples.nesting.render true = .ok text ∧ Json.parse? text = some j ∧
      ((∃ a, Artifact.ofText text = .ok a) ↔ j.depth ≤ 127) ∧
      ∀ a, Artifact.ofText text = .ok a →
        a = Artifact.ofCollection Samples.nesting true ∧ a.render = text :=
  ⟨Samples.reals_nesting, Samples.paths_nesting,
    ofText_render Samples.reals_nesting Samples.paths_nesting true⟩

end AnnotationIndex
