import AnnotationIndex.Proofs.Data.KeyMap
import AnnotationIndex.Proofs.Index.Collections

/-!
# Queries without recorded arguments

An artifact without arguments answers every query as one with arguments does, if each type is loaded
as it was when its records were made. The n-th target of a kind on a type or member was made from
the n-th annotation of that kind there.
-/

namespace AnnotationIndex

open Collection Java

section Numbered

variable {α β κ : Type} [BEq κ]

theorem numbered_map (key : α → κ) (f : β → α) (earlier : List κ) (l : List β) :
    numbered key earlier (l.map f) =
      (numbered (fun b => key (f b)) earlier l).map fun p => (f p.1, p.2) := by
  induction l generalizing earlier with
  | nil => rfl
  | cons b l ih => rw [List.map_cons, numbered, numbered, List.map_cons, ih]

theorem mem_of_mem_numbered {key : α → κ} {earlier : List κ} {l : List α} {p : α × Nat}
    (h : p ∈ numbered key earlier l) : p.1 ∈ l := by
  induction l generalizing earlier with
  | nil => cases h
  | cons a l ih =>
    rcases List.mem_cons.1 h with rfl | h
    · exact List.mem_cons_self
    · exact List.mem_cons_of_mem a (ih h)

private theorem place_of_mem_numbered [LawfulBEq κ] {key : α → κ} {earlier : List κ} {l : List α} {p : α × Nat}
    (h : p ∈ numbered key earlier l) : ∃ place, p.2 = earlier.count (key p.1) + place ∧
      (l.filter (key · == key p.1))[place]? = some p.1 := by
  induction l generalizing earlier with
  | nil => cases h
  | cons a l ih =>
    rcases List.mem_cons.1 h with rfl | h
    · exact ⟨0, by simp⟩
    · obtain ⟨place, hnumber, hget⟩ := ih h
      by_cases hkey : key a = key p.1
      · refine ⟨place + 1, ?_, ?_⟩
        · rw [hnumber, hkey, List.count_cons_self]
          omega
        · simpa [hkey] using hget
      · have hcount : (key a :: earlier).count (key p.1) = earlier.count (key p.1) :=
          List.count_cons_of_ne hkey
        exact ⟨place, by rw [hnumber, hcount], by simpa [hkey] using hget⟩

theorem getElem?_of_mem_numbered [LawfulBEq κ] {key : α → κ} {l : List α} {p : α × Nat}
    (h : p ∈ numbered key [] l) : (l.filter (key · == key p.1))[p.2]? = some p.1 := by
  obtain ⟨place, hnumber, hget⟩ := place_of_mem_numbered h
  rwa [hnumber, List.count_nil, Nat.zero_add]

end Numbered

section Extraction

variable {o : ExtractOptions}

theorem ExtractOptions.filter_recorded (o : ExtractOptions) (uses : List AnnotationUse)
    (kind : String) :
    (o.recorded uses).filter (·.kind = kind) =
      if o.ignored.contains kind then [] else uses.filter (·.kind = kind) := by
  rw [ExtractOptions.recorded, List.filter_filter]
  split
  · rename_i hignored
    rw [List.filter_eq_nil_iff]
    rintro a -
    simp only [Bool.and_eq_true, decide_eq_true_eq, Bool.not_eq_true', not_and]
    rintro rfl
    simp [hignored]
  · rename_i hignored
    apply List.filter_congr
    intro a _
    by_cases hkind : a.kind = kind
    · simp [hkind, hignored]
    · simp [hkind]

theorem nthOfKind?_of_arguments {uses : List AnnotationUse} {kind : String} {n : Nat}
    {arguments : List (Argument Value)}
    (h : ((uses.filter (·.kind = kind)).map (·.arguments))[n]? = some arguments) :
    nthOfKind? uses kind n = some ⟨kind, arguments⟩ := by
  rw [List.getElem?_map, Option.map_eq_some_iff] at h
  obtain ⟨use, huse, rfl⟩ := h
  have hkind : use.kind = kind := by
    have hmem := List.mem_of_getElem? huse
    simpa using (List.mem_filter.1 hmem).2
  rw [nthOfKind?, huse, ← hkind]

theorem classTargets_extract (hcapture : o.captureArguments = true) (d : TypeDecl)
    (kind : String) :
    (⟨d.name, o.extract d⟩ : TypeRecords).classTargets kind =
      if o.isDefinition d || o.ignored.contains kind then []
      else ((d.annotations.filter (·.kind = kind)).map (·.arguments)).map (⟨d.name, ·⟩) := by
  unfold TypeRecords.classTargets ExtractOptions.extract
  cases hdefinition : o.isDefinition d with
  | true => simp [Records.empty]
  | false =>
    have hkind : ((o.recorded d.annotations).map fun a =>
        (⟨a.kind, o.argumentsOf a⟩ : ClassRecord)).filter (·.kind = kind) =
        ((o.recorded d.annotations).filter (·.kind = kind)).map fun a =>
          ⟨a.kind, o.argumentsOf a⟩ := by
      rw [List.filter_map]
      rfl
    simp only [Bool.false_eq_true, if_false, Bool.false_or, hkind, o.filter_recorded]
    split
    · rfl
    · simp [ExtractOptions.argumentsOf, hcapture]

private theorem filter_recordsOfMember (hcapture : o.captureArguments = true) (m : Member)
    (kind name : String) :
    ((o.recorded m.annotations).map fun a =>
        (⟨a.kind, o.argumentsOf a, m.name⟩ : MemberRecord)).filter
          (fun r => r.kind = kind && r.member = name) =
      if o.ignored.contains kind || m.name ≠ name then []
      else (m.annotations.filter (·.kind = kind)).map fun a => ⟨kind, a.arguments, name⟩ := by
  rw [List.filter_map]
  by_cases hname : m.name = name
  · have hkinds : (o.recorded m.annotations).filter
        ((fun r => r.kind = kind && r.member = name) ∘ fun a =>
          (⟨a.kind, o.argumentsOf a, m.name⟩ : MemberRecord)) =
        (o.recorded m.annotations).filter (·.kind = kind) := by
      apply List.filter_congr
      intro a _
      simp [hname]
    rw [hkinds, o.filter_recorded]
    split
    · rename_i hignored
      simp [hignored]
    · rename_i hignored
      simp only [hignored, hname, Bool.false_or, ne_eq, not_true_eq_false, decide_false,
        Bool.false_eq_true, if_false]
      apply List.map_congr_left
      intro a ha
      have hkind : a.kind = kind := by simpa using (List.mem_filter.1 ha).2
      simp [ExtractOptions.argumentsOf, hcapture, hkind]
  · simp [hname]

private theorem filter_memberRecords (hcapture : o.captureArguments = true)
    (memberKind : MemberKind) (d : TypeDecl) (kind name : String) :
    (o.memberRecords memberKind d.members).filter (fun r => r.kind = kind && r.member = name) =
      if o.ignored.contains kind then []
      else ((memberAnnotations d memberKind name).filter (·.kind = kind)).map fun a =>
        ⟨kind, a.arguments, name⟩ := by
  rw [ExtractOptions.memberRecords, memberAnnotations, List.filter_flatMap]
  simp only [filter_recordsOfMember hcapture]
  cases o.ignored.contains kind with
  | true => simp
  | false =>
    induction d.members with
    | nil => simp
    | cons m members ih =>
      by_cases hkind : m.kind = memberKind
      · by_cases hname : m.name = name
        · simpa [hkind, hname] using ih
        · simpa [hkind, hname] using ih
      · simpa [hkind] using ih

theorem memberTargets_extract (hcapture : o.captureArguments = true) (memberKind : MemberKind)
    (d : TypeDecl) (kind name : String) :
    ((⟨d.name, o.extract d⟩ : TypeRecords).memberTargets memberKind kind).filter
        (·.member = name) =
      if o.isDefinition d || o.ignored.contains kind then []
      else (((memberAnnotations d memberKind name).filter (·.kind = kind)).map
        (·.arguments)).map (⟨d.name, name, ·⟩) := by
  have hrecords : (o.extract d).members memberKind =
      if o.isDefinition d then [] else o.memberRecords memberKind d.members := by
    unfold ExtractOptions.extract
    split <;> cases memberKind <;> rfl
  rw [TypeRecords.memberTargets, List.filter_map, hrecords]
  cases hdefinition : o.isDefinition d with
  | true => simp
  | false =>
    have hboth := filter_memberRecords hcapture memberKind d kind name
    have hswap : ∀ l : List MemberRecord,
        (l.filter (·.kind = kind)).filter
          ((fun t : MemberTarget => decide (t.member = name)) ∘ fun r =>
            ⟨d.name, r.member, r.arguments⟩) =
        l.filter fun r => r.kind = kind && r.member = name := by
      intro l
      rw [List.filter_filter]
      apply List.filter_congr
      intro r _
      exact Bool.and_comm _ _
    simp only [Bool.false_eq_true, if_false, Bool.false_or]
    rw [hswap, hboth]
    split
    · rfl
    · simp

end Extraction

def Artifact.ofDecls (o : ExtractOptions) (location : TypeDecl → Path) (decls : List TypeDecl) :
    Artifact :=
  .ofCollection (decls.foldl (fun c d => c.add d.name (location d) (o.extract d)) .empty)
    o.captureArguments

namespace Artifact

variable (o : ExtractOptions) (location : TypeDecl → Path) (decls : List TypeDecl)

private theorem annotations_ofDecls : (ofDecls o location decls).annotations =
    (Collection.empty.addEach
      (decls.map fun d => (⟨d.name, o.extract d⟩, location d))).annotations := by
  rw [addEach, List.foldl_map]
  rfl

theorem classes_ofDecls (kind : String) :
    (targetsIn (ofDecls o location decls).annotations kind).classes =
      decls.flatMap fun d => (⟨d.name, o.extract d⟩ : TypeRecords).classTargets kind := by
  rw [annotations_ofDecls, classes_addEach, List.flatMap_map]

theorem members_ofDecls (memberKind : MemberKind) (kind : String) :
    (targetsIn (ofDecls o location decls).annotations kind).members memberKind =
      decls.flatMap fun d =>
        (⟨d.name, o.extract d⟩ : TypeRecords).memberTargets memberKind kind := by
  rw [annotations_ofDecls, members_addEach, List.flatMap_map]

private theorem extract_bare (d : TypeDecl) :
    { o with captureArguments := false }.extract d =
      ({ o with captureArguments := true }.extract d).bare := by
  have hrecorded : ∀ capture uses, { o with captureArguments := capture }.recorded uses =
      o.recorded uses := fun _ _ => rfl
  have hmembers : ∀ memberKind, { o with captureArguments := false }.memberRecords memberKind
      d.members = ({ o with captureArguments := true }.memberRecords memberKind d.members).map
        .bare := by
    intro memberKind
    simp only [ExtractOptions.memberRecords, hrecorded, List.map_flatMap, List.map_map]
    rfl
  have hdefinition : ∀ capture, { o with captureArguments := capture }.isDefinition d =
      o.isDefinition d := fun _ => rfl
  simp only [ExtractOptions.extract, hdefinition, hmembers]
  split
  · rfl
  · simp only [Records.bare, List.map_map, hrecorded]
    rfl

theorem annotations_bare :
    (ofDecls { o with captureArguments := false } location decls).annotations =
      (ofDecls { o with captureArguments := true } location decls).annotations.mapValues
        Targets.bare := by
  have hall : ∀ c : Collection,
      decls.foldl (fun c d => c.add d.name (location d)
        ({ o with captureArguments := false }.extract d)) c.bare =
      (decls.foldl (fun c d => c.add d.name (location d)
        ({ o with captureArguments := true }.extract d)) c).bare := by
    induction decls with
    | nil => exact fun _ => rfl
    | cons d decls ih =>
      intro c
      rw [List.foldl_cons, extract_bare, add_bare, ih, List.foldl_cons]
  have hempty := hall .empty
  exact congrArg Collection.annotations hempty

end Artifact

private theorem filter_flatMap_of_nodup {δ τ : Type} {name : δ → String} {typeName : τ → String}
    {items : δ → List τ} (hname : ∀ d, ∀ t ∈ items d, typeName t = name d) {l : List δ}
    (hnodup : (l.map name).Nodup) {d : δ} (hd : d ∈ l) :
    (l.flatMap items).filter (typeName · == name d) = items d := by
  induction l with
  | nil => cases hd
  | cons other l ih =>
    rw [List.map_cons, List.nodup_cons] at hnodup
    rw [List.flatMap_cons, List.filter_append]
    rcases List.mem_cons.1 hd with rfl | hd
    · have hself : (items d).filter (typeName · == name d) = items d := by
        rw [List.filter_eq_self]
        intro t ht
        simp [hname d t ht]
      have hrest : (l.flatMap items).filter (typeName · == name d) = [] := by
        rw [List.filter_eq_nil_iff]
        intro t ht
        obtain ⟨e, he, hte⟩ := List.mem_flatMap.1 ht
        simp only [hname e t hte, beq_iff_eq]
        intro heq
        exact hnodup.1 (List.mem_map.2 ⟨e, he, heq⟩)
      rw [hself, hrest, List.append_nil]
    · have hother : (items other).filter (typeName · == name d) = [] := by
        rw [List.filter_eq_nil_iff]
        intro t ht
        simp only [hname other t ht, beq_iff_eq]
        intro heq
        exact hnodup.1 (List.mem_map.2 ⟨d, hd, heq.symm⟩)
      rw [hother, List.nil_append, ih hnodup.2 hd]

theorem answers_ok {α : Type} {requests : List (Request α)}
    (h : ∀ r ∈ requests, ∃ a, r.answer = .ok a) : ∃ found, answers requests = .ok found := by
  induction requests with
  | nil => exact ⟨[], rfl⟩
  | cons r requests ih =>
    obtain ⟨a, ha⟩ := h r List.mem_cons_self
    obtain ⟨found, hfound⟩ := ih fun r hr => h r (List.mem_cons_of_mem _ hr)
    exact ⟨a :: found, by rw [answers, ha, hfound]; rfl⟩

namespace Catalog

section Reflective

open Artifact

variable {o : ExtractOptions} {location : TypeDecl → Path} {decls : List TypeDecl}
  {load : String → Except LoadError TypeDecl}

variable (o location decls load) in
def ofDecls (capture : Bool) : Catalog :=
  ⟨Artifact.ofDecls { o with captureArguments := capture } location decls, load⟩

private theorem classAnnotation_bare (hnames : (decls.map (·.name)).Nodup)
    (hload : ∀ d ∈ decls, load d.name = .ok d) {kind : String} {p : ClassTarget × Nat}
    (hp : p ∈ numbered ClassTarget.typeName [] (targetsIn
      (Artifact.ofDecls { o with captureArguments := true } location decls).annotations
        kind).classes) :
    classAnnotation (ofDecls o location decls load false) kind p.1.bare p.2 =
      .ok ⟨kind, p.1.arguments⟩ := by
  have hmem := mem_of_mem_numbered hp
  have hplace := getElem?_of_mem_numbered hp
  rw [classes_ofDecls] at hmem hplace
  obtain ⟨d, hd, ht⟩ := List.mem_flatMap.1 hmem
  have hitems : ∀ d : TypeDecl, ∀ t ∈ TypeRecords.classTargets
      ⟨d.name, { o with captureArguments := true }.extract d⟩ kind, t.typeName = d.name := by
    intro d t ht
    obtain ⟨r, -, rfl⟩ := List.mem_map.1 ht
    rfl
  have hname := hitems d _ ht
  rw [hname, filter_flatMap_of_nodup hitems hnames hd, classTargets_extract rfl] at hplace
  split at hplace
  · cases hplace
  · rw [List.getElem?_map, Option.map_eq_some_iff] at hplace
    obtain ⟨arguments, harguments, heq⟩ := hplace
    have hnth := nthOfKind?_of_arguments harguments
    have hload' : (ofDecls o location decls load false).load d.name = .ok d := hload d hd
    have hcaptured : (ofDecls o location decls load false).artifact.argumentsCaptured = false := rfl
    simp [hcaptured, classAnnotation, ClassTarget.bare, ← heq, hload', hnth]

theorem member?_of_nth {d : TypeDecl} {memberKind : MemberKind} {name kind : String}
    {n : Nat} {use : AnnotationUse}
    (h : nthOfKind? (memberAnnotations d memberKind name) kind n = some use) :
    (d.member? memberKind name).isNone = false := by
  have hmem := (List.mem_filter.1 (List.mem_of_getElem? h)).1
  obtain ⟨m, hm, -⟩ := List.mem_flatMap.1 hmem
  obtain ⟨hm, hkey⟩ := List.mem_filter.1 hm
  rw [Option.isNone_eq_false_iff, TypeDecl.member?, List.find?_isSome]
  exact ⟨m, hm, hkey⟩

private theorem memberAnnotation_bare (hnames : (decls.map (·.name)).Nodup)
    (hload : ∀ d ∈ decls, load d.name = .ok d) {memberKind : MemberKind} {kind : String}
    {p : MemberTarget × Nat}
    (hp : p ∈ numbered (fun t => (t.typeName, t.member)) [] ((targetsIn
      (Artifact.ofDecls { o with captureArguments := true } location decls).annotations
        kind).members memberKind)) :
    memberAnnotation (ofDecls o location decls load false) memberKind kind p.1.bare p.2 =
      .ok ⟨kind, p.1.arguments⟩ := by
  have hmem := mem_of_mem_numbered hp
  have hplace := getElem?_of_mem_numbered hp
  rw [members_ofDecls] at hmem hplace
  obtain ⟨d, hd, ht⟩ := List.mem_flatMap.1 hmem
  have hitems : ∀ d : TypeDecl, ∀ t ∈ TypeRecords.memberTargets
      ⟨d.name, { o with captureArguments := true }.extract d⟩ memberKind kind,
      t.typeName = d.name := by
    intro d t ht
    obtain ⟨r, -, rfl⟩ := List.mem_map.1 ht
    rfl
  have hname := hitems d _ ht
  have hpair : ∀ l : List MemberTarget,
      l.filter (fun t => (t.typeName, t.member) == (p.1.typeName, p.1.member)) =
        (l.filter (·.typeName == d.name)).filter (·.member = p.1.member) := by
    intro l
    rw [List.filter_filter, hname]
    apply List.filter_congr
    intro t _
    rw [Bool.and_comm, Bool.eq_iff_iff]
    simp
  rw [hpair, filter_flatMap_of_nodup hitems hnames hd, memberTargets_extract rfl] at hplace
  split at hplace
  · cases hplace
  · rw [List.getElem?_map, Option.map_eq_some_iff] at hplace
    obtain ⟨arguments, harguments, heq⟩ := hplace
    have hnth := nthOfKind?_of_arguments harguments
    have hmember := member?_of_nth hnth
    have hload' : (ofDecls o location decls load false).load p.1.typeName = .ok d := by
      rw [hname]
      exact hload d hd
    have hcaptured : (ofDecls o location decls load false).artifact.argumentsCaptured = false := rfl
    have harguments' : p.1.arguments = arguments := by rw [← heq]
    simp [hcaptured, memberAnnotation, MemberTarget.bare, hload', hmember, hnth, harguments']

private theorem classRequests_bare (hnames : (decls.map (·.name)).Nodup)
    (hload : ∀ d ∈ decls, load d.name = .ok d) {load' : String → Except LoadError TypeDecl}
    {kind : String} {targets : Targets}
    (htargets : targetsIn (Artifact.ofDecls { o with captureArguments := true } location
      decls).annotations kind = targets) (wanted : String → Bool) :
    (ofDecls o location decls load false).classRequests wanted kind targets.bare =
      (ofDecls o location decls load' true).classRequests wanted kind targets := by
  rw [classRequests, classRequests, Targets.bare, numbered_map, List.filter_map, List.map_map]
  apply List.map_congr_left
  intro p hp
  have hp' := (List.mem_filter.1 hp).1
  rw [← htargets] at hp'
  have hbare : classAnnotation (ofDecls o location decls load false) kind p.1.bare p.2 =
      classAnnotation (ofDecls o location decls load' true) kind p.1 p.2 :=
    classAnnotation_bare hnames hload hp'
  simp only [Function.comp_apply, hbare]
  rfl

private theorem memberRequests_bare (hnames : (decls.map (·.name)).Nodup)
    (hload : ∀ d ∈ decls, load d.name = .ok d) {load' : String → Except LoadError TypeDecl}
    {memberKind : MemberKind} {kind : String} {targets : Targets}
    (htargets : targetsIn (Artifact.ofDecls { o with captureArguments := true } location
      decls).annotations kind = targets) (wanted : String → String → Bool) :
    (ofDecls o location decls load false).memberRequests memberKind wanted kind targets.bare =
      (ofDecls o location decls load' true).memberRequests memberKind wanted kind targets := by
  have hmembers : targets.bare.members memberKind = (targets.members memberKind).map .bare := by
    cases memberKind <;> rfl
  rw [memberRequests, memberRequests, hmembers, numbered_map, List.filter_map, List.map_map]
  apply List.map_congr_left
  intro p hp
  have hp' := (List.mem_filter.1 hp).1
  rw [← htargets] at hp'
  have hbare : memberAnnotation (ofDecls o location decls load false) memberKind kind p.1.bare p.2 =
      memberAnnotation (ofDecls o location decls load' true) memberKind kind p.1 p.2 :=
    memberAnnotation_bare hnames hload hp'
  simp only [Function.comp_apply, hbare]
  rfl

private theorem elim_get?_bare {α : Type} {f g : String → Targets → List α}
    (h : ∀ kind targets, targetsIn (Artifact.ofDecls { o with captureArguments := true } location
      decls).annotations kind = targets → f kind targets.bare = g kind targets) (kind : String) :
    ((Artifact.ofDecls { o with captureArguments := false } location decls).annotations.get?
        kind).elim [] (f kind) =
      ((Artifact.ofDecls { o with captureArguments := true } location decls).annotations.get?
        kind).elim [] (g kind) := by
  rw [annotations_bare, KeyMap.get?_mapValues]
  cases htargets : (Artifact.ofDecls { o with captureArguments := true } location
      decls).annotations.get? kind with
  | none => rfl
  | some targets =>
    apply h
    rw [targetsIn, htargets]
    rfl

private theorem flatMap_entries_bare {α : Type} {f g : String → Targets → List α}
    (h : ∀ kind targets, targetsIn (Artifact.ofDecls { o with captureArguments := true } location
      decls).annotations kind = targets → f kind targets.bare = g kind targets) :
    ((Artifact.ofDecls { o with captureArguments := false } location
        decls).annotations.entries.flatMap fun e => f e.1 e.2) =
      (Artifact.ofDecls { o with captureArguments := true } location
        decls).annotations.entries.flatMap fun e => g e.1 e.2 := by
  rw [annotations_bare, KeyMap.mapValues, List.flatMap_map, List.flatMap_def, List.flatMap_def]
  congr 1
  apply List.map_congr_left
  intro e he
  apply h
  rw [targetsIn, KeyMap.get?_of_mem he]
  rfl

end Reflective

theorem findClasses_eq (c : Catalog) (kind : String) : c.findClasses kind =
    (c.artifact.annotations.get? kind).elim [] (c.classRequests (fun _ => true) kind) := by
  unfold findClasses
  split <;> simp_all

theorem findMembers_eq (c : Catalog) (memberKind : MemberKind) (kind : String) :
    c.findMembers memberKind kind = (c.artifact.annotations.get? kind).elim []
      (c.memberRequests memberKind (fun _ _ => true) kind) := by
  unfold findMembers
  split <;> simp_all

private def requestsOn (c : Catalog) (typeName kind : String) (targets : Targets) :
    List (Request ViewItem) :=
  (c.classRequests (· = typeName) kind targets).map (Request.map .onClass) ++
    [MemberKind.method, .property].flatMap fun memberKind =>
      (c.memberRequests memberKind (fun t _ => t = typeName) kind targets).map
        (Request.map (.onMember memberKind))

section Captured

variable {c : Catalog} (h : c.artifact.argumentsCaptured = true)

include h

private theorem classRequests_ok (wanted : String → Bool) (kind : String) (targets : Targets) :
    ∀ r ∈ c.classRequests wanted kind targets, ∃ a, r.answer = .ok a := by
  intro r hr
  obtain ⟨p, -, rfl⟩ := List.mem_map.1 hr
  simp [h, classAnnotation, Except.map]

private theorem memberRequests_ok (memberKind : MemberKind) (wanted : String → String → Bool)
    (kind : String) (targets : Targets) :
    ∀ r ∈ c.memberRequests memberKind wanted kind targets, ∃ a, r.answer = .ok a := by
  intro r hr
  obtain ⟨p, -, rfl⟩ := List.mem_map.1 hr
  simp [h, memberAnnotation, Except.map]

private theorem typeRequests_ok (typeName : String) :
    ∀ r ∈ c.typeRequests typeName, ∃ a, r.answer = .ok a := by
  intro r hr
  obtain ⟨⟨kind, targets⟩, -, hr⟩ := List.mem_flatMap.1 hr
  rcases List.mem_append.1 hr with hr | hr
  · obtain ⟨s, hs, rfl⟩ := List.mem_map.1 hr
    obtain ⟨a, ha⟩ := classRequests_ok h _ kind targets s hs
    exact ⟨.onClass a, by rw [Request.map, ha]; rfl⟩
  · obtain ⟨memberKind, -, hr⟩ := List.mem_flatMap.1 hr
    obtain ⟨s, hs, rfl⟩ := List.mem_map.1 hr
    obtain ⟨a, ha⟩ := memberRequests_ok h memberKind _ kind targets s hs
    exact ⟨.onMember memberKind a, by rw [Request.map, ha]; rfl⟩

end Captured

/-- A query is answered in both ways, and alike. -/
private theorem answered_alike {α : Type} {rs rs' : List (Request α)} (heq : rs = rs')
    (hok : ∀ r ∈ rs', ∃ a, r.answer = .ok a) :
    ∃ found, answers rs = .ok found ∧ answers rs' = .ok found := by
  obtain ⟨found, hfound⟩ := answers_ok hok
  exact ⟨found, heq ▸ hfound, hfound⟩

/-- If each type is loaded as the declaration that its records are made from, every query succeeds
without the arguments, and its answer is the one that is given with them. -/
theorem reflective_answers (o : ExtractOptions) (location : TypeDecl → Path)
    (decls : List TypeDecl) (load load' : String → Except LoadError TypeDecl)
    (hnames : (decls.map (·.name)).Nodup) (hload : ∀ d ∈ decls, load d.name = .ok d) :
    let reflective := ofDecls o location decls load false
    let embedded := ofDecls o location decls load' true
    (∀ kind, ∃ found, answers (reflective.findClasses kind) = .ok found ∧
      answers (embedded.findClasses kind) = .ok found) ∧
    (∀ memberKind kind, ∃ found, answers (reflective.findMembers memberKind kind) = .ok found ∧
      answers (embedded.findMembers memberKind kind) = .ok found) ∧
    (∀ wanted, ∃ found, answers (reflective.filterClasses wanted) = .ok found ∧
      answers (embedded.filterClasses wanted) = .ok found) ∧
    (∀ memberKind wanted, ∃ found,
      answers (reflective.filterMembers memberKind wanted) = .ok found ∧
      answers (embedded.filterMembers memberKind wanted) = .ok found) ∧
    (∀ typeName, ∃ view, reflective.view typeName = .ok view ∧
      embedded.view typeName = .ok view) := by
  intro reflective embedded
  have hcaptured : embedded.artifact.argumentsCaptured = true := rfl
  have hclasses : ∀ wanted : String → String → Bool, ∀ kind targets,
      targetsIn embedded.artifact.annotations kind = targets →
      reflective.classRequests (wanted kind) kind targets.bare =
        embedded.classRequests (wanted kind) kind targets := by
    intro wanted kind targets htargets
    exact classRequests_bare hnames hload htargets (wanted kind)
  have hmembers : ∀ memberKind, ∀ wanted : String → String → String → Bool, ∀ kind targets,
      targetsIn embedded.artifact.annotations kind = targets →
      reflective.memberRequests memberKind (wanted kind) kind targets.bare =
        embedded.memberRequests memberKind (wanted kind) kind targets := by
    intro memberKind wanted kind targets htargets
    exact memberRequests_bare hnames hload htargets (wanted kind)
  refine ⟨?_, ?_, ?_, ?_, ?_⟩
  · intro kind
    apply answered_alike
    · rw [findClasses_eq, findClasses_eq]
      exact elim_get?_bare (hclasses fun _ _ => true) kind
    · rw [findClasses_eq]
      cases embedded.artifact.annotations.get? kind with
      | none => simp
      | some targets => exact classRequests_ok hcaptured (fun _ => true) kind targets
  · intro memberKind kind
    apply answered_alike
    · rw [findMembers_eq, findMembers_eq]
      exact elim_get?_bare (hmembers memberKind fun _ _ _ => true) kind
    · rw [findMembers_eq]
      cases embedded.artifact.annotations.get? kind with
      | none => simp
      | some targets => exact memberRequests_ok hcaptured memberKind (fun _ _ => true) kind targets
  · intro wanted
    apply answered_alike
    · exact flatMap_entries_bare (hclasses wanted)
    · intro r hr
      obtain ⟨⟨kind, targets⟩, -, hr⟩ := List.mem_flatMap.1 hr
      exact classRequests_ok hcaptured _ kind targets r hr
  · intro memberKind wanted
    apply answered_alike
    · exact flatMap_entries_bare (hmembers memberKind wanted)
    · intro r hr
      obtain ⟨⟨kind, targets⟩, -, hr⟩ := List.mem_flatMap.1 hr
      exact memberRequests_ok hcaptured memberKind _ kind targets r hr
  · intro typeName
    have heq : reflective.typeRequests typeName = embedded.typeRequests typeName := by
      apply @flatMap_entries_bare o location decls _ (reflective.requestsOn typeName)
        (embedded.requestsOn typeName)
      intro kind targets htargets
      unfold requestsOn
      rw [hclasses (fun _ => (· = typeName)) kind targets htargets]
      simp only [fun memberKind => hmembers memberKind (fun _ t _ => t = typeName) kind targets
        htargets]
    obtain ⟨items, hitems, hitems'⟩ := answered_alike heq (typeRequests_ok hcaptured typeName)
    exact ⟨TypeView.ofItems items, by rw [view, hitems]; rfl, by rw [view, hitems']; rfl⟩

/-- A class with an overloaded method, where one annotation is repeated. -/
def overloaded : TypeDecl :=
  let use (n : Int64) : AnnotationUse := ⟨"p.K", [⟨none, .integer n⟩]⟩
  ⟨"p.A", .classType, [use 0],
    [⟨"m", .method, [use 1, use 2]⟩, ⟨"n", .method, [use 3]⟩, ⟨"m", .method, [use 4]⟩]⟩

theorem reflective_answers_overloaded :
    let load : String → Except LoadError TypeDecl := fun _ => .ok overloaded
    ∃ found, answers ((ofDecls {} (fun _ => .ofText "/A.java") [overloaded] load false).findMembers
        .method "p.K") = .ok found ∧
      answers ((ofDecls {} (fun _ => .ofText "/A.java") [overloaded] load true).findMembers
        .method "p.K") = .ok found :=
  (reflective_answers {} (fun _ => .ofText "/A.java") [overloaded] (fun _ => .ok overloaded)
    (fun _ => .ok overloaded) (by simp) (by simp)).2.1 .method "p.K"

end Catalog

end AnnotationIndex
