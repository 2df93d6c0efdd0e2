import AnnotationIndex.Proofs.Index.Gathering
import AnnotationIndex.Proofs.Run.Transparency

/-!
# Names at query time

An artifact without arguments lists the types that its files can name by their simple names. When
such a file is read again, this is enough for every name to mean what it meant when the artifact was
made, although most types are not listed.
-/

namespace AnnotationIndex

open Java

namespace ClassMap

theorem contains_locations {m : ClassMap} {f : ResolvedFile} (hf : f ∈ m.files) {name : String}
    (hname : name ∈ f.types) (howned : m.isOwnedBy name f.file.path = true) :
    m.locations.contains name = true := by
  rw [locations, KeyMap.contains_ofList, List.map_map, List.mem_map]
  refine ⟨(f.file, name), ?_, rfl⟩
  rw [entries, List.mem_flatMap]
  exact ⟨f, hf, List.mem_map_of_mem (List.mem_filter.2 ⟨hname, howned⟩)⟩

end ClassMap

theorem Plain.accepts_of_kept {path : Path} {content : List UInt8} {types kept : List String}
    (h : keptAmong path content types = .ok kept) {name : String} (hname : name ∈ kept) :
    name ∈ types ∧ accepts path content name = .ok true := by
  induction types generalizing kept with
  | nil =>
    cases h
    cases hname
  | cons t types ih =>
    obtain ⟨keep, hkeep, hrest⟩ := bind_eq_ok h
    obtain ⟨more, hmore, heq⟩ := bind_eq_ok hrest
    cases heq
    cases keep with
    | false =>
      obtain ⟨hmem, haccepts⟩ := ih hmore hname
      exact ⟨List.mem_cons_of_mem t hmem, haccepts⟩
    | true =>
      rcases List.mem_cons.1 hname with rfl | hname
      · exact ⟨List.mem_cons_self, hkeep⟩
      · obtain ⟨hmem, haccepts⟩ := ih hmore hname
        exact ⟨List.mem_cons_of_mem t hmem, haccepts⟩

theorem Plain.file_of_owner {tree : FileTree} {map map' : ClassMap} (h : kept tree map = .ok map')
    {name : String} {path : Path} (howner : map'.owner? name = some path) :
    ∃ f ∈ map'.files, f.file.path = path ∧ name ∈ f.types ∧ map.isOwnedBy name path = true := by
  cases hlists : keptLists tree map.files with
  | error e => simp [kept, hlists, Except.map] at h
  | ok lists =>
    simp only [kept, hlists, Except.map, Except.ok.injEq] at h
    rw [← h] at howner ⊢
    exact ClassMap.owner?_retainWith howner

theorem Plain.outline_of_accepts {path : Path} {content : List UInt8} {name : String}
    (h : accepts path content name = .ok true) (known : String → Bool) :
    ∃ outline unit, Outline.ofSource? (Text.lossyText content).toList = some outline ∧
      outline.unit? known = some unit := by
  unfold accepts at h
  split at h
  · unfold instantiable at h
    cases houtline : Outline.ofSource? (Text.lossyText content).toList with
    | none => simp [houtline] at h
    | some outline =>
      cases hunit : outline.unit? known with
      | none =>
        have hnone := (unit?_eq_none_iff known fun _ => false).1 hunit
        simp [houtline, hnone] at h
      | some unit => exact ⟨outline, unit, rfl, hunit⟩
  · cases h

namespace Collected

/-- The artifact that a run writes. -/
def artifact (c : Collected) (config : Config) : Artifact :=
  .ofCollection c.collection config.captureArguments

/-- How a run loads types. -/
def loader (c : Collected) : Loader := { locations := c.resolution.map.locations }

structure Found (config : Config) (tree : FileTree) (c : Collected) : Prop where
  resolution : (⟨tree, config⟩ : Setting).resolution = .ok c.resolution
  kept : Plain.kept tree c.resolution.map = .ok c.kept
  collection : ∃ items, (∀ item ∈ items, c.kept.owner? item.1.typeName = some item.2) ∧
    c.collection.locations = (Collection.empty.addEach items).locations ∧
    c.collection.annotations = (Collection.empty.addEach items).annotations
  knownTypes : config.captureArguments = false →
    c.collection.knownTypes = namesInScope c.kept c.resolution.map.locations c.collection

theorem found_of_collect {config : Config} {tree : FileTree} {c : Collected}
    {exclusion : Option Pattern}
    (hprepare : Plain.prepare config tree = .ok exclusion)
    (h : Plain.collect config exclusion tree = .ok c) : Found config tree c := by
  obtain ⟨r, hr, h⟩ := Plain.bind_eq_ok h
  obtain ⟨kept, hkept, h⟩ := Plain.bind_eq_ok h
  obtain ⟨records, hrecords, h⟩ := Plain.bind_eq_ok h
  cases h
  refine ⟨?_, hkept, ?_, ?_⟩
  · simp only [Setting.resolution, hprepare, bind, Except.bind]
    exact hr
  · refine ⟨records.filterMap fun r => (kept.owner? r.typeName).map (r, ·), ?_, ?_⟩
    · intro item hitem
      obtain ⟨record, -, hlocated⟩ := List.mem_filterMap.1 hitem
      obtain ⟨path, hpath, rfl⟩ := Option.map_eq_some_iff.1 hlocated
      exact hpath
    · rw [← Collection.addAll_eq_addEach]
      split <;> exact ⟨rfl, rfl⟩
  · intro hcapture
    simp only [hcapture, Bool.false_eq_true, if_false]
    rfl

section Listed

variable {config : Config} {tree : FileTree} {c : Collected}

theorem Found.setting_kept (h : Found config tree c) :
    (⟨tree, config⟩ : Setting).kept = .ok c.kept := Setting.kept_of_resolution h.resolution h.kept

theorem Found.of_location (h : Found config tree c) {name : String} {path : Path}
    (hlocation : c.collection.locations.get? name = some path) :
    (∃ f ∈ c.kept.files, f.file.path = path ∧ name ∈ f.types) ∧
      c.resolution.map.locations.contains name = true := by
  obtain ⟨items, howners, hlocations, -⟩ := h.collection
  rw [hlocations, Collection.get?_locations] at hlocation
  obtain ⟨item, hlast, rfl⟩ := Option.map_eq_some_iff.1 hlocation
  obtain ⟨hitem, hnamed⟩ := of_findRev?_eq_some hlast
  obtain rfl : item.1.typeName = name := of_decide_eq_true (Bool.and_eq_true_iff.1 hnamed).1
  have howner := howners item hitem
  obtain ⟨f, hf, hpath, hname, howned⟩ := Plain.file_of_owner h.kept howner
  obtain ⟨g, hg, heq, hamong⟩ := Plain.mem_kept h.kept hf
  refine ⟨⟨f, hf, hpath, hname⟩, ?_⟩
  have hgpath : g.file.path = item.2 := by
    rw [← hpath, heq]
  exact ClassMap.contains_locations hg (Plain.accepts_of_kept hamong hname).1 (hgpath ▸ howned)

theorem Found.isText_locations (h : Found config tree c)
    (hpaths : ∀ f ∈ c.kept.files, f.file.path.isText = true) :
    c.collection.locations.values.all Path.isText = true := by
  rw [List.all_eq_true]
  intro path hpath
  obtain ⟨name, hname⟩ := KeyMap.mem_values_iff.1 hpath
  obtain ⟨⟨f, hf, rfl, -⟩, -⟩ := h.of_location hname
  exact hpaths f hf

/-- In the packages of a file with a located type, the same types are known to the artifact. -/
theorem Found.knows_eq (h : Found config tree c) (hcapture : config.captureArguments = false)
    {f : ResolvedFile} (hf : f ∈ c.kept.files)
    {t : String} (ht : t ∈ f.types) (hlocated : c.collection.locations.contains t = true)
    {name : String} (hname : packageOf name ∈ f.scope) :
    (c.artifact config).loader.knows name = c.loader.knows name := by
  have hnames : ∀ n, KeyMap.contains c.collection.knownTypes n = true ↔ ∃ g ∈ c.kept.files,
      g.types.any c.collection.locations.contains = true ∧
        n ∈ visibleTypes c.resolution.map.locations g.scope := by
    intro n
    rw [h.knownTypes hcapture, namesInScope, KeySet.ofList, KeyMap.contains_ofList]
    simp only [List.map_map, Function.comp_def, List.map_id', List.mem_flatMap, List.mem_filter,
      and_assoc]
  have hempty : (KeyMap.empty : KeySet).contains name = false := rfl
  rw [Bool.eq_iff_iff]
  simp only [Loader.knows, Bool.or_eq_true, loader, hempty, Bool.false_eq_true, or_false]
  constructor
  · rintro (htypes | htypes)
    · obtain ⟨path, hpath⟩ := Option.isSome_iff_exists.1 htypes
      exact (h.of_location hpath).2
    · obtain ⟨g, -, -, hvisible⟩ := (hnames name).1 htypes
      exact (mem_visibleTypes.1 hvisible).1
  · intro hlocation
    refine .inr ((hnames name).2 ⟨f, hf, ?_, mem_visibleTypes.2 ⟨hlocation, hname⟩⟩)
    exact List.any_eq_true.2 ⟨t, ht, hlocated⟩

end Listed

end Collected

/-- A type is mentioned if an annotation is recorded on it or on one of its members. -/
def Artifact.Mentions (a : Artifact) (name : String) : Prop :=
  ∃ kind, (∃ t ∈ (Collection.targetsIn a.annotations kind).classes, t.typeName = name) ∨
    ∃ memberKind, ∃ t ∈ (Collection.targetsIn a.annotations kind).members memberKind,
      t.typeName = name

namespace Collected

variable {config : Config} {tree : FileTree} {c : Collected}

theorem Found.contains_location (h : Found config tree c) {name : String}
    (hname : (c.artifact config).Mentions name) :
    c.collection.locations.contains name = true := by
  obtain ⟨items, -, hlocations, hannotations⟩ := h.collection
  obtain ⟨kind, hkind⟩ := hname
  rw [artifact, Artifact.ofCollection, hannotations] at hkind
  rw [hlocations]
  exact (Collection.located_iff items name).2 ⟨kind, Targets.mem_typeNames.2 hkind⟩

end Collected

/-- The scope of the header of a source text has the packages in which its names are looked for. -/
def Java.Header.Covers (source : String) : Prop :=
  ∀ outline, Outline.ofSource? source.toList = some outline →
    ∀ package ∈ outline.scope.packages, package ∈ (Header.ofSource source).scope

/-- After a run without captured arguments, a file with a type that the artifact mentions is read
the same with the types that the artifact lists as with all types that were found. -/
theorem unit_at_query (config : Config) (tree : FileTree) (report : RunReport)
    (hkeys : (⟨tree, config⟩ : Setting).KeysTell) (hcapture : config.captureArguments = false)
    (hrun : (run MemoryStore.backend config (.start tree)).1 = .ok report) :
    ∃ c, (collecting config tree { store := .empty }).1 = .ok c ∧
      writeArtifact config.outputPath (c.artifact config).render tree =
        (.ok (), (run MemoryStore.backend config (.start tree)).2.tree) ∧
      ∀ name, (c.artifact config).Mentions name → ∃ path content,
        (c.artifact config).types.get? name = some path ∧ tree.read path = .ok content ∧
        (Header.Covers (Text.lossyText content) → ∃ unit,
          CompilationUnit.ofSource (Text.lossyText content) (c.artifact config).loader.knows =
            .ok unit ∧
          CompilationUnit.ofSource (Text.lossyText content) c.loader.knows = .ok unit) := by
  obtain ⟨c, hcollecting, hpublish⟩ := collecting_of_run hrun
  refine ⟨c, hcollecting, (publish_ok_iff.1 hpublish).2, ?_⟩
  intro name hname
  have hmemo : ∀ exclusion, Plain.prepare config tree = .ok exclusion →
      RunMemo (Valid [⟨tree, config⟩]) config exclusion tree := by
    intro exclusion hok
    refine runMemo (apart_single hkeys ?_) List.mem_cons_self hok
    intro f hf records hrecords x hx
    rw [Setting.reals_of_not_captured hcapture hrecords] at hx
    cases hx
  have hplain := (gives_collecting hmemo { store := .empty } (valid_empty _)).1
  obtain ⟨exclusion, hprepare, hcollect⟩ := Plain.bind_eq_ok (hplain.symm.trans hcollecting)
  have hfound := Collected.found_of_collect hprepare hcollect
  have hlocated := hfound.contains_location hname
  obtain ⟨path, hpath⟩ := Option.isSome_iff_exists.1 hlocated
  obtain ⟨⟨f, hf, rfl, htype⟩, -⟩ := hfound.of_location hpath
  obtain ⟨hread, -, -, hscope, hamong⟩ := Setting.of_mem_kept hfound.setting_kept hf
  refine ⟨f.file.path, _, hpath, hread, ?_⟩
  intro hcovers
  have haccepts := (Plain.accepts_of_kept hamong htype).2
  obtain ⟨outline, unit, houtline, hunit⟩ := Plain.outline_of_accepts haccepts c.loader.knows
  have hagree : outline.scope.Agree (c.artifact config).loader.knows c.loader.knows := by
    intro n hn
    apply hfound.knows_eq hcapture hf htype hlocated
    rw [hscope]
    exact hcovers outline houtline _ hn
  have hsame := Outline.unit?_congr hagree
  refine ⟨unit, ?_, ?_⟩
  · simp only [CompilationUnit.ofSource, houtline, hsame, hunit]
  · simp only [CompilationUnit.ofSource, houtline, hunit]

theorem unit_at_query_moving :
    (⟨Moving.treeWith Moving.declaring, Moving.config⟩ : Setting).KeysTell ∧
    ∃ c path content unit,
      (collecting Moving.config (Moving.treeWith Moving.declaring) { store := .empty }).1 = .ok c ∧
      (c.artifact Moving.config).types.get? "X" = some path ∧
      (Moving.treeWith Moving.declaring).read path = .ok content ∧
      CompilationUnit.ofSource (Text.lossyText content)
        (c.artifact Moving.config).loader.knows = .ok unit ∧
      CompilationUnit.ofSource (Text.lossyText content) c.loader.knows = .ok unit := by
  have hreals : (⟨Moving.treeWith Moving.declaring, Moving.config⟩ : Setting).RealsReadBack :=
    Setting.realsReadBack_of_not_captured rfl
  obtain ⟨found, hcollect, hrecorded⟩ := Moving.collected
  simp only [Moving.recorded, Bool.and_eq_true] at hrecorded
  obtain ⟨⟨hlocated, htargets⟩, hpaths⟩ := hrecorded
  obtain ⟨report, hreport⟩ := run_of_collect (s := .start (Moving.treeWith Moving.declaring))
    (apart_single Moving.keysAgree.tell hreals) List.mem_cons_self (valid_empty _) hcollect hpaths
    Moving.replaceable_output
  obtain ⟨c, hc, -, hunits⟩ := unit_at_query Moving.config _ report Moving.keysAgree.tell rfl hreport
  obtain rfl : c = found :=
    Except.ok.inj (hc.symm.trans ((collecting_of_start Moving.keysAgree.tell hreals).trans hcollect))
  have hmentions : (c.artifact Moving.config).Mentions "X" := by
    obtain ⟨targets, hget, hany⟩ := (Option.any_eq_true _ _).1 htargets
    obtain ⟨t, ht, hname⟩ := List.any_eq_true.1 hany
    refine ⟨"A", .inl ⟨t, ?_, by simpa using hname⟩⟩
    change t ∈ (Collection.targetsIn c.collection.annotations "A").classes
    rwa [Collection.targetsIn, hget]
  obtain ⟨path, content, hpath, hread, hsame⟩ := hunits "X" hmentions
  have hX : path = .ofText "/X.java" := by
    have hsome : some path = some (.ofText "/X.java") := hpath.symm.trans (beq_iff_eq.1 hlocated)
    exact Option.some.inj hsome
  have hcontent : content = Moving.importing := by
    rw [hX] at hread
    exact (Except.ok.inj hread).symm
  have hcovers : Header.Covers (Text.lossyText content) := by
    rw [hcontent]
    intro outline houtline
    rw [Moving.scope_of_outline houtline]
    change ∀ package ∈ _, package ∈ (Plain.headerOf Moving.importing).scope
    rw [Moving.scope_importing]
    decide
  obtain ⟨unit, hunit, hunit'⟩ := hsame hcovers
  exact ⟨Moving.keysAgree.tell, c, path, content, unit, hc, hpath, hread, hunit, hunit'⟩

end AnnotationIndex
