import AnnotationIndex.Proofs.Java.Readers
import AnnotationIndex.Proofs.Run.Replacing
import AnnotationIndex.Proofs.Run.Validity
import Mathlib.Data.List.Nodup

/-!
# Runs with a shared store

However the files are edited between runs and whatever the configurations of the runs, a store that
is shared by all of them changes nothing in what they write and report.
-/

namespace AnnotationIndex

open Digest Java

def Plain.outcome (config : Config) (tree : FileTree) : Except Failure Collected × FileTree :=
  match (Plain.prepare config tree).bind (Plain.collect config · tree) with
  | .error f => (.error f, tree)
  | .ok c =>
    match publish config c.collection tree with
    | (.error f, tree) => (.error f, tree)
    | (.ok (), tree) => (.ok c, tree)

variable {inv : MemoryStore → Prop}

theorem gives_prepare (config : Config) (tree : FileTree) :
    Gives inv (prepare config tree) (Plain.prepare config tree) := by
  refine (Gives.liftExcept config.exclusion).andThen ?_
  intro exclusion _
  refine (Gives.liftExcept (checkOutput tree config.outputPath)).andThen ?_
  intro _ _
  by_cases hempty : config.includePaths.isEmpty = true
  · simp only [if_pos hempty]
    exact (Gives.stageReport _).okThen (Gives.ok _)
  · simp only [if_neg hempty]
    exact Gives.ok _

/-- The part of a run before the artifact is replaced. -/
def collecting (config : Config) (tree : FileTree) : Stage MemoryStore Collected := do
  let exclusion ← prepare config tree
  collect MemoryStore.backend standardChain config exclusion tree

theorem gives_collecting {config : Config} {tree : FileTree}
    (hmemo : ∀ exclusion, Plain.prepare config tree = .ok exclusion →
      RunMemo inv config exclusion tree) :
    Gives inv (collecting config tree)
      ((Plain.prepare config tree).bind (Plain.collect config · tree)) :=
  (gives_prepare config tree).andThen fun exclusion hok => gives_collect (hmemo exclusion hok)

theorem run_of_error {config : Config} {s : RunState MemoryStore} {f : Failure}
    {session : Session MemoryStore} (h : collecting config s.tree s.session = (.error f, session)) :
    run MemoryStore.backend config s = (.error f, ⟨s.tree, session⟩) := by
  unfold collecting at h
  simp only [run, runWith, ExceptT.run, h]

theorem run_of_ok {config : Config} {s : RunState MemoryStore} {c : Collected}
    {session : Session MemoryStore} (h : collecting config s.tree s.session = (.ok c, session)) :
    run MemoryStore.backend config s =
      match publish config c.collection s.tree with
      | (.error f, tree) => (.error f, ⟨tree, session⟩)
      | (.ok (), tree) =>
        (.ok (reportOf config c ⟨session.store.size, session.counters⟩), ⟨tree, session⟩) := by
  unfold collecting at h
  simp only [run, runWith, ExceptT.run, h]
  split <;> simp_all [Session.stats, MemoryStore.backend, Except.map]

theorem collecting_of_run {config : Config} {s : RunState MemoryStore} {report : RunReport}
    (h : (run MemoryStore.backend config s).1 = .ok report) :
    ∃ c, (collecting config s.tree s.session).1 = .ok c ∧
      publish config c.collection s.tree = (.ok (), (run MemoryStore.backend config s).2.tree) := by
  cases hpair : collecting config s.tree s.session with
  | mk result session =>
    cases result with
    | error f =>
      rw [run_of_error hpair] at h
      cases h
    | ok c =>
      refine ⟨c, rfl, ?_⟩
      rw [run_of_ok hpair] at h ⊢
      cases hwrite : publish config c.collection s.tree with
      | mk written tree =>
        cases written with
        | error f =>
          rw [hwrite] at h
          cases h
        | ok _ => rfl

theorem session_of_run (config : Config) (s : RunState MemoryStore) :
    (run MemoryStore.backend config s).2.session = (collecting config s.tree s.session).2 := by
  cases hpair : collecting config s.tree s.session with
  | mk result session =>
    cases result with
    | error f => rw [run_of_error hpair]
    | ok c =>
      rw [run_of_ok hpair]
      cases publish config c.collection s.tree with
      | mk written tree => cases written <;> rfl

/-- A run comes to the results it would come to without a store. -/
theorem run_outcome {config : Config} {s : RunState MemoryStore}
    (hmemo : ∀ exclusion, Plain.prepare config s.tree = .ok exclusion →
      RunMemo inv config exclusion s.tree)
    (hs : inv s.session.store) :
    inv (run MemoryStore.backend config s).2.session.store ∧
      (run MemoryStore.backend config s).2.tree = (Plain.outcome config s.tree).2 ∧
      ∃ cache, (run MemoryStore.backend config s).1 =
        (Plain.outcome config s.tree).1.map fun c => reportOf config c cache := by
  obtain ⟨hresult, hinv⟩ := gives_collecting hmemo s.session hs
  rw [Plain.outcome, ← hresult]
  cases hpair : collecting config s.tree s.session with
  | mk result session =>
    rw [hpair] at hinv
    cases result with
    | error f =>
      rw [run_of_error hpair]
      exact ⟨hinv, rfl, ⟨⟨"", none, fun _ => 0⟩, {}⟩, rfl⟩
    | ok c =>
      rw [run_of_ok hpair]
      simp only
      cases publish config c.collection s.tree with
      | mk written tree =>
        cases written with
        | error f => exact ⟨hinv, rfl, ⟨⟨"", none, fun _ => 0⟩, {}⟩, rfl⟩
        | ok _ => exact ⟨hinv, rfl, _, rfl⟩

/-- A step of a history: the files are edited, or a run is made. -/
inductive Step where
  | edit (change : FileTree → FileTree)
  | run (config : Config)

/-- The state after a step. All runs share one store. -/
def Step.apply (s : RunState MemoryStore) : Step → RunState MemoryStore
  | .edit change => { s with tree := change s.tree }
  | .run config => (AnnotationIndex.run MemoryStore.backend config s).2

def RunState.start (tree : FileTree) : RunState MemoryStore := ⟨tree, { store := .empty }⟩

/-- The state after some steps. -/
def RunState.after (s : RunState MemoryStore) (steps : List Step) : RunState MemoryStore :=
  steps.foldl Step.apply s

/-- The configurations of the runs among some steps, with the files that each run finds. -/
def settingsOf (s : RunState MemoryStore) : List Step → List Setting
  | [] => []
  | .edit change :: rest => settingsOf (Step.apply s (.edit change)) rest
  | .run config :: rest => ⟨s.tree, config⟩ :: settingsOf (Step.apply s (.run config)) rest

theorem settingsOf_append (s : RunState MemoryStore) (steps more : List Step) :
    settingsOf s (steps ++ more) = settingsOf s steps ++ settingsOf (s.after steps) more := by
  induction steps generalizing s with
  | nil => rfl
  | cons step steps ih =>
    cases step with
    | edit change => exact ih _
    | run config =>
      rw [List.cons_append, settingsOf, settingsOf, ih]
      rfl

theorem inv_after {runs : List Setting}
    (hrun : ∀ r ∈ runs, ∀ session : Session MemoryStore, inv session.store →
      inv (run MemoryStore.backend r.config ⟨r.tree, session⟩).2.session.store)
    {s : RunState MemoryStore} (hs : inv s.session.store) (steps : List Step)
    (hsub : ∀ r ∈ settingsOf s steps, r ∈ runs) : inv (s.after steps).session.store := by
  induction steps generalizing s with
  | nil => exact hs
  | cons step steps ih =>
    cases step with
    | edit change => exact ih (s := Step.apply s (.edit change)) hs hsub
    | run config =>
      refine ih (s := Step.apply s (.run config)) ?_ fun r hr =>
        hsub r (List.mem_cons_of_mem _ hr)
      exact hrun ⟨s.tree, config⟩ (hsub _ List.mem_cons_self) s.session hs

/-- The store is valid after every history. -/
theorem valid_after {runs : List Setting} (h : Distinguished runs) {s : RunState MemoryStore}
    (hs : Valid runs s.session.store) (steps : List Step)
    (hsub : ∀ r ∈ settingsOf s steps, r ∈ runs) : Valid runs (s.after steps).session.store := by
  refine inv_after ?_ hs steps hsub
  intro r hr session hvalid
  exact (@run_outcome _ r.config ⟨r.tree, session⟩ (fun _ hok => runMemo h.apart hr hok) hvalid).1

/-- A run gives the same with all valid stores. -/
theorem runs_agree {runs : List Setting} (h : Distinguished runs) {config : Config}
    {tree : FileTree} (hr : ⟨tree, config⟩ ∈ runs) {session session' : Session MemoryStore}
    (hs : Valid runs session.store) (hs' : Valid runs session'.store) :
    (run MemoryStore.backend config ⟨tree, session⟩).2.tree =
        (run MemoryStore.backend config ⟨tree, session'⟩).2.tree ∧
      ∃ cache, (run MemoryStore.backend config ⟨tree, session'⟩).1 =
        (run MemoryStore.backend config ⟨tree, session⟩).1.map fun report =>
          { report with cache } := by
  have hmemo : ∀ exclusion, Plain.prepare config tree = .ok exclusion →
      RunMemo (Valid runs) config exclusion tree := fun _ hok => runMemo h.apart hr hok
  obtain ⟨-, htree, cache, hresult⟩ := @run_outcome _ config ⟨tree, session⟩ hmemo hs
  obtain ⟨-, htree', cache', hresult'⟩ := @run_outcome _ config ⟨tree, session'⟩ hmemo hs'
  refine ⟨htree.trans htree'.symm, cache', ?_⟩
  rw [hresult, hresult']
  cases (Plain.outcome config tree).1 <;> rfl

section Start

variable {config : Config} {tree : FileTree} {c : Collected}

/-- The numbers that a run records are read back. -/
def Setting.RealsReadBack (r : Setting) : Prop :=
  ∀ f ∈ r.keptFiles, ∀ records, r.records f = .ok records →
    ∀ x ∈ realsOfRecords records, Json.ReadsBack x

theorem Setting.realsReadBack_of_not_captured {r : Setting}
    (h : r.config.captureArguments = false) : r.RealsReadBack := by
  intro f hf records hrecords x hx
  rw [reals_of_not_captured h hrecords] at hx
  cases hx

theorem collecting_of_start (hkeys : (⟨tree, config⟩ : Setting).KeysTell)
    (h : (⟨tree, config⟩ : Setting).RealsReadBack) :
    (collecting config tree { store := .empty }).1 =
      (Plain.prepare config tree).bind (Plain.collect config · tree) := by
  have hmemo : ∀ exclusion, Plain.prepare config tree = .ok exclusion →
      RunMemo (Valid [⟨tree, config⟩]) config exclusion tree := fun exclusion hok =>
    runMemo (apart_single hkeys h) List.mem_cons_self hok
  exact (gives_collecting hmemo { store := .empty } (valid_empty _)).1

theorem run_of_collect {runs : List Setting} (h : Apart runs) {s : RunState MemoryStore}
    (hr : ⟨s.tree, config⟩ ∈ runs) (hs : Valid runs s.session.store)
    (hcollect : (Plain.prepare config s.tree).bind (Plain.collect config · s.tree) = .ok c)
    (hpaths : c.collection.locations.values.all Path.isText = true)
    (hplace : Replaceable s.tree config.outputPath) :
    ∃ report, (run MemoryStore.backend config s).1 = .ok report := by
  obtain ⟨-, -, cache, hrun⟩ := run_outcome (fun _ hok => runMemo h hr hok) hs
  obtain ⟨after, hwrite, -⟩ := writeArtifact_of_replaceable hplace
    (Artifact.ofCollection c.collection config.captureArguments).render
  refine ⟨reportOf config c cache, ?_⟩
  rw [hrun]
  simp only [Plain.outcome, hcollect, publish_ok_iff.2 ⟨hpaths, hwrite⟩, Except.map]

end Start

namespace Moving

/-- A class with an annotation that its package or the package `q` may provide. -/
def importing : List UInt8 := Text.utf8Bytes "import q.*; @A class X {}"

def declaring : List UInt8 := Text.utf8Bytes "class A {}"

def moved : List UInt8 := Text.utf8Bytes "package q; class A {}"

def treeWith (content : List UInt8) : FileTree :=
  ⟨.ofList [(Text.utf8Bytes "/A.java", .file content), (Text.utf8Bytes "/X.java", .file importing)], []⟩

def config : Config :=
  { includePaths := [.ofText "/A.java", .ofText "/X.java"], outputPath := .ofText "/out.json"
    captureArguments := false }

/-- The annotation is recorded on the importing class, as one of the type in the default package, and
can be published. -/
def recorded (c : Collected) : Bool :=
  c.collection.locations.get? "X" == some (.ofText "/X.java") &&
    (c.collection.annotations.get? "A").any (·.classes.any (·.typeName = "X")) &&
    c.collection.locations.values.all Path.isText

def file (path : Path) (content : List UInt8) : ResolvedFile := Plain.fileWith path content

def outline : Outline := Java.Samples.annotatedClass ["q"] "A" "X"

def kept (r : Resolution) : ClassMap := r.map.retainWith [[], ["X"]]

def found (r : Resolution) (unit : CompilationUnit) : Collected :=
  Plain.collectedFrom config r (kept r) ((Plain.recordsIn config.extractOptions unit ["X"]).filter
    fun tr => (kept r).isOwnedBy tr.typeName (.ofText "/X.java"))

def isFound (r : Resolution) : Bool :=
  r.map.files == [file (.ofText "/A.java") declaring, file (.ofText "/X.java") importing] &&
    (kept r).files == [{ file (.ofText "/A.java") declaring with types := [] }, file (.ofText "/X.java") importing] &&
    (outline.unit? (Loader.knows { locations := r.map.locations })).any fun unit =>
      recorded (found r unit)

def isKept : Bool :=
  (outline.unit? fun _ => false).any fun unit => (file (.ofText "/X.java") importing).types.filter (fun t =>
    (unit.get? t).any (·.kind ≠ .interfaceType)) == ["X"]

/-- The type is moved between two runs. -/
def settings : List Setting := [⟨treeWith declaring, config⟩, ⟨treeWith moved, config⟩]

-- One evaluation for all, since checking the proofs of several ones side by side takes more memory.
set_option maxRecDepth 100000 in
theorem evaluated :
    ((Plain.resolution (treeWith declaring) (isExcluded none) config.includePaths).toOption.any
        isFound = true ∧ isKept = true) ∧
      (Text.lossyText importing = Java.Samples.importing ∧
        (file (.ofText "/X.java") importing).types = ["X"] ∧
          (Plain.headerOf importing).scope = ["", "q"]) ∧
      (mentionsAnnotations importing = true ∧
        ∀ c ∈ [declaring, moved], mentionsAnnotations c = false) ∧
      settings.map Setting.contents = [[declaring, importing], [moved, importing]] ∧
      ([declaring, moved, importing].map sha256Hex).Nodup ∧
      (settings.map (visibilitySalt ·.locations ["", "q"])).Nodup := by decide +kernel

theorem outline_importing :
    Outline.ofSource? (Text.lossyText importing).toList = some outline := by
  rw [evaluated.2.1.1]
  exact Java.Samples.outlines.2

theorem scope_of_outline {other : Outline}
    (h : Outline.ofSource? (Text.lossyText importing).toList = some other) :
    other.scope = ⟨none, [], ["q"]⟩ := by
  rw [outline_importing] at h
  cases h
  rfl

theorem prepare_config : Plain.prepare config (treeWith declaring) = .ok none := by
  have houtput : (treeWith declaring).isDirectory config.outputPath = false := rfl
  have hne : config.outputPath.bytes.isEmpty = false := rfl
  have hcheck : checkOutput (treeWith declaring) config.outputPath = .ok () := by
    simp only [checkOutput, houtput, hne, Bool.false_eq_true, if_false]
  simp only [Plain.prepare, hcheck]
  rfl

theorem keptLists_files : Plain.keptLists (treeWith declaring)
    [file (.ofText "/A.java") declaring, file (.ofText "/X.java") importing] = .ok [[], ["X"]] := by
  obtain ⟨⟨-, hclass⟩, -, ⟨hmentions, hplain⟩, -⟩ := evaluated
  obtain ⟨unit, hunit, htypes⟩ := (Option.any_eq_true _ _).1 hclass
  have hcontent : Plain.contentAt (treeWith declaring) (file (.ofText "/A.java") declaring).file.path =
      declaring := Plain.contentAt_of_read rfl
  have hcontent' : Plain.contentAt (treeWith declaring) (file (.ofText "/X.java") importing).file.path =
      importing := Plain.contentAt_of_read rfl
  rw [Plain.keptLists, Plain.keptLists, hcontent, hcontent',
    Plain.keptAmong_of_not_mentions (hplain _ List.mem_cons_self),
    Plain.keptAmong_of_outline hmentions outline_importing hunit, beq_iff_eq.1 htypes]
  rfl

theorem collected : ∃ c, (Plain.prepare config (treeWith declaring)).bind
    (Plain.collect config · (treeWith declaring)) = .ok c ∧ recorded c = true := by
  obtain ⟨r, hr, hfound⟩ := (Option.any_eq_true _ _).1 evaluated.1.1
  have hresolution : Plain.resolution (treeWith declaring) (isExcluded none)
      config.includePaths = .ok r := by
    generalize Plain.resolution (treeWith declaring) (isExcluded none) config.includePaths =
      result at hr
    cases result with
    | error f => cases hr
    | ok r' => exact congrArg Except.ok (Option.some.inj hr)
  simp only [isFound, Bool.and_eq_true, beq_iff_eq] at hfound
  obtain ⟨⟨hfiles, hkeptFiles⟩, hunit⟩ := hfound
  obtain ⟨unit, hunit, hrecorded⟩ := (Option.any_eq_true _ _).1 hunit
  have hkept : Plain.kept (treeWith declaring) r.map = .ok (kept r) := by
    rw [Plain.kept, hfiles, keptLists_files]
    rfl
  have hcontent : Plain.contentAt (treeWith declaring) (file (.ofText "/X.java") importing).file.path =
      importing := Plain.contentAt_of_read rfl
  have htypes := evaluated.2.1.2.1
  have hrecords : Plain.recordsOf config.extractOptions
      (Loader.knows { locations := r.map.locations }) (treeWith declaring) (kept r)
        (kept r).files = .ok ((Plain.recordsIn config.extractOptions unit ["X"]).filter
          fun tr => (kept r).isOwnedBy tr.typeName (.ofText "/X.java")) := by
    rw [hkeptFiles, Plain.recordsOf, List.isEmpty_nil, if_pos rfl, Plain.recordsOf,
      if_neg (by simp [htypes]), hcontent, Plain.fileRecords_of_outline outline_importing hunit, htypes]
    exact congrArg Except.ok (List.append_nil _)
  -- The kernel evaluates the whole collection unless the binding is taken away by an equation.
  have hbind : ∀ f : Option Pattern → Except Failure Collected,
      (Except.ok none : Except Failure (Option Pattern)).bind f = f none := fun _ => rfl
  refine ⟨found r unit, ?_, hrecorded⟩
  rw [prepare_config, hbind]
  exact Plain.collect_of_recordsOf hresolution hkept hrecords

theorem replaceable_output : Replaceable (treeWith declaring) config.outputPath where
  parent := by
    have hparent : outputParent? config.outputPath = some (.ofText "/") := rfl
    have hdirectory : (treeWith declaring).isDirectory (.ofText "/") = true := rfl
    intro parent hp
    rw [hparent] at hp
    cases hp
    exact hdirectory
  temporary := ⟨⟨[], Text.utf8Bytes "out.json.tmp", false⟩,
    FileTree.slot?_eq_some_iff.2 ⟨rfl, rfl, rfl, rfl, by decide, rfl⟩, rfl, nofun⟩
  target := ⟨⟨[], Text.utf8Bytes "out.json", false⟩,
    FileTree.slot?_eq_some_iff.2 ⟨rfl, rfl, rfl, rfl, by decide, rfl⟩, rfl, nofun⟩

theorem contents_settings : settings.map Setting.contents =
    [[declaring, importing], [moved, importing]] := evaluated.2.2.2.1

theorem digests : ([declaring, moved, importing].map sha256Hex).Nodup := evaluated.2.2.2.2.1

theorem scope_importing : (Plain.headerOf importing).scope = ["", "q"] := evaluated.2.1.2.2

theorem salts : (settings.map (visibilitySalt ·.locations ["", "q"])).Nodup :=
  evaluated.2.2.2.2.2

theorem config_settings : ∀ r ∈ settings, r.config = config := by simp [settings]

theorem mem_contents : ∀ r ∈ settings, ∀ c ∈ r.contents, c ∈ [declaring, moved, importing] := by
  intro r hr c hc
  have hmem : r.contents ∈ settings.map Setting.contents := List.mem_map_of_mem hr
  rw [contents_settings] at hmem
  simp only [List.mem_cons, List.not_mem_nil, or_false] at hmem ⊢
  rcases hmem with h | h
  · rw [h] at hc
    rcases List.mem_cons.1 hc with hc | hc
    · exact .inl hc
    · exact .inr (.inr (List.mem_singleton.1 hc))
  · rw [h] at hc
    rcases List.mem_cons.1 hc with hc | hc
    · exact .inr (.inl hc)
    · exact .inr (.inr (List.mem_singleton.1 hc))

theorem sources_declaring : (⟨treeWith declaring, config⟩ : Setting).sources =
    [.ofText "/A.java", .ofText "/X.java"] := by
  have hsources : Plain.sources (treeWith declaring) config.includePaths =
      .ok [.ofText "/A.java", .ofText "/X.java"] := rfl
  simp only [Setting.sources, prepare_config, hsources]
  rfl

theorem keysAgree : (⟨treeWith declaring, config⟩ : Setting).KeysAgree := by
  apply Setting.keysAgree_of_text
  simp [sources_declaring]

theorem of_keptFiles {r : Setting} (hr : r ∈ settings) {f : ResolvedFile} (hf : f ∈ r.keptFiles) :
    r.contentOf f = importing ∧ f.scope = ["", "q"] := by
  obtain ⟨map, hmap, hmem, htypes⟩ := Setting.of_mem_keptFiles hf
  obtain ⟨hread, hpath, -, hscope, hkept⟩ := Setting.of_mem_kept hmap hmem
  have hplain := evaluated.2.2.1.2
  have hcontent : r.contentOf f = importing := by
    have hcases := mem_contents r hr _ (Setting.mem_contents hpath hread)
    simp only [List.mem_cons, List.not_mem_nil, or_false] at hcases
    rcases hcases with h | h | h
    · rw [h, Plain.keptAmong_of_not_mentions (hplain _ (by simp))] at hkept
      exact absurd (Except.ok.inj hkept).symm htypes
    · rw [h, Plain.keptAmong_of_not_mentions (hplain _ (by simp))] at hkept
      exact absurd (Except.ok.inj hkept).symm htypes
    · exact h
  exact ⟨hcontent, by rw [hscope, hcontent, scope_importing]⟩

theorem distinguished : Distinguished settings where
  contents := by
    intro r hr c hc r' hr' c' hc' heq
    exact List.inj_on_of_nodup_map digests (mem_contents r hr c hc) (mem_contents r' hr' c' hc') heq
  options := by
    intro r hr r' hr' _
    rw [config_settings r hr, config_settings r' hr']
  visible := by
    intro r hr f hf r' hr' f' hf' heq
    rw [(of_keptFiles hr hf).2, (of_keptFiles hr' hf').2] at heq
    have hsame : r = r' := List.inj_on_of_nodup_map salts hr hr' heq
    rw [(of_keptFiles hr hf).2, (of_keptFiles hr' hf').2, hsame]
  ignored := by
    intro r hr
    rw [config_settings r hr]
    decide
  scopes := by
    intro r hr f hf outline houtline
    rw [(of_keptFiles hr hf).1] at houtline
    rw [(of_keptFiles hr hf).2, scope_of_outline houtline]
    decide
  reals := by
    intro r hr f hf records hrecords x hx
    have hcapture : r.config.captureArguments = false := by rw [config_settings r hr]; rfl
    rw [Setting.reals_of_not_captured hcapture hrecords] at hx
    cases hx

end Moving

/-- A run after any history leaves the same files and gives the same result, but for the statistics
of the store, as it does with an empty store. -/
theorem run_after_history (tree : FileTree) (steps : List Step) (config : Config)
    (h : Distinguished (settingsOf (.start tree) (steps ++ [.run config]))) :
    let s := (RunState.start tree).after steps
    let shared := run MemoryStore.backend config s
    let fresh := run MemoryStore.backend config (.start s.tree)
    shared.2.tree = fresh.2.tree ∧
      ∃ cache, fresh.1 = shared.1.map fun report => { report with cache } := by
  intro s shared fresh
  have hruns := settingsOf_append (.start tree) steps [.run config]
  have hvalid : Valid (settingsOf (.start tree) (steps ++ [.run config])) s.session.store := by
    apply valid_after h (valid_empty _)
    intro r hr
    rw [hruns]
    exact List.mem_append_left _ hr
  have hr : (⟨s.tree, config⟩ : Setting) ∈ settingsOf (.start tree) (steps ++ [.run config]) := by
    rw [hruns]
    exact List.mem_append_right _ List.mem_cons_self
  exact runs_agree h hr hvalid (valid_empty _)

/-- Between the runs, the annotation type of the class moves to another package. -/
theorem run_after_move :
    let steps := [Step.run Moving.config, .edit fun _ => Moving.treeWith Moving.moved]
    let s := (RunState.start (Moving.treeWith Moving.declaring)).after steps
    let shared := run MemoryStore.backend Moving.config s
    let fresh := run MemoryStore.backend Moving.config (.start s.tree)
    Distinguished Moving.settings ∧ shared.2.tree = fresh.2.tree ∧
      ∃ cache, fresh.1 = shared.1.map fun report => { report with cache } :=
  ⟨Moving.distinguished, run_after_history (Moving.treeWith Moving.declaring)
    [.run Moving.config, .edit fun _ => Moving.treeWith Moving.moved] Moving.config
    Moving.distinguished⟩

end AnnotationIndex
