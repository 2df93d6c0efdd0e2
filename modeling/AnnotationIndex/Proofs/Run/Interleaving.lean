import AnnotationIndex.Proofs.Run.Rereading
import AnnotationIndex.Proofs.Run.Targets

/-!
# Edits during a run

The fingerprint of a file is taken when the file is resolved, and later stages read the file again.
If they read the same, what is filed is right whatever else is edited in the meantime. If a file is
edited after it was resolved, what is found in its new content is filed under the fingerprint of the
old one, and a later run on the old content believes it.
-/

namespace AnnotationIndex

open Java

/-- If no source is edited between the stages of a run, the store stays valid, and a later run comes
to what it comes to with an empty store. -/
theorem run_after_edits {runs : List Setting} (h : Distinguished runs) {config config' : Config}
    {resolved filtered extracted later : FileTree} (hr : ⟨resolved, config⟩ ∈ runs)
    (hr' : ⟨later, config'⟩ ∈ runs) {exclusion : Option Pattern}
    (hprepare : Plain.prepare config resolved = .ok exclusion)
    (hsources : ∀ paths, Plain.sources resolved config.includePaths = .ok paths →
      ∀ path ∈ paths, filtered.read path = resolved.read path ∧
        extracted.read path = resolved.read path)
    {session : Session MemoryStore} (hs : Valid runs session.store) :
    let after := (collectAcross MemoryStore.backend standardChain config exclusion resolved filtered
      extracted session).2
    let shared := run MemoryStore.backend config' ⟨later, after⟩
    let fresh := run MemoryStore.backend config' (.start later)
    Valid runs after.store ∧ shared.2.tree = fresh.2.tree ∧
      ∃ cache, fresh.1 = shared.1.map fun report => { report with cache } := by
  intro after shared fresh
  have hsame : SameSources config.includePaths resolved resolved := ⟨rfl, fun _ _ _ _ => rfl⟩
  have hafter : after =
      (collect MemoryStore.backend standardChain config exclusion resolved session).2 :=
    congrArg Prod.snd (collectAcross_eq hsame hsources session)
  have hvalid : Valid runs after.store := by
    rw [hafter]
    exact (gives_collect (runMemo h.apart hr hprepare) session hs).2
  exact ⟨hvalid, runs_agree h hr' hvalid (valid_empty _)⟩

namespace Moving

/-- While the run goes on, a file is created that is none of its sources. -/
def during : FileTree := (treeWith declaring).place [Text.utf8Bytes "B.java"] (.file moved)

theorem sources_settings : Plain.sources (treeWith declaring) config.includePaths =
    .ok [.ofText "/A.java", .ofText "/X.java"] := rfl

theorem read_during : ∀ path ∈ [(.ofText "/A.java" : Path), .ofText "/X.java"],
    during.read path = (treeWith declaring).read path := by
  intro path hpath
  rcases List.mem_cons.1 hpath with rfl | hpath
  · decide +kernel
  · rw [List.mem_singleton.1 hpath]
    decide +kernel

end Moving

/-- A source is moved after the run, and another file is created while it goes on. -/
theorem run_after_creation :
    let after := (collectAcross MemoryStore.backend standardChain Moving.config none
      (Moving.treeWith Moving.declaring) Moving.during Moving.during { store := .empty }).2
    let later := Moving.treeWith Moving.moved
    Valid Moving.settings after.store ∧
      (run MemoryStore.backend Moving.config ⟨later, after⟩).2.tree =
        (run MemoryStore.backend Moving.config (.start later)).2.tree := by
  have hsources : ∀ paths, Plain.sources (Moving.treeWith Moving.declaring)
      Moving.config.includePaths = .ok paths → ∀ path ∈ paths,
        Moving.during.read path = (Moving.treeWith Moving.declaring).read path ∧
          Moving.during.read path = (Moving.treeWith Moving.declaring).read path := by
    intro paths hpaths path hpath
    rw [Moving.sources_settings] at hpaths
    cases hpaths
    exact ⟨Moving.read_during path hpath, Moving.read_during path hpath⟩
  have hstart : Valid Moving.settings ({ store := .empty } : Session MemoryStore).store :=
    valid_empty _
  have hr : ⟨Moving.treeWith Moving.declaring, Moving.config⟩ ∈ Moving.settings :=
    List.mem_cons_self
  have hr' : ⟨Moving.treeWith Moving.moved, Moving.config⟩ ∈ Moving.settings :=
    List.mem_cons_of_mem _ List.mem_cons_self
  obtain ⟨hvalid, htree, -⟩ :=
    run_after_edits Moving.distinguished hr hr' Moving.prepare_config hsources hstart
  exact ⟨hvalid, htree⟩

theorem Memoizes.first {α β : Type} {d : Decoder α} {document : α → Json} {bucket : Bucket}
    {file : SourceFile} {fingerprint : Fingerprint} {wrap : α → β} {r : β} {files : Prop}
    {x : StateM (Session MemoryStore) β}
    (h : Memoizes d document bucket file fingerprint wrap r files x) (hfiles : files)
    {s : Session MemoryStore} (hnone : s.store.get? bucket file.key = none) :
    ∃ v, r = wrap v ∧ (x s).1 = wrap v ∧ (x s).2.store =
      s.store.insert bucket file.key ⟨fingerprint, (document v).compact⟩ := by
  have habsent : ∀ v, ¬Gives.Filed s.store d bucket file fingerprint v := by
    rintro v ⟨payload, hget, -⟩
    rw [hnone] at hget
    cases hget
  obtain ⟨v, hv, hinsert⟩ := h.filed hfiles
  exact ⟨v, hv, (h.miss s habsent).trans hv, hinsert s habsent⟩

def collectedOf (config : Config) (r : Resolution) (kept : ClassMap) (records : List TypeRecords) :
    Collected :=
  let collection := Collection.empty.addAll records kept.owner?
  ⟨r, kept, if config.captureArguments then collection
    else { collection with knownTypes := namesInScope kept r.map.locations collection }⟩

theorem collectAcross_of_stages {σ : Type} {b : Backend σ} {chain : ChainOf σ} {config : Config}
    {exclusion : Option Pattern} {resolved filtered extracted : FileTree} {s s₂ s₃ : Session σ}
    {r : Resolution} {kept : ClassMap} {records : List TypeRecords}
    (hresolve : (resolve b resolved (isExcluded exclusion) config.includePaths s).1 = .ok r)
    (hkeep : keepTypes b (chain { locations := r.map.locations } filtered) r.map
      (resolve b resolved (isExcluded exclusion) config.includePaths s).2 = (.ok kept, s₂))
    (hextract : extractAll b config.extractOptions { locations := r.map.locations } extracted kept
      s₂ = (.ok records, s₃)) :
    collectAcross b chain config exclusion resolved filtered extracted s =
      (.ok (collectedOf config r kept records), s₃) := by
  rw [collectAcross, Stage.bind_ok hresolve]
  dsimp only
  rw [Stage.bind_ok (congrArg Prod.fst hkeep), hkeep]
  dsimp only
  rw [Stage.bind_ok (congrArg Prod.fst hextract), hextract]
  rfl

theorem keepTypes_of_single {chain : FilterChain MemoryStore} {map : ClassMap} {f : ResolvedFile}
    (hfiles : map.files = [f]) {s : Session MemoryStore} {kept : List String}
    (h : (keptTypes MemoryStore.backend chain f s).1 = .ok kept) :
    keepTypes MemoryStore.backend chain map s =
      (.ok (map.retainWith [kept]), (keptTypes MemoryStore.backend chain f s).2) := by
  have hlists : keptLists MemoryStore.backend chain [f] s =
      (.ok [kept], (keptTypes MemoryStore.backend chain f s).2) := by
    rw [keptLists, Stage.bind_ok h]
    rfl
  rw [keepTypes, hfiles, Stage.bind_ok (congrArg Prod.fst hlists), hlists]
  rfl

theorem extractAll_of_single {options : ExtractOptions} {loader : Loader} {tree : FileTree}
    {map : ClassMap} {f : ResolvedFile} (hfiles : map.files = [f]) (htypes : f.types ≠ [])
    {s : Session MemoryStore} {records : List TypeRecords}
    (h : (fileRecords MemoryStore.backend options loader tree f s).1 = .ok records) :
    extractAll MemoryStore.backend options loader tree map s =
      (.ok (records.filter fun r => map.isOwnedBy r.typeName f.file.path),
        (fileRecords MemoryStore.backend options loader tree f s).2) := by
  have hne : ¬f.types.isEmpty = true := by simpa using htypes
  rw [extractAll, hfiles, recordsOf, if_neg hne, Stage.bind_ok h]
  exact congrArg (fun records => (Except.ok records, _)) (List.append_nil _)

namespace Overtaken

def content : List UInt8 := Text.utf8Bytes "class A {}"

def tree : FileTree := ⟨.ofList [(Text.utf8Bytes "/A.java", .file content)], []⟩

def config : Config := Repeated.config 1

def file : ResolvedFile := Plain.fileWith Repeated.path content

def resolving : Except Failure Resolution × Session MemoryStore :=
  resolve MemoryStore.backend tree (isExcluded none) config.includePaths { store := .empty }

def resolution : Resolution := resolving.1.toOption.getD .empty

def loader : Loader := { locations := resolution.map.locations }

def unit : CompilationUnit := (Repeated.outline.unit? loader.knows).getD ⟨none, []⟩

/-- What the run leaves in the store: what the annotated class is found to be, filed under the
fingerprint of the class without annotation. -/
def left : MemoryStore :=
  let records := Plain.recordsIn config.extractOptions unit ["A"]
  (resolving.2.store.insert .filter file.file.key
      ⟨.ofBytes content, (Json.array [.string "A"]).compact⟩).insert .extract file.file.key
    ⟨recordsFingerprint config.extractOptions loader.locations file,
      (Json.array (records.map TypeRecords.toJson)).compact⟩

set_option maxRecDepth 100000 in
theorem evaluated : resolving.1.toOption.isSome = true ∧ resolution.map.files = [file] ∧
    (resolution.map.retainWith [["A"]]).files = [file] ∧ file.types = ["A"] ∧
    (Repeated.outline.unit? loader.knows).isSome = true ∧ mentionsAnnotations content = false := by
  decide +kernel

theorem content_plain : mentionsAnnotations content = false := evaluated.2.2.2.2.2

structure Holds (kept records : Option StoredEntry) (store : MemoryStore) : Prop where
  header : ∀ v, Gives.Filed store Header.decoder .resolve file.file (.ofBytes content) v →
    v = Plain.headerOf content
  kept : store.get? .filter file.file.key = kept
  records : store.get? .extract file.file.key = records

theorem gives_resolve_tree (kept records : Option StoredEntry) :
    Gives (Holds kept records)
      (resolve MemoryStore.backend tree (isExcluded none) config.includePaths)
      (Plain.resolution tree (isExcluded none) config.includePaths) := by
  refine gives_resolve fun paths hpaths path hpath content' _ hread => ?_
  have hsources : Plain.sources tree config.includePaths = .ok [Repeated.path] := rfl
  have hcontent : tree.read Repeated.path = .ok content := rfl
  rw [hsources] at hpaths
  cases hpaths
  cases List.mem_singleton.1 hpath
  rw [hcontent] at hread
  cases hread
  constructor
  · exact fun store v h hfiled => congrArg Except.ok (h.header v hfiled).symm
  · intro store v h hv
    cases hv
    refine ⟨?_, ?_, ?_⟩
    · rintro v ⟨payload, hget, hrun⟩
      rw [Tables.get?_insert, if_pos ⟨rfl, rfl⟩] at hget
      cases hget
      rw [run_header] at hrun
      exact (Option.some.inj hrun).symm
    · rw [Tables.get?_insert, if_neg (by simp)]
      exact h.kept
    · rw [Tables.get?_insert, if_neg (by simp)]
      exact h.records

theorem holds_empty : Holds none none .empty := by
  refine ⟨?_, rfl, rfl⟩
  rintro v ⟨payload, hget, -⟩
  cases hget

theorem resolving_spec : resolving.1 = .ok resolution ∧ Holds none none resolving.2.store := by
  have hholds := (gives_resolve_tree none none { store := .empty } holds_empty).2
  rw [← resolving] at hholds
  refine ⟨?_, hholds⟩
  have hresolved := evaluated.1
  unfold resolution
  cases hresult : resolving.1 with
  | error f => simp [hresult, Except.toOption] at hresolved
  | ok r => rfl

/-- The types of the class are looked for in its new content, and are filed with the old one. -/
theorem keepTypes_resolving : ∃ s, keepTypes MemoryStore.backend
    (standardChain loader Repeated.tree) resolution.map resolving.2 =
      (.ok (resolution.map.retainWith [["A"]]), s) ∧
    s.store = resolving.2.store.insert .filter file.file.key
      ⟨.ofBytes content, (Json.array [.string "A"]).compact⟩ := by
  obtain ⟨-, hfiles, -, htypes, -⟩ := evaluated
  have hkept : Plain.keptAmong file.file.path (Plain.contentAt Repeated.tree file.file.path)
      file.types = .ok ["A"] := by
    rw [htypes]
    have hpath : file.file.path = Repeated.path := rfl
    rw [hpath, Repeated.contentAt_path]
    exact Repeated.keptAmong_content
  have hread : Readable Repeated.tree file := ⟨Repeated.content, rfl⟩
  obtain ⟨kept, hkept', hresult, hstore⟩ :=
    (memoizes_keptTypes loader hread).first ⟨_, hkept⟩ resolving_spec.2.kept
  rw [hkept] at hkept'
  cases hkept'
  exact ⟨_, keepTypes_of_single hfiles hresult, hstore⟩

theorem store_left : (collectAcross MemoryStore.backend standardChain config none tree
    Repeated.tree Repeated.tree { store := .empty }).2.store = left := by
  obtain ⟨-, -, hkeptFiles, htypes, hunit, -⟩ := evaluated
  obtain ⟨hresolution, hholds⟩ := resolving_spec
  obtain ⟨s, hkeep, hstore⟩ := keepTypes_resolving
  obtain ⟨unit', hunit'⟩ := Option.isSome_iff_exists.1 hunit
  have hunits : unit = unit' := by rw [unit, hunit', Option.getD_some]
  have hread : Readable Repeated.tree file := ⟨Repeated.content, rfl⟩
  have hpath : file.file.path = Repeated.path := rfl
  have hmemoizes := memoizes_fileRecords config.extractOptions loader hread
  rw [hpath, Repeated.contentAt_path, htypes] at hmemoizes
  rw [Plain.fileRecords_of_outline Repeated.outline_content hunit'] at hmemoizes
  have hempty : s.store.get? .extract file.file.key = none := by
    rw [hstore, Tables.get?_insert, if_neg (by simp)]
    exact hholds.records
  obtain ⟨records, hrecords, hresult, hinsert⟩ :=
    hmemoizes.first ⟨Repeated.outline, unit', Repeated.outline_content, hunit'⟩ hempty
  cases hrecords
  have hextract := extractAll_of_single hkeptFiles (by simp [htypes]) hresult
  rw [collectAcross_of_stages hresolution hkeep hextract, hinsert, hstore, left, hunits]

theorem holds_left : Holds (some ⟨.ofBytes content, (Json.array [.string "A"]).compact⟩)
    (some ⟨recordsFingerprint config.extractOptions loader.locations file,
      (recordsDocument (Plain.recordsIn config.extractOptions unit ["A"])).compact⟩) left := by
  have hresolving := resolving_spec.2
  refine ⟨?_, ?_, ?_⟩
  · rintro v ⟨payload, hget, hrun⟩
    rw [left, Tables.get?_insert, if_neg (by simp), Tables.get?_insert, if_neg (by simp)] at hget
    exact hresolving.header v ⟨payload, hget, hrun⟩
  · rw [left, Tables.get?_insert, if_neg (by simp), Tables.get?_insert, if_pos ⟨rfl, rfl⟩]
  · rw [left, Tables.get?_insert, if_pos ⟨rfl, rfl⟩]
    rfl

/-- What a run collects that believes the store. -/
def believed : Collected :=
  collectedOf config resolution (resolution.map.retainWith [["A"]])
    ((Plain.recordsIn config.extractOptions unit ["A"]).filter fun r =>
      (resolution.map.retainWith [["A"]]).isOwnedBy r.typeName file.file.path)

theorem collecting_left : ∃ s, collecting config tree { store := left } = (.ok believed, s) := by
  obtain ⟨-, hfiles, hkeptFiles, htypes, -⟩ := evaluated
  have hprepare : prepare config tree ({ store := left } : Session MemoryStore) =
      (.ok none, { store := left }) := rfl
  have hread : Readable tree file := ⟨content, rfl⟩
  obtain ⟨hresult, hholds⟩ := gives_resolve_tree _ _ { store := left } holds_left
  rw [← (gives_resolve_tree none none { store := .empty } holds_empty).1, ← resolving,
    resolving_spec.1] at hresult
  have hkept := (memoizes_keptTypes loader hread).hit _ ["A"]
    ⟨_, hholds.kept, Decoder.run_texts ["A"]⟩
  have hkeep := keepTypes_of_single hfiles hkept.result
  have hargs : config.extractOptions.captureArguments = false := rfl
  have hbare := Plain.bare_recordsIn hargs unit ["A"]
  have hback : (Decoder.list TypeRecords.decoder).run
      (recordsDocument (Plain.recordsIn config.extractOptions unit ["A"])).compact =
        some (Plain.recordsIn config.extractOptions unit ["A"]) := by
    rw [run_records, if_pos (Nat.le_trans (depth_recordsDocument_le hbare) (by decide))]
    rw [realsOfRecords, List.flatMap_eq_nil_iff.2 fun tr htr => (hbare tr htr).reals_eq_nil]
    exact fun x hx => absurd hx List.not_mem_nil
  have hrecords := (memoizes_fileRecords config.extractOptions loader hread).hit
    (keptTypes MemoryStore.backend (standardChain loader tree) file _).2 _
    ⟨_, (congrArg (·.get? .extract file.file.key) hkept.store).trans hholds.records, hback⟩
  have hextract := extractAll_of_single hkeptFiles (by simp [htypes]) hrecords.result
  rw [collecting, Stage.bind_ok (congrArg Prod.fst hprepare), hprepare, ← collectAcross_same,
    collectAcross_of_stages hresult hkeep hextract]
  exact ⟨_, rfl⟩

theorem read_output : (run MemoryStore.backend config ⟨tree, { store := left }⟩).2.tree.read
    Repeated.output ≠ (run MemoryStore.backend config (.start tree)).2.tree.read
      Repeated.output := by
  obtain ⟨s, hs⟩ := collecting_left
  have hwritten : (publish config believed.collection tree).2.read Repeated.output ≠
      (run MemoryStore.backend config (.start tree)).2.tree.read Repeated.output := by
    decide +kernel
  rw [run_of_ok (s := ⟨tree, { store := left }⟩) hs]
  cases hwrite : publish config believed.collection tree with
  | mk result tree' =>
    rw [hwrite] at hwritten
    cases result <;> exact hwritten

end Overtaken

/-- The class of a file is annotated after the file was resolved, and the annotation is taken back
when the run is over. The run files that the type is kept under the fingerprint of a content of which
no type is kept, and a later run writes another artifact than it writes with an empty store. -/
theorem entry_overtaken :
    let store := (collectAcross MemoryStore.backend standardChain Overtaken.config none
      Overtaken.tree Repeated.tree Repeated.tree { store := .empty }).2.store
    (∃ payload, store.get? .filter Repeated.path.text =
        some ⟨.ofBytes Overtaken.content, payload⟩ ∧
      (Decoder.list Decoder.text).run payload = some ["A"] ∧
      Plain.keptAmong Repeated.path Overtaken.content ["A"] = .ok []) ∧
    (run MemoryStore.backend Overtaken.config ⟨Overtaken.tree, { store }⟩).2.tree.read
        Repeated.output ≠
      (run MemoryStore.backend Overtaken.config (.start Overtaken.tree)).2.tree.read
        Repeated.output := by
  rw [Overtaken.store_left]
  refine ⟨⟨(Json.array [.string "A"]).compact, ?_, ?_, ?_⟩, Overtaken.read_output⟩
  · have hpath : Overtaken.file.file.key = Repeated.path.text := rfl
    rw [Overtaken.left, Tables.get?_insert, if_neg (by simp), Tables.get?_insert,
      if_pos ⟨rfl, hpath.symm⟩]
  · exact Decoder.run_texts ["A"]
  · exact Plain.keptAmong_of_not_mentions Overtaken.content_plain Repeated.path ["A"]

end AnnotationIndex
