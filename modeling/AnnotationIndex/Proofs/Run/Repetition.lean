import AnnotationIndex.Proofs.Run.Interleaving

/-!
# A run that is repeated

A run that succeeds leaves in the store everything that it asked for. If it is repeated on the same
sources, it finds all of that, adds nothing and writes the same artifact.
-/

namespace AnnotationIndex

open Java

def Described (runs : List Setting) (store : MemoryStore) : Prop :=
  ∀ bucket key e, bucket ≠ .extract → store.get? bucket key = some e → Filed runs bucket key e

theorem described_empty (runs : List Setting) : Described runs .empty := by
  intro bucket key e _ h
  cases bucket <;> cases h

theorem Described.insert {runs : List Setting} {store : MemoryStore} (h : Described runs store)
    {bucket : Bucket} {key : String} {e : StoredEntry}
    (he : bucket ≠ .extract → Filed runs bucket key e) :
    Described runs (store.insert bucket key e) := by
  intro other key' e' hother hget
  rw [Tables.get?_insert] at hget
  split at hget
  · rename_i hsame
    obtain ⟨rfl, rfl⟩ := hsame
    cases hget
    exact he hother
  · exact h other key' e' hother hget

theorem describes_described (runs : List Setting) : Describes runs (Described runs) :=
  ⟨fun _ h bucket key e hbucket hget => h bucket key e hbucket hget,
    fun _ h r hr _ path _ he => h.insert fun _ => ⟨r, hr, path, rfl, he⟩⟩

section Described

variable {runs : List Setting} {tree : FileTree} {options : ExtractOptions} {loader : Loader}

theorem described_fileRecords {f : ResolvedFile} (hread : Readable tree f)
    {s : Session MemoryStore} (hs : Described runs s.store) :
    Described runs (fileRecords MemoryStore.backend options loader tree f s).2.store := by
  have h := memoizes_fileRecords options loader hread
  by_cases hfiled : ∃ v, Gives.Filed s.store (Decoder.list TypeRecords.decoder) .extract f.file
      (recordsFingerprint options loader.locations f) v
  · obtain ⟨v, hv⟩ := hfiled
    rw [(h.hit s v hv).store]
    exact hs
  · have habsent := not_exists.1 hfiled
    by_cases hfiles : ∃ outline unit, Outline.ofSource?
        (Text.lossyText (Plain.contentAt tree f.file.path)).toList = some outline ∧
          outline.unit? loader.knows = some unit
    · obtain ⟨v, -, hinsert⟩ := h.filed hfiles
      rw [hinsert s habsent]
      exact hs.insert fun hbucket => absurd rfl hbucket
    · rw [h.unfiled hfiles s habsent]
      exact hs

theorem described_recordsOf {map : ClassMap} {files : List ResolvedFile}
    (hread : ∀ f ∈ files, Readable tree f) {s : Session MemoryStore}
    (hs : Described runs s.store) :
    Described runs (recordsOf MemoryStore.backend options loader tree map files s).2.store := by
  induction files generalizing s with
  | nil => exact hs
  | cons f files ih =>
    obtain ⟨hf, hfiles⟩ := List.forall_mem_cons.1 hread
    rw [recordsOf]
    split
    · exact ih hfiles hs
    · refine Stage.of_bind (P := (Described runs ·.store)) (described_fileRecords hf hs) ?_
      intro records hresult
      refine Stage.of_bind (P := (Described runs ·.store)) (ih hfiles ?_) fun _ _ => ?_
      · exact described_fileRecords hf hs
      · exact ih hfiles (described_fileRecords hf hs)

theorem described_run (h : ContentsApart runs) {r : Setting} (hr : r ∈ runs)
    (s : Session MemoryStore) (hs : Described runs s.store) :
    Described runs (run MemoryStore.backend r.config ⟨r.tree, s⟩).2.session.store := by
  have hd := describes_described runs
  rw [session_of_run]
  obtain ⟨hprepare, hprepared⟩ := gives_prepare r.config r.tree s hs
  refine Stage.of_bind (P := (Described runs ·.store)) hprepared fun exclusion hok => ?_
  rw [hprepare] at hok
  obtain ⟨hresolve, hresolved⟩ := gives_resolve (headersMemo hd h hr hok) _ hprepared
  refine Stage.of_bind (P := (Described runs ·.store)) hresolved fun resolution hresolution => ?_
  rw [hresolve] at hresolution
  obtain ⟨hkeep, hkept⟩ := gives_keepTypes { locations := resolution.map.locations }
    (keptMemos hd h hr hok hresolution) _ hresolved
  refine Stage.of_bind (P := (Described runs ·.store)) hkept fun map hmap => ?_
  rw [hkeep] at hmap
  have hread : ∀ f ∈ map.files, Readable r.tree f := by
    intro f hf
    obtain ⟨g, hg, heq, -⟩ := Plain.mem_kept hmap hf
    obtain ⟨hread, -⟩ := keptMemos hd h hr hok hresolution g hg
    rw [heq]
    exact hread
  refine Stage.of_bind (P := (Described runs ·.store)) ?_ fun _ _ => ?_
  · exact described_recordsOf hread hkept
  · exact described_recordsOf hread hkept

theorem described_after (h : ContentsApart runs) {s : RunState MemoryStore}
    (hs : Described runs s.session.store) (steps : List Step)
    (hsub : ∀ r ∈ settingsOf s steps, r ∈ runs) :
    Described runs (s.after steps).session.store :=
  inv_after (fun _ hr => described_run h hr) hs steps hsub

end Described

/-- What a run asks the store for, when it looks at the given paths and keeps the types of a map. -/
def asksOf (tree : FileTree) (paths : List Path) (options : ExtractOptions) (locations : Locations)
    (map : ClassMap) : Asks
  | .extract, key, fingerprint => ∃ f ∈ map.files, f.file.key = key ∧
      fingerprint = recordsFingerprint options locations f
  | _, key, fingerprint => ∃ path ∈ paths, path.text = key ∧
      ∃ content, tree.read path = .ok content ∧ fingerprint = .ofBytes content

structure KeptFrom (tree : FileTree) (paths : List Path) (f : ResolvedFile) : Prop where
  mem : f.file.path ∈ paths
  read : tree.read f.file.path = .ok (Plain.contentAt tree f.file.path)
  fingerprint : f.file.fingerprint = .ofBytes (Plain.contentAt tree f.file.path)
  kept : ∃ kept, Plain.keptAmong f.file.path (Plain.contentAt tree f.file.path) f.types = .ok kept

structure ExtractsFrom (tree : FileTree) (options : ExtractOptions) (loader : Loader)
    (f : ResolvedFile) : Prop where
  read : Readable tree f
  parsed : ∃ outline unit, Outline.ofSource?
    (Text.lossyText (Plain.contentAt tree f.file.path)).toList = some outline ∧
      outline.unit? loader.knows = some unit
  back : ∀ records, Plain.fileRecords options loader.knows f.file.path
    (Plain.contentAt tree f.file.path) f.types = .ok records →
      (Decoder.list TypeRecords.decoder).run (recordsDocument records).compact = some records

section Replays

variable {tree : FileTree} {paths : List Path} {options : ExtractOptions} {locations : Locations}
  {map : ClassMap} {s : Session MemoryStore}

theorem Plain.KeysAgree.content_eq (h : Plain.KeysAgree tree paths) {path path' : Path}
    (hpath : path ∈ paths) (hpath' : path' ∈ paths) (hkey : path'.text = path.text)
    {content content' : List UInt8} (hread : tree.read path = .ok content)
    (hread' : tree.read path' = .ok content') : content' = content := by
  rw [h path' hpath' path hpath hkey, hread] at hread'
  exact (Except.ok.inj hread').symm

variable (hagree : Plain.KeysAgree tree paths)

include hagree

theorem replays_resolveNext {excluded : Path → Bool} {path : Path}
    (hpath : excluded path = false → path ∈ paths) (r : Resolution) :
    Replays (asksOf tree paths options locations map)
      (resolveNext MemoryStore.backend tree excluded r path) s := by
  unfold resolveNext
  split
  · exact .of_quiet _ fun _ => (Quiet.report _).bind (Quiet.pure _)
  · rename_i hexcluded
    have hmem := hpath (by simpa using hexcluded)
    refine .bind ?_ ?_
    · unfold resolveFile
      cases hread : tree.read path with
      | error fault => exact .of_quiet _ fun _ => Quiet.pure _
      | ok content =>
        refine .bind ?_ (.of_quiet _ fun _ => Quiet.pure _)
        refine .of_memoizes (memoizes_resolveHeader ⟨path, .ofBytes content⟩ content)
          (fun _ => rfl) ⟨path, hmem, rfl, content, hread, rfl⟩ ?_ trivial ?_
        · rintro other ⟨path', hmem', hkey, content', hread', rfl⟩
          exact congrArg Fingerprint.ofBytes (hagree.content_eq hmem hmem' hkey hread hread')
        · rintro header rfl
          exact run_header _
    · split
      · exact .of_quiet _ fun _ => (Quiet.report _).bind (Quiet.pure _)
      · split
        · exact .of_quiet _ fun _ => Quiet.pure _
        · exact .of_quiet _ fun _ => (Quiet.report _).bind (Quiet.pure _)

theorem replays_resolveAll {excluded : Path → Bool} (candidates : List Path) (r : Resolution)
    (h : ∀ path ∈ candidates, excluded path = false → path ∈ paths) :
    Replays (asksOf tree paths options locations map)
      (resolveAll MemoryStore.backend tree excluded r candidates) s := by
  induction candidates generalizing r s with
  | nil => exact .of_quiet _ fun _ => Quiet.pure _
  | cons path candidates ih =>
    obtain ⟨hpath, hcandidates⟩ := List.forall_mem_cons.1 h
    exact (replays_resolveNext hagree hpath r).bind (ih _ hcandidates)

theorem replays_resolve {excluded : Path → Bool} {roots : List Path}
    (h : ∀ candidates, Plain.sources tree roots = .ok candidates →
      ∀ path ∈ candidates, excluded path = false → path ∈ paths) :
    Replays (asksOf tree paths options locations map)
      (resolve MemoryStore.backend tree excluded roots) s := by
  rw [resolve_eq]
  refine .andThen (.of_quiet _ fun _ => ⟨rfl, rfl, rfl, rfl⟩) fun candidates hcandidates => ?_
  exact (replays_resolveAll hagree candidates .empty (h candidates hcandidates)).lift

theorem replays_keptTypes (loader : Loader) {f : ResolvedFile} (h : KeptFrom tree paths f) :
    Replays (asksOf tree paths options locations map)
      (keptTypes MemoryStore.backend (standardChain loader tree) f) s := by
  refine .of_memoizes (memoizes_keptTypes loader ⟨_, h.read⟩) (fun _ => rfl)
    ⟨_, h.mem, rfl, _, h.read, h.fingerprint⟩ ?_ h.kept fun kept _ => Decoder.run_texts kept
  rintro other ⟨path, hmem, hkey, content, hread, rfl⟩
  rw [h.fingerprint]
  exact congrArg Fingerprint.ofBytes (hagree.content_eq h.mem hmem hkey h.read hread)

theorem replays_keepTypes (loader : Loader) {resolved : ClassMap}
    (h : ∀ f ∈ resolved.files, KeptFrom tree paths f) :
    Replays (asksOf tree paths options locations map)
      (keepTypes MemoryStore.backend (standardChain loader tree) resolved) s := by
  have hlists : ∀ (files : List ResolvedFile) (s : Session MemoryStore),
      (∀ f ∈ files, KeptFrom tree paths f) → Replays (asksOf tree paths options locations map)
        (keptLists MemoryStore.backend (standardChain loader tree) files) s := by
    intro files
    induction files with
    | nil => exact fun s _ => .of_quiet _ fun _ => Quiet.pure (Except.ok [])
    | cons f files ih =>
      intro s hfiles
      obtain ⟨hf, hfiles⟩ := List.forall_mem_cons.1 hfiles
      refine .andThen (replays_keptTypes hagree loader hf) fun kept _ => ?_
      refine .andThen (ih _ hfiles) fun more _ => ?_
      exact .of_quiet _ fun _ => Quiet.pure (Except.ok (kept :: more))
  refine .andThen (hlists resolved.files s h) fun kept _ => ?_
  exact .of_quiet _ fun _ => Quiet.pure (Except.ok (resolved.retainWith kept))

omit hagree in
theorem replays_recordsOf (paths : List Path) {loader : Loader}
    (hsame : ∀ f ∈ map.files, ∀ g ∈ map.files, g.file.key = f.file.key →
      recordsFingerprint options loader.locations g = recordsFingerprint options loader.locations f)
    {files : List ResolvedFile} (hsub : ∀ f ∈ files, f ∈ map.files)
    (h : ∀ f ∈ files, f.types ≠ [] → ExtractsFrom tree options loader f) :
    Replays (asksOf tree paths options loader.locations map)
      (recordsOf MemoryStore.backend options loader tree map files) s := by
  induction files generalizing s with
  | nil => exact .of_quiet _ fun _ => Quiet.pure (Except.ok [])
  | cons f files ih =>
    obtain ⟨hmem, hsub⟩ := List.forall_mem_cons.1 hsub
    obtain ⟨hf, hfiles⟩ := List.forall_mem_cons.1 h
    rw [recordsOf]
    split
    · exact ih hsub hfiles
    · rename_i hne
      have hextracts := hf (by simpa using hne)
      refine .andThen ?_ fun records _ => .andThen (ih hsub hfiles) fun more _ => ?_
      · refine .of_memoizes (memoizes_fileRecords options loader hextracts.read) (fun _ => rfl)
          ⟨f, hmem, rfl, rfl⟩ ?_ hextracts.parsed hextracts.back
        rintro other ⟨g, hg, hkey, rfl⟩
        exact hsame f hmem g hg hkey
      · exact .of_quiet _ fun _ => Quiet.pure (Except.ok _)

end Replays

/-- The records that a run files can be read back: they are not nested too deep, and the numbers in
them are read back. -/
def Setting.RecordsReadBack (r : Setting) : Prop :=
  ∀ f ∈ r.keptFiles, ∀ records, r.records f = .ok records →
    (recordsDocument records).depth ≤ Decoder.depthLimit ∧
      ∀ x ∈ realsOfRecords records, Json.ReadsBack x

/-- Without captured arguments, records are nested no deeper than their form. -/
theorem Setting.recordsReadBack_of_not_captured {r : Setting}
    (h : r.config.captureArguments = false) : r.RecordsReadBack := by
  intro f hf records hrecords
  have hdepth := depth_recordsDocument_le (bare_of_not_captured h hrecords)
  exact ⟨Nat.le_trans hdepth (by decide), realsReadBack_of_not_captured h f hf records hrecords⟩

theorem Plain.keptAmong_of_keptLists {tree : FileTree} {files : List ResolvedFile}
    {lists : List (List String)} (h : keptLists tree files = .ok lists) : ∀ f ∈ files,
      ∃ kept, keptAmong f.file.path (contentAt tree f.file.path) f.types = .ok kept := by
  induction files generalizing lists with
  | nil => simp
  | cons f files ih =>
    obtain ⟨kept, hkept, h⟩ := bind_eq_ok h
    obtain ⟨more, hmore, -⟩ := bind_eq_ok h
    exact List.forall_mem_cons.2 ⟨⟨kept, hkept⟩, ih hmore⟩

section Collecting

variable {r : Setting} {resolution : Resolution} {map : ClassMap}

theorem keptFrom_of_kept (hresolution : r.resolution = .ok resolution)
    (hkept : Plain.kept r.tree resolution.map = .ok map) :
    ∀ f ∈ resolution.map.files, KeptFrom r.tree r.sources f := by
  intro f hf
  obtain ⟨hread, hmem, heq⟩ := Setting.foundIn_resolution hresolution f hf
  refine ⟨hmem, hread, by rw [heq]; rfl, ?_⟩
  cases hlists : Plain.keptLists r.tree resolution.map.files with
  | error e => simp [Plain.kept, hlists, Except.map] at hkept
  | ok lists => exact Plain.keptAmong_of_keptLists hlists f hf

theorem recordsFingerprint_of_key (hagree : r.KeysAgree) (hkept : r.kept = .ok map)
    (options : ExtractOptions) (locations : Locations) :
    ∀ f ∈ map.files, ∀ g ∈ map.files, g.file.key = f.file.key →
      recordsFingerprint options locations g = recordsFingerprint options locations f := by
  intro f hf g hg hkey
  obtain ⟨hread, hpath, hfingerprint, hscope, -⟩ := Setting.of_mem_kept hkept hf
  obtain ⟨hread', hpath', hfingerprint', hscope', -⟩ := Setting.of_mem_kept hkept hg
  have hcontent := hagree.content_eq hpath hpath' hkey hread hread'
  rw [recordsFingerprint, recordsFingerprint, hfingerprint, hscope, hfingerprint', hscope',
    hcontent]

theorem extractsFrom_of_kept (hback : r.RecordsReadBack) (hresolution : r.resolution = .ok resolution)
    (hkept : r.kept = .ok map) : ∀ f ∈ map.files, f.types ≠ [] →
      ExtractsFrom r.tree r.config.extractOptions { locations := resolution.map.locations } f := by
  intro f hf hne
  obtain ⟨hread, -, -, -, hamong⟩ := Setting.of_mem_kept hkept hf
  obtain ⟨t, ht⟩ := List.exists_mem_of_ne_nil _ hne
  refine ⟨⟨_, hread⟩, Plain.outline_of_accepts (Plain.accepts_of_kept hamong ht).2 _, ?_⟩
  intro records hrecords
  rw [← Setting.locations_of_resolution hresolution] at hrecords
  obtain ⟨hdepth, hreals⟩ := hback f (Setting.mem_keptFiles hkept hf hne) records hrecords
  rw [run_records hreals, if_pos hdepth]

end Collecting

theorem quiet_prepare (config : Config) (tree : FileTree) (s : Session MemoryStore) :
    Quiet (prepare config tree) s (Plain.prepare config tree) := by
  unfold prepare Plain.prepare
  cases config.exclusion with
  | error f => exact ⟨rfl, rfl, rfl, rfl⟩
  | ok exclusion =>
    cases checkOutput tree config.outputPath with
    | error f => exact ⟨rfl, rfl, rfl, rfl⟩
    | ok _ => cases config.includePaths.isEmpty <;> exact ⟨rfl, rfl, rfl, rfl⟩

/-- What is collected with success is collected again without a miss and without a write. -/
theorem replays_collecting {runs : List Setting} (h : ContentsApart runs) {r : Setting}
    (hr : r ∈ runs) (hagree : r.KeysAgree) (hback : r.RecordsReadBack) {s : Session MemoryStore}
    (hs : Described runs s.store) {c : Collected}
    (hcollected : (collecting r.config r.tree s).1 = .ok c) :
    ∃ asks, Replays asks (collecting r.config r.tree) s := by
  have hd := describes_described runs
  obtain ⟨exclusion, hprepare, hcollect⟩ := Stage.of_bind_ok hcollected
  obtain ⟨hprepare', hprepared⟩ := gives_prepare r.config r.tree s hs
  rw [hprepare] at hprepare'
  obtain ⟨resolution, hresolve, hrest⟩ := Stage.of_bind_ok hcollect
  obtain ⟨hresolve', hresolved⟩ :=
    gives_resolve (headersMemo hd h hr hprepare'.symm) _ hprepared
  rw [hresolve] at hresolve'
  obtain ⟨map, hkeep, -⟩ := Stage.of_bind_ok hrest
  obtain ⟨hkeep', -⟩ := gives_keepTypes { locations := resolution.map.locations }
    (keptMemos hd h hr hprepare'.symm hresolve'.symm) _ hresolved
  rw [hkeep] at hkeep'
  have hresolution : r.resolution = .ok resolution :=
    (Setting.resolution_of_prepare hprepare'.symm).trans hresolve'.symm
  have hkept := Setting.kept_of_resolution hresolution hkeep'.symm
  have hsources := Setting.mem_sources_of_prepare hprepare'.symm
  refine ⟨asksOf r.tree r.sources r.config.extractOptions resolution.map.locations map, ?_⟩
  refine .andThen (.of_quiet _ (quiet_prepare r.config r.tree)) fun exclusion' hexclusion => ?_
  obtain rfl : exclusion = exclusion' := Except.ok.inj (hprepare.symm.trans hexclusion)
  refine .andThen (replays_resolve hagree hsources) fun resolution' hresolution' => ?_
  obtain rfl : resolution = resolution' := Except.ok.inj (hresolve.symm.trans hresolution')
  refine .andThen (replays_keepTypes hagree _ (keptFrom_of_kept hresolution hkeep'.symm))
    fun map' hmap' => ?_
  obtain rfl : map = map' := Except.ok.inj (hkeep.symm.trans hmap')
  have hextract (session : Session MemoryStore) := replays_recordsOf (s := session) r.sources
    (recordsFingerprint_of_key hagree hkept _ _) (fun _ hf => hf)
    (extractsFrom_of_kept hback hresolution hkept)
  refine .andThen (hextract _) fun records _ => ?_
  exact .of_quiet _ fun _ => ⟨rfl, rfl, rfl, rfl⟩

theorem collecting_congr {config : Config} {tree tree' : FileTree}
    (h : SameSources config.includePaths tree tree')
    (hcheck : checkOutput tree' config.outputPath = checkOutput tree config.outputPath) :
    collecting config tree' = collecting config tree := by
  have hprepare : prepare (σ := MemoryStore) config tree' = prepare config tree := by
    simp only [prepare, hcheck]
  funext s
  rw [collecting, collecting, hprepare]
  refine Stage.bind_congr fun exclusion _ => ?_
  rw [← collectAcross_same]
  refine collectAcross_eq h (fun paths hpaths path hpath => ?_) _
  exact ⟨h.read paths hpaths path hpath, h.read paths hpaths path hpath⟩

theorem checkOutput_of_collecting {config : Config} {tree : FileTree} {s : Session MemoryStore}
    {c : Collected} (h : (collecting config tree s).1 = .ok c) :
    checkOutput tree config.outputPath = .ok () := by
  obtain ⟨exclusion, hprepare, -⟩ := Stage.of_bind_ok h
  rw [(quiet_prepare config tree s).result] at hprepare
  obtain ⟨_, -, hprepare⟩ := Plain.bind_eq_ok hprepare
  obtain ⟨_, hcheck, -⟩ := Plain.bind_eq_ok hprepare
  exact hcheck

theorem checkOutput_of_written {tree tree' : FileTree} {path : Path}
    (h : checkOutput tree path = .ok ()) (hwritten : tree'.isDirectory path = false) :
    checkOutput tree' path = .ok () := by
  unfold checkOutput at h ⊢
  split at h
  · cases h
  · rename_i hne
    rw [if_neg hne, hwritten]
    rfl

/-- Different contents that are looked at in some runs have different digests. -/
def DigestsDiffer (runs : List Setting) : Prop :=
  ∀ r ∈ runs, ∀ c ∈ r.contents, ∀ r' ∈ runs, ∀ c' ∈ r'.contents,
    Digest.sha256Hex c = Digest.sha256Hex c' → c = c'

theorem DigestsDiffer.apart {runs : List Setting} (h : DigestsDiffer runs) : ContentsApart runs :=
  fun r hr _ hpath r' hr' _ hpath' _ content content' hread hread' heq =>
    h r hr content (Setting.mem_contents hpath hread) r' hr' content'
      (Setting.mem_contents hpath' hread') (congrArg Fingerprint.text heq)

/-- After a run that succeeds, and unless it changed a source, the same run finds everything that it
asks for, files nothing and leaves the same artifact. -/
theorem run_again_of_described {runs : List Setting} (h : ContentsApart runs) {config : Config}
    {s : RunState MemoryStore} (hr : ⟨s.tree, config⟩ ∈ runs) (hs : Described runs s.session.store)
    (hagree : (⟨s.tree, config⟩ : Setting).KeysAgree)
    (hback : (⟨s.tree, config⟩ : Setting).RecordsReadBack)
    {first second : Except Failure RunReport × RunState MemoryStore}
    (hfirst : run MemoryStore.backend config s = first)
    (hsecond : run MemoryStore.backend config first.2 = second)
    (hsources : SameSources config.includePaths s.tree first.2.tree) {report : RunReport}
    (hreport : first.1 = .ok report) :
    (∃ cache, second.1 = .ok { report with cache }) ∧
      second.2.session.counters.misses = first.2.session.counters.misses ∧
      second.2.session.counters.writes = first.2.session.counters.writes ∧
      ∃ content, first.2.tree.read config.outputPath = .ok content ∧
        second.2.tree.read config.outputPath = .ok content := by
  subst hfirst
  obtain ⟨c, hcollected, hpublish⟩ := collecting_of_run hreport
  obtain ⟨hpaths, hwrite⟩ := publish_ok_iff.1 hpublish
  obtain ⟨hread, hdirectory, hreplaceable⟩ := writeArtifact_again hwrite
  obtain ⟨after, hwrite', hread', -⟩ := writeArtifact_of_replaceable hreplaceable
    (Artifact.ofCollection c.collection config.captureArguments).render
  -- What is collected the second time is what was collected the first time.
  obtain ⟨asks, hreplays⟩ :=
    replays_collecting (r := ⟨s.tree, config⟩) h hr hagree hback hs hcollected
  have hquiet := hreplays.again (run MemoryStore.backend config s).2.session (by
    rw [session_of_run]
    exact .refl asks _)
  have hcheck := checkOutput_of_collecting hcollected
  rw [hcollected, ← collecting_congr hsources
    ((checkOutput_of_written hcheck hdirectory).trans hcheck.symm)] at hquiet
  have hrun := run_of_ok (Prod.ext hquiet.result rfl)
  rw [publish_ok_iff.2 ⟨hpaths, hwrite'⟩] at hrun
  have hcache : ∃ cache, report = reportOf config c cache := by
    have hrun₀ := run_of_ok (Prod.ext hcollected rfl)
    rw [hpublish] at hrun₀
    rw [hrun₀] at hreport
    exact ⟨_, (Except.ok.inj hreport).symm⟩
  obtain ⟨cache, rfl⟩ := hcache
  subst hsecond
  rw [hrun]
  exact ⟨⟨_, rfl⟩, hquiet.misses, hquiet.writes, _, hread, hread'⟩

/-- Before every run of a history, the store has what the runs until then filed. -/
theorem described_of_history {tree : FileTree} {steps : List Step} {config : Config}
    (h : DigestsDiffer (settingsOf (.start tree) (steps ++ [Step.run config]))) :
    ⟨((RunState.start tree).after steps).tree, config⟩ ∈
        settingsOf (.start tree) (steps ++ [Step.run config]) ∧
      Described (settingsOf (.start tree) (steps ++ [Step.run config]))
        ((RunState.start tree).after steps).session.store := by
  have hruns := settingsOf_append (.start tree) steps [.run config]
  refine ⟨?_, ?_⟩
  · rw [hruns]
    exact List.mem_append_right _ List.mem_cons_self
  · apply described_after h.apart (described_empty _)
    intro r hr
    rw [hruns]
    exact List.mem_append_left _ hr

/-- After every history, a run that succeeds and does not change its sources can be repeated: it
finds everything that it asks for, files nothing and leaves the same artifact. -/
theorem run_again (tree : FileTree) (steps : List Step) (config : Config) :
    let s := (RunState.start tree).after steps
    let first := run MemoryStore.backend config s
    let second := run MemoryStore.backend config first.2
    DigestsDiffer (settingsOf (.start tree) (steps ++ [.run config])) →
    (⟨s.tree, config⟩ : Setting).KeysAgree →
    (⟨s.tree, config⟩ : Setting).RecordsReadBack →
    SameSources config.includePaths s.tree first.2.tree →
    ∀ report, first.1 = .ok report →
      (∃ cache, second.1 = .ok { report with cache }) ∧
        second.2.session.counters.misses = first.2.session.counters.misses ∧
        second.2.session.counters.writes = first.2.session.counters.writes ∧
        ∃ content, first.2.tree.read config.outputPath = .ok content ∧
          second.2.tree.read config.outputPath = .ok content := by
  intro s first second hdigests hagree hback hsources report hreport
  obtain ⟨hr, hdescribed⟩ := described_of_history hdigests
  exact run_again_of_described hdigests.apart hr hdescribed hagree hback rfl rfl hsources hreport

namespace Annotating

def config : Config := Repeated.config 1

/-- A run finds the class without an annotation, and another one finds it with an annotation. -/
def settings : List Setting := [⟨Overtaken.tree, config⟩, ⟨Repeated.tree, config⟩]

set_option maxRecDepth 100000 in
theorem evaluated : settings.map Setting.contents = [[Overtaken.content], [Repeated.content]] ∧
    ([Overtaken.content, Repeated.content].map Digest.sha256Hex).Nodup := by decide +kernel

theorem contents_settings : settings.map Setting.contents =
    [[Overtaken.content], [Repeated.content]] := evaluated.1

theorem digests : ([Overtaken.content, Repeated.content].map Digest.sha256Hex).Nodup :=
  evaluated.2

theorem digestsDiffer : DigestsDiffer settings := by
  have hmem : ∀ r ∈ settings, ∀ c ∈ r.contents, c ∈ [Overtaken.content, Repeated.content] := by
    intro r hr c hc
    have hflat : c ∈ (settings.map Setting.contents).flatten :=
      List.mem_flatten.2 ⟨_, List.mem_map_of_mem hr, hc⟩
    rwa [contents_settings] at hflat
  intro r hr c hc r' hr' c' hc' heq
  exact List.inj_on_of_nodup_map digests (hmem r hr c hc) (hmem r' hr' c' hc') heq

theorem not_mem_keptFiles {f : ResolvedFile} :
    f ∉ (⟨Overtaken.tree, config⟩ : Setting).keptFiles := by
  intro hf
  obtain ⟨map, hmap, hmem, htypes⟩ := Setting.of_mem_keptFiles hf
  obtain ⟨hread, hpath, -, -, hkept⟩ := Setting.of_mem_kept hmap hmem
  have hc := Setting.mem_contents hpath hread
  have hcontents : (⟨Overtaken.tree, config⟩ : Setting).contents = [Overtaken.content] :=
    (List.cons.inj contents_settings).1
  rw [hcontents, List.mem_singleton] at hc
  rw [hc, Plain.keptAmong_of_not_mentions Overtaken.content_plain] at hkept
  exact htypes (Except.ok.inj hkept).symm

theorem apart_settings : Apart settings := by
  have hkeys := Repeated.keysTell config
  have hreals : (⟨Repeated.tree, config⟩ : Setting).RealsReadBack :=
    Setting.realsReadBack_of_not_captured rfl
  have hkept : ∀ r ∈ settings, ∀ f ∈ r.keptFiles, r ∈ [(⟨Repeated.tree, config⟩ : Setting)] := by
    intro r hr f hf
    rcases List.mem_cons.1 hr with rfl | hr
    · exact absurd hf not_mem_keptFiles
    · exact hr
  constructor
  · exact digestsDiffer.apart
  · intro r hr f hf r' hr' f' hf'
    exact (apart_single hkeys hreals).records r (hkept r hr f hf) f hf r' (hkept r' hr' f' hf') f' hf'
  · intro r hr f hf
    exact (apart_single hkeys hreals).reals r (hkept r hr f hf) f hf

theorem sources_of_find {tree : FileTree}
    (h : tree.find Repeated.path = .ok ([Text.utf8Bytes "A.java"], .file Repeated.content)) :
    Plain.sources tree config.includePaths = .ok [Repeated.path] ∧
      tree.read Repeated.path = .ok Repeated.content := by
  have hroot : canonicalRoot tree Repeated.path = .ok Repeated.path := by
    simp only [canonicalRoot, FileTree.canonical, h]
    rfl
  have hbelow : sourcesBelow tree Repeated.path = [Repeated.path] := by
    have hsource : isSource Repeated.path = true := rfl
    simp [sourcesBelow, FileTree.isFile, h, hsource]
  have hpaths : config.includePaths = [Repeated.path] := rfl
  refine ⟨?_, by simp only [FileTree.read, h]⟩
  rw [Plain.sources, hpaths, List.mapM_cons, hroot, List.mapM_nil]
  simp only [bind, Except.bind, pure, Except.pure, Except.map, List.flatMap_singleton,
    hbelow]

theorem keysAgree : (⟨Repeated.tree, config⟩ : Setting).KeysAgree := by
  have hsources : Plain.sources Repeated.tree config.includePaths = .ok [Repeated.path] :=
    (sources_of_find rfl).1
  apply Setting.keysAgree_of_text
  intro path hpath
  simp only [Setting.sources, hsources] at hpath
  split at hpath
  · rename_i heq
    cases heq
    rw [List.mem_singleton.1 (List.mem_filter.1 hpath).1]
    exact Path.isText_ofText "/A.java"
  · cases hpath

theorem sameSources {text : String} {tree : FileTree}
    (h : writeArtifact config.outputPath text Repeated.tree = (.ok (), tree)) :
    SameSources config.includePaths Repeated.tree tree := by
  obtain ⟨tree', hwrite, hdiffer, -⟩ := writeArtifact_of_open Repeated.replaceable_output.parent
    Repeated.open_temporary Repeated.open_output text
  obtain rfl : tree' = tree := congrArg Prod.snd (hwrite.symm.trans h)
  have hfind : Repeated.tree.find Repeated.path =
      .ok ([Text.utf8Bytes "A.java"], .file Repeated.content) := rfl
  have hnode : tree'.node? [Text.utf8Bytes "A.java"] =
      Repeated.tree.node? [Text.utf8Bytes "A.java"] :=
    hdiffer.elsewhere _ (by decide)
  obtain ⟨hsources, hread⟩ := sources_of_find hfind
  obtain ⟨hsources', hread'⟩ := sources_of_find (hdiffer.find hfind hnode)
  refine ⟨hsources'.trans hsources.symm, fun paths hpaths path hpath => ?_⟩
  rw [hsources] at hpaths
  cases hpaths
  rw [List.mem_singleton.1 hpath]
  exact hread'.trans hread.symm

theorem after_edit (tree tree' : FileTree) (config : Config) :
    (RunState.start tree).after [.run config, .edit fun _ => tree'] =
      ⟨tree', (run MemoryStore.backend config (.start tree)).2.session⟩ := rfl

theorem succeeds : ∃ report, (run MemoryStore.backend config
    ((RunState.start Overtaken.tree).after
      [.run config, .edit fun _ => Repeated.tree])).1 = .ok report := by
  rw [after_edit]
  have hvalid : Valid settings
      (run MemoryStore.backend config (.start Overtaken.tree)).2.session.store :=
    (run_outcome (fun _ hok => runMemo apart_settings List.mem_cons_self hok)
      (valid_empty _)).1
  generalize (run MemoryStore.backend config (.start Overtaken.tree)).2.session = session at hvalid
  obtain ⟨c, hcollect, hpaths, -⟩ := Repeated.collected (n := 1) List.mem_cons_self
  exact run_of_collect (s := ⟨Repeated.tree, session⟩) apart_settings
    (List.mem_cons_of_mem _ List.mem_cons_self) hvalid hcollect hpaths Repeated.replaceable_output

end Annotating

/-- A class is annotated after a first run, and the run that finds the annotation is repeated. -/
theorem run_again_annotated :
    let s := (RunState.start Overtaken.tree).after
      [.run Annotating.config, .edit fun _ => Repeated.tree]
    let first := run MemoryStore.backend Annotating.config s
    let second := run MemoryStore.backend Annotating.config first.2
    ∃ report, first.1 = .ok report ∧ (∃ cache, second.1 = .ok { report with cache }) ∧
      second.2.session.counters.misses = first.2.session.counters.misses ∧
      second.2.session.counters.writes = first.2.session.counters.writes ∧
      ∃ content, first.2.tree.read Annotating.config.outputPath = .ok content ∧
        second.2.tree.read Annotating.config.outputPath = .ok content := by
  obtain ⟨report, hreport⟩ := Annotating.succeeds
  obtain ⟨c, -, hpublish⟩ := collecting_of_run hreport
  exact ⟨report, hreport, run_again Overtaken.tree
    [.run Annotating.config, .edit fun _ => Repeated.tree] Annotating.config
    Annotating.digestsDiffer Annotating.keysAgree (Setting.recordsReadBack_of_not_captured rfl)
    (Annotating.sameSources (publish_ok_iff.1 hpublish).2) report hreport⟩

namespace Lookalikes

/-- A path whose name starts with a byte that no text has. -/
def path (byte : UInt8) : Path := ⟨Text.utf8Bytes "/" ++ byte :: Text.utf8Bytes ".java"⟩

def paths : List Path := [path 0xFE, path 0xFF]

def contents : List (List UInt8) := ["class A {}", "class B {}"].map Text.utf8Bytes

def tree : FileTree := ⟨.ofList ((paths.map (·.bytes)).zip (contents.map .file)), []⟩

def config : Config :=
  { includePaths := paths, outputPath := .ofText "/o.json", captureArguments := false }

def first : Except Failure RunReport × RunState MemoryStore :=
  run MemoryStore.backend config (.start tree)

def second : Except Failure RunReport × RunState MemoryStore :=
  run MemoryStore.backend config first.2

set_option maxRecDepth 100000 in
theorem evaluated : (first.1.toOption.isSome = true ∧
      second.2.session.counters.misses = first.2.session.counters.misses + 4 ∧
      second.2.session.counters.writes = first.2.session.counters.writes + 4) ∧
    (Plain.sources tree paths = .ok paths ∧ Plain.sources first.2.tree paths = .ok paths ∧
      ∀ path ∈ paths, first.2.tree.read path = tree.read path) ∧
    (⟨tree, config⟩ : Setting).contents = contents ∧ (contents.map Digest.sha256Hex).Nodup := by
  decide +kernel

theorem digestsDiffer : DigestsDiffer [⟨tree, config⟩] := by
  obtain ⟨-, -, hcontents, hdigests⟩ := evaluated
  simp only [DigestsDiffer, List.forall_mem_singleton, hcontents]
  exact fun c hc c' hc' heq => List.inj_on_of_nodup_map hdigests hc hc' heq

theorem sameSources : SameSources paths tree first.2.tree := by
  obtain ⟨-, ⟨hsources, hsources', hread⟩, -⟩ := evaluated
  refine ⟨hsources'.trans hsources.symm, fun found hfound => ?_⟩
  cases hsources.symm.trans hfound
  exact hread

end Lookalikes

/-- Two sources whose names are no texts share their keys, and each run files one over the other. -/
theorem run_again_lookalikes :
    let first := run MemoryStore.backend Lookalikes.config (.start Lookalikes.tree)
    let second := run MemoryStore.backend Lookalikes.config first.2
    DigestsDiffer (settingsOf (.start Lookalikes.tree) [.run Lookalikes.config]) ∧
      (⟨Lookalikes.tree, Lookalikes.config⟩ : Setting).RecordsReadBack ∧
      SameSources Lookalikes.config.includePaths Lookalikes.tree first.2.tree ∧
      (∃ report, first.1 = .ok report) ∧
      second.2.session.counters.misses = first.2.session.counters.misses + 4 ∧
      second.2.session.counters.writes = first.2.session.counters.writes + 4 := by
  obtain ⟨⟨hsome, hmisses, hwrites⟩, -⟩ := Lookalikes.evaluated
  refine ⟨Lookalikes.digestsDiffer, Setting.recordsReadBack_of_not_captured rfl,
    Lookalikes.sameSources, ?_, hmisses, hwrites⟩
  change ∃ report, Lookalikes.first.1 = .ok report
  cases hresult : Lookalikes.first.1 with
  | ok report => exact ⟨report, rfl⟩
  | error f =>
    rw [hresult] at hsome
    cases hsome

end AnnotationIndex
