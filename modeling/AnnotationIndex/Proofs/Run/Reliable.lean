import AnnotationIndex.Proofs.Run.Validity
import AnnotationIndex.Proofs.Store.Lookups

/-!
# Stores that can be relied on

What a store finds for the files of a run is what the run finds out without it. A run keeps this up
for as long as different contents under one key have different digests and the numbers that it files
are read back. The store may be any that keeps what is filed, and the filters may be any whose
verdicts come from the content of a file.
-/

namespace AnnotationIndex

open Digest Java

variable {σ α : Type} {b : Backend σ} {takes : String → Bool} {r : Setting}

theorem caches_keptTypes (hb : b.Keeps takes) {chain : FilterChain σ} {f : ResolvedFile}
    {r : Except Failure (List String)} (h : Settled (keptOf chain f.file.path f.types) r) :
    Caches b (Decoder.list Decoder.text) .filter f.file f.file.fingerprint r
      (r.toOption.map fun kept =>
        ⟨f.file.fingerprint, (Json.array (kept.map .string)).compact⟩)
      (keptTypes b chain f) := by
  refine Caches.of_retrieve hb (fun _ => rfl) fun s => ?_
  dsimp only
  obtain ⟨hresult, hstore⟩ := h s
  cases r with
  | error e =>
    rw [Stage.bind_error hresult]
    exact ⟨rfl, hstore⟩
  | ok kept =>
    rw [Stage.bind_ok hresult]
    refine ⟨rfl, (store_of_remember b .filter f.file f.file.fingerprint _ _).trans ?_⟩
    rw [hstore]
    rfl

/-- The records of a file that can be read. Where there are any, they are filed. -/
theorem caches_fileRecords (hb : b.Keeps takes) (options : ExtractOptions) (loader : Loader)
    {tree : FileTree} {f : ResolvedFile} {content : List UInt8}
    (hread : tree.read f.file.path = .ok content) :
    ∃ stored?, Caches b (Decoder.list TypeRecords.decoder) .extract f.file
        (recordsFingerprint options loader.locations f)
        (Plain.fileRecords options loader.knows f.file.path content f.types) stored?
        (fileRecords b options loader tree f) ∧
      ∀ e ∈ stored?, ∃ records,
        Plain.fileRecords options loader.knows f.file.path content f.types = .ok records ∧
          e = ⟨recordsFingerprint options loader.locations f,
            (recordsDocument records).compact⟩ := by
  have hunit := settled_unitToExtract (σ := σ) loader hread
  rw [Plain.fileRecords]
  cases houtline : Outline.ofSource? (Text.lossyText content).toList with
  | none =>
    simp only [houtline] at hunit
    refine ⟨none, Caches.of_retrieve hb (fun _ => rfl) fun s => ?_, by simp⟩
    dsimp only
    rw [Stage.bind_ok (hunit s).1]
    exact ⟨rfl, (hunit s).2⟩
  | some outline =>
    simp only [houtline] at hunit
    cases hunit? : outline.unit? loader.knows with
    | none =>
      simp only [hunit?] at hunit ⊢
      refine ⟨none, Caches.of_retrieve hb (fun _ => rfl) fun s => ?_, by simp⟩
      dsimp only
      rw [Stage.bind_error (hunit s).1]
      exact ⟨rfl, (hunit s).2⟩
    | some unit =>
      simp only [hunit?] at hunit ⊢
      have hrecords := settled_unitRecords (σ := σ) options f.file.path unit f.types
      refine ⟨some ⟨recordsFingerprint options loader.locations f,
        (recordsDocument (Plain.recordsIn options unit f.types)).compact⟩,
        Caches.of_retrieve hb (fun _ => rfl) fun s => ?_, ?_⟩
      · dsimp only
        rw [Stage.bind_ok (hunit s).1]
        dsimp only
        rw [Stage.bind_ok (hrecords _).1]
        refine ⟨rfl, (store_of_remember b .extract f.file _ _ _).trans ?_⟩
        rw [(hrecords _).2, (hunit s).2]
        rfl
      · intro e he
        exact ⟨_, rfl, (Option.some.inj he).symm⟩

/-- The source files of a run that can be read, with the types that their headers declare. -/
def Setting.filesRead (r : Setting) : List ResolvedFile :=
  r.sources.filterMap fun path => (r.tree.read path).toOption.map (Plain.fileWith path)

theorem Setting.mem_filesRead {f : ResolvedFile} :
    f ∈ r.filesRead ↔ Plain.FoundIn r.tree r.sources f := by
  constructor
  · intro hf
    obtain ⟨path, hpath, hread⟩ := List.mem_filterMap.1 hf
    cases hcontent : r.tree.read path with
    | error fault =>
      rw [hcontent] at hread
      cases hread
    | ok content =>
      rw [hcontent] at hread
      cases hread
      have hat : Plain.contentAt r.tree path = content := Plain.contentAt_of_read hcontent
      exact ⟨hat ▸ hcontent, hpath, by rw [← hat]; rfl⟩
  · intro hf
    refine List.mem_filterMap.2 ⟨f.file.path, hf.mem, ?_⟩
    rw [hf.read]
    exact congrArg some hf.eq.symm

theorem Setting.fingerprint_of_filesRead {f : ResolvedFile} (hf : f ∈ r.filesRead) :
    f.file.fingerprint = .ofBytes (r.contentOf f) := by
  rw [(mem_filesRead.1 hf).eq]
  rfl

/-- Files under one key with one digest have the same content, and declare the same. -/
theorem Setting.KeysTell.content_eq (hkeys : r.KeysTell) {f g : ResolvedFile}
    (hf : f ∈ r.filesRead) (hg : g ∈ r.filesRead) (hkey : f.file.key = g.file.key)
    (hdigest : sha256Hex (r.contentOf f) = sha256Hex (r.contentOf g)) :
    r.contentOf f = r.contentOf g ∧ f.types = g.types := by
  have hf := mem_filesRead.1 hf
  have hg := mem_filesRead.1 hg
  have hcontent := hkeys _ hf.mem _ hg.mem hkey _ _ hf.read hg.read hdigest
  refine ⟨hcontent, ?_⟩
  rw [hf.eq, hg.eq]
  exact congrArg (fun content => (Plain.headerOf content).types) hcontent

/-- What the store finds for each of the files under its fingerprint is its result. -/
def Reliable (b : Backend σ) (d : Decoder α) (bucket : Bucket)
    (fingerprint : ResolvedFile → Fingerprint) (result : ResolvedFile → Except Failure α)
    (files : List ResolvedFile) (store : σ) : Prop :=
  ∀ f ∈ files, ∀ v, (b.look bucket f.file.key store).read? d (fingerprint f) = some v →
    result f = .ok v

/-- Files under one key with one fingerprint have the same result. -/
def Coherent (fingerprint : ResolvedFile → Fingerprint) (result : ResolvedFile → Except Failure α)
    (files : List ResolvedFile) : Prop :=
  ∀ f ∈ files, ∀ g ∈ files, f.file.key = g.file.key → fingerprint f = fingerprint g →
    ∀ v, result f = .ok v → result g = .ok v

namespace Reliable

variable {d : Decoder α} {bucket : Bucket} {fingerprint : ResolvedFile → Fingerprint}
  {result : ResolvedFile → Except Failure α} {files : List ResolvedFile} {store : σ}

theorem file (hb : b.Keeps takes) (h : Reliable b d bucket fingerprint result files store)
    (hcoherent : Coherent fingerprint result files) {f : ResolvedFile} (hf : f ∈ files)
    {stored? : Option StoredEntry}
    (hstored : ∀ e ∈ stored?, e.fingerprint = fingerprint f ∧
      ∀ v, d.run e.payload = some v → result f = .ok v) :
    Reliable b d bucket fingerprint result files (b.file bucket f.file.key stored? store) := by
  intro g hg v hread
  rw [hb.look_file] at hread
  split at hread
  · rename_i hsame
    cases stored? with
    | none => exact h g hg v hread
    | some e =>
      obtain ⟨hfingerprint, hresult⟩ := hstored e rfl
      simp only [Option.elim, Lookup.read?] at hread
      split at hread
      · rename_i heq
        exact hcoherent f hf g hg hsame.2.2.symm (hfingerprint.symm.trans heq) v (hresult v hread)
      · cases hread
  · exact h g hg v hread

theorem file_elsewhere (hb : b.Keeps takes)
    (h : Reliable b d bucket fingerprint result files store) {bucket' : Bucket}
    (hne : bucket ≠ bucket') (key : String) (stored? : Option StoredEntry) :
    Reliable b d bucket fingerprint result files (b.file bucket' key stored? store) := by
  intro f hf v hread
  rw [hb.look_file, if_neg fun hsame => hne hsame.2.1] at hread
  exact h f hf v hread

end Reliable

/-- The types of a file that are kept if `verdict` judges them. -/
def Plain.keptIn (verdict : Path → List UInt8 → String → Except Failure Bool) (tree : FileTree)
    (f : ResolvedFile) : Except Failure (List String) :=
  keptBy (verdict f.file.path (contentAt tree f.file.path)) f.types

/-- The records of the types that are kept. -/
def Setting.recordsIn (r : Setting) (verdict : Path → List UInt8 → String → Except Failure Bool)
    (f : ResolvedFile) : Except Failure (List TypeRecords) := do
  let types ← Plain.keptIn verdict r.tree f
  Plain.fileRecords r.config.extractOptions r.knows f.file.path (r.contentOf f) types

theorem Setting.recordsIn_of_kept {verdict : Path → List UInt8 → String → Except Failure Bool}
    {f : ResolvedFile} {types : List String} (h : Plain.keptIn verdict r.tree f = .ok types) :
    r.recordsIn verdict f =
      Plain.fileRecords r.config.extractOptions r.knows f.file.path (r.contentOf f) types := by
  simp only [recordsIn, h, bind, Except.bind]

/-- The verdict on a type comes from the content of the file. -/
def FromContent (verdict : Path → List UInt8 → String → Except Failure Bool) : Prop :=
  ∀ path content t keep, verdict path content t = .ok keep → ∀ path',
    verdict path' content t = .ok keep

variable {verdict : Path → List UInt8 → String → Except Failure Bool}

theorem Setting.KeysTell.coherent_headers (hkeys : r.KeysTell) :
    Coherent (·.file.fingerprint) (fun f => .ok (Plain.headerOf (r.contentOf f))) r.filesRead := by
  intro f hf g hg hkey heq header hheader
  dsimp only at heq hheader ⊢
  rw [fingerprint_of_filesRead hf, fingerprint_of_filesRead hg] at heq
  rw [← (hkeys.content_eq hf hg hkey (congrArg Fingerprint.text heq)).1]
  exact hheader

theorem Setting.KeysTell.keptIn_eq (hkeys : r.KeysTell) (hverdict : FromContent verdict)
    {f g : ResolvedFile} (hf : f ∈ r.filesRead) (hg : g ∈ r.filesRead)
    (hkey : f.file.key = g.file.key)
    (hdigest : sha256Hex (r.contentOf f) = sha256Hex (r.contentOf g)) {types : List String}
    (h : Plain.keptIn verdict r.tree f = .ok types) :
    Plain.keptIn verdict r.tree g = .ok types := by
  obtain ⟨hcontent, htypes⟩ := hkeys.content_eq hf hg hkey hdigest
  rw [Plain.keptIn, ← htypes]
  change Plain.contentAt r.tree f.file.path = Plain.contentAt r.tree g.file.path at hcontent
  rw [← hcontent]
  exact Plain.keptBy_of_verdicts (fun t keep hkeep => hverdict _ _ t keep hkeep _) h

theorem Setting.KeysTell.coherent_kept (hkeys : r.KeysTell) (hverdict : FromContent verdict) :
    Coherent (·.file.fingerprint) (Plain.keptIn verdict r.tree) r.filesRead := by
  intro f hf g hg hkey heq types htypes
  dsimp only at heq
  rw [fingerprint_of_filesRead hf, fingerprint_of_filesRead hg] at heq
  exact hkeys.keptIn_eq hverdict hf hg hkey (congrArg Fingerprint.text heq) htypes

theorem Setting.KeysTell.coherent_records (hkeys : r.KeysTell) (hverdict : FromContent verdict) :
    Coherent (recordsFingerprint r.config.extractOptions r.locations) (r.recordsIn verdict)
      r.filesRead := by
  intro f hf g hg hkey heq records hrecords
  rw [recordsFingerprint, recordsFingerprint, fingerprint_of_filesRead hf,
    fingerprint_of_filesRead hg] at heq
  have hdigest := (salted_parts heq).1
  obtain ⟨types, htypes, hrecords⟩ := Plain.bind_eq_ok hrecords
  rw [recordsIn_of_kept (hkeys.keptIn_eq hverdict hf hg hkey hdigest htypes),
    ← (hkeys.content_eq hf hg hkey hdigest).1]
  exact Plain.fileRecords_path hrecords _

/-- Everything that the store finds for the files of a run is what the run finds out without it. -/
structure Relied (b : Backend σ) (r : Setting)
    (verdict : Path → List UInt8 → String → Except Failure Bool) (store : σ) : Prop where
  headers : Reliable b Header.decoder .resolve (·.file.fingerprint)
    (fun f => .ok (Plain.headerOf (r.contentOf f))) r.filesRead store
  kept : Reliable b (Decoder.list Decoder.text) .filter (·.file.fingerprint)
    (Plain.keptIn verdict r.tree) r.filesRead store
  records : Reliable b (Decoder.list TypeRecords.decoder) .extract
    (recordsFingerprint r.config.extractOptions r.locations) (r.recordsIn verdict) r.filesRead store

namespace Relied

theorem gives_resolveHeader (hb : b.Keeps takes) (hkeys : r.KeysTell) {f : ResolvedFile}
    (hf : f ∈ r.filesRead) :
    Gives (Relied b r verdict) (resolveHeader b f.file (r.contentOf f))
      (Plain.headerOf (r.contentOf f)) := by
  intro s hs
  obtain ⟨hfound, hstore⟩ := hb.retrieve Header.decoder .resolve f.file f.file.fingerprint s
  rw [resolveHeader, bind_apply]
  cases hlook : (Session.retrieve b Header.decoder .resolve f.file f.file.fingerprint s).1 with
  | some header =>
    have hheader := hs.headers f hf header (hfound.symm.trans hlook)
    exact ⟨(Except.ok.inj hheader).symm, hstore ▸ hs⟩
  | none =>
    refine ⟨rfl, ?_⟩
    change Relied b r verdict (Session.remember b .resolve _ _ _ _).2.store
    rw [store_of_remember, hstore]
    refine ⟨hs.headers.file hb hkeys.coherent_headers hf ?_,
      hs.kept.file_elsewhere hb (by decide) _ _, hs.records.file_elsewhere hb (by decide) _ _⟩
    intro e he
    cases he
    refine ⟨rfl, fun header hrun => ?_⟩
    exact congrArg Except.ok (Option.some.inj ((run_header _).symm.trans hrun))

theorem gives_resolve (hb : b.Keeps takes) (hkeys : r.KeysTell) {exclusion : Option Pattern}
    (hprepare : Plain.prepare r.config r.tree = .ok exclusion) :
    Gives (Relied b r verdict) (resolve b r.tree (isExcluded exclusion) r.config.includePaths)
      (Plain.resolution r.tree (isExcluded exclusion) r.config.includePaths) := by
  refine gives_resolve_of_headers fun paths hpaths path hpath content hexcluded hread => ?_
  have hsource := Setting.mem_sources_of_prepare hprepare paths hpaths path hpath hexcluded
  have hcontent : r.contentOf (Plain.fileWith path content) = content :=
    Plain.contentAt_of_read hread
  have hfound : Plain.FoundIn r.tree r.sources (Plain.fileWith path content) := by
    refine ⟨hread.trans (congrArg Except.ok hcontent.symm), hsource, ?_⟩
    exact congrArg (Plain.fileWith path) hcontent.symm
  have hgives : Gives (Relied b r verdict) _ _ :=
    gives_resolveHeader hb hkeys (Setting.mem_filesRead.2 hfound)
  rwa [hcontent] at hgives

theorem gives_keptTypes (hb : b.Keeps takes) (hkeys : r.KeysTell) (hverdict : FromContent verdict)
    {chain : FilterChain σ} {f : ResolvedFile} (hf : f ∈ r.filesRead)
    (hsettled : Settled (keptOf chain f.file.path f.types) (Plain.keptIn verdict r.tree f)) :
    Gives (Relied b r verdict) (keptTypes b chain f) (Plain.keptIn verdict r.tree f) := by
  refine (caches_keptTypes hb hsettled).gives (fun store kept hs => hs.kept f hf kept)
    fun store hs => ⟨hs.headers.file_elsewhere hb (by decide) _ _,
      hs.kept.file hb (hkeys.coherent_kept hverdict) hf ?_,
      hs.records.file_elsewhere hb (by decide) _ _⟩
  intro e he
  obtain ⟨kept, hkept, rfl⟩ := Option.map_eq_some_iff.1 he
  refine ⟨rfl, fun types hrun => ?_⟩
  rw [Decoder.run_texts, Option.some.injEq] at hrun
  rw [← hrun]
  cases hresult : Plain.keptIn verdict r.tree f with
  | error failure =>
    rw [hresult] at hkept
    cases hkept
  | ok _ =>
    rw [hresult] at hkept
    exact congrArg Except.ok (Option.some.inj hkept)

theorem gives_keptLists (hb : b.Keeps takes) (hkeys : r.KeysTell) (hverdict : FromContent verdict)
    {chain : FilterChain σ} {files : List ResolvedFile} (hfiles : ∀ f ∈ files, f ∈ r.filesRead)
    (hsettled : ∀ f ∈ files,
      Settled (keptOf chain f.file.path f.types) (Plain.keptIn verdict r.tree f)) :
    Gives (Relied b r verdict) (keptLists b chain files)
      (files.mapM (Plain.keptIn verdict r.tree)) :=
  gives_keptLists_of_each fun f hf =>
    gives_keptTypes hb hkeys hverdict (hfiles f hf) (hsettled f hf)

theorem gives_fileRecords (hb : b.Keeps takes) (hkeys : r.KeysTell) (hverdict : FromContent verdict)
    {f : ResolvedFile} (hf : f ∈ r.filesRead) {types : List String}
    (htypes : Plain.keptIn verdict r.tree f = .ok types)
    (hreals : ∀ records, r.records { f with types } = .ok records →
      ∀ x ∈ realsOfRecords records, Json.ReadsBack x) :
    Gives (Relied b r verdict)
      (fileRecords b r.config.extractOptions { locations := r.locations } r.tree { f with types })
      (r.records { f with types }) := by
  have hrecordsIn : r.recordsIn verdict f = r.records { f with types } :=
    Setting.recordsIn_of_kept htypes
  obtain ⟨stored?, hcaches, hstored⟩ := caches_fileRecords hb r.config.extractOptions
    { locations := r.locations } (f := { f with types }) (Setting.mem_filesRead.1 hf).read
  refine hcaches.gives (fun store records hs hread => ?_) fun store hs =>
    ⟨hs.headers.file_elsewhere hb (by decide) _ _, hs.kept.file_elsewhere hb (by decide) _ _,
      hs.records.file hb (hkeys.coherent_records hverdict) hf ?_⟩
  · exact hrecordsIn.symm.trans (hs.records f hf records hread)
  · intro e he
    obtain ⟨records, hrecords, rfl⟩ := hstored e he
    refine ⟨rfl, fun found hrun => ?_⟩
    rw [run_records (hreals records hrecords)] at hrun
    split at hrun
    · cases hrun
      exact hrecordsIn.trans hrecords
    · cases hrun

end Relied

end AnnotationIndex
