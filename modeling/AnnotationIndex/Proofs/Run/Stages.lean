import AnnotationIndex.Proofs.Java.Erasure
import AnnotationIndex.Proofs.Java.Resolution
import AnnotationIndex.Proofs.Run.Plain
import AnnotationIndex.Proofs.Store.Replays

/-!
# The stages of a run

Each stage gives what it gives without a store, provided that everything the store holds for its
files is right and that what is added to the store may be added.
-/

namespace AnnotationIndex

open Java

variable {σ α : Type} {inv : MemoryStore → Prop}

/-- Everything that is filed for a result is that result, and it may be filed. The result is filed
only where it is no failure. -/
structure Memo (inv : MemoryStore → Prop) (d : Decoder α) (document : α → Json) (bucket : Bucket)
    (file : SourceFile) (fingerprint : Fingerprint) (r : Except Failure α) : Prop where
  found : ∀ store v, inv store → Gives.Filed store d bucket file fingerprint v → r = .ok v
  keeps : ∀ store v, inv store → r = .ok v →
    inv (store.insert bucket file.key ⟨fingerprint, (document v).compact⟩)

abbrev HeaderMemo (inv : MemoryStore → Prop) (path : Path) (content : List UInt8) : Prop :=
  Memo inv Header.decoder Header.toJson .resolve ⟨path, .ofBytes content⟩ (.ofBytes content)
    (.ok (Plain.headerOf content))

theorem memoizes_resolveHeader (file : SourceFile) (content : List UInt8) :
    Memoizes Header.decoder Header.toJson .resolve file file.fingerprint id
      (Plain.headerOf content) True (resolveHeader MemoryStore.backend file content) := by
  apply Memoizes.of_retrieve
  · exact fun _ header => Quiet.pure header
  · exact fun _ => rfl
  · exact fun h => absurd trivial h
  · exact fun _ => ⟨_, rfl, fun _ => rfl⟩

theorem gives_resolveHeader {path : Path} {content : List UInt8}
    (h : HeaderMemo inv path content) :
    Gives inv (resolveHeader MemoryStore.backend ⟨path, .ofBytes content⟩ content)
      (Plain.headerOf content) := by
  apply (memoizes_resolveHeader ⟨path, .ofBytes content⟩ content).gives
  · exact fun store header hs hfiled => Except.ok.inj (h.found store header hs hfiled)
  · exact fun store header hs hheader => h.keeps store header hs (congrArg Except.ok hheader)

section Resolve

variable {b : Backend σ} {inv : σ → Prop} {tree : FileTree} {excluded : Path → Bool}

theorem gives_resolveNext {path : Path}
    (h : ∀ content, excluded path = false → tree.read path = .ok content →
      Gives inv (resolveHeader b ⟨path, .ofBytes content⟩ content) (Plain.headerOf content))
    (r : Resolution) :
    Gives inv (resolveNext b tree excluded r path) (Plain.next tree excluded r path) := by
  unfold resolveNext Plain.next
  cases hexcluded : excluded path with
  | true => exact (Gives.report _).bind (Gives.pure _)
  | false =>
    cases hread : tree.read path with
    | error fault =>
      have hfile : Gives inv (resolveFile b tree path) (.error fault) := by
        simp only [resolveFile, hread]
        exact Gives.pure _
      exact hfile.bind ((Gives.report _).bind (Gives.pure _))
    | ok content =>
      have hfile : Gives inv (resolveFile b tree path) (.ok (Plain.fileWith path content)) := by
        simp only [resolveFile, hread]
        exact (h content hexcluded hread).bind (Gives.pure _)
      refine hfile.bind ?_
      cases hempty : (Plain.headerOf content).types.isEmpty with
      | true =>
        simp only [Plain.fileWith, hempty, if_true]
        exact Gives.pure _
      | false =>
        simp only [Plain.fileWith, hempty]
        exact (Gives.report _).bind (Gives.pure _)

theorem gives_resolveAll {paths : List Path}
    (h : ∀ path ∈ paths, ∀ content, excluded path = false → tree.read path = .ok content →
      Gives inv (resolveHeader b ⟨path, .ofBytes content⟩ content) (Plain.headerOf content))
    (r : Resolution) :
    Gives inv (resolveAll b tree excluded r paths)
      (paths.foldl (Plain.next tree excluded) r) := by
  induction paths generalizing r with
  | nil => exact Gives.pure r
  | cons path paths ih =>
    have hnext := gives_resolveNext (h path List.mem_cons_self) r
    exact hnext.bind (ih (fun p hp => h p (List.mem_cons_of_mem path hp)) _)

/-- The files are resolved as without a store if their headers are. -/
theorem gives_resolve_of_headers {roots : List Path}
    (h : ∀ paths, Plain.sources tree roots = .ok paths → ∀ path ∈ paths, ∀ content,
      excluded path = false → tree.read path = .ok content →
        Gives inv (resolveHeader b ⟨path, .ofBytes content⟩ content) (Plain.headerOf content)) :
    Gives inv (resolve b tree excluded roots) (Plain.resolution tree excluded roots) := by
  have hplain : Plain.resolution tree excluded roots =
      roots.mapM (canonicalRoot tree) >>= fun found =>
        .ok ((found.flatMap (sourcesBelow tree)).foldl (Plain.next tree excluded) .empty) := by
    rw [Plain.resolution, Plain.sources]
    cases roots.mapM (canonicalRoot tree) <;> rfl
  rw [hplain]
  refine (Gives.liftExcept (roots.mapM (canonicalRoot tree))).andThen ?_
  intro found hfound
  have hsources : Plain.sources tree roots = .ok (found.flatMap (sourcesBelow tree)) := by
    rw [Plain.sources, hfound]
    rfl
  exact (gives_resolveAll (h _ hsources) .empty).lift

end Resolve

theorem gives_resolve {tree : FileTree} {excluded : Path → Bool} {roots : List Path}
    (h : ∀ paths, Plain.sources tree roots = .ok paths → ∀ path ∈ paths, ∀ content,
      excluded path = false → tree.read path = .ok content → HeaderMemo inv path content) :
    Gives inv (resolve MemoryStore.backend tree excluded roots)
      (Plain.resolution tree excluded roots) :=
  gives_resolve_of_headers fun paths hpaths path hpath content hexcluded hread =>
    gives_resolveHeader (h paths hpaths path hpath content hexcluded hread)

variable {tree : FileTree} {path : Path} {content : List UInt8}

/-- What a type is declared as in an outline does not depend on the types that are known. -/
theorem instantiable_eq {outline : Outline} {known known' : String → Bool}
    {unit unit' : CompilationUnit} (h : outline.unit? known = some unit)
    (h' : outline.unit? known' = some unit') (typeName : String) :
    (unit.get? typeName).map (·.kind) = (unit'.get? typeName).map (·.kind) := by
  have herased := outline.eraseKinds_unit? known known'
  rw [h, h', Option.map_some, Option.map_some, Option.some.injEq] at herased
  have hget := congrArg (fun u => (u.get? typeName).map (·.kind)) herased
  simpa [CompilationUnit.get?_eraseKinds, Function.comp_def] using hget

theorem unit?_eq_none_iff {outline : Outline} (known known' : String → Bool) :
    outline.unit? known = none ↔ outline.unit? known' = none := by
  have herased := outline.eraseKinds_unit? known known'
  cases h : outline.unit? known <;> cases h' : outline.unit? known' <;> simp_all

private theorem outline_of_read (hread : tree.read path = .ok content) :
    Loader.outline tree path =
      match Outline.ofSource? (Text.lossyText content).toList with
      | none => .error (.malformed path)
      | some outline => .ok outline := by
  cases h : Outline.ofSource? (Text.lossyText content).toList <;>
    simp only [Loader.outline, hread, h]

private theorem settled_loadDecl (loader : Loader) (hread : tree.read path = .ok content)
    {outline : Outline} (houtline : Outline.ofSource? (Text.lossyText content).toList = some outline)
    (typeName : String) :
    Settled (loadDecl loader tree path typeName : Stage σ (Except LoadError TypeDecl))
      (.ok ((loader.unitOf path outline).bind (Loader.declIn path typeName))) := by
  simp only [loadDecl, outline_of_read hread, houtline]
  exact (Settled.report _).okThen (Settled.ok _)

theorem settled_instantiable (loader : Loader) (hread : tree.read path = .ok content)
    (typeName : String) :
    Settled ((instantiableFilter loader tree : TypeFilter σ).accepts path typeName)
      (Plain.instantiable path content typeName) := by
  unfold Plain.instantiable
  cases houtline : Outline.ofSource? (Text.lossyText content).toList with
  | none =>
    have hdecl : Settled (loadDecl loader tree path typeName : Stage σ (Except LoadError TypeDecl))
        (.ok (.error (.malformed path))) := by
      simp only [loadDecl, outline_of_read hread, houtline]
      exact Settled.ok _
    exact hdecl.okThen ((Settled.report _).okThen (Settled.ok _))
  | some outline =>
    have hdecl : Settled (loadDecl loader tree path typeName : Stage σ (Except LoadError TypeDecl)) _ :=
      settled_loadDecl loader hread houtline typeName
    refine hdecl.okThen ?_
    cases hunit : outline.unit? loader.knows with
    | none =>
      have hnone := (unit?_eq_none_iff loader.knows fun _ => false).1 hunit
      simp only [Loader.unitOf, hunit, hnone, Except.bind]
      exact Settled.error _
    | some unit =>
      cases hplain : outline.unit? fun _ => false with
      | none => simp [(unit?_eq_none_iff loader.knows fun _ => false).2 hplain] at hunit
      | some unit' =>
        have hkind := instantiable_eq hunit hplain typeName
        simp only [Loader.unitOf, hunit, Except.bind, Loader.declIn]
        cases hget : unit.get? typeName with
        | none =>
          have hget' : unit'.get? typeName = none := by simpa [hget] using hkind.symm
          simp only [hplain, hget', Option.any_none]
          exact (Settled.report _).okThen (Settled.ok _)
        | some decl =>
          obtain ⟨decl', hget', heq⟩ := Option.map_eq_some_iff.1 (hkind.symm.trans (by rw [hget]; rfl))
          simp only [hplain, hget', Option.any_some, heq]
          exact Settled.ok _

theorem settled_keep_cons {f : TypeFilter σ} {rest : FilterChain σ} {typeName : String}
    {verdict next : Except Failure Bool}
    (hf : Settled (f.accepts path typeName) verdict)
    (hrest : verdict = .ok true → Settled (FilterChain.keep rest path typeName) next) :
    Settled (FilterChain.keep (f :: rest) path typeName)
      (verdict >>= fun keep => if keep then next else .ok false) := by
  refine hf.andThen ?_
  intro keep hkeep
  cases keep with
  | true => exact hrest hkeep
  | false => exact (Settled.report _).okThen (Settled.ok _)

theorem settled_keep_instantiable (loader : Loader) (hread : tree.read path = .ok content)
    (typeName : String) :
    Settled (FilterChain.keep [instantiableFilter (σ := σ) loader tree] path typeName)
      (Plain.instantiable path content typeName) := by
  have hplain : Plain.instantiable path content typeName =
      Plain.instantiable path content typeName >>= fun keep => if keep then .ok true else .ok false := by
    cases Plain.instantiable path content typeName with
    | error e => rfl
    | ok keep => cases keep <;> rfl
  rw [hplain]
  exact settled_keep_cons (settled_instantiable loader hread typeName) fun _ => Settled.ok _

/-- The verdict on a type does not depend on the types that are known. -/
theorem settled_keep (loader : Loader) (hread : tree.read path = .ok content) (typeName : String) :
    Settled ((standardChain (σ := σ) loader tree).keep path typeName)
      (Plain.accepts path content typeName) := by
  have hcontent : Settled ((contentFilter (σ := σ) tree).accepts path typeName)
      (.ok (mentionsAnnotations content)) := by
    simp only [contentFilter, hread]
    exact Settled.ok _
  exact settled_keep_cons hcontent fun _ => settled_keep_instantiable loader hread typeName

theorem settled_keptOf {chain : FilterChain σ}
    {verdict : String → Except Failure Bool}
    (h : ∀ t, Settled (chain.keep path t) (verdict t)) (types : List String) :
    Settled (keptOf chain path types) (Plain.keptBy verdict types) := by
  induction types with
  | nil => exact Settled.ok _
  | cons t types ih =>
    refine (h t).andThen ?_
    intro keep _
    refine ih.andThen ?_
    intro kept _
    exact Settled.ok _

theorem Plain.contentAt_of_read (hread : tree.read path = .ok content) :
    Plain.contentAt tree path = content := by
  rw [Plain.contentAt, hread]
  rfl

abbrev KeptMemo (inv : MemoryStore → Prop) (tree : FileTree) (f : ResolvedFile) : Prop :=
  Memo inv (Decoder.list Decoder.text) (fun kept => .array (kept.map .string)) .filter f.file
    f.file.fingerprint
    (Plain.keptAmong f.file.path (Plain.contentAt tree f.file.path) f.types)

def Readable (tree : FileTree) (f : ResolvedFile) : Prop :=
  ∃ content, tree.read f.file.path = .ok content

/-- What a chain keeps of a file is memoized if it makes no use of the store. -/
theorem memoizes_of_settled {chain : FilterChain MemoryStore} {f : ResolvedFile}
    {r : Except Failure (List String)} (h : Settled (keptOf chain f.file.path f.types) r) :
    Memoizes (Decoder.list Decoder.text) (fun kept => .array (kept.map .string)) .filter f.file
      f.file.fingerprint Except.ok r (∃ kept, r = .ok kept)
      (keptTypes MemoryStore.backend chain f) := by
  cases r with
  | error failure =>
    have hfail : ∀ s, (keptOf chain f.file.path f.types s).1 = .error failure := fun s => (h s).1
    apply Memoizes.of_stageRetrieve
    · exact fun _ kept => Quiet.pure (Except.ok kept)
    · intro s
      dsimp only
      rw [Stage.bind_error (hfail s)]
    · intro _ s
      dsimp only
      rw [Stage.bind_error (hfail s)]
      exact (h s).2
    · rintro ⟨kept, hok⟩
      cases hok
  | ok kept =>
    have hok : ∀ s, (keptOf chain f.file.path f.types s).1 = .ok kept := fun s => (h s).1
    apply Memoizes.of_stageRetrieve
    · exact fun _ kept => Quiet.pure (Except.ok kept)
    · intro s
      dsimp only
      rw [Stage.bind_ok (hok s)]
      rfl
    · exact fun h => absurd ⟨kept, rfl⟩ h
    · refine fun _ => ⟨kept, rfl, fun s => ?_⟩
      dsimp only
      rw [Stage.bind_ok (hok s), ← (h s).2]
      rfl

theorem memoizes_keptTypes (loader : Loader) {f : ResolvedFile} (hread : Readable tree f) :
    Memoizes (Decoder.list Decoder.text) (fun kept => .array (kept.map .string)) .filter f.file
      f.file.fingerprint Except.ok
      (Plain.keptAmong f.file.path (Plain.contentAt tree f.file.path) f.types)
      (∃ kept, Plain.keptAmong f.file.path (Plain.contentAt tree f.file.path) f.types = .ok kept)
      (keptTypes MemoryStore.backend (standardChain loader tree) f) := by
  obtain ⟨content, hread⟩ := hread
  rw [Plain.contentAt_of_read hread]
  exact memoizes_of_settled (settled_keptOf (settled_keep loader hread) f.types)

theorem gives_keptTypes (loader : Loader) {f : ResolvedFile} (hread : Readable tree f)
    (h : KeptMemo inv tree f) :
    Gives inv (keptTypes MemoryStore.backend (standardChain loader tree) f)
      (Plain.keptAmong f.file.path (Plain.contentAt tree f.file.path) f.types) :=
  (memoizes_keptTypes loader hread).gives h.found h.keeps

/-- What is kept of each file, one after the other. -/
theorem gives_keptLists_of_each {b : Backend σ} {inv : σ → Prop} {chain : FilterChain σ}
    {kept : ResolvedFile → Except Failure (List String)} {files : List ResolvedFile}
    (h : ∀ f ∈ files, Gives inv (keptTypes b chain f) (kept f)) :
    Gives inv (keptLists b chain files) (files.mapM kept) := by
  induction files with
  | nil => exact Gives.ok _
  | cons f files ih =>
    obtain ⟨hfirst, hrest⟩ := List.forall_mem_cons.1 h
    rw [List.mapM_cons]
    refine hfirst.andThen ?_
    intro kept _
    refine (ih hrest).andThen ?_
    intro more _
    exact Gives.ok _

theorem Plain.keptLists_eq_mapM (tree : FileTree) (files : List ResolvedFile) :
    Plain.keptLists tree files =
      files.mapM fun f => keptAmong f.file.path (contentAt tree f.file.path) f.types := by
  induction files with
  | nil => rfl
  | cons f files ih => rw [keptLists, List.mapM_cons, ih]

theorem gives_keptLists (loader : Loader) {files : List ResolvedFile}
    (h : ∀ f ∈ files, Readable tree f ∧ KeptMemo inv tree f) :
    Gives inv (keptLists MemoryStore.backend (standardChain loader tree) files)
      (Plain.keptLists tree files) := by
  rw [Plain.keptLists_eq_mapM]
  exact gives_keptLists_of_each fun f hf => gives_keptTypes loader (h f hf).1 (h f hf).2

theorem gives_keepTypes (loader : Loader) {map : ClassMap}
    (h : ∀ f ∈ map.files, Readable tree f ∧ KeptMemo inv tree f) :
    Gives inv (keepTypes MemoryStore.backend (standardChain loader tree) map)
      (Plain.kept tree map) := by
  have hplain : Plain.kept tree map =
      Plain.keptLists tree map.files >>= fun kept => .ok (map.retainWith kept) := by
    rw [Plain.kept]
    cases Plain.keptLists tree map.files <;> rfl
  rw [hplain]
  refine (gives_keptLists loader h).andThen ?_
  intro kept _
  exact Gives.ok _

theorem settled_unitRecords (options : ExtractOptions) (path : Path) (unit : CompilationUnit)
    (types : List String) :
    Settled (unitRecords options path unit types : Stage σ (List TypeRecords)) (.ok (Plain.recordsIn options unit types)) := by
  induction types with
  | nil => exact Settled.ok _
  | cons t types ih =>
    rw [unitRecords, Plain.recordsIn, List.filterMap_cons]
    cases hget : unit.get? t with
    | none => exact (Settled.report _).okThen ih
    | some decl => exact (Settled.report _).okThen (ih.okThen (Settled.ok _))

abbrev RecordsMemo (inv : MemoryStore → Prop) (options : ExtractOptions) (loader : Loader)
    (tree : FileTree) (f : ResolvedFile) : Prop :=
  Memo inv (Decoder.list TypeRecords.decoder) (fun records => .array (records.map TypeRecords.toJson))
    .extract f.file (recordsFingerprint options loader.locations f)
    (Plain.fileRecords options loader.knows f.file.path (Plain.contentAt tree f.file.path) f.types)

theorem settled_unitToExtract (loader : Loader) (hread : tree.read path = .ok content) :
    Settled (unitToExtract loader tree path : Stage σ (Option CompilationUnit))
      (match Outline.ofSource? (Text.lossyText content).toList with
      | none => .ok none
      | some outline =>
        match outline.unit? loader.knows with
        | none => .error (.load (.splitCharacter path))
        | some unit => .ok (some unit)) := by
  cases houtline : Outline.ofSource? (Text.lossyText content).toList with
  | none =>
    simp only [unitToExtract, outline_of_read hread, houtline]
    exact (Settled.report _).okThen (Settled.ok _)
  | some outline =>
    simp only [unitToExtract, outline_of_read hread, houtline, Loader.unitOf]
    cases outline.unit? loader.knows with
    | none => exact (Settled.report _).okThen (Settled.error _)
    | some unit => exact (Settled.report _).okThen (Settled.ok _)

theorem memoizes_fileRecords (options : ExtractOptions) (loader : Loader) {f : ResolvedFile}
    (hread : Readable tree f) :
    Memoizes (Decoder.list TypeRecords.decoder)
      (fun records => .array (records.map TypeRecords.toJson)) .extract f.file
      (recordsFingerprint options loader.locations f) Except.ok
      (Plain.fileRecords options loader.knows f.file.path (Plain.contentAt tree f.file.path)
        f.types)
      (∃ outline unit, Outline.ofSource?
        (Text.lossyText (Plain.contentAt tree f.file.path)).toList = some outline ∧
          outline.unit? loader.knows = some unit)
      (fileRecords MemoryStore.backend options loader tree f) := by
  obtain ⟨content, hread⟩ := hread
  have hunit := settled_unitToExtract (σ := MemoryStore) loader hread
  rw [Plain.contentAt_of_read hread, Plain.fileRecords]
  have hsome : ∀ (s : Session MemoryStore) (records : List TypeRecords),
      Quiet (pure records : Stage MemoryStore (List TypeRecords)) s (.ok records) :=
    fun s records => Quiet.pure (Except.ok records)
  cases houtline : Outline.ofSource? (Text.lossyText content).toList with
  | none =>
    simp only [houtline] at hunit
    apply Memoizes.of_stageRetrieve hsome
    · intro s
      dsimp only
      rw [Stage.bind_ok (hunit s).1]
      rfl
    · intro _ s
      dsimp only
      rw [Stage.bind_ok (hunit s).1]
      exact (hunit s).2
    · rintro ⟨outline, unit, hnone, -⟩
      cases hnone
  | some outline =>
    simp only [houtline] at hunit
    cases hunit? : outline.unit? loader.knows with
    | none =>
      simp only [hunit?] at hunit ⊢
      apply Memoizes.of_stageRetrieve hsome
      · intro s
        dsimp only
        rw [Stage.bind_error (hunit s).1]
      · intro _ s
        dsimp only
        rw [Stage.bind_error (hunit s).1]
        exact (hunit s).2
      · rintro ⟨outline', unit, hsame, hnone⟩
        cases hsame
        rw [hunit?] at hnone
        cases hnone
    | some unit =>
      simp only [hunit?] at hunit ⊢
      have hrecords := settled_unitRecords (σ := MemoryStore) options f.file.path unit f.types
      apply Memoizes.of_stageRetrieve hsome
      · intro s
        dsimp only
        rw [Stage.bind_ok (hunit s).1]
        dsimp only
        rw [Stage.bind_ok (hrecords _).1]
        rfl
      · exact fun h => absurd ⟨outline, unit, rfl, hunit?⟩ h
      · refine fun _ => ⟨_, rfl, fun s => ?_⟩
        dsimp only
        rw [Stage.bind_ok (hunit s).1]
        dsimp only
        rw [Stage.bind_ok (hrecords _).1]
        exact congrArg (fun store : MemoryStore => store.insert .extract f.file.key _)
          ((hrecords _).2.trans (hunit s).2)

theorem gives_fileRecords {options : ExtractOptions} {loader : Loader} {f : ResolvedFile}
    (hread : Readable tree f) (h : RecordsMemo inv options loader tree f) :
    Gives inv (fileRecords MemoryStore.backend options loader tree f)
      (Plain.fileRecords options loader.knows f.file.path (Plain.contentAt tree f.file.path)
        f.types) :=
  (memoizes_fileRecords options loader hread).gives h.found h.keeps

theorem gives_recordsOf {options : ExtractOptions} {loader : Loader} (map : ClassMap)
    {files : List ResolvedFile}
    (h : ∀ f ∈ files, f.types ≠ [] → Readable tree f ∧ RecordsMemo inv options loader tree f) :
    Gives inv (recordsOf MemoryStore.backend options loader tree map files)
      (Plain.recordsOf options loader.knows tree map files) := by
  induction files with
  | nil => exact Gives.ok _
  | cons f files ih =>
    have hfiles := ih fun g hg => h g (List.mem_cons_of_mem f hg)
    rw [recordsOf, Plain.recordsOf]
    by_cases hempty : f.types.isEmpty = true
    · rw [if_pos hempty, if_pos hempty]
      exact hfiles
    · rw [if_neg hempty, if_neg hempty]
      have hne : f.types ≠ [] := by simpa using hempty
      obtain ⟨hread, hmemo⟩ := h f List.mem_cons_self hne
      refine (gives_fileRecords hread hmemo).andThen ?_
      intro records _
      refine hfiles.andThen ?_
      intro more _
      exact Gives.ok _

structure RunMemo (inv : MemoryStore → Prop) (config : Config) (exclusion : Option Pattern)
    (tree : FileTree) : Prop where
  headers : ∀ paths, Plain.sources tree config.includePaths = .ok paths → ∀ path ∈ paths,
    ∀ content, isExcluded exclusion path = false → tree.read path = .ok content →
      HeaderMemo inv path content
  kept : ∀ r, Plain.resolution tree (isExcluded exclusion) config.includePaths = .ok r →
    ∀ f ∈ r.map.files, Readable tree f ∧ KeptMemo inv tree f
  records : ∀ r map, Plain.resolution tree (isExcluded exclusion) config.includePaths = .ok r →
    Plain.kept tree r.map = .ok map → ∀ f ∈ map.files, f.types ≠ [] →
      Readable tree f ∧
        RecordsMemo inv config.extractOptions { locations := r.map.locations } tree f

theorem gives_collect {config : Config} {exclusion : Option Pattern}
    (h : RunMemo inv config exclusion tree) :
    Gives inv (collect MemoryStore.backend standardChain config exclusion tree)
      (Plain.collect config exclusion tree) := by
  refine (gives_resolve h.headers).andThen ?_
  intro r hr
  refine (gives_keepTypes _ (h.kept r hr)).andThen ?_
  intro map hmap
  refine (gives_recordsOf map (h.records r map hr hmap)).andThen ?_
  intro records _
  exact Gives.ok _

end AnnotationIndex
