import AnnotationIndex.Proofs.Run.Files
import AnnotationIndex.Run.Report

/-!
# What a run reads

A run depends on the files through the list of its sources and through what it reads at their paths,
and on nothing else. Each of its stages reads the sources on its own, so this also tells when it
makes no difference that the files are edited between two stages.
-/

namespace AnnotationIndex

open Java

variable {σ : Type} {b : Backend σ} {tree tree' : FileTree}

theorem resolveAll_congr {excluded : Path → Bool} {paths : List Path}
    (h : ∀ path ∈ paths, tree'.read path = tree.read path) (r : Resolution) :
    resolveAll b tree' excluded r paths = resolveAll b tree excluded r paths := by
  induction paths generalizing r with
  | nil => rfl
  | cons path paths ih =>
    obtain ⟨hpath, hpaths⟩ := List.forall_mem_cons.1 h
    simp only [resolveAll, resolveNext, resolveFile, hpath, ih hpaths]

theorem resolve_eq (b : Backend σ) (tree : FileTree) (excluded : Path → Bool) (roots : List Path) :
    resolve b tree excluded roots = (liftM (Plain.sources tree roots) : Stage σ (List Path)) >>=
      fun paths => (liftM (resolveAll b tree excluded .empty paths) : Stage σ Resolution) := by
  rw [resolve, Plain.sources]
  cases roots.mapM (canonicalRoot tree) <;> rfl

/-- The same sources are found, and the same is read there. -/
structure SameSources (roots : List Path) (tree tree' : FileTree) : Prop where
  sources : Plain.sources tree' roots = Plain.sources tree roots
  read : ∀ paths, Plain.sources tree roots = .ok paths → ∀ path ∈ paths,
    tree'.read path = tree.read path

theorem resolve_congr {excluded : Path → Bool} {roots : List Path}
    (h : SameSources roots tree tree') :
    resolve b tree' excluded roots = resolve b tree excluded roots := by
  rw [resolve_eq, resolve_eq, h.sources]
  funext s
  refine Stage.bind_congr fun paths hpaths => ?_
  rw [resolveAll_congr (h.read paths hpaths)]

theorem readable_of_resolveFile {path : Path} {s : Session σ} {f : ResolvedFile}
    (h : (resolveFile b tree path s).1 = .ok f) : f.file.path = path ∧ Readable tree f := by
  unfold resolveFile at h
  cases hread : tree.read path with
  | error fault =>
    rw [hread] at h
    cases h
  | ok content =>
    rw [hread] at h
    cases h
    exact ⟨rfl, content, hread⟩

theorem readable_of_resolveNext {excluded : Path → Bool} {r : Resolution} {path : Path}
    {s : Session σ} : ∀ f ∈ (resolveNext b tree excluded r path s).1.map.files,
      f ∈ r.map.files ∨ f.file.path = path ∧ excluded path = false ∧ Readable tree f := by
  intro f hf
  unfold resolveNext at hf
  split at hf
  · exact .inl hf
  · rename_i hexcluded
    rw [bind_apply] at hf
    cases hfile : (resolveFile b tree path s).1 with
    | error fault =>
      rw [hfile] at hf
      exact .inl hf
    | ok g =>
      rw [hfile] at hf
      dsimp only at hf
      split at hf
      · exact .inl hf
      · rcases List.mem_append.1 hf with hf | hf
        · exact .inl hf
        · rw [List.mem_singleton.1 hf]
          obtain ⟨hpath, hread⟩ := readable_of_resolveFile hfile
          exact .inr ⟨hpath, by simpa using hexcluded, hread⟩

theorem readable_of_resolveAll {excluded : Path → Bool} {paths : List Path} {r : Resolution}
    {s : Session σ} : ∀ f ∈ (resolveAll b tree excluded r paths s).1.map.files,
      f ∈ r.map.files ∨
        f.file.path ∈ paths.filter (!excluded ·) ∧ Readable tree f := by
  induction paths generalizing r s with
  | nil => exact fun f hf => .inl hf
  | cons path paths ih =>
    intro f hf
    rcases ih f hf with hf | hf
    · rcases readable_of_resolveNext f hf with hf | ⟨rfl, hexcluded, hread⟩
      · exact .inl hf
      · exact .inr ⟨List.mem_filter.2 ⟨List.mem_cons_self, by simp [hexcluded]⟩, hread⟩
    · obtain ⟨hmem, hexcluded⟩ := List.mem_filter.1 hf.1
      exact .inr ⟨List.mem_filter.2 ⟨List.mem_cons_of_mem path hmem, hexcluded⟩, hf.2⟩

variable {loader : Loader}

theorem outline_congr {path : Path} (h : tree'.read path = tree.read path) :
    Loader.outline tree' path = Loader.outline tree path := by
  simp only [Loader.outline, h]

theorem keep_congr {path : Path} (h : tree'.read path = tree.read path) (typeName : String) :
    (standardChain (σ := σ) loader tree').keep path typeName =
      (standardChain loader tree).keep path typeName := by
  simp only [standardChain, FilterChain.keep, contentFilter, instantiableFilter, loadDecl, h,
    outline_congr h]

theorem keptTypes_congr {f : ResolvedFile} (h : tree'.read f.file.path = tree.read f.file.path) :
    keptTypes b (standardChain loader tree') f = keptTypes b (standardChain loader tree) f := by
  have hkept : ∀ types, keptOf (standardChain (σ := σ) loader tree') f.file.path types =
      keptOf (standardChain loader tree) f.file.path types := by
    intro types
    induction types with
    | nil => rfl
    | cons t types ih => rw [keptOf, keptOf, keep_congr h, ih]
  rw [keptTypes, keptTypes, hkept]

theorem keptLists_congr {files : List ResolvedFile}
    (h : ∀ f ∈ files, tree'.read f.file.path = tree.read f.file.path) :
    keptLists b (standardChain loader tree') files =
      keptLists b (standardChain loader tree) files := by
  induction files with
  | nil => rfl
  | cons f files ih =>
    obtain ⟨hf, hfiles⟩ := List.forall_mem_cons.1 h
    rw [keptLists, keptLists, keptTypes_congr hf, ih hfiles]

theorem path_of_keepTypes {chain : FilterChain σ} {map map' : ClassMap} {s : Session σ}
    (h : (keepTypes b chain map s).1 = .ok map') :
    ∀ f ∈ map'.files, ∃ g ∈ map.files, g.file = f.file := by
  obtain ⟨lists, -, hmap⟩ := Stage.of_bind_ok h
  cases hmap
  intro f hf
  rw [ClassMap.files_retainWith] at hf
  obtain ⟨p, hp, rfl⟩ := List.mem_map.1 hf
  exact ⟨p.1, (List.of_mem_zip hp).1, rfl⟩

theorem recordsOf_congr {options : ExtractOptions} {map : ClassMap} {files : List ResolvedFile}
    (h : ∀ f ∈ files, tree'.read f.file.path = tree.read f.file.path) :
    recordsOf b options loader tree' map files = recordsOf b options loader tree map files := by
  induction files with
  | nil => rfl
  | cons f files ih =>
    obtain ⟨hf, hfiles⟩ := List.forall_mem_cons.1 h
    simp only [recordsOf, ih hfiles, fileRecords, unitToExtract, outline_congr hf]

/-- The collection of a run whose three stages find the files in three states. -/
def collectAcross (b : Backend σ) (chain : ChainOf σ) (config : Config) (exclusion : Option Pattern)
    (resolved filtered extracted : FileTree) : Stage σ Collected := do
  let resolution ← resolve b resolved (isExcluded exclusion) config.includePaths
  let loader : Loader := { locations := resolution.map.locations }
  let kept ← keepTypes b (chain loader filtered) resolution.map
  let records ← extractAll b config.extractOptions loader extracted kept
  let collection := Collection.empty.addAll records kept.owner?
  let collection :=
    if config.captureArguments then collection
    else { collection with knownTypes := namesInScope kept loader.locations collection }
  return ⟨resolution, kept, collection⟩

theorem collectAcross_same (b : Backend σ) (chain : ChainOf σ) (config : Config)
    (exclusion : Option Pattern) (tree : FileTree) :
    collectAcross b chain config exclusion tree tree tree = collect b chain config exclusion tree :=
  rfl

/-- If every stage finds the same at the paths of the sources, a run collects what it collects from
files that are not edited. -/
theorem collectAcross_eq {config : Config} {exclusion : Option Pattern}
    {tree resolved filtered extracted : FileTree}
    (hresolved : SameSources config.includePaths tree resolved)
    (h : ∀ paths, Plain.sources tree config.includePaths = .ok paths → ∀ path ∈ paths,
      filtered.read path = tree.read path ∧ extracted.read path = tree.read path)
    (s : Session σ) :
    collectAcross b standardChain config exclusion resolved filtered extracted s =
      collect b standardChain config exclusion tree s := by
  rw [← collectAcross_same, collectAcross, collectAcross, resolve_congr hresolved]
  refine Stage.bind_congr fun r hr => ?_
  have hfiles : ∀ f ∈ r.map.files, filtered.read f.file.path = tree.read f.file.path ∧
      extracted.read f.file.path = tree.read f.file.path := by
    intro f hf
    rw [resolve_eq] at hr
    obtain ⟨paths, hpaths, hr⟩ := Stage.of_bind_ok hr
    cases hr
    rcases readable_of_resolveAll f hf with hf | ⟨hpath, -⟩
    · cases hf
    · exact h paths hpaths _ (List.mem_filter.1 hpath).1
  have hkeep : keepTypes b (standardChain { locations := r.map.locations } filtered) r.map =
      keepTypes b (standardChain { locations := r.map.locations } tree) r.map := by
    rw [keepTypes, keepTypes, keptLists_congr fun f hf => (hfiles f hf).1]
  rw [hkeep]
  refine Stage.bind_congr fun kept hkept => ?_
  rw [extractAll, extractAll, recordsOf_congr]
  intro f hf
  obtain ⟨g, hg, hfile⟩ := path_of_keepTypes hkept f hf
  rw [← hfile]
  exact (hfiles g hg).2

end AnnotationIndex
