import AnnotationIndex.Proofs.Index.Ownership
import AnnotationIndex.Proofs.Run.Stages
import AnnotationIndex.Proofs.Store.SaltKeys

/-!
# The files of a run

Every file that a run resolves was read from the tree, and every file whose types are kept is one of
these with some of its types. The types that have a location are names that headers declare.
-/

namespace AnnotationIndex

open Java

namespace Plain

variable {tree : FileTree} {excluded : Path → Bool}

structure FoundIn (tree : FileTree) (paths : List Path) (f : ResolvedFile) : Prop where
  read : tree.read f.file.path = .ok (contentAt tree f.file.path)
  mem : f.file.path ∈ paths
  eq : f = fileWith f.file.path (contentAt tree f.file.path)

private theorem foundIn_next {paths : List Path} {r : Resolution} {path : Path}
    (hr : ∀ f ∈ r.map.files, FoundIn tree paths f) (hpath : excluded path = false → path ∈ paths) :
    ∀ f ∈ (next tree excluded r path).map.files, FoundIn tree paths f := by
  intro f hf
  unfold next at hf
  cases hexcluded : excluded path with
  | true =>
    simp only [hexcluded, if_true] at hf
    exact hr f hf
  | false =>
    cases hread : tree.read path with
    | error fault =>
      simp only [hexcluded, hread] at hf
      exact hr f hf
    | ok content =>
      simp only [hexcluded, hread, Bool.false_eq_true, if_false] at hf
      split at hf
      · exact hr f hf
      · simp only [ClassMap.push, List.mem_append, List.mem_singleton] at hf
        rcases hf with hf | rfl
        · exact hr f hf
        · have hcontent : contentAt tree (fileWith path content).file.path = content :=
            contentAt_of_read hread
          refine ⟨?_, hpath hexcluded, ?_⟩
          · rw [hcontent]
            exact hread
          · rw [hcontent]
            rfl

theorem foundIn_resolution {paths : List Path} :
    ∀ f ∈ (paths.foldl (next tree excluded) .empty).map.files,
      FoundIn tree (paths.filter (!excluded ·)) f := by
  have hall : ∀ (rest : List Path) (r : Resolution), (∀ path ∈ rest, path ∈ paths) →
      (∀ f ∈ r.map.files, FoundIn tree (paths.filter (!excluded ·)) f) →
      ∀ f ∈ (rest.foldl (next tree excluded) r).map.files,
        FoundIn tree (paths.filter (!excluded ·)) f := by
    intro rest
    induction rest with
    | nil => exact fun r _ hr => hr
    | cons path rest ih =>
      intro r hsub hr
      apply ih
      · exact fun p hp => hsub p (List.mem_cons_of_mem path hp)
      · exact foundIn_next hr fun hexcluded =>
          List.mem_filter.2 ⟨hsub path List.mem_cons_self, by simp [hexcluded]⟩
  exact hall paths .empty (fun _ hp => hp) (by simp [Resolution.empty, ClassMap.empty])

theorem bind_eq_ok {ε α β : Type} {x : Except ε α} {f : α → Except ε β} {b : β}
    (h : (x >>= f) = .ok b) : ∃ a, x = .ok a ∧ f a = .ok b := by
  cases x with
  | error e => cases h
  | ok a => exact ⟨a, rfl, h⟩

theorem of_mem_zip {α : Type} {kept : ResolvedFile → Except Failure α} {files : List ResolvedFile}
    {lists : List α} (h : files.mapM kept = .ok lists) :
    ∀ p ∈ files.zip lists, p.1 ∈ files ∧ kept p.1 = .ok p.2 := by
  induction files generalizing lists with
  | nil => simp
  | cons f files ih =>
    rw [List.mapM_cons] at h
    obtain ⟨types, htypes, hrest⟩ := bind_eq_ok h
    obtain ⟨more, hmore, heq⟩ := bind_eq_ok hrest
    cases heq
    intro p hp
    rcases List.mem_cons.1 hp with rfl | hp
    · exact ⟨List.mem_cons_self, htypes⟩
    · obtain ⟨hmem, hkept⟩ := ih hmore p hp
      exact ⟨List.mem_cons_of_mem f hmem, hkept⟩

theorem mem_kept {map map' : ClassMap} (h : kept tree map = .ok map') {f : ResolvedFile}
    (hf : f ∈ map'.files) : ∃ g ∈ map.files, f = { g with types := f.types } ∧
      keptAmong g.file.path (contentAt tree g.file.path) g.types = .ok f.types := by
  cases hlists : keptLists tree map.files with
  | error e => simp [kept, hlists, Except.map] at h
  | ok lists =>
    simp only [kept, hlists, Except.map, Except.ok.injEq] at h
    rw [← h, ClassMap.files_retainWith, List.mem_map] at hf
    obtain ⟨p, hp, rfl⟩ := hf
    rw [keptLists_eq_mapM] at hlists
    obtain ⟨hmem, hkept⟩ := of_mem_zip hlists p hp
    exact ⟨p.1, hmem, rfl, hkept⟩

theorem instantiable_path {path : Path} {content : List UInt8} {t : String} {keep : Bool}
    (h : instantiable path content t = .ok keep) (path' : Path) :
    instantiable path' content t = .ok keep := by
  unfold instantiable at h ⊢
  cases houtline : Outline.ofSource? (Text.lossyText content).toList with
  | none => simpa [houtline] using h
  | some outline =>
    simp only [houtline] at h ⊢
    cases hunit : outline.unit? fun _ => false with
    | none => simp [hunit] at h
    | some unit => simpa [hunit] using h

theorem accepts_path {path : Path} {content : List UInt8} {t : String} {keep : Bool}
    (h : accepts path content t = .ok keep) (path' : Path) :
    accepts path' content t = .ok keep := by
  unfold accepts at h ⊢
  split
  · rename_i hmentions
    rw [if_pos hmentions] at h
    exact instantiable_path h path'
  · rename_i hmentions
    rwa [if_neg hmentions] at h

theorem keptAmong_of_not_mentions {content : List UInt8}
    (h : mentionsAnnotations content = false) (path : Path) (types : List String) :
    keptAmong path content types = .ok [] := by
  induction types with
  | nil => rfl
  | cons t rest ih =>
    rw [keptAmong] at ih ⊢
    simp [keptBy, accepts, h, ih, bind, Except.bind, pure, Except.pure]

theorem keptAmong_of_outline {content : List UInt8} {outline : Outline} {unit : CompilationUnit}
    (hmentions : mentionsAnnotations content = true)
    (houtline : Outline.ofSource? (Text.lossyText content).toList = some outline)
    (hunit : (outline.unit? fun _ => false) = some unit) (path : Path) (types : List String) :
    keptAmong path content types =
      .ok (types.filter fun t => (unit.get? t).any (·.kind ≠ .interfaceType)) := by
  have haccepts : ∀ t, accepts path content t =
      .ok ((unit.get? t).any (·.kind ≠ .interfaceType)) := by
    intro t
    simp only [accepts, instantiable, hmentions, houtline, hunit, if_true]
  induction types with
  | nil => rfl
  | cons t types ih =>
    rw [keptAmong] at ih ⊢
    rw [keptBy, haccepts, ih, List.filter_cons]
    rfl

theorem keptBy_of_verdicts {verdict verdict' : String → Except Failure Bool}
    (hverdict : ∀ t keep, verdict t = .ok keep → verdict' t = .ok keep) {types kept : List String}
    (h : keptBy verdict types = .ok kept) : keptBy verdict' types = .ok kept := by
  induction types generalizing kept with
  | nil => exact h
  | cons t types ih =>
    obtain ⟨keep, hkeep, hrest⟩ := bind_eq_ok h
    obtain ⟨more, hmore, heq⟩ := bind_eq_ok hrest
    cases heq
    rw [keptBy, hverdict t keep hkeep, ih hmore]
    rfl

theorem keptAmong_path {path : Path} {content : List UInt8} {types kept : List String}
    (h : keptAmong path content types = .ok kept) (path' : Path) :
    keptAmong path' content types = .ok kept :=
  keptBy_of_verdicts (fun _ _ hkeep => accepts_path hkeep path') h

theorem fileRecords_of_outline {content : List UInt8} {outline : Outline} {known : String → Bool}
    {unit : CompilationUnit}
    (houtline : Outline.ofSource? (Text.lossyText content).toList = some outline)
    (hunit : outline.unit? known = some unit) (options : ExtractOptions) (path : Path)
    (types : List String) :
    fileRecords options known path content types = .ok (recordsIn options unit types) := by
  simp only [fileRecords, houtline, hunit]

theorem fileRecords_path {options : ExtractOptions} {known : String → Bool} {path : Path}
    {content : List UInt8} {types : List String} {records : List TypeRecords}
    (h : fileRecords options known path content types = .ok records) (path' : Path) :
    fileRecords options known path' content types = .ok records := by
  unfold fileRecords at h ⊢
  cases houtline : Outline.ofSource? (Text.lossyText content).toList with
  | none => simpa [houtline] using h
  | some outline =>
    simp only [houtline] at h ⊢
    cases hunit : outline.unit? known with
    | none => simp [hunit] at h
    | some unit => simpa [hunit] using h

/-- Records depend on the known types only within the packages of the file. -/
theorem fileRecords_known {options : ExtractOptions} {known known' : String → Bool} {path : Path}
    {content : List UInt8} {types : List String}
    (h : ∀ outline, Outline.ofSource? (Text.lossyText content).toList = some outline →
      outline.scope.Agree known known') :
    fileRecords options known path content types = fileRecords options known' path content types := by
  unfold fileRecords
  cases houtline : Outline.ofSource? (Text.lossyText content).toList with
  | none => rfl
  | some outline => simp only [Outline.unit?_congr (h outline houtline)]

def collectedFrom (config : Config) (r : Resolution) (map : ClassMap)
    (records : List TypeRecords) : Collected :=
  let collection := Collection.empty.addAll records map.owner?
  ⟨r, map, if config.captureArguments then collection
    else { collection with knownTypes := namesInScope map r.map.locations collection }⟩

theorem collect_of_recordsOf {config : Config} {exclusion : Option Pattern} {r : Resolution}
    (hr : resolution tree (isExcluded exclusion) config.includePaths = .ok r) {map : ClassMap}
    (hkept : kept tree r.map = .ok map) {records : List TypeRecords}
    (hrecords : recordsOf config.extractOptions (Loader.knows { locations := r.map.locations }) tree
      map map.files = .ok records) :
    collect config exclusion tree = .ok (collectedFrom config r map records) := by
  rw [collect, hr]
  simp only [Except.bind, collectFrom, hkept, bind, hrecords]
  rfl

theorem scanned_locations {paths : List Path} {map : ClassMap}
    (h : ∀ f ∈ map.files, FoundIn tree paths f) : Scanned map.locations := by
  intro name hname
  rw [ClassMap.locations, KeyMap.contains_ofList, List.map_map, List.mem_map] at hname
  obtain ⟨⟨file, t⟩, hentry, rfl⟩ := hname
  obtain ⟨f, hf, hentry⟩ := List.mem_flatMap.1 hentry
  obtain ⟨u, hu, heq⟩ := List.mem_map.1 hentry
  cases heq
  have hfound := h f hf
  have htypes : t ∈ (headerOf (contentAt tree f.file.path)).types := by
    have hmem := (List.mem_filter.1 hu).1
    rw [hfound.eq] at hmem
    exact hmem
  exact ⟨_, htypes⟩

end Plain

end AnnotationIndex
