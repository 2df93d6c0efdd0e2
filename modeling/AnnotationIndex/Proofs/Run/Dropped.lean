import AnnotationIndex.Proofs.Run.Repetition

/-!
# Types that a run drops

The class map of a run is made of the files that it finds, one after the other, and what it keeps of
a file are types that the file declares. So every type stays with its owner or is dropped, and no
run keeps more types than it finds.
-/

namespace AnnotationIndex

open Java

namespace Plain

theorem sublist_of_keptAmong {path : Path} {content : List UInt8} {types kept : List String}
    (h : keptAmong path content types = .ok kept) : kept.Sublist types := by
  induction types generalizing kept with
  | nil =>
    cases h
    exact .slnil
  | cons t types ih =>
    obtain ⟨keep, -, h⟩ := bind_eq_ok h
    obtain ⟨more, hmore, heq⟩ := bind_eq_ok h
    cases heq
    cases keep with
    | true => exact (ih hmore).cons_cons t
    | false => exact (ih hmore).cons t

theorem sublists_of_keptLists {tree : FileTree} {files : List ResolvedFile}
    {lists : List (List String)} (h : keptLists tree files = .ok lists) :
    List.Forall₂ (fun f types => types.Sublist f.types) files lists := by
  induction files generalizing lists with
  | nil =>
    cases h
    exact .nil
  | cons f files ih =>
    obtain ⟨kept, hkept, h⟩ := bind_eq_ok h
    obtain ⟨more, hmore, heq⟩ := bind_eq_ok h
    cases heq
    exact .cons (sublist_of_keptAmong hkept) (ih hmore)

theorem retained_of_kept {tree : FileTree} {map map' : ClassMap} (h : kept tree map = .ok map') :
    ∃ lists, List.Forall₂ (fun f types => types.Sublist f.types) map.files lists ∧
      map' = map.retainWith lists := by
  unfold kept at h
  cases hlists : keptLists tree map.files with
  | error e => simp [hlists, Except.map] at h
  | ok lists =>
    simp only [hlists, Except.map, Except.ok.injEq] at h
    exact ⟨lists, sublists_of_keptLists hlists, h.symm⟩

theorem ofFiles_resolution {tree : FileTree} {excluded : Path → Bool} {roots : List Path}
    {r : Resolution} (h : resolution tree excluded roots = .ok r) :
    ∃ files, r.map = ClassMap.ofFiles files := by
  have hnext : ∀ (r : Resolution) (path : Path), (∃ files, r.map = ClassMap.ofFiles files) →
      ∃ files, (next tree excluded r path).map = ClassMap.ofFiles files := by
    rintro r path ⟨files, hfiles⟩
    unfold next
    split
    · exact ⟨files, hfiles⟩
    · split
      · exact ⟨files, hfiles⟩
      · rename_i content _
        split
        · exact ⟨files, hfiles⟩
        · refine ⟨files ++ [fileWith path content], ?_⟩
          rw [ClassMap.ofFiles_concat, ← hfiles]
  unfold resolution at h
  cases hsources : sources tree roots with
  | error e => simp [hsources, Except.map] at h
  | ok paths =>
    simp only [hsources, Except.map, Except.ok.injEq] at h
    rw [← h]
    clear h hsources
    induction paths using List.reverseRecOn with
    | nil => exact ⟨[], rfl⟩
    | append_singleton paths path ih =>
      rw [List.foldl_append]
      exact hnext _ path ih

end Plain

/-- The types that a run finds and those that it keeps. -/
def keeping (config : Config) (tree : FileTree) : Stage MemoryStore (Resolution × ClassMap) := do
  let exclusion ← prepare config tree
  let resolution ← resolve MemoryStore.backend tree (isExcluded exclusion) config.includePaths
  let kept ← keepTypes MemoryStore.backend
    (standardChain { locations := resolution.map.locations } tree) resolution.map
  return (resolution, kept)

theorem keeping_of_collecting {config : Config} {tree : FileTree} {s : Session MemoryStore}
    {c : Collected} (h : (collecting config tree s).1 = .ok c) :
    (keeping config tree s).1 = .ok (c.resolution, c.kept) := by
  obtain ⟨exclusion, hprepare, h⟩ := Stage.of_bind_ok h
  obtain ⟨resolution, hresolve, h⟩ := Stage.of_bind_ok h
  obtain ⟨kept, hkeep, h⟩ := Stage.of_bind_ok h
  obtain ⟨records, -, h⟩ := Stage.of_bind_ok h
  cases h
  rw [keeping, Stage.bind_ok hprepare, Stage.bind_ok hresolve, Stage.bind_ok hkeep]
  rfl

theorem keeping_of_run {config : Config} {s : RunState MemoryStore} {report : RunReport}
    (h : (run MemoryStore.backend config s).1 = .ok report) :
    ∃ resolution kept, (keeping config s.tree s.session).1 = .ok (resolution, kept) ∧
      report.typesResolved = resolution.map.size ∧ report.typesKept = kept.size := by
  obtain ⟨c, hcollecting, hwrite⟩ := collecting_of_run h
  rw [run_of_ok (Prod.ext hcollecting rfl), hwrite] at h
  cases h
  exact ⟨c.resolution, c.kept, keeping_of_collecting hcollecting, rfl, rfl⟩

/-- Whatever was filed in earlier runs, a run drops types of the files that it finds. -/
theorem retained_of_keeping {runs : List Setting} (h : ContentsApart runs) {r : Setting}
    (hr : r ∈ runs) {s : Session MemoryStore} (hs : Described runs s.store)
    {resolution : Resolution} {kept : ClassMap}
    (hkeeping : (keeping r.config r.tree s).1 = .ok (resolution, kept)) :
    ∃ files lists, resolution.map = ClassMap.ofFiles files ∧
      List.Forall₂ (fun f types => types.Sublist f.types) files lists ∧
      kept = (ClassMap.ofFiles files).retainWith lists := by
  have hd := describes_described runs
  obtain ⟨exclusion, hprepare, hrest⟩ := Stage.of_bind_ok hkeeping
  obtain ⟨hprepare', hprepared⟩ := gives_prepare r.config r.tree s hs
  rw [hprepare] at hprepare'
  obtain ⟨resolution', hresolve, hrest⟩ := Stage.of_bind_ok hrest
  obtain ⟨hresolve', hresolved⟩ :=
    gives_resolve (headersMemo hd h hr hprepare'.symm) _ hprepared
  rw [hresolve] at hresolve'
  obtain ⟨map, hkeep, heq⟩ := Stage.of_bind_ok hrest
  obtain ⟨hkeep', -⟩ := gives_keepTypes { locations := resolution'.map.locations }
    (keptMemos hd h hr hprepare'.symm hresolve'.symm) _ hresolved
  rw [hkeep] at hkeep'
  cases heq
  obtain ⟨files, hfiles⟩ := Plain.ofFiles_resolution hresolve'.symm
  obtain ⟨lists, hlists, hmap⟩ := Plain.retained_of_kept hkeep'.symm
  rw [hfiles, ClassMap.files_ofFiles] at hlists
  rw [hfiles] at hmap
  exact ⟨files, lists, hfiles, hlists, hmap⟩

/-- The last of some files that declares a type owns it, and the entries and locations of their map
are those of the owners. If some types of each file are kept, all that a file keeps of its own
entries is left, in order, and a type that no file with the path of its owner keeps has no owner.
What is kept of a file may depend on more than the file; `ClassMap.retain` is the case where it does
not. No run after any history keeps more than it finds. -/
theorem owners_of_files (files : List ResolvedFile) :
    let m := ClassMap.ofFiles files
    (∀ name, m.owner? name = (ClassMap.lastDeclaring? files name).map (·.file.path)) ∧
    m.entries = files.flatMap (fun f =>
      (f.types.filter (ClassMap.wins files f)).map (f.file, ·)) ∧
    m.locations = m.owners ∧
    (∀ lists, List.Forall₂ (fun f types => types.Sublist f.types) files lists →
      let kept := m.retainWith lists
      kept.entries = (files.zip lists).flatMap (fun p =>
        (p.2.filter (ClassMap.wins files p.1)).map (p.1.file, ·)) ∧
      (∀ name, kept.owner? name = none ↔
        ∀ p ∈ files.zip lists, ClassMap.wins files p.1 name = true → name ∉ p.2) ∧
      kept.locations = kept.owners ∧ kept.size ≤ m.size) ∧
    ∀ (tree : FileTree) (steps : List Step) (config : Config),
      DigestsDiffer (settingsOf (.start tree) (steps ++ [.run config])) →
      let s := (RunState.start tree).after steps
      (∀ resolution kept, (keeping config s.tree s.session).1 = .ok (resolution, kept) →
        kept.size ≤ resolution.map.size ∧
        ∃ files lists, resolution.map = ClassMap.ofFiles files ∧
          List.Forall₂ (fun f types => types.Sublist f.types) files lists ∧
          kept = (ClassMap.ofFiles files).retainWith lists) ∧
      ∀ report, (run MemoryStore.backend config s).1 = .ok report →
        report.typesKept ≤ report.typesResolved := by
  refine ⟨ClassMap.owner?_ofFiles files, ClassMap.entries_ofFiles files,
    ClassMap.locations_ofFiles files, fun lists hlists => ?_, ?_⟩
  · refine ⟨?_, fun name => ?_, ClassMap.locations_retainWith _ lists, ?_⟩
    · simp only [ClassMap.entries_retainWith, ClassMap.files_ofFiles, ClassMap.isOwnedBy_ofFiles]
    · simp only [ClassMap.owner?_retainWith_eq_none_iff, ClassMap.files_ofFiles,
        ClassMap.isOwnedBy_ofFiles]
    · apply ClassMap.size_retainWith_le
      rwa [ClassMap.files_ofFiles]
  · intro tree steps config hdigests s
    obtain ⟨hr, hdescribed⟩ := described_of_history hdigests
    have hkept : ∀ resolution kept, (keeping config s.tree s.session).1 = .ok (resolution, kept) →
        kept.size ≤ resolution.map.size ∧
        ∃ files lists, resolution.map = ClassMap.ofFiles files ∧
          List.Forall₂ (fun f types => types.Sublist f.types) files lists ∧
          kept = (ClassMap.ofFiles files).retainWith lists := by
      intro resolution kept hkeeping
      obtain ⟨files, lists, hfiles, hlists, heq⟩ :=
        retained_of_keeping hdigests.apart hr hdescribed hkeeping
      refine ⟨?_, files, lists, hfiles, hlists, heq⟩
      rw [heq, hfiles]
      apply ClassMap.size_retainWith_le
      rwa [ClassMap.files_ofFiles]
    refine ⟨hkept, fun report hreport => ?_⟩
    obtain ⟨resolution, kept, hkeeping, hresolved, hcount⟩ := keeping_of_run hreport
    rw [hresolved, hcount]
    exact (hkept resolution kept hkeeping).1

namespace Contested

def file (path : String) (types : List String) : ResolvedFile := ⟨⟨.ofText path, ⟨""⟩⟩, types, []⟩

/-- The second file owns the type that both declare, and drops it. -/
def files : List ResolvedFile :=
  [file "/one.java" ["Both", "One"], file "/two.java" ["Both", "Two"]]

def lists : List (List String) := [["Both", "One"], ["Two"]]

theorem sublists : List.Forall₂ (fun f types => types.Sublist f.types) files lists :=
  .cons (.refl _) (.cons (.cons _ (.refl _)) .nil)

end Contested

theorem owners_of_contested_files :
    ((ClassMap.ofFiles Contested.files).owner? "Both" = some (.ofText "/two.java") ∧
      ((ClassMap.ofFiles Contested.files).retainWith Contested.lists).owner? "Both" = none ∧
      ((ClassMap.ofFiles Contested.files).retainWith Contested.lists).entries =
        [(⟨.ofText "/one.java", ⟨""⟩⟩, "One"), (⟨.ofText "/two.java", ⟨""⟩⟩, "Two")]) ∧
    ∃ report, (run MemoryStore.backend Annotating.config
        ((RunState.start Overtaken.tree).after
          [.run Annotating.config, .edit fun _ => Repeated.tree])).1 = .ok report ∧
      report.typesKept ≤ report.typesResolved := by
  obtain ⟨howner, -, -, hretained, -⟩ := owners_of_files Contested.files
  obtain ⟨hentries, hnone, -, -⟩ := hretained Contested.lists Contested.sublists
  refine ⟨⟨?_, ?_, ?_⟩, ?_⟩
  · rw [howner]
    rfl
  · refine (hnone "Both").2 ?_
    decide +kernel
  · rw [hentries]
    decide +kernel
  · obtain ⟨report, hreport⟩ := Annotating.succeeds
    obtain ⟨-, -, -, -, hruns⟩ := owners_of_files []
    exact ⟨report, hreport, (hruns Overtaken.tree [.run Annotating.config,
      .edit fun _ => Repeated.tree] Annotating.config Annotating.digestsDiffer).2 report hreport⟩

end AnnotationIndex
