import AnnotationIndex.Proofs.Run.Transparency

/-!
# What a file sees of other files

The other files of a run reach a file only through the types that are known in its package and in
the packages it imports on demand. Locations with the same types there give the file the same unit and
the same records.
-/

namespace AnnotationIndex

open Java

section Scope

variable {scope : Scope} {known known' : String → Bool}

/-- A source text has the same unit if the known types agree in the packages of its scope. -/
theorem Java.CompilationUnit.ofSource_congr {source : String}
    (h : ∀ outline, Outline.ofSource? source.toList = some outline →
      outline.scope.Agree known known') :
    CompilationUnit.ofSource source known = CompilationUnit.ofSource source known' := by
  unfold CompilationUnit.ofSource
  cases houtline : Outline.ofSource? source.toList with
  | none => rfl
  | some outline => simp only [Outline.unit?_congr (h outline houtline)]

end Scope

section Locations

variable {locations locations' : Locations}

theorem Java.Scope.agree_of_visibleTypes {scope : Scope}
    (h : visibleTypes locations scope.packages = visibleTypes locations' scope.packages) :
    scope.Agree (Loader.knows { locations }) (Loader.knows { locations := locations' }) := by
  intro name hname
  simp only [Loader.knows, contains_eq_of_visibleTypes_eq h hname]

end Locations

/-- The unit of a source text depends on the known types only within the packages of its scope, and
so do the records of a file with this text when there is nothing in the store for it. -/
theorem unit_and_records_of_scope (source : String) :
    (∀ known known' : String → Bool,
      (∀ outline, Outline.ofSource? source.toList = some outline →
        outline.scope.Agree known known') →
      CompilationUnit.ofSource source known = CompilationUnit.ofSource source known') ∧
    ∀ locations locations' : Locations,
      (∀ outline, Outline.ofSource? source.toList = some outline →
        visibleTypes locations outline.scope.packages =
          visibleTypes locations' outline.scope.packages) →
      ∀ (tree : FileTree) (f : ResolvedFile) (content : List UInt8),
        tree.read f.file.path = .ok content → Text.lossyText content = source →
        ∀ (options : ExtractOptions) (s s' : Session MemoryStore),
          s.store.get? .extract f.file.key = none → s'.store.get? .extract f.file.key = none →
          (fileRecords MemoryStore.backend options { locations } tree f s).1 =
            (fileRecords MemoryStore.backend options { locations := locations' } tree f s').1 := by
  refine ⟨fun _ _ => CompilationUnit.ofSource_congr, ?_⟩
  intro locations locations' hvisible tree f content hread hsource options s s' hs hs'
  have hunfiled : ∀ (s : Session MemoryStore) (fingerprint : Fingerprint)
      (v : List TypeRecords), s.store.get? .extract f.file.key = none →
      ¬Gives.Filed s.store (Decoder.list TypeRecords.decoder) .extract f.file fingerprint v := by
    rintro s fingerprint v hnone ⟨payload, hget, -⟩
    rw [hnone] at hget
    cases hget
  have hrecords : ∀ (l : Locations) (s : Session MemoryStore),
      s.store.get? .extract f.file.key = none →
      (fileRecords MemoryStore.backend options { locations := l } tree f s).1 =
        Plain.fileRecords options (Loader.knows { locations := l }) f.file.path
          (Plain.contentAt tree f.file.path) f.types := fun l s hnone =>
    (memoizes_fileRecords options { locations := l } ⟨content, hread⟩).miss s
      fun v => hunfiled s _ v hnone
  rw [hrecords locations s hs, hrecords locations' s' hs', Plain.contentAt_of_read hread]
  apply Plain.fileRecords_known
  intro outline houtline
  rw [hsource] at houtline
  exact Scope.agree_of_visibleTypes (hvisible outline houtline)

namespace Moving

def visible : Locations := .ofList [("q.A", .ofText "/A.java")]

/-- The same, with a type of the same simple name in a package that is not imported. -/
def crowded : Locations := .ofList [("q.A", .ofText "/A.java"), ("r.A", .ofText "/B.java")]

theorem agree_of_crowded {name : String} (h : packageOf name ∈ ["", "q"]) :
    visible.contains name = crowded.contains name := by
  have hne : name ≠ "r.A" := by
    rintro rfl
    revert h
    decide
  rw [Bool.eq_iff_iff, visible, crowded, KeyMap.contains_ofList, KeyMap.contains_ofList]
  simp [hne]

theorem unit_and_records_of_importing :
    CompilationUnit.ofSource Samples.importing visible.contains =
        CompilationUnit.ofSource Samples.importing crowded.contains ∧
      (fileRecords MemoryStore.backend config.extractOptions { locations := visible }
          (treeWith declaring) (file (.ofText "/X.java") importing) { store := .empty }).1 =
        (fileRecords MemoryStore.backend config.extractOptions { locations := crowded }
          (treeWith declaring) (file (.ofText "/X.java") importing) { store := .empty }).1 := by
  have hpackages : ∀ outline, Outline.ofSource? Samples.importing.toList = some outline →
      outline.scope.packages = ["", "q"] := by
    intro outline houtline
    rw [Samples.outlines.2] at houtline
    cases houtline
    rfl
  have htext : Text.lossyText importing = Samples.importing := evaluated.2.1.1
  have hread : (treeWith declaring).read (.ofText "/X.java") = .ok importing := rfl
  have hvisible : visibleTypes visible ["", "q"] = visibleTypes crowded ["", "q"] := rfl
  obtain ⟨hunit, hrecords⟩ := unit_and_records_of_scope Samples.importing
  refine ⟨hunit _ _ fun outline houtline name hname => ?_, hrecords visible crowded
    (fun outline houtline => ?_) _ _ importing hread htext _ _ _ rfl rfl⟩
  · rw [hpackages outline houtline] at hname
    exact agree_of_crowded hname
  · rw [hpackages outline houtline]
    exact hvisible

end Moving

end AnnotationIndex
