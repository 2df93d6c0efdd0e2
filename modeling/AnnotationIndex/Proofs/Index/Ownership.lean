import AnnotationIndex.Index.ClassMap
import AnnotationIndex.Proofs.Data.KeyMap
import AnnotationIndex.Proofs.Data.LastMember
import Mathlib.Data.List.Forall2

/-!
# Owners

The last file that declares a type owns it, and all files at its path list the type. When types are
dropped, a type stays with its owner or has none, whatever the other files keep.
-/

namespace AnnotationIndex

theorem contains_filter {α : Type} [BEq α] [LawfulBEq α] (p : α → Bool) (l : List α) (a : α) :
    (l.filter p).contains a = (l.contains a && p a) := by
  rw [Bool.eq_iff_iff]
  simp [List.mem_filter]

namespace ClassMap

theorem get?_claim (owners : KeyMap String Path) (path : Path) (types : List String) (name : String) :
    (claim owners path types).get? name =
      if name ∈ types then some path else owners.get? name := by
  rw [claim]
  induction types generalizing owners with
  | nil => simp
  | cons t types ih =>
    rw [List.foldl_cons, ih, KeyMap.get?_insert]
    by_cases hname : name = t <;> simp [hname]

def claimAll (claims : List (Path × List String)) : KeyMap String Path :=
  claims.foldl (fun owners c => claim owners c.1 c.2) .empty

theorem get?_claimAll (claims : List (Path × List String)) (name : String) :
    (claimAll claims).get? name = (claims.findRev? (·.2.contains name)).map (·.1) := by
  rw [claimAll]
  induction claims using List.reverseRecOn with
  | nil => rfl
  | append_singleton claims c ih =>
    rw [List.foldl_append, List.foldl_cons, List.foldl_nil, get?_claim, ih, findRev?_concat]
    by_cases hname : name ∈ c.2 <;> simp [hname]

theorem locations_eq_claimAll (m : ClassMap) :
    m.locations = claimAll (m.files.map fun f =>
      (f.file.path, f.types.filter (m.isOwnedBy · f.file.path))) := by
  rw [locations, KeyMap.ofList, entries, claimAll, List.foldl_map, List.foldl_flatMap,
    List.foldl_map]
  congr 1
  funext owners f
  rw [claim, List.foldl_map]

/-- The class map of files that are added one after the other. -/
def ofFiles (files : List ResolvedFile) : ClassMap := files.foldl push empty

theorem ofFiles_concat (files : List ResolvedFile) (f : ResolvedFile) :
    ofFiles (files ++ [f]) = (ofFiles files).push f := by
  rw [ofFiles, List.foldl_append]
  rfl

theorem files_ofFiles (files : List ResolvedFile) : (ofFiles files).files = files := by
  induction files using List.reverseRecOn with
  | nil => rfl
  | append_singleton files f ih => rw [ofFiles_concat, push, ih]

theorem owners_ofFiles (files : List ResolvedFile) :
    (ofFiles files).owners = claimAll (files.map fun f => (f.file.path, f.types)) := by
  induction files using List.reverseRecOn with
  | nil => rfl
  | append_singleton files f ih =>
    rw [ofFiles_concat, push, ih, claimAll, claimAll, List.map_append, List.foldl_append]
    rfl

/-- The last file that declares a type. -/
def lastDeclaring? (files : List ResolvedFile) (name : String) : Option ResolvedFile :=
  files.findRev? (·.types.contains name)

/-- Whether a file has the path of the last one that declares a type. -/
def wins (files : List ResolvedFile) (f : ResolvedFile) (name : String) : Bool :=
  (lastDeclaring? files name).any (·.file.path.same f.file.path)

theorem owner?_ofFiles (files : List ResolvedFile) (name : String) :
    (ofFiles files).owner? name = (lastDeclaring? files name).map (·.file.path) := by
  rw [owner?, owners_ofFiles, get?_claimAll, findRev?_map, Option.map_map]
  rfl

theorem isOwnedBy_ofFiles (files : List ResolvedFile) (f : ResolvedFile) (name : String) :
    (ofFiles files).isOwnedBy name f.file.path = wins files f name := by
  rw [isOwnedBy, owner?_ofFiles, wins]
  cases lastDeclaring? files name <;> rfl

theorem entries_ofFiles (files : List ResolvedFile) :
    (ofFiles files).entries =
      files.flatMap fun f => (f.types.filter (wins files f)).map (f.file, ·) := by
  simp only [entries, files_ofFiles, isOwnedBy_ofFiles]

theorem wins_of_lastDeclaring? {files : List ResolvedFile} {f : ResolvedFile} {name : String}
    (h : lastDeclaring? files name = some f) : wins files f name = true := by
  simp [wins, h, Path.same]

theorem locations_ofFiles (files : List ResolvedFile) :
    (ofFiles files).locations = (ofFiles files).owners := by
  apply KeyMap.ext_get?
  intro name
  have hlast : files.findRev? (fun f => f.types.contains name && wins files f name) =
      lastDeclaring? files name := findRev?_and fun f hf => wins_of_lastDeclaring? hf
  rw [locations_eq_claimAll, owners_ofFiles, get?_claimAll, get?_claimAll, findRev?_map,
    findRev?_map, files_ofFiles]
  simp only [isOwnedBy_ofFiles, contains_filter, hlast, Option.map_map]
  rfl

theorem same_of_isOwnedBy {m : ClassMap} {name : String} {p q : Path}
    (hp : m.isOwnedBy name p = true) (hq : m.isOwnedBy name q = true) : p.same q = true := by
  unfold isOwnedBy at hp hq
  cases howner : m.owner? name with
  | none => simp [howner] at hp
  | some owner =>
    simp only [howner, Path.same, decide_eq_true_eq] at hp hq ⊢
    exact hp.symm.trans hq

theorem isOwnedBy_congr {m : ClassMap} {name : String} {p q : Path} (h : p.same q = true) :
    m.isOwnedBy name p = m.isOwnedBy name q := by
  have hcomponents : p.components = q.components := by simpa [Path.same] using h
  simp only [isOwnedBy, Path.same, hcomponents]

/-- The owners after files claim those of their types that they own in `m`. -/
def claimOwned (m : ClassMap) (owners : KeyMap String Path) (pairs : List (ResolvedFile × List String)) :
    KeyMap String Path :=
  pairs.foldl (fun owners p => claim owners p.1.file.path
    (p.2.filter fun t => m.isOwnedBy t p.1.file.path)) owners

theorem owners_retainWith (m : ClassMap) (lists : List (List String)) :
    (m.retainWith lists).owners = m.claimOwned .empty (m.files.zip lists) := by
  rw [retainWith, claimOwned]
  exact (List.foldl_hom ClassMap.owners fun _ _ => rfl).symm

theorem claimOwned_empty (m : ClassMap) (pairs : List (ResolvedFile × List String)) :
    m.claimOwned .empty pairs = claimAll (pairs.map fun p =>
      (p.1.file.path, p.2.filter (m.isOwnedBy · p.1.file.path))) := by
  rw [claimAll, List.foldl_map]
  rfl

theorem files_retainWith (m : ClassMap) (kept : List (List String)) :
    (m.retainWith kept).files = (m.files.zip kept).map fun p => { p.1 with types := p.2 } := by
  rw [retainWith]
  induction m.files.zip kept using List.reverseRecOn with
  | nil => rfl
  | append_singleton pairs p ih =>
    rw [List.foldl_append, List.foldl_cons, List.foldl_nil, ih, List.map_append]
    rfl

/-- The owner of a type is the last file that keeps it among those at the path of its owner. -/
theorem get?_retainWith (m : ClassMap) (kept : List (List String)) (name : String) :
    (m.retainWith kept).owner? name = ((m.files.zip kept).findRev? fun p =>
      p.2.contains name && m.isOwnedBy name p.1.file.path).map (·.1.file.path) := by
  rw [owner?, owners_retainWith, claimOwned_empty, get?_claimAll, findRev?_map, Option.map_map]
  simp only [contains_filter]
  rfl

theorem owner?_retainWith {m : ClassMap} {kept : List (List String)} {name : String} {path : Path}
    (h : (m.retainWith kept).owner? name = some path) :
    ∃ f ∈ (m.retainWith kept).files, f.file.path = path ∧ name ∈ f.types ∧
      m.isOwnedBy name path = true := by
  rw [get?_retainWith] at h
  obtain ⟨p, hp, rfl⟩ := Option.map_eq_some_iff.1 h
  obtain ⟨hmem, hkept⟩ := of_findRev?_eq_some hp
  obtain ⟨hname, howned⟩ := Bool.and_eq_true_iff.1 hkept
  rw [files_retainWith]
  exact ⟨_, List.mem_map_of_mem hmem, rfl, by simpa using hname, howned⟩

theorem owner?_retainWith_eq_none_iff {m : ClassMap} {kept : List (List String)} {name : String} :
    (m.retainWith kept).owner? name = none ↔
      ∀ p ∈ m.files.zip kept, m.isOwnedBy name p.1.file.path = true → name ∉ p.2 := by
  rw [get?_retainWith, Option.map_eq_none_iff, findRev?_eq_none_iff]
  refine forall₂_congr fun p _ => ?_
  cases m.isOwnedBy name p.1.file.path <;> simp

theorem isOwnedBy_retainWith {m : ClassMap} {kept : List (List String)}
    {p : ResolvedFile × List String} (hp : p ∈ m.files.zip kept) {name : String}
    (hname : name ∈ p.2) : (m.retainWith kept).isOwnedBy name p.1.file.path =
      m.isOwnedBy name p.1.file.path := by
  cases howner : (m.retainWith kept).owner? name with
  | none =>
    have hfalse : m.isOwnedBy name p.1.file.path = false := by
      rw [← Bool.not_eq_true]
      intro howned
      exact owner?_retainWith_eq_none_iff.1 howner p hp howned hname
    rw [isOwnedBy, howner, hfalse]
  | some owner =>
    obtain ⟨-, -, -, -, howned⟩ := owner?_retainWith howner
    have hsame : (m.retainWith kept).isOwnedBy name p.1.file.path = owner.same p.1.file.path := by
      rw [isOwnedBy, howner]
    rw [hsame, Bool.eq_iff_iff]
    constructor
    · intro h
      rwa [← isOwnedBy_congr h]
    · exact same_of_isOwnedBy howned

theorem filter_retainWith {m : ClassMap} {kept : List (List String)}
    {p : ResolvedFile × List String} (hp : p ∈ m.files.zip kept) :
    p.2.filter ((m.retainWith kept).isOwnedBy · p.1.file.path) =
      p.2.filter (m.isOwnedBy · p.1.file.path) :=
  List.filter_congr fun _ hname => isOwnedBy_retainWith hp hname

theorem entries_retainWith (m : ClassMap) (kept : List (List String)) :
    (m.retainWith kept).entries = (m.files.zip kept).flatMap fun p =>
      (p.2.filter (m.isOwnedBy · p.1.file.path)).map (p.1.file, ·) := by
  rw [entries, files_retainWith, List.flatMap_map]
  refine List.flatMap_congr fun p hp => ?_
  exact congrArg (List.map _) (filter_retainWith hp)

theorem locations_retainWith (m : ClassMap) (kept : List (List String)) :
    (m.retainWith kept).locations = (m.retainWith kept).owners := by
  have hclaims : ((m.retainWith kept).files.map fun f =>
      (f.file.path, f.types.filter ((m.retainWith kept).isOwnedBy · f.file.path))) =
        (m.files.zip kept).map fun p =>
          (p.1.file.path, p.2.filter (m.isOwnedBy · p.1.file.path)) := by
    rw [files_retainWith, List.map_map]
    refine List.map_congr_left fun p hp => ?_
    exact congrArg (Prod.mk p.1.file.path) (filter_retainWith hp)
  rw [locations_eq_claimAll, hclaims, owners_retainWith, claimOwned_empty]

theorem size_retainWith_le {m : ClassMap} {kept : List (List String)}
    (h : List.Forall₂ (fun f types => types.Sublist f.types) m.files kept) :
    (m.retainWith kept).size ≤ m.size := by
  rw [size, size, entries_retainWith, entries]
  generalize m.files = files at h
  induction h with
  | nil => exact Nat.le_refl _
  | cons hfirst _ ih =>
    rw [List.zip_cons_cons, List.flatMap_cons, List.flatMap_cons, List.length_append,
      List.length_append, List.length_map, List.length_map]
    exact Nat.add_le_add (hfirst.filter _).length_le ih

end ClassMap

end AnnotationIndex
