import AnnotationIndex.Data.KeyMap
import Mathlib.Algebra.GroupWithZero.Nat
import Mathlib.Data.List.Sort

/-!
# What maps hold

A map is determined by what it gives for each key.
-/

namespace AnnotationIndex

namespace KeyMap

variable {κ α : Type} [LT κ] [LE κ] [Std.LawfulOrderLT κ]

theorem nodup_keys (m : KeyMap κ α) : m.keys.Nodup := by
  refine List.Pairwise.imp ?_ (List.pairwise_map.2 m.sorted)
  rintro key _ hlt rfl
  exact Std.lt_irrefl hlt

variable [DecidableEq κ]

omit [LE κ] [Std.LawfulOrderLT κ] in
theorem mem_keys {m : KeyMap κ α} {key : κ} : key ∈ m.keys ↔ m.contains key = true := by
  rw [KeyMap.contains, KeyMap.get?, List.lookup_isSome_iff, KeyMap.keys, List.mem_map]
  constructor
  · rintro ⟨e, he, rfl⟩
    exact ⟨e, he, by simp⟩
  · rintro ⟨e, he, heq⟩
    exact ⟨e, he, (by simpa using heq : key = e.1).symm⟩

theorem get?_of_mem {m : KeyMap κ α} {e : κ × α} (h : e ∈ m.entries) :
    m.get? e.1 = some e.2 := by
  have hsorted := m.sorted
  rw [KeyMap.get?]
  generalize m.entries = entries at h hsorted
  induction entries with
  | nil => cases h
  | cons first rest ih =>
    rw [List.pairwise_cons] at hsorted
    rcases List.mem_cons.1 h with rfl | h
    · exact List.lookup_cons_self
    · have hne : (e.1 == first.1) = false := by
        rw [beq_eq_false_iff_ne]
        intro heq
        have hlt := hsorted.1 e h
        rw [heq] at hlt
        exact Std.lt_irrefl hlt
      rw [List.lookup_cons, hne]
      exact ih h hsorted.2

theorem mem_entries_iff {m : KeyMap κ α} {e : κ × α} :
    e ∈ m.entries ↔ m.get? e.1 = some e.2 := by
  refine ⟨get?_of_mem, fun h => ?_⟩
  obtain ⟨front, rest, heq, -⟩ := List.lookup_eq_some_iff.1 h
  rw [heq]
  exact List.mem_append_right _ List.mem_cons_self

theorem mem_values_iff {m : KeyMap κ α} {value : α} :
    value ∈ m.values ↔ ∃ key, m.get? key = some value := by
  rw [KeyMap.values, List.mem_map]
  constructor
  · rintro ⟨e, he, rfl⟩
    exact ⟨e.1, get?_of_mem he⟩
  · rintro ⟨key, hget⟩
    exact ⟨(key, value), mem_entries_iff.2 hget, rfl⟩

variable [Std.IsLinearOrder κ]

theorem ext_get? {m n : KeyMap κ α} (h : ∀ key, m.get? key = n.get? key) : m = n := by
  have : Std.Irrefl fun a b : κ × α => a.1 < b.1 := ⟨fun _ => Std.lt_irrefl⟩
  have : Std.Antisymm fun a b : κ × α => a.1 < b.1 :=
    ⟨fun _ _ hab hba => absurd (Std.lt_trans hab hba) Std.lt_irrefl⟩
  refine ext (m.sorted.eq_of_mem_iff n.sorted fun e => ?_)
  rw [mem_entries_iff, mem_entries_iff, h]

variable [DecidableLT κ]

theorem contains_alter (m : KeyMap κ α) (key other : κ) (f : Option α → α) :
    (m.alter key f).contains other = (decide (other = key) || m.contains other) := by
  rw [KeyMap.contains, KeyMap.contains, KeyMap.get?_alter]
  by_cases h : other = key <;> simp [h]

theorem contains_insert (m : KeyMap κ α) (key other : κ) (value : α) :
    (m.insert key value).contains other = (decide (other = key) || m.contains other) :=
  contains_alter m key other _

private theorem contains_foldl_insert (entries : List (κ × α)) (m : KeyMap κ α)
    (key : κ) :
    (entries.foldl (fun m e => m.insert e.1 e.2) m).contains key = true ↔
      key ∈ entries.map (·.1) ∨ m.contains key = true := by
  induction entries generalizing m with
  | nil => simp
  | cons e entries ih =>
    rw [List.foldl_cons, ih, contains_insert]
    simp only [Bool.or_eq_true, decide_eq_true_eq, List.map_cons, List.mem_cons]
    constructor
    · rintro (h | h | h)
      · exact Or.inl (Or.inr h)
      · exact Or.inl (Or.inl h)
      · exact Or.inr h
    · rintro ((h | h) | h)
      · exact Or.inr (Or.inl h)
      · exact Or.inl h
      · exact Or.inr (Or.inr h)

theorem contains_ofList {entries : List (κ × α)} {key : κ} :
    (KeyMap.ofList entries).contains key = true ↔ key ∈ entries.map (·.1) := by
  have hempty : (KeyMap.empty : KeyMap κ α).contains key = false := rfl
  rw [KeyMap.ofList, contains_foldl_insert, hempty]
  simp

theorem sum_alter {n : α → Nat} {f : Option α → α} {d : Nat}
    (h : ∀ old, n (f old) = old.elim 0 n + d) (m : KeyMap κ α) (key : κ) :
    ((m.alter key f).values.map n).sum = (m.values.map n).sum + d := by
  simp only [values, alter, List.map_map]
  induction m.entries with
  | nil => simp [alterEntries, h]
  | cons e entries ih =>
    rw [alterEntries]
    split
    · simp [h, Nat.add_comm]
    · split
      · simp [h, Nat.add_right_comm]
      · simp [ih, Nat.add_assoc]

end KeyMap

theorem KeySet.toList_inj {s t : KeySet} (h : s.toList = t.toList) : s = t := by
  apply KeyMap.ext
  exact (List.map_inj_right fun a b hab => Prod.ext hab rfl).1 h

end AnnotationIndex
