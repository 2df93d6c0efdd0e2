/-!
# Maps and sets

A map is a list of entries in strictly ascending order of keys, so two maps with the same entries
are equal. A set is a map without values, with texts for its elements.
-/

namespace AnnotationIndex

/-- Entries in strictly ascending order of keys. -/
structure KeyMap (κ : Type) [LT κ] (α : Type) where
  entries : List (κ × α)
  sorted : entries.Pairwise (fun a b => a.1 < b.1)

namespace KeyMap

variable {κ α β : Type} [LT κ]

def empty : KeyMap κ α := ⟨[], .nil⟩

instance : Inhabited (KeyMap κ α) := ⟨empty⟩

def keys (m : KeyMap κ α) : List κ := m.entries.map (·.1)

def values (m : KeyMap κ α) : List α := m.entries.map (·.2)

def size (m : KeyMap κ α) : Nat := m.entries.length

def isEmpty (m : KeyMap κ α) : Bool := m.entries.isEmpty

theorem ext {m n : KeyMap κ α} (h : m.entries = n.entries) : m = n := by
  cases m
  cases n
  simp_all

variable [DecidableEq κ]

def erase (m : KeyMap κ α) (key : κ) : KeyMap κ α :=
  ⟨m.entries.filter (·.1 ≠ key), m.sorted.filter _⟩

def get? (m : KeyMap κ α) (key : κ) : Option α := m.entries.lookup key

def contains (m : KeyMap κ α) (key : κ) : Bool := (m.get? key).isSome

variable [DecidableLT κ]

/-- The list of entries with the one for `key` changed by `f`, which gets the old value if there
is one. -/
def alterEntries (key : κ) (f : Option α → α) : List (κ × α) → List (κ × α)
  | [] => [(key, f none)]
  | (k, v) :: rest =>
    if key < k then (key, f none) :: (k, v) :: rest
    else if key = k then (key, f (some v)) :: rest
    else (k, v) :: alterEntries key f rest

theorem mem_alterEntries {key : κ} {f : Option α → α} {entries : List (κ × α)}
    {e : κ × α} (h : e ∈ alterEntries key f entries) : e.1 = key ∨ e ∈ entries := by
  induction entries with
  | nil => simp_all [alterEntries]
  | cons head rest ih =>
    obtain ⟨k, v⟩ := head
    simp only [alterEntries] at h
    split at h
    · simp only [List.mem_cons] at h ⊢
      rcases h with rfl | h | h <;> simp_all
    · split at h
      · simp only [List.mem_cons] at h ⊢
        rcases h with rfl | h <;> simp_all
      · simp only [List.mem_cons] at h ⊢
        rcases h with rfl | h
        · simp
        · rcases ih h with h | h <;> simp [h]

variable [LE κ] [Std.IsLinearOrder κ] [Std.LawfulOrderLT κ]

theorem sorted_alterEntries (key : κ) (f : Option α → α) {entries : List (κ × α)}
    (h : entries.Pairwise (fun a b => a.1 < b.1)) :
    (alterEntries key f entries).Pairwise (fun a b => a.1 < b.1) := by
  induction entries with
  | nil => simp [alterEntries]
  | cons head rest ih =>
    obtain ⟨k, v⟩ := head
    rw [List.pairwise_cons] at h
    simp only [alterEntries]
    split
    · rename_i hlt
      refine List.Pairwise.cons ?_ (List.pairwise_cons.2 h)
      intro e he
      rcases List.mem_cons.1 he with rfl | he
      · exact hlt
      · exact Std.lt_trans hlt (h.1 e he)
    · split
      · rename_i heq
        subst heq
        exact List.Pairwise.cons h.1 h.2
      · rename_i hnot hne
        refine List.Pairwise.cons ?_ (ih h.2)
        intro e he
        rcases mem_alterEntries he with he | he
        · rw [he]
          exact Std.not_le.1 fun hle => hne (Std.le_antisymm hle (Std.not_lt.1 hnot))
        · exact h.1 e he

def alter (m : KeyMap κ α) (key : κ) (f : Option α → α) : KeyMap κ α :=
  ⟨alterEntries key f m.entries, sorted_alterEntries key f m.sorted⟩

def insert (m : KeyMap κ α) (key : κ) (value : α) : KeyMap κ α := m.alter key fun _ => value

/-- The map of a list of entries; of several for one key the last one counts. -/
def ofList (entries : List (κ × α)) : KeyMap κ α :=
  entries.foldl (fun m e => m.insert e.1 e.2) empty

theorem lookup_alterEntries (key other : κ) (f : Option α → α)
    {entries : List (κ × α)} (h : entries.Pairwise (fun a b => a.1 < b.1)) :
    (alterEntries key f entries).lookup other =
      if other = key then some (f (entries.lookup key)) else entries.lookup other := by
  have differ : ∀ {x y : κ}, ¬ x = y → (x == y) = false := fun h => by simpa using h
  induction entries with
  | nil =>
    by_cases ho : other = key
    · simp [alterEntries, ho]
    · simp [alterEntries, List.lookup_cons, ho, differ ho]
  | cons head rest ih =>
    obtain ⟨k, v⟩ := head
    rw [List.pairwise_cons] at h
    have absent : ∀ {x : κ}, x < k → rest.lookup x = none := by
      intro x hx
      rw [List.lookup_eq_none_iff]
      intro e he
      have hlt := Std.lt_trans hx (h.1 e he)
      simp only [bne_iff_ne, ne_eq]
      rintro rfl
      exact Std.lt_irrefl hlt
    simp only [alterEntries]
    split
    · rename_i hlt
      have hne : ¬ key = k := by
        rintro rfl
        exact Std.lt_irrefl hlt
      by_cases ho : other = key
      · subst ho
        simp [List.lookup_cons, differ hne, absent hlt]
      · simp [List.lookup_cons, ho, differ ho]
    · split
      · rename_i heq
        subst heq
        by_cases ho : other = key
        · subst ho
          simp
        · simp [List.lookup_cons, ho, differ ho]
      · rename_i _ hne
        by_cases hk : other = k
        · subst hk
          have hne' : ¬ other = key := fun h => hne h.symm
          simp [hne']
        · simp only [List.lookup_cons, differ hk, differ hne]
          exact ih h.2

theorem get?_alter (m : KeyMap κ α) (key other : κ) (f : Option α → α) :
    (m.alter key f).get? other = if other = key then some (f (m.get? key)) else m.get? other :=
  lookup_alterEntries key other f m.sorted

theorem get?_insert (m : KeyMap κ α) (key other : κ) (value : α) :
    (m.insert key value).get? other = if other = key then some value else m.get? other :=
  get?_alter m key other _

end KeyMap

abbrev KeySet := KeyMap String Unit

namespace KeySet

def ofList (keys : List String) : KeySet := KeyMap.ofList (keys.map (·, ()))

def insert (s : KeySet) (key : String) : KeySet := KeyMap.insert s key ()

def toList (s : KeySet) : List String := KeyMap.keys s

def union (s : KeySet) (keys : List String) : KeySet := keys.foldl insert s

end KeySet

end AnnotationIndex
