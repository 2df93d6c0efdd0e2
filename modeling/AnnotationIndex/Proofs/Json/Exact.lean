import Mathlib.Order.Lattice
import AnnotationIndex.Proofs.Json.Number
import AnnotationIndex.Proofs.Json.ReadBack

/-!
# Decoding within the depth limit

A document is read exactly as a value if it is read as that value whenever it is nested no deeper
than allowed, and refused otherwise. Lists and records of values that are read exactly are read
exactly.
-/

namespace AnnotationIndex.Decoder

open Json Number

variable {α β : Type}

/-- With fewer levels than `bound`, the document is read as the value and refused only for its
depth. -/
def Exact (bound : Nat) (d : Decoder α) (j : Json) (v : α) : Prop :=
  ∀ levels < bound, d levels j = if j.depth ≤ levels then some v else none

variable {bound : Nat}

theorem Exact.run {d : Decoder α} {j : Json} {v : α} (h : Exact (depthLimit + 1) d j v)
    {text : String} (hparse : parse? text = some j) :
    d.run text = if j.depth ≤ depthLimit then some v else none := by
  rw [Decoder.run, hparse, Option.bind_some, h depthLimit (Nat.lt_succ_self depthLimit)]

theorem Exact.map {d : Decoder α} {j : Json} {v : α} (h : Exact bound d j v) (f : α → β) :
    Exact bound (d.map f) j (f v) := by
  intro levels hlevels
  rw [Decoder.map, h levels hlevels]
  split <;> rfl

theorem exact_of_flat {d : Decoder α} {j : Json} {v : α} (hdepth : j.depth = 0)
    (h : ∀ levels, d levels j = some v) : Exact bound d j v := by
  intro levels _
  rw [hdepth, if_pos (Nat.zero_le levels), h]

theorem exact_text (s : String) : Exact bound text (.string s) s :=
  exact_of_flat rfl fun _ => rfl

theorem exact_truth (b : Bool) : Exact bound truth (.truth b) b :=
  exact_of_flat rfl fun _ => rfl

theorem exact_real {x : Binary64} (h : ReadsBack x) : Exact bound real (.ofReal x) x :=
  exact_of_flat rfl h.real_ofReal

theorem exact_whole {low high n : Int} (hlow : -(UInt64.size / 2 : Nat) ≤ low)
    (hhigh : high ≤ significandLimit) (hn : low ≤ n ∧ n ≤ high) :
    Exact bound (whole low high) (.ofInt n) n :=
  exact_of_flat rfl (whole_ofInt hlow hhigh hn)

theorem exact_ofText? (s : Option String) : Exact bound (orNull text) (.ofText? s) s := by
  cases s with
  | none => exact exact_of_flat rfl fun _ => rfl
  | some s => exact exact_of_flat rfl fun _ => rfl

private theorem mapM_exact {d : Decoder α} {enc : α → Json} (vs : List α)
    (h : ∀ v ∈ vs, Exact bound d (enc v) v) {levels : Nat} (hlevels : levels < bound) :
    (vs.map enc).mapM (d levels) =
      if depthOfItems (vs.map enc) ≤ levels then some vs else none := by
  induction vs with
  | nil => rfl
  | cons v vs ih =>
    have hv := h v (by simp) levels hlevels
    have hvs := ih fun w hw => h w (by simp [hw])
    rw [List.map_cons, List.mapM_cons, hv, hvs]
    simp only [depthOfItems, Nat.max_le]
    by_cases h₁ : (enc v).depth ≤ levels <;> by_cases h₂ : depthOfItems (vs.map enc) ≤ levels <;>
      simp [h₁, h₂]

theorem exact_list {d : Decoder α} {enc : α → Json} {vs : List α}
    (h : ∀ v ∈ vs, Exact bound d (enc v) v) : Exact bound (list d) (.array (vs.map enc)) vs := by
  intro levels hlevels
  cases levels with
  | zero => simp [list, depth]
  | succ levels =>
    have hitems := mapM_exact vs h (Nat.lt_of_succ_lt hlevels)
    simp [list, depth, hitems]

theorem exact_texts (ss : List String) : Exact bound (list text) (.array (ss.map .string)) ss :=
  exact_list fun s _ => exact_text s

theorem depthOfItems_le {enc : α → Json} {vs : List α} {levels : Nat}
    (h : ∀ v ∈ vs, (enc v).depth ≤ levels) : depthOfItems (vs.map enc) ≤ levels := by
  induction vs with
  | nil => exact Nat.zero_le _
  | cons v vs ih =>
    obtain ⟨hv, hvs⟩ := List.forall_mem_cons.1 h
    exact Nat.max_le.2 ⟨hv, ih hvs⟩

theorem depthOfItems_texts (ss : List String) : depthOfItems (ss.map .string) = 0 := by
  induction ss with
  | nil => rfl
  | cons s ss ih => simp [depthOfItems, depth, ih]

theorem run_texts (ss : List String) :
    (list text).run (Json.array (ss.map .string)).compact = some ss := by
  have hprintable : (Json.array (ss.map .string)).Printable := by simp
  rw [(exact_texts ss).run (parse?_compact hprintable), depth, depthOfItems_texts, if_pos (by decide)]

private theorem eraseDups_of_nodup {keys : List String} (h : keys.Nodup) :
    keys.eraseDups = keys := by
  induction keys with
  | nil => rfl
  | cons key keys ih =>
    rw [List.nodup_cons] at h
    have hfilter : keys.filter (fun k => !k == key) = keys := by
      rw [List.filter_eq_self]
      intro k hk
      have hne : k ≠ key := by
        rintro rfl
        exact h.1 hk
      simpa using hne
    rw [List.eraseDups_cons, hfilter, ih h.2]

theorem fields_object {names : List String} {members : List (String × Json)}
    (hknown : ∀ m ∈ members, m.1 ∈ names) (hnodup : (members.map (·.1)).Nodup) (closed : Bool)
    (levels : Nat) :
    fields names closed (levels + 1) (.object members) = some ⟨false, members, levels⟩ := by
  have hfilter : (members.filter fun m => names.contains m.1) = members := by
    rw [List.filter_eq_self]
    intro m hm
    simpa using hknown m hm
  simp only [fields, hfilter, eraseDups_of_nodup hnodup]
  simp

/-- A record is read exactly from an object that has only fields of the record, each once, if all of
these are. -/
theorem exact_record {names : List String} {closed : Bool} {body : Fields → Option α}
    {members : List (String × Json)} {v : α} (hknown : ∀ m ∈ members, m.1 ∈ names)
    (hnodup : (members.map (·.1)).Nodup)
    (hbody : ∀ levels < bound, body ⟨false, members, levels⟩ =
      if depthOfMembers members ≤ levels then some v else none) :
    Exact bound (fun levels j => (fields names closed levels j).bind body) (.object members) v := by
  intro levels hlevels
  cases levels with
  | zero => rfl
  | succ levels =>
    simp only [fields_object hknown hnodup, Option.bind_some, depth, Nat.add_le_add_iff_right]
    exact hbody levels (Nat.lt_of_succ_lt hlevels)

theorem bind_within {p : Prop} [Decidable p] (v : α) (f : α → Option β) :
    (if p then some v else none).bind f = if p then f v else none := by
  split <;> rfl

theorem within_within {p q : Prop} [Decidable p] [Decidable q] (v : Option α) :
    (if p then if q then v else none else none) = if p ∧ q then v else none := by
  by_cases hp : p <;> by_cases hq : q <;> simp [hp, hq]

end AnnotationIndex.Decoder
