import AnnotationIndex.Proofs.Index.Queries

/-!
# Answers to lists of requests

A list of requests is answered if each of them is. What is asked in a narrower query is a selection
of what is asked in a wider one, so its answers are a selection of the wider answers.
-/

namespace AnnotationIndex

open Java

variable {α β γ ι : Type}

theorem answers_eq_ok_iff {rs : List (Request α)} {l : List α} :
    answers rs = .ok l ↔ rs.map (·.answer) = l.map .ok := by
  induction rs generalizing l with
  | nil => cases l <;> simp [answers]
  | cons r rs ih =>
    rw [answers, List.map_cons]
    cases hr : r.answer with
    | error e => cases l <;> simp
    | ok a =>
      cases l with
      | nil => cases answers rs <;> simp [Except.map]
      | cons b l =>
        rw [List.map_cons, List.cons.injEq, ← ih]
        cases answers rs <;> simp [Except.map]

theorem exists_answers_iff {rs : List (Request α)} :
    (∃ l, answers rs = .ok l) ↔ ∀ r ∈ rs, ∃ a, r.answer = .ok a := by
  constructor
  · rintro ⟨l, hl⟩ r hr
    rw [answers_eq_ok_iff] at hl
    have hmem : r.answer ∈ rs.map (·.answer) := List.mem_map_of_mem hr
    rw [hl] at hmem
    obtain ⟨a, -, ha⟩ := List.mem_map.1 hmem
    exact ⟨a, ha.symm⟩
  · exact answers_ok

theorem answers_append_eq_ok_iff {rs rs' : List (Request α)} {l : List α} :
    answers (rs ++ rs') = .ok l ↔
      ∃ l₁ l₂, answers rs = .ok l₁ ∧ answers rs' = .ok l₂ ∧ l = l₁ ++ l₂ := by
  simp only [answers_eq_ok_iff, List.map_append]
  constructor
  · intro h
    obtain ⟨l₁, l₂, rfl, h₁, h₂⟩ := List.append_eq_map_iff.1 h
    exact ⟨l₁, l₂, h₁.symm, h₂.symm, rfl⟩
  · rintro ⟨l₁, l₂, h₁, h₂, rfl⟩
    rw [h₁, h₂, List.map_append]

theorem answers_map_eq_ok_iff {f : α → β} {rs : List (Request α)} {l : List β} :
    answers (rs.map (Request.map f)) = .ok l ↔ ∃ found, answers rs = .ok found ∧ l = found.map f := by
  have hmap : answers (rs.map (Request.map f)) = (answers rs).map (List.map f) := by
    induction rs with
    | nil => rfl
    | cons r rs ih =>
      rw [List.map_cons, answers, answers, ih, Request.map]
      cases r.answer with
      | error e => rfl
      | ok a => cases answers rs <;> rfl
  rw [hmap]
  cases answers rs <;> simp [Except.map, eq_comm]

theorem map_eq_of_answers {g : ι → Request α} {items : List ι} {found : List α} {left : ι → β}
    {right : α → β} (heq : ∀ i ∈ items, ∀ a, (g i).answer = .ok a → left i = right a)
    (h : answers (items.map g) = .ok found) : items.map left = found.map right := by
  rw [answers_eq_ok_iff, List.map_map] at h
  induction items generalizing found with
  | nil =>
    obtain rfl : found = [] := by simpa using h.symm
    rfl
  | cons i items ih =>
    cases found with
    | nil => cases h
    | cons a found =>
      rw [List.map_cons, List.map_cons, List.cons.injEq] at h
      rw [List.map_cons, List.map_cons, heq i List.mem_cons_self a h.1,
        ih (fun j hj => heq j (List.mem_cons_of_mem i hj)) h.2]

/-- Whenever the first requests are answered, the second are answered by what `pick` takes from the
first answers. -/
def Selects (pick : α → Option β) (rs : List (Request α)) (rs' : List (Request β)) : Prop :=
  ∀ l, answers rs = .ok l → answers rs' = .ok (l.filterMap pick)

namespace Selects

variable {pick : α → Option β} {rs : List (Request α)} {rs' : List (Request β)}

theorem nil : Selects pick [] [] := by
  intro l hl
  cases l with
  | nil => rfl
  | cons a l => cases hl

theorem append {ss : List (Request α)} {ss' : List (Request β)} (h : Selects pick rs rs')
    (h' : Selects pick ss ss') : Selects pick (rs ++ ss) (rs' ++ ss') := by
  intro l hl
  obtain ⟨l₁, l₂, h₁, h₂, rfl⟩ := answers_append_eq_ok_iff.1 hl
  exact answers_append_eq_ok_iff.2 ⟨_, _, h l₁ h₁, h' l₂ h₂, List.filterMap_append⟩

theorem flatMap {items : List ι} {f : ι → List (Request α)} {g : ι → List (Request β)}
    (h : ∀ i ∈ items, Selects pick (f i) (g i)) :
    Selects pick (items.flatMap f) (items.flatMap g) := by
  induction items with
  | nil => exact nil
  | cons i items ih =>
    rw [List.flatMap_cons, List.flatMap_cons]
    exact (h i List.mem_cons_self).append (ih fun j hj => h j (List.mem_cons_of_mem i hj))

theorem unmark {f : β → α} (h : ∀ b, pick (f b) = some b) (rs : List (Request β)) :
    Selects pick (rs.map (Request.map f)) rs := by
  intro l hl
  obtain ⟨found, hfound, rfl⟩ := answers_map_eq_ok_iff.1 hl
  have hall : (found.map f).filterMap pick = found := by
    rw [List.filterMap_map]
    simp [h]
  rw [hall, hfound]

theorem other {f : γ → α} (h : ∀ a, pick (f a) = none) (rs : List (Request γ)) :
    Selects pick (rs.map (Request.map f)) [] := by
  intro l hl
  obtain ⟨found, -, rfl⟩ := answers_map_eq_ok_iff.1 hl
  rw [List.filterMap_map]
  simp [h, answers]

/-- Requests may be dropped before they are answered if the answers tell which. -/
theorem filter {items : List ι} {f : ι → Request α} {p : ι → Bool} {q : α → Bool}
    (h : ∀ i ∈ items, ∀ a, (f i).answer = .ok a → q a = p i) :
    Selects (Option.guard q) (items.map f) ((items.filter p).map f) := by
  intro l hl
  rw [answers_eq_ok_iff, List.map_map] at hl ⊢
  rw [List.filterMap_eq_filter]
  induction items generalizing l with
  | nil =>
    obtain rfl : l = [] := by simpa using hl.symm
    rfl
  | cons i items ih =>
    cases l with
    | nil => cases hl
    | cons a l =>
      rw [List.map_cons, List.map_cons, List.cons.injEq] at hl
      obtain ⟨hhead, htail⟩ := hl
      have hrest := ih (fun j hj => h j (List.mem_cons_of_mem i hj)) l htail
      have hsame := h i List.mem_cons_self a hhead
      rw [List.filter_cons, List.filter_cons, hsame]
      cases p i with
      | true => simp [hrest, ← hhead]
      | false => exact hrest

theorem narrow {items : List ι} {f : ι → Request α} {p p' : ι → Bool} {q : α → Bool}
    (himp : ∀ i, p' i = true → p i = true)
    (h : ∀ i, p i = true → ∀ a, (f i).answer = .ok a → q a = p' i) :
    Selects (Option.guard q) ((items.filter p).map f) ((items.filter p').map f) := by
  have hboth : items.filter p' = (items.filter p).filter p' := by
    rw [List.filter_filter]
    apply List.filter_congr
    intro i _
    cases hi : p' i with
    | false => rfl
    | true => simp [himp i hi]
  rw [hboth]
  exact filter fun i hi => h i (List.mem_filter.1 hi).2

end Selects

theorem numbers_of_key {κ : Type} [BEq κ] [LawfulBEq κ] (key : α → κ) (k : κ) (earlier : List κ)
    (l : List α) : ((numbered key earlier l).filter (key ·.1 == k)).map (·.2) =
      List.range' (earlier.count k) (l.countP (key · == k)) := by
  induction l generalizing earlier with
  | nil => rfl
  | cons a l ih =>
    rw [numbered, List.filter_cons, List.countP_cons]
    by_cases hkey : key a = k
    · simp [hkey, ih, List.range'_succ]
    · simp [hkey, ih]

theorem numbered_fst {κ : Type} [BEq κ] (key : α → κ) (earlier : List κ) (l : List α) :
    (numbered key earlier l).map (·.1) = l := by
  induction l generalizing earlier with
  | nil => rfl
  | cons a l ih => rw [numbered, List.map_cons, ih]

end AnnotationIndex
