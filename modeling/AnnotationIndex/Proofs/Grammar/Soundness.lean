import AnnotationIndex.Grammar.Reading

/-!
# Trees that are read

Every tree that is read is formed by the productions of the grammar, its tokens are cut from the
text one after the other, and the trees of a whole text are the body of its production.
-/

namespace AnnotationIndex.Grammar

variable {τ φ α σ : Type}

namespace Tree

def root : Tree τ φ α → Symbol τ φ
  | leaf kind _ => .token kind
  | node phrase _ => .phrase phrase

mutual

/-- The tokens of a tree from left to right, with their kinds. -/
def leaves : Tree τ φ α → List (τ × α)
  | leaf kind token => [(kind, token)]
  | node _ parts => leavesOfParts parts

def leavesOfParts : List (Tree τ φ α) → List (τ × α)
  | [] => []
  | part :: parts => part.leaves ++ leavesOfParts parts

end

theorem leavesOfParts_eq (parts : List (Tree τ φ α)) :
    leavesOfParts parts = parts.flatMap leaves := by
  induction parts with
  | nil => rfl
  | cons part parts ih => rw [leavesOfParts, ih, List.flatMap_cons]

theorem leaves_node (phrase : φ) (parts : List (Tree τ φ α)) :
    (node phrase parts).leaves = parts.flatMap leaves := by
  rw [leaves, leavesOfParts_eq]

mutual

theorem tokensBefore_eq (more : List α) : ∀ t : Tree τ φ α,
    t.tokensBefore more = t.leaves.map (·.2) ++ more
  | leaf _ _ => rfl
  | node _ parts => tokensOfParts_eq more parts

theorem tokensOfParts_eq (more : List α) : ∀ parts : List (Tree τ φ α),
    tokensOfParts more parts = (leavesOfParts parts).map (·.2) ++ more
  | [] => rfl
  | part :: parts => by
    rw [tokensOfParts, tokensBefore_eq, tokensOfParts_eq more parts, leavesOfParts, List.map_append,
      List.append_assoc]

end

theorem tokens_eq (t : Tree τ φ α) : t.tokens = t.leaves.map (·.2) := by
  rw [tokens, tokensBefore_eq, List.append_nil]

/-- Each phrase of a tree is written as one of the productions says. -/
inductive Formed (productions : List (Production τ φ)) : Tree τ φ α → Prop
  | leaf (kind : τ) (token : α) : Formed productions (leaf kind token)
  | node {p : Production τ φ} {parts : List (Tree τ φ α)} (hp : p ∈ productions)
      (hbody : parts.map root = p.body) (hparts : ∀ t ∈ parts, Formed productions t) :
      Formed productions (node p.head parts)

end Tree

/-- The table is one of the given productions, and no phrase contains a whole text. -/
structure Table.Of (table : Table τ φ) (productions : List (Production τ φ)) : Prop where
  openings : ∀ x, ∀ i ∈ table.openings x, i.production ∈ productions ∧ i.production.body = x :: i.rest
  whole : table.whole.production ∈ productions ∧ table.whole.rest = table.whole.production.body
  lone : ∀ p ∈ productions, p.head = table.whole.production.head → p = table.whole.production
  absent : ∀ p ∈ productions, .phrase table.whole.production.head ∉ p.body
  corner : ∀ p, p ≠ table.whole.production.head →
    table.isCorner p table.whole.production.head = false

namespace Table

theorem reach_of_isolated {step : Nat → List Nat} {k : Nat} (hstep : ∀ n, k ∉ step n) {fuel : Nat}
    {todo : List Nat} (htodo : k ∉ todo) {reached : Array Bool}
    (hreached : reached.getD k false = false) :
    (reach step fuel todo reached).getD k false = false := by
  induction fuel generalizing todo reached with
  | zero => exact hreached
  | succ fuel ih =>
    cases todo with
    | nil => exact hreached
    | cons n todo =>
      rw [List.mem_cons, not_or] at htodo
      unfold reach
      split
      · exact ih htodo.2 hreached
      · apply ih
        · rw [List.mem_append, not_or]
          exact ⟨hstep n, htodo.2⟩
        · have hne : n ≠ k := fun heq => htodo.1 heq.symm
          simpa [Array.getElem?_setIfInBounds_ne hne] using hreached

theorem getD_rows {β : Type} (n k : Nat) (f : Nat → β) (d : β) :
    ((Array.range n).map f).getD k d = if k < n then f k else d := by
  rw [Array.getD_eq_getD_getElem?, Array.getElem?_map, Array.getElem?_range]
  split <;> rfl

variable {number : Numbering τ φ} {first : Production τ φ} {more : List (Production τ φ)}

def opened (first : Production τ φ) (more : List (Production τ φ)) :
    List (Symbol τ φ × Item τ φ) :=
  (first :: more).zipIdx.filterMap fun (p, i) =>
    match p.body with
    | x :: rest => some (x, (⟨i, p, rest⟩ : Item τ φ))
    | [] => none

theorem mem_opened {x : Symbol τ φ} {i : Item τ φ} (h : (x, i) ∈ opened first more) :
    i.production ∈ first :: more ∧ i.production.body = x :: i.rest := by
  obtain ⟨⟨p, n⟩, hp, hcase⟩ := List.mem_filterMap.1 h
  simp only at hcase
  split at hcase
  · rename_i y rest hbody
    cases hcase
    exact ⟨(List.mem_zipIdx' hp).2 ▸ List.getElem_mem _, hbody⟩
  · cases hcase

theorem of_ofProductions (htoken : ∀ t u, number.token t = number.token u → t = u)
    (hphrase : ∀ p q, number.phrase p = number.phrase q → p = q)
    (hlone : ∀ p ∈ more, p.head ≠ first.head)
    (habsent : ∀ p ∈ first :: more, .phrase first.head ∉ p.body) :
    (ofProductions number first more).Of (first :: more) where
  openings := by
    intro x i hi
    cases x with
    | token t =>
      change i ∈ Array.getD (Array.map _ _) _ _ at hi
      rw [getD_rows] at hi
      split at hi
      · obtain ⟨⟨y, j⟩, hj, hcase⟩ := List.mem_filterMap.1 hi
        cases y with
        | token u =>
          simp only at hcase
          split at hcase
          · rename_i hnumber
            cases hcase
            rw [← htoken _ _ hnumber]
            exact mem_opened hj
          · cases hcase
        | phrase p => cases hcase
      · cases hi
    | phrase p =>
      change i ∈ Array.getD (Array.map _ _) _ _ at hi
      rw [getD_rows] at hi
      split at hi
      · obtain ⟨⟨y, j⟩, hj, hcase⟩ := List.mem_filterMap.1 hi
        cases y with
        | token u => cases hcase
        | phrase q =>
          simp only at hcase
          split at hcase
          · rename_i hnumber
            cases hcase
            rw [← hphrase _ _ hnumber]
            exact mem_opened hj
          · cases hcase
      · cases hi
  whole := ⟨List.mem_cons_self, rfl⟩
  lone := by
    intro p hp hhead
    rcases List.mem_cons.1 hp with rfl | hp
    · rfl
    · exact absurd hhead (hlone p hp)
  absent := habsent
  corner := by
    intro p hp
    change Array.getD (Array.getD (Array.map _ _) _ _) _ false = false
    rw [getD_rows]
    split
    · refine reach_of_isolated ?_ ?_ ?_
      · intro n hmem
        rw [getD_rows] at hmem
        split at hmem
        · obtain ⟨⟨x, i⟩, hi, hcase⟩ := List.mem_filterMap.1 hmem
          cases x with
          | token t => cases hcase
          | phrase q =>
            simp only at hcase
            split at hcase
            · have hq := hphrase _ _ (Option.some.inj hcase)
              obtain ⟨hproduction, hbody⟩ := mem_opened hi
              apply habsent _ hproduction
              rw [hbody, hq]
              exact List.mem_cons_self
            · cases hcase
        · cases hmem
      · intro hmem
        exact hp (hphrase _ _ (List.mem_singleton.1 hmem)).symm
      · rw [Array.getD_eq_getD_getElem?, Array.getElem?_replicate]
        split <;> rfl
    · rfl

end Table

section Rows

variable [DecidableEq φ] {table : Table τ φ} {productions : List (Production τ φ)}

/-- What has been read of an item are the last trees of a row, and all of them for the production of
a whole text. The last tree comes first. -/
def Item.Fits (table : Table τ φ) (productions : List (Production τ φ)) (trees : List (Tree τ φ α))
    (i : Item τ φ) : Prop :=
  i.production ∈ productions ∧ ∃ parts below : List (Tree τ φ α), trees = parts.reverse ++ below ∧
    i.production.body = parts.map Tree.root ++ i.rest ∧
    (i.production.head = table.whole.production.head → below = [])

/-- The items after each tree of a row fit what was read up to there. -/
inductive Row (table : Table τ φ) (productions : List (Production τ φ)) :
    List (State τ φ) → List (Tree τ φ α) → Prop
  | start : Row table productions [State.start table] []
  | step {states : List (State τ φ)} {trees : List (Tree τ φ α)}
      (below : Row table productions states trees) (items : List (Item τ φ)) (t : Tree τ φ α)
      (hitems : ∀ i ∈ items, i.Fits table productions (t :: trees)) :
      Row table productions (State.ofItems items :: states) (t :: trees)

theorem Row.head (h : table.Of productions) {s : State τ φ} {states : List (State τ φ)}
    {trees : List (Tree τ φ α)} (hrow : Row table productions (s :: states) trees) :
    ∃ items, s = State.ofItems items ∧ ∀ i ∈ items, i.Fits table productions trees := by
  cases hrow with
  | start =>
    refine ⟨[table.whole], rfl, ?_⟩
    intro i hi
    rw [List.mem_singleton.1 hi]
    refine ⟨h.whole.1, [], [], rfl, ?_, fun _ => rfl⟩
    simp [h.whole.2]
  | step below items t hitems => exact ⟨items, rfl, hitems⟩

theorem Row.drop {states : List (State τ φ)} {trees : List (Tree τ φ α)}
    (hrow : Row table productions states trees) {n : Nat} (hn : n ≤ trees.length) :
    Row table productions (states.drop n) (trees.drop n) := by
  induction n generalizing states trees with
  | zero => exact hrow
  | succ n ih =>
    cases hrow with
    | start => simp at hn
    | step below items t hitems => exact ih below (by simpa using hn)

theorem State.mem_expected {items : List (Item τ φ)} {p : φ}
    (h : p ∈ (State.ofItems items).expected) : ∃ i ∈ items, ∃ rest, i.rest = .phrase p :: rest := by
  rw [State.ofItems, List.mem_eraseDups] at h
  obtain ⟨i, hi, hphrase⟩ := List.mem_filterMap.1 h
  refine ⟨i, hi, ?_⟩
  split at hphrase
  · rename_i q rest hrest
    cases hphrase
    exact ⟨rest, hrest⟩
  · cases hphrase

theorem Row.complete (h : table.Of productions) {s : State τ φ} {states : List (State τ φ)}
    {trees : List (Tree τ φ α)} (hrow : Row table productions (s :: states) trees)
    {p : Production τ φ} (hp : p ∈ s.complete) :
    p ∈ productions ∧ p.body.length ≤ trees.length ∧
      (trees.take p.body.length).reverse.map Tree.root = p.body ∧
      (p.head = table.whole.production.head → trees.length = p.body.length) := by
  obtain ⟨items, rfl, hitems⟩ := hrow.head h
  obtain ⟨i, hi, hcomplete⟩ := List.mem_filterMap.1 hp
  obtain ⟨hmem, parts, below, htrees, hbody, hwhole⟩ := hitems i hi
  split at hcomplete
  · rename_i hrest
    cases hcomplete
    rw [List.isEmpty_iff.1 hrest, List.append_nil] at hbody
    have hlength : i.production.body.length = parts.length := by simp [hbody]
    refine ⟨hmem, ?_, ?_, ?_⟩
    · simp [htrees, hlength]
    · rw [hlength, htrees, hbody, ← List.length_reverse, List.take_left, List.reverse_reverse]
    · intro hhead
      simp [htrees, hwhole hhead, hlength]
  · cases hcomplete

variable [DecidableEq τ]

theorem Row.next (h : table.Of productions) {s : State τ φ} {states : List (State τ φ)}
    {trees : List (Tree τ φ α)} (hrow : Row table productions (s :: states) trees)
    {t : Tree τ φ α} {s' : State τ φ} (hnext : s.next? table t.root = some s') :
    Row table productions (s' :: s :: states) (t :: trees) := by
  obtain ⟨items, rfl, hitems⟩ := hrow.head h
  unfold State.next? at hnext
  split at hnext
  · cases hnext
  cases hnext
  rename_i after hafter
  refine .step hrow _ t ?_
  intro i hi
  rcases List.mem_append.1 hi with hi | hi
  · obtain ⟨j, hj, hnext⟩ := List.mem_filterMap.1 hi
    obtain ⟨hmem, parts, below, htrees, hbody, hwhole⟩ := hitems j hj
    unfold Item.next? at hnext
    split at hnext
    · rename_i y rest hrest
      split at hnext
      · rename_i hsymbol
        cases hnext
        refine ⟨hmem, parts ++ [t], below, ?_, ?_, hwhole⟩
        · simp [htrees]
        · simp [hbody, hrest, hsymbol]
      · cases hnext
    · cases hnext
  · unfold State.opened at hi
    split at hi
    · cases hi
    obtain ⟨hopening, hcorner⟩ := List.mem_filter.1 hi
    obtain ⟨hmem, hbody⟩ := h.openings _ i hopening
    refine ⟨hmem, [t], trees, rfl, hbody, ?_⟩
    intro hhead
    obtain ⟨p, hp, hcorner⟩ := List.any_eq_true.1 hcorner
    rw [hhead] at hcorner
    have hne : p ≠ table.whole.production.head := by
      intro heq
      obtain ⟨j, hj, rest, hrest⟩ := State.mem_expected hp
      obtain ⟨hmem, parts, -, -, hbody, -⟩ := hitems j hj
      apply h.absent _ hmem
      rw [hbody, hrest, ← heq]
      simp
    rw [h.corner p hne] at hcorner
    cases hcorner

theorem Row.close (h : table.Of productions) {s : State τ φ} {states : List (State τ φ)}
    {trees : List (Tree τ φ α)} (hrow : Row table productions (s :: states) trees)
    {p : Production τ φ} (hp : p ∈ s.complete) {closed : List (State τ φ)}
    (hclose : table.close? (s :: states) p = some closed) :
    Row table productions closed
      (.node p.head (trees.take p.body.length).reverse :: trees.drop p.body.length) := by
  have hdrop := hrow.drop (hrow.complete h hp).2.1
  unfold Table.close? at hclose
  generalize (s :: states).drop p.body.length = below at hdrop hclose
  cases below with
  | nil => cases hclose
  | cons s' below =>
    obtain ⟨after, hafter, rfl⟩ := Option.map_eq_some_iff.1 hclose
    exact hdrop.next h hafter

end Rows

section Moves

variable [DecidableEq τ]

private theorem settle_spec (table : Table τ φ) (s : State τ φ) (taken : Option (State τ φ))
    (closable : List (Production τ φ)) (t : τ) :
    (∀ p ∈ (table.settle s taken closable t).closed, p ∈ closable) ∧
      ∀ s', (table.settle s taken closable t).taken = some s' → taken = some s' := by
  have hclosed : ∀ strength, ∀ p ∈ closable.filter (·.strength = strength), p ∈ closable :=
    fun _ p hp => (List.mem_filter.1 hp).1
  unfold Table.settle
  split
  · simp
  · split
    · exact ⟨hclosed _, by simp⟩
    · simp only
      split
      · simp
      · exact ⟨hclosed _, by simp⟩
      · exact ⟨hclosed _, by simp⟩
      · split
        · exact ⟨hclosed _, by simp⟩
        · split
          · simp
          · exact ⟨hclosed _, by simp⟩

/-- A reading closes productions that are complete, and takes a token that can come next. -/
theorem Table.moves_spec [DecidableEq φ] (table : Table τ φ) (fuel : Nat) (s : State τ φ)
    (states : List (State τ φ)) (t : τ) :
    (∀ p ∈ (table.moves fuel (s :: states) t).closed, p ∈ s.complete) ∧
      ∀ s', (table.moves fuel (s :: states) t).taken = some s' →
        s.next? table (.token t) = some s' := by
  unfold Table.moves
  simp only
  split
  · simp
  · rename_i p hcomplete hnone
    simp [hcomplete]
  · have hsettled (closed : List (Production τ φ)) :=
      settle_spec table s (s.next? table (.token t)) closed t
    exact ⟨fun p hp => (List.mem_filter.1 ((hsettled _).1 p hp)).1, (hsettled _).2⟩

end Moves

namespace Reading

variable {P : Reading τ φ α σ → Prop} {table : Table τ φ}

private theorem preferred_of {r s : Reading τ φ α σ} (hr : P r) (hs : P s) : P (r.preferred s) := by
  unfold preferred
  split
  · exact hs
  · split
    · exact hr
    · split
      · exact hs
      · exact hr

private theorem preferredWhole_of {r s : Reading τ φ α σ} (hr : P r) (hs : P s) :
    P (preferredWhole table r s) := by
  unfold preferredWhole
  simp only
  split
  · exact hs
  · split
    · exact hr
    · split
      · exact hs
      · exact hr

private theorem foldl_preferredWhole_of (table : Table τ φ) {r : Reading τ φ α σ} (hr : P r)
    {rs : List (Reading τ φ α σ)} (hrs : ∀ s ∈ rs, P s) : P (rs.foldl (preferredWhole table) r) := by
  induction rs generalizing r with
  | nil => exact hr
  | cons s rs ih =>
    obtain ⟨hs, hrs⟩ := List.forall_mem_cons.1 hrs
    exact ih (preferredWhole_of hr hs) hrs

private theorem forall_join {r : Reading τ φ α σ} (hr : P r) {rs : List (Reading τ φ α σ)}
    (hrs : ∀ s ∈ rs, P s) : ∀ s ∈ join r rs, P s := by
  induction rs with
  | nil => simpa [join] using hr
  | cons s rs ih =>
    obtain ⟨hs, hrest⟩ := List.forall_mem_cons.1 hrs
    unfold join
    split
    · exact List.forall_mem_cons.2 ⟨preferred_of hs hr, hrest⟩
    · exact List.forall_mem_cons.2 ⟨hs, ih hrest⟩

private theorem forall_joinAll {more rs : List (Reading τ φ α σ)} (hmore : ∀ s ∈ more, P s)
    (hrs : ∀ s ∈ rs, P s) : ∀ s ∈ more.foldl (fun ws c => join c ws) rs, P s := by
  induction more generalizing rs with
  | nil => exact hrs
  | cons c more ih =>
    obtain ⟨hc, hmore⟩ := List.forall_mem_cons.1 hmore
    exact ih hmore (forall_join hc hrs)

private theorem forall_insert {r : Reading τ φ α σ} (hr : P r) {rs : List (Reading τ φ α σ)}
    (hrs : ∀ s ∈ rs, P s) : ∀ s ∈ insert r rs, P s := by
  induction rs generalizing r with
  | nil => simpa [insert] using hr
  | cons s rs ih =>
    obtain ⟨hs, hrest⟩ := List.forall_mem_cons.1 hrs
    unfold insert
    split
    · exact List.forall_mem_cons.2 ⟨preferred_of hs hr, hrest⟩
    · split
      · exact List.forall_mem_cons.2 ⟨hr, ih hs hrest⟩
      · exact List.forall_mem_cons.2 ⟨hs, ih hr hrest⟩

private theorem withinLimits_sub {kept rs : List (Reading τ φ α σ)} {groups : Nat} :
    ∀ r ∈ withinLimits kept groups rs, r ∈ rs := by
  induction rs generalizing kept groups with
  | nil => simp [withinLimits]
  | cons s rs ih =>
    intro r hr
    unfold withinLimits at hr
    split at hr <;> split at hr
    · rcases List.mem_cons.1 hr with rfl | hr
      · exact List.mem_cons_self
      · exact List.mem_cons_of_mem s (ih r hr)
    · exact List.mem_cons_of_mem s (ih r hr)
    · rcases List.mem_cons.1 hr with rfl | hr
      · exact List.mem_cons_self
      · exact List.mem_cons_of_mem s (ih r hr)
    · exact List.mem_cons_of_mem s (ih r hr)

private theorem forall_narrow {rs : List (Reading τ φ α σ)} (hrs : ∀ s ∈ rs, P s) :
    ∀ s ∈ narrow rs, P s := by
  have hall : ∀ (more kept : List (Reading τ φ α σ)), (∀ s ∈ more, P s) → (∀ s ∈ kept, P s) →
      ∀ s ∈ more.foldl (fun kept r => insert r kept) kept, P s := by
    intro more
    induction more with
    | nil => exact fun kept _ hkept => hkept
    | cons c more ih =>
      intro kept hmore hkept
      obtain ⟨hc, hmore⟩ := List.forall_mem_cons.1 hmore
      exact ih _ hmore (forall_insert hc hkept)
  intro s hs
  exact hall rs [] hrs (by simp) s (withinLimits_sub s hs)

end Reading

/-- The tokens with their kinds that are cut from a text one after the other, and what follows. -/
inductive Cuts (scan : (τ → Bool) → σ → Option (Next τ α σ)) : σ → List (τ × α) → σ → Prop
  | none (text : σ) : Cuts scan text [] text
  | more {text : σ} {leaves : List (τ × α)} {rest : σ} (h : Cuts scan text leaves rest)
      {canFollow : τ → Bool} {next : Next τ α σ} (hnext : scan canFollow rest = some next) :
      Cuts scan text (leaves ++ [(next.kind, next.token)]) next.rest

section Readings

variable [DecidableEq τ] [DecidableEq φ] {table : Table τ φ} {productions : List (Production τ φ)}
  {scan : (τ → Bool) → σ → Option (Next τ α σ)} {text : σ}

namespace Reading

def row (r : Reading τ φ α σ) : List (Tree τ φ α) := r.trees.map (·.tree)

/-- What was read is formed by the productions and cut from the text. -/
structure Sound (table : Table τ φ) (productions : List (Production τ φ))
    (scan : (τ → Bool) → σ → Option (Next τ α σ)) (text : σ) (r : Reading τ φ α σ) : Prop where
  states : Row table productions r.states r.row
  formed : ∀ t ∈ r.row, t.Formed productions
  cuts : Cuts scan text (r.row.reverse.flatMap Tree.leaves) r.rest

theorem Sound.take (h : table.Of productions) {r : Reading τ φ α σ}
    (hr : r.Sound table productions scan text) {canFollow : τ → Bool} {next : Next τ α σ}
    (hnext : scan canFollow r.rest = some next) {fuel : Nat} {state : State τ φ}
    (htaken : (table.moves fuel r.states next.kind).taken = some state) :
    (r.take state next).Sound table productions scan text := by
  have hrow : (r.take state next).row = .leaf next.kind next.token :: r.row := rfl
  cases hstates : r.states with
  | nil =>
    rw [hstates] at htaken
    cases htaken
  | cons s states =>
    have hrow' := hr.states
    rw [hstates] at htaken hrow'
    refine ⟨?_, ?_, ?_⟩
    · rw [hrow]
      change Row table productions (state :: r.states) _
      rw [hstates]
      exact hrow'.next h ((table.moves_spec fuel s states next.kind).2 state htaken)
    · rw [hrow]
      intro t ht
      rcases List.mem_cons.1 ht with rfl | ht
      · exact .leaf _ _
      · exact hr.formed t ht
    · have hcuts := hr.cuts.more hnext
      have hrest : (r.take state next).rest = next.rest := rfl
      rw [hrow, hrest, List.reverse_cons, List.flatMap_append]
      simpa [Tree.leaves] using hcuts

private theorem close?_spec {r r' : Reading τ φ α σ} {p : Production τ φ}
    (h : r.close? table p = some r') : table.close? r.states p = some r'.states ∧
      r'.row = .node p.head (r.row.take p.body.length).reverse :: r.row.drop p.body.length ∧
      r'.rest = r.rest := by
  obtain ⟨closed, hclosed, rfl⟩ := Option.map_eq_some_iff.1 h
  exact ⟨hclosed, by simp [row, List.map_take, List.map_drop], rfl⟩

theorem Sound.close (h : table.Of productions) {r r' : Reading τ φ α σ}
    (hr : r.Sound table productions scan text) {fuel : Nat} {t : τ} {p : Production τ φ}
    (hp : p ∈ (table.moves fuel r.states t).closed) (hclose : r.close? table p = some r') :
    r'.Sound table productions scan text := by
  obtain ⟨hclosed, hrow', hrest⟩ := close?_spec hclose
  cases hstates : r.states with
  | nil =>
    rw [hstates] at hp
    cases hp
  | cons s states =>
    have hrow := hr.states
    rw [hstates] at hp hrow hclosed
    have hcomplete := (table.moves_spec fuel s states t).1 p hp
    obtain ⟨hmem, -, hbody, -⟩ := hrow.complete h hcomplete
    have hsplit := List.take_append_drop p.body.length r.row
    refine ⟨?_, ?_, ?_⟩
    · rw [hrow']
      exact hrow.close h hcomplete hclosed
    · rw [hrow']
      intro t ht
      rcases List.mem_cons.1 ht with rfl | ht
      · refine .node hmem hbody ?_
        intro part hpart
        exact hr.formed part (List.mem_of_mem_take (List.mem_reverse.1 hpart))
      · exact hr.formed t (List.mem_of_mem_drop ht)
    · have hcuts := hr.cuts
      rw [← hsplit, List.reverse_append, List.flatMap_append] at hcuts
      rw [hrow', hrest, List.reverse_cons, List.flatMap_append]
      simpa [Tree.leaves_node] using hcuts

theorem Sound.advance (h : table.Of productions) {canFollow : τ → Bool} {next : Next τ α σ}
    {fuel : Nat} {waiting : List (Reading τ φ α σ)} {r : Reading τ φ α σ}
    (hwaiting : ∀ s ∈ waiting, s.Sound table productions scan text)
    (hr : r.Sound table productions scan text) (hnext : scan canFollow r.rest = some next) :
    (∀ s ∈ (Reading.advance table next fuel waiting r).1, s.Sound table productions scan text) ∧
      ∀ s ∈ (Reading.advance table next fuel waiting r).2,
        s.Sound table productions scan text := by
  induction fuel generalizing waiting r with
  | zero => exact ⟨hwaiting, by simp [Reading.advance]⟩
  | succ fuel ih =>
    have hclosed : ∀ s ∈ (table.moves fuel r.states next.kind).closed.filterMap (r.close? table),
        s.Sound table productions scan text ∧ s.rest = r.rest := by
      intro s hs
      obtain ⟨p, hp, hclose⟩ := List.mem_filterMap.1 hs
      exact ⟨hr.close h hp hclose, (close?_spec hclose).2.2⟩
    unfold Reading.advance
    simp only
    split
    · rename_i state _ htaken
      refine ⟨forall_joinAll (fun s hs => (hclosed s hs).1) hwaiting, ?_⟩
      intro s hs
      cases hs
      exact hr.take h hnext htaken
    · exact ⟨hwaiting, by simp⟩
    · rename_i last others _ hreverse
      have hmem : ∀ s ∈ last :: others, s.Sound table productions scan text ∧ s.rest = r.rest := by
        intro s hs
        apply hclosed
        rw [← List.mem_reverse, hreverse]
        exact hs
      obtain ⟨hlast, hothers⟩ := List.forall_mem_cons.1 hmem
      have hjoined : ∀ s ∈ others.reverse.foldl (fun ws c => join c ws) waiting,
          s.Sound table productions scan text :=
        forall_joinAll (fun s hs => (hothers s (List.mem_reverse.1 hs)).1) hwaiting
      split
      · exact ⟨forall_join hlast.1 hjoined, by simp⟩
      · exact ih hjoined hlast.1 (by rw [hlast.2]; exact hnext)

theorem sound_round (h : table.Of productions) {front fuel steps : Nat}
    {waiting done : List (Reading τ φ α σ)}
    (hwaiting : ∀ s ∈ waiting, s.Sound table productions scan text)
    (hdone : ∀ s ∈ done, s.Sound table productions scan text) :
    ∀ s ∈ round table scan front fuel steps waiting done, s.Sound table productions scan text := by
  induction steps generalizing waiting done with
  | zero => simpa [round] using hdone
  | succ steps ih =>
    cases waiting with
    | nil => simpa [round] using hdone
    | cons r waiting =>
      obtain ⟨hr, hwaiting⟩ := List.forall_mem_cons.1 hwaiting
      unfold round
      split
      · exact ih hwaiting (List.forall_mem_cons.2 ⟨hr, hdone⟩)
      · split
        · exact ih hwaiting hdone
        · rename_i next hnext
          obtain ⟨hmore, htaken⟩ := @Sound.advance _ _ _ _ _ _ _ _ _ _ h _ _ fuel _ _ hwaiting hr hnext
          apply ih hmore
          intro s hs
          rcases List.mem_append.1 hs with hs | hs
          · exact htaken s (Option.mem_toList.1 hs)
          · exact hdone s hs

omit [DecidableEq τ] in
theorem sound_result {rs : List (Reading τ φ α σ)} (h : table.Of productions)
    (hrs : ∀ s ∈ rs, s.Sound table productions scan text) {trees : List (Tree τ φ α)}
    (hresult : result? table rs = some trees) :
    trees.map Tree.root = table.whole.production.body ∧ (∀ t ∈ trees, t.Formed productions) ∧
      ∃ rest, Cuts scan text (trees.flatMap Tree.leaves) rest := by
  unfold result? at hresult
  split at hresult
  · cases hresult
  · rename_i r whole hfilter
    cases hresult
    have hall : ∀ s ∈ r :: whole, s.Sound table productions scan text ∧ s.isWhole table = true := by
      rw [← hfilter]
      intro s hs
      exact ⟨hrs s (List.mem_filter.1 hs).1, (List.mem_filter.1 hs).2⟩
    obtain ⟨hr, hwhole⟩ := List.forall_mem_cons.1 hall
    obtain ⟨hsound, hend⟩ := foldl_preferredWhole_of table hr hwhole
    generalize whole.foldl (preferredWhole table) r = s at hsound hend
    have hrow := hsound.states
    unfold isWhole at hend
    split at hend
    · rename_i state states hstates
      rw [hstates] at hrow
      obtain ⟨p, hp, hhead⟩ := List.any_eq_true.1 hend
      have hhead' : p.head = table.whole.production.head := by simpa using hhead
      obtain ⟨hmem, -, hbody, hlength⟩ := hrow.complete h hp
      rw [h.lone p hmem hhead'] at hbody hlength
      rw [← hlength rfl, List.take_length] at hbody
      refine ⟨hbody, ?_, s.rest, hsound.cuts⟩
      intro t ht
      exact hsound.formed t (List.mem_reverse.1 ht)
    · cases hend

theorem sound_run (h : table.Of productions) {fuel : Nat} {rs : List (Reading τ φ α σ)}
    (hrs : ∀ s ∈ rs, s.Sound table productions scan text) {trees : List (Tree τ φ α)}
    (hrun : run table scan fuel rs = some trees) :
    trees.map Tree.root = table.whole.production.body ∧ (∀ t ∈ trees, t.Formed productions) ∧
      ∃ rest, Cuts scan text (trees.flatMap Tree.leaves) rest := by
  induction fuel generalizing rs with
  | zero => cases hrun
  | succ fuel ih =>
    cases rs with
    | nil => cases hrun
    | cons r rs =>
      unfold run at hrun
      simp only at hrun
      split at hrun
      · rename_i found hfound
        cases hrun
        exact sound_result h (sound_round h hrs (by simp)) hfound
      · exact ih (forall_narrow (sound_round h hrs (by simp))) hrun

end Reading

theorem Table.Of.read?_sound (h : table.Of productions) {length : Nat} {trees : List (Tree τ φ α)}
    (hread : table.read? scan length text = some trees) :
    trees.map Tree.root = table.whole.production.body ∧ (∀ t ∈ trees, t.Formed productions) ∧
      ∃ rest, Cuts scan text (trees.flatMap Tree.leaves) rest := by
  apply Reading.sound_run h ?_ hread
  intro s hs
  rw [List.mem_singleton.1 hs]
  exact ⟨.start, by simp [Reading.row], .none text⟩

end Readings

end AnnotationIndex.Grammar
