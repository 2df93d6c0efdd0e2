import AnnotationIndex.Grammar.Reading
import Mathlib.Data.List.Forall2

/-!
# Turns of readings

At a token every reading has its turn: it closes productions and takes the token. What it does then
depends on its last states. Where these are known, the turn can be computed from them, as long as no
production reaches back further than they do. It is the same turn whatever stands before them, so a
turn that was computed once holds wherever a text comes to the same last states.
-/

namespace AnnotationIndex.Grammar

variable {τ φ α σ β : Type}

def anyKnown (f : β → Option Bool) : List β → Option Bool
  | [] => some false
  | b :: bs =>
    match f b with
    | none => none
    | some true => some true
    | some false => anyKnown f bs

def filterKnown (f : β → Option Bool) : List β → Option (List β)
  | [] => some []
  | b :: bs =>
    match f b, filterKnown f bs with
    | some keep, some rest => some (if keep then b :: rest else rest)
    | _, _ => none

theorem any_of_anyKnown {f : β → Option Bool} {g : β → Bool} {bs : List β} {known : Bool}
    (hg : ∀ b ∈ bs, ∀ v, f b = some v → g b = v) (h : anyKnown f bs = some known) :
    bs.any g = known := by
  induction bs with
  | nil => exact Option.some.inj h
  | cons b bs ih =>
    obtain ⟨hb, hbs⟩ := List.forall_mem_cons.1 hg
    rw [anyKnown] at h
    rw [List.any_cons]
    split at h
    · cases h
    · rename_i hf
      rw [hb true hf, Bool.true_or]
      exact Option.some.inj h
    · rename_i hf
      rw [hb false hf, Bool.false_or]
      exact ih hbs h

theorem filter_of_filterKnown {f : β → Option Bool} {g : β → Bool} {bs kept : List β}
    (hg : ∀ b ∈ bs, ∀ v, f b = some v → g b = v) (h : filterKnown f bs = some kept) :
    bs.filter g = kept := by
  induction bs generalizing kept with
  | nil => exact Option.some.inj h
  | cons b bs ih =>
    obtain ⟨hb, hbs⟩ := List.forall_mem_cons.1 hg
    rw [filterKnown] at h
    split at h
    · rename_i keep rest hf hrest
      cases h
      rw [List.filter_cons, hb keep hf, ih hbs hrest]
    · cases h

namespace Reading

theorem sameStates_self (states : List (State τ φ)) : sameStates states states = true := by
  have hitems : ∀ items : List (Item τ φ), State.sameItems items items = true := by
    intro items
    induction items with
    | nil => rfl
    | cons i items ih => simp [State.sameItems, Item.same, ih]
  induction states with
  | nil => rfl
  | cons s states ih => rw [sameStates, hitems, ih, Bool.and_self]

theorem sameStates_append {states others : List (State τ φ)}
    (h : states.length = others.length) (below : List (State τ φ)) :
    sameStates (states ++ below) (others ++ below) = sameStates states others := by
  induction states generalizing others with
  | nil =>
    obtain rfl : others = [] := List.length_eq_zero_iff.1 h.symm
    exact sameStates_self below
  | cons s states ih =>
    cases others with
    | nil => cases h
    | cons t others =>
      rw [List.cons_append, List.cons_append, sameStates, sameStates, ih (Nat.succ.inj h)]

end Reading

/-- Whether two rows of states are the same, where what stands before them is. -/
def sameRows (states others : List (State τ φ)) : Bool :=
  states.length == others.length && Reading.sameStates states others

def closeParts : List (φ × Nat) → List (Tree τ φ α) → List (Tree τ φ α)
  | [], trees => trees
  | (p, n) :: more, trees => closeParts more (.node p (trees.take n).reverse :: trees.drop n)

theorem closeParts_append (closed more : List (φ × Nat)) (trees : List (Tree τ φ α)) :
    closeParts (closed ++ more) trees = closeParts more (closeParts closed trees) := by
  induction closed generalizing trees with
  | nil => rfl
  | cons c closed ih => exact ih _

variable [DecidableEq τ] [DecidableEq φ]

namespace Table

def rowAfter (table : Table τ φ) : List (State τ φ) → List (Symbol τ φ) → List (State τ φ)
  | row, [] => row
  | [], _ :: _ => []
  | s :: row, x :: xs =>
    table.rowAfter ((s.next? table x).getD (.ofItems []) :: s :: row) xs

/-- The row of states after a production is closed, if the known states reach back far enough. -/
def closeKnown? (table : Table τ φ) (states : List (State τ φ)) (p : Production τ φ) :
    Option (Option (List (State τ φ))) :=
  if p.body.length < states.length then some (table.close? states p) else none

def canFollow? (table : Table τ φ) : Nat → List (State τ φ) → τ → Option Bool
  | 0, _, _ => none
  | _, [], _ => none
  | fuel + 1, s :: states, t =>
    if s.takes table (.token t) then some true
    else anyKnown (fun p =>
      match table.closeKnown? (s :: states) p with
      | none => none
      | some none => some false
      | some (some closed) => table.canFollow? fuel closed t) s.complete

def moves? (table : Table τ φ) (look : Nat) (states : List (State τ φ)) (t : τ) :
    Option (Moves τ φ) :=
  match states with
  | [] => none
  | s :: _ =>
    let taken := s.next? table (.token t)
    match s.complete, taken with
    | [], _ => some ⟨[], taken⟩
    | [p], none => some ⟨[p], none⟩
    | complete, _ =>
      (filterKnown (fun p =>
        match table.closeKnown? states p with
        | none => none
        | some none => some false
        | some (some closed) => table.canFollow? look closed t) complete).map
          (table.settle s taken · t)

variable {table : Table τ φ}

theorem close?_append {states : List (State τ φ)} {p : Production τ φ}
    (h : p.body.length < states.length) (below : List (State τ φ)) :
    table.close? (states ++ below) p = (table.close? states p).map (· ++ below) := by
  have hdrop : (states ++ below).drop p.body.length = states.drop p.body.length ++ below :=
    List.drop_append_of_le_length (Nat.le_of_lt h)
  have hne : states.drop p.body.length ≠ [] := by
    rw [ne_eq, List.drop_eq_nil_iff]
    exact Nat.not_le_of_lt h
  obtain ⟨s, rest, hrest⟩ := List.exists_cons_of_ne_nil hne
  simp only [close?, hdrop, hrest, List.cons_append]
  cases s.next? table (.phrase p.head) <;> rfl

theorem rowAfter_append {row : List (State τ φ)} (h : row ≠ []) (below : List (State τ φ))
    (xs : List (Symbol τ φ)) :
    table.rowAfter (row ++ below) xs = table.rowAfter row xs ++ below := by
  induction xs generalizing row with
  | nil => rfl
  | cons x xs ih =>
    obtain ⟨s, row, rfl⟩ := List.exists_cons_of_ne_nil h
    rw [List.cons_append, rowAfter, rowAfter, ← ih (List.cons_ne_nil _ _)]
    rfl

theorem rowAfter_ne_nil {row : List (State τ φ)} (h : row ≠ []) (xs : List (Symbol τ φ)) :
    table.rowAfter row xs ≠ [] := by
  induction xs generalizing row with
  | nil => exact h
  | cons x xs ih =>
    obtain ⟨s, row, rfl⟩ := List.exists_cons_of_ne_nil h
    exact ih (List.cons_ne_nil _ _)

theorem rowAfter_trans (row : List (State τ φ)) (xs ys : List (Symbol τ φ)) :
    table.rowAfter row (xs ++ ys) = table.rowAfter (table.rowAfter row xs) ys := by
  induction xs generalizing row with
  | nil => rfl
  | cons x xs ih =>
    cases row with
    | nil =>
      cases ys <;> rfl
    | cons s row => exact ih _

theorem length_close? {states closed : List (State τ φ)} {p : Production τ φ}
    (hlt : p.body.length < states.length) (h : table.close? states p = some closed) :
    closed.length + p.body.length = states.length + 1 := by
  simp only [close?] at h
  split at h
  · cases h
  · obtain ⟨state, -, rfl⟩ := Option.map_eq_some_iff.1 h
    rw [List.length_cons, List.length_drop]
    omega

theorem closeKnown?_append {states : List (State τ φ)} {p : Production τ φ}
    {closed : Option (List (State τ φ))} (h : table.closeKnown? states p = some closed)
    (below : List (State τ φ)) :
    p.body.length < states.length ∧ table.close? states p = closed ∧
      table.close? (states ++ below) p = closed.map (· ++ below) := by
  unfold closeKnown? at h
  split at h
  · rename_i hlt
    cases h
    exact ⟨hlt, rfl, close?_append hlt below⟩
  · cases h

/-- Whether a token can follow once a production is closed does not depend on the states below, if it
is known without them. -/
theorem followsClosing_append {states : List (State τ φ)} {p : Production τ φ} {t : τ} {known : Bool}
    {look fuel : Nat} (below : List (State τ φ))
    (hfollow : ∀ {closed known}, table.canFollow? look closed t = some known →
      table.canFollow fuel (closed ++ below) t = known)
    (h : (match table.closeKnown? states p with
      | none => none
      | some none => some false
      | some (some closed) => table.canFollow? look closed t) = some known) :
    (match table.close? (states ++ below) p with
      | some closed => table.canFollow fuel closed t
      | none => false) = known := by
  split at h
  · cases h
  · rename_i hclosed
    obtain ⟨-, -, hclose⟩ := closeKnown?_append hclosed below
    rw [hclose]
    exact Option.some.inj h
  · rename_i closed hclosed
    obtain ⟨-, -, hclose⟩ := closeKnown?_append hclosed below
    rw [hclose]
    exact hfollow h

theorem canFollow_append {look : Nat} {states : List (State τ φ)} {t : τ} {known : Bool}
    (h : table.canFollow? look states t = some known) {fuel : Nat} (hfuel : look ≤ fuel)
    (below : List (State τ φ)) : table.canFollow fuel (states ++ below) t = known := by
  induction look generalizing states fuel known with
  | zero => cases h
  | succ look ih =>
    obtain ⟨fuel, rfl⟩ : ∃ n, fuel = n + 1 := ⟨fuel - 1, by omega⟩
    cases states with
    | nil => cases h
    | cons s states =>
      rw [canFollow?] at h
      rw [List.cons_append, canFollow]
      split at h
      · rename_i htakes
        rw [htakes, Bool.true_or]
        exact Option.some.inj h
      · rename_i htakes
        rw [Bool.eq_false_iff.2 htakes, Bool.false_or]
        refine any_of_anyKnown (fun p _ v hp => ?_) h
        exact followsClosing_append below (fun h => ih h (Nat.le_of_succ_le_succ hfuel)) hp

theorem closable_append {look : Nat} {states : List (State τ φ)} {t : τ}
    {complete closable : List (Production τ φ)}
    (h : filterKnown (fun p =>
      match table.closeKnown? states p with
      | none => none
      | some none => some false
      | some (some closed) => table.canFollow? look closed t) complete = some closable)
    {fuel : Nat} (hfuel : look ≤ fuel) (below : List (State τ φ)) :
    complete.filter (fun p =>
      match table.close? (states ++ below) p with
      | some closed => table.canFollow fuel closed t
      | none => false) = closable :=
  filter_of_filterKnown (fun _ _ _ hp =>
    followsClosing_append below (fun h => canFollow_append h hfuel below) hp) h

theorem moves_append {look : Nat} {states : List (State τ φ)} {t : τ} {m : Moves τ φ}
    (h : table.moves? look states t = some m) {fuel : Nat} (hfuel : look ≤ fuel)
    (below : List (State τ φ)) : table.moves fuel (states ++ below) t = m := by
  cases states with
  | nil => cases h
  | cons s states =>
    simp only [moves?] at h
    simp only [List.cons_append, moves]
    generalize s.next? table (.token t) = taken at h ⊢
    generalize s.complete = complete at h ⊢
    rcases complete with _ | ⟨p, _ | ⟨q, rest⟩⟩
    · exact Option.some.inj h
    · cases taken with
      | none => exact Option.some.inj h
      | some next =>
        obtain ⟨closable, hknown, rfl⟩ := Option.map_eq_some_iff.1 h
        exact congrArg (table.settle s _ · t) (closable_append hknown hfuel below)
    · obtain ⟨closable, hknown, rfl⟩ := Option.map_eq_some_iff.1 h
      exact congrArg (table.settle s _ · t) (closable_append hknown hfuel below)

end Table

/-- What is known of a reading during a turn. -/
structure Strand (τ φ : Type) where
  /-- The number of the reading from which it comes. -/
  origin : Nat
  /-- The phrases closed since then, with the numbers of their parts. -/
  closed : List (φ × Nat)
  /-- The last states. -/
  states : List (State τ φ)
  /-- What it weighs more than is common to all readings. -/
  weight : Nat

/-- How the kind of a token depends on what can follow, if that is known. -/
structure Cue (τ : Type) where
  kind? : (τ → Option Bool) → Option τ

/-- The cue for the next token of a text: it tells how the text is scanned. -/
def Cue.Tells (cue : Cue τ) (scan : (τ → Bool) → σ → Option (Next τ α σ)) (text : σ) (token : α)
    (length : Nat) (rest : σ) : Prop :=
  ∀ (canFollow : τ → Bool) (known : τ → Option Bool),
    (∀ t b, known t = some b → canFollow t = b) → ∀ kind, cue.kind? known = some kind →
      scan canFollow text = some ⟨kind, token, length, rest⟩

namespace Strand

def close? (table : Table τ φ) (s : Strand τ φ) (p : Production τ φ) :
    Option (Option (Strand τ φ)) :=
  (table.closeKnown? s.states p).map fun closed => closed.map fun states =>
    { s with states, closed := s.closed ++ [(p.head, p.body.length)], weight := s.weight + p.weight }

def closeEach? (table : Table τ φ) (s : Strand τ φ) :
    List (Production τ φ) → Option (List (Strand τ φ))
  | [] => some []
  | p :: ps =>
    match s.close? table p, closeEach? table s ps with
    | some closed, some more => some (closed.toList ++ more)
    | _, _ => none

def wait? (s : Strand τ φ) (waiting : List (Strand τ φ)) : Option (List (Strand τ φ)) :=
  if waiting.any (sameRows ·.states s.states) then none else some (waiting ++ [s])

def waitAll? : List (Strand τ φ) → List (Strand τ φ) → Option (List (Strand τ φ))
  | [], waiting => some waiting
  | s :: more, waiting =>
    match s.wait? waiting with
    | some waiting => waitAll? more waiting
    | none => none

/-- Closes productions until the token is taken, if the known states tell how. The result has the
strands that wait, and the one that has taken the token. -/
def advance? (table : Table τ φ) (look : Nat) (t : τ) : Nat → List (Strand τ φ) → Strand τ φ →
    Option (List (Strand τ φ) × Option (Strand τ φ))
  | 0, _, _ => none
  | fuel + 1, waiting, s =>
    match table.moves? look s.states t with
    | none => none
    | some moves =>
      match s.closeEach? table moves.closed with
      | none => none
      | some closed =>
        match moves.taken, closed.reverse with
        | some state, _ =>
          (waitAll? closed waiting).map (·, some { s with states := state :: s.states })
        | none, [] => some (waiting, none)
        | none, last :: others =>
          match waitAll? others.reverse waiting with
          | none => none
          | some waiting =>
            if waiting.any (sameRows ·.states last.states) then none
            else advance? table look t fuel waiting last

/-- Lets each strand take one token, if it is known how. Every strand comes with the kind of the
token that it has taken. -/
def round? (table : Table τ φ) (look : Nat) (cue : Cue τ) :
    Nat → List (Strand τ φ) → Option (List (τ × Strand τ φ))
  | 0, _ => none
  | _, [] => some []
  | steps + 1, s :: waiting =>
    match cue.kind? (table.canFollow? look s.states) with
    | none => none
    | some t =>
      match advance? table look t look waiting s with
      | none => none
      | some (waiting, taken) =>
        (round? table look cue steps waiting).map (taken.toList.map (t, ·) ++ ·)

def isWhole (table : Table τ φ) (s : Strand τ φ) : Bool :=
  match s.states with
  | state :: _ => state.complete.any (·.head = table.whole.production.head)
  | [] => true

/-- Puts a strand among others that are ordered by their weights, if none weighs as much as one with
the same states. -/
def insert? (e : τ × Strand τ φ) : List (τ × Strand τ φ) → Option (List (τ × Strand τ φ))
  | [] => some [e]
  | d :: es =>
    if sameRows d.2.states e.2.states then
      if d.2.weight < e.2.weight then some (e :: es)
      else if e.2.weight < d.2.weight then some (d :: es)
      else none
    else if d.2.weight < e.2.weight then (insert? d es).map (e :: ·)
    else (insert? e es).map (d :: ·)

def insertAll? : List (τ × Strand τ φ) → List (τ × Strand τ φ) → Option (List (τ × Strand τ φ))
  | [], kept => some kept
  | e :: es, kept =>
    match insert? e kept with
    | some kept => insertAll? es kept
    | none => none

def ofRows (rows : List (List (State τ φ) × Nat)) : List (Strand τ φ) :=
  rows.zipIdx.map fun (row, i) => ⟨i, [], row.1, row.2⟩

/-- What readings with the given last states and weights do at a token, if that is known. -/
def turn? (table : Table τ φ) (look : Nat) (cue : Cue τ) (rows : List (List (State τ φ) × Nat)) :
    Option (List (τ × Strand τ φ)) :=
  match round? table look cue look (ofRows rows) with
  | none => none
  | some endings =>
    if endings.any (·.2.isWhole table) || Reading.groupLimit < endings.length then none
    else insertAll? endings []

end Strand

/-- What is known of a reading: its last states, its trees, and what it weighs more than is common
to all readings. -/
structure Front (τ φ α : Type) where
  states : List (State τ φ)
  trees : List (Tree τ φ α)
  weight : Nat

/-- Where all readings are, and what they have in common. -/
structure Ground (τ φ σ : Type) where
  below : List (State τ φ)
  weight : Nat
  position : Nat
  rest : σ

def Front.on (below : List (State τ φ)) (f : Front τ φ α) : Front τ φ α :=
  { f with states := f.states ++ below }

def Ground.after (g : Ground τ φ σ) (length : Nat) (rest : σ) : Ground τ φ σ :=
  { g with position := g.position + length, rest }

def Strand.front (trees : List (List (Tree τ φ α))) (s : Strand τ φ) : Front τ φ α :=
  ⟨s.states, closeParts s.closed (trees.getD s.origin []), s.weight⟩

def Front.taking (trees : List (List (Tree τ φ α))) (token : α) (e : τ × Strand τ φ) :
    Front τ φ α :=
  ⟨e.2.states, .leaf e.1 token :: closeParts e.2.closed (trees.getD e.2.origin []), e.2.weight⟩

namespace Reading

structure At (g : Ground τ φ σ) (f : Front τ φ α) (r : Reading τ φ α σ) : Prop where
  states : r.states = f.states ++ g.below
  trees : r.trees.map (·.tree) = f.trees
  height : r.height + 1 = r.states.length
  weight : r.weight = f.weight + g.weight
  position : r.position = g.position
  rest : r.rest = g.rest

variable {table : Table τ φ} {g : Ground τ φ σ} {trees : List (List (Tree τ φ α))}

omit [DecidableEq τ] [DecidableEq φ] in
theorem At.same {f f' : Front τ φ α} {q r : Reading τ φ α σ} (hq : At g f q) (hr : At g f' r) :
    q.same r = sameRows f.states f'.states := by
  have hheight : (q.height == r.height) = (f.states.length == f'.states.length) := by
    have hq' := hq.height
    have hr' := hr.height
    rw [hq.states, List.length_append] at hq'
    rw [hr.states, List.length_append] at hr'
    rw [Bool.eq_iff_iff, beq_iff_eq, beq_iff_eq]
    omega
  have hposition : (q.position == r.position) = true := by
    rw [hq.position, hr.position, beq_self_eq_true]
  rw [Reading.same, sameRows, hposition, hheight, Bool.true_and, hq.states, hr.states]
  cases hlength : f.states.length == f'.states.length with
  | false => rfl
  | true => rw [sameStates_append (beq_iff_eq.1 hlength)]

omit [DecidableEq τ] [DecidableEq φ] in
theorem at_on_iff {below : List (State τ φ)} {weight position : Nat} {rest : σ} {f : Front τ φ α}
    {r : Reading τ φ α σ} :
    At ⟨[], weight, position, rest⟩ (f.on below) r ↔ At ⟨below, weight, position, rest⟩ f r := by
  have hstates : (f.on below).states ++ [] = f.states ++ below := List.append_nil _
  exact ⟨fun h => ⟨h.states.trans hstates, h.trees, h.height, h.weight, h.position, h.rest⟩,
    fun h => ⟨h.states.trans hstates.symm, h.trees, h.height, h.weight, h.position, h.rest⟩⟩

/-- The readings along strands. -/
abbrev Along (g : Ground τ φ σ) (trees : List (List (Tree τ φ α))) (s : Strand τ φ)
    (r : Reading τ φ α σ) : Prop := At g (s.front trees) r

theorem Along.close {s : Strand τ φ} {r : Reading τ φ α σ} (h : Along g trees s r)
    {p : Production τ φ} {closed : Option (Strand τ φ)} (hclose : s.close? table p = some closed) :
    Option.Rel (Along g trees) closed (r.close? table p) := by
  obtain ⟨states?, hknown, rfl⟩ := Option.map_eq_some_iff.1 hclose
  obtain ⟨hlt, hstates, happend⟩ := Table.closeKnown?_append hknown g.below
  have hrow : r.states = s.states ++ g.below := h.states
  rw [Reading.close?, hrow, happend]
  cases states? with
  | none => exact .none
  | some states =>
    have hlength := Table.length_close? hlt hstates
    refine .some ⟨rfl, ?_, ?_, ?_, h.position, h.rest⟩
    · simp only [Strand.front, closeParts_append, closeParts]
      rw [← show r.trees.map (·.tree) = closeParts s.closed (trees.getD s.origin []) from h.trees]
      simp only [List.map_cons, List.map_reverse, List.map_take, List.map_drop]
    · have hheight := h.height
      rw [hrow, List.length_append] at hheight
      simp only [List.length_append]
      omega
    · have hweight : r.weight = s.weight + g.weight := h.weight
      simp only [Strand.front, hweight]
      omega

theorem Along.closeEach {s : Strand τ φ} {r : Reading τ φ α σ} (h : Along g trees s r)
    {ps : List (Production τ φ)} {closed : List (Strand τ φ)}
    (hclose : s.closeEach? table ps = some closed) :
    List.Forall₂ (Along g trees) closed (ps.filterMap (r.close? table)) := by
  induction ps generalizing closed with
  | nil =>
    cases hclose
    exact .nil
  | cons p ps ih =>
    rw [Strand.closeEach?] at hclose
    split at hclose
    · rename_i first more hfirst hmore
      cases hclose
      rw [List.filterMap_cons]
      have hrel := h.close hfirst
      revert hrel
      cases r.close? table p with
      | none =>
        intro hrel
        cases hrel
        exact ih hmore
      | some closed =>
        intro hrel
        cases hrel with
        | some hrel => exact .cons hrel (ih hmore)
    · cases hclose

omit [DecidableEq τ] [DecidableEq φ] in
theorem any_same_along {ws : List (Strand τ φ)} {rs : List (Reading τ φ α σ)}
    (hws : List.Forall₂ (Along g trees) ws rs) {s : Strand τ φ} {r : Reading τ φ α σ}
    (hs : Along g trees s r) : rs.any (·.same r) = ws.any (sameRows ·.states s.states) := by
  induction hws with
  | nil => rfl
  | cons hw _ ih => rw [List.any_cons, List.any_cons, ih, At.same hw hs]; rfl

omit [DecidableEq τ] [DecidableEq φ] in
theorem join_of_new {r : Reading τ φ α σ} {rs : List (Reading τ φ α σ)}
    (h : rs.any (·.same r) = false) : join r rs = rs ++ [r] := by
  induction rs with
  | nil => rfl
  | cons q rs ih =>
    obtain ⟨hq, hrs⟩ := Bool.or_eq_false_iff.1 (List.any_cons ▸ h)
    rw [join, hq, if_neg Bool.false_ne_true, ih hrs, List.cons_append]

omit [DecidableEq τ] [DecidableEq φ] in
theorem Along.wait {ws ws' : List (Strand τ φ)} {rs : List (Reading τ φ α σ)}
    (hws : List.Forall₂ (Along g trees) ws rs) {s : Strand τ φ} {r : Reading τ φ α σ}
    (hs : Along g trees s r) (h : s.wait? ws = some ws') :
    List.Forall₂ (Along g trees) ws' (join r rs) := by
  unfold Strand.wait? at h
  split at h
  · cases h
  · rename_i hnew
    cases h
    rw [join_of_new (by rw [any_same_along hws hs]; exact Bool.eq_false_iff.2 hnew)]
    exact List.rel_append hws (.cons hs .nil)

omit [DecidableEq τ] [DecidableEq φ] in
theorem Along.waitAll {ss ws ws' : List (Strand τ φ)} {cs rs : List (Reading τ φ α σ)}
    (hss : List.Forall₂ (Along g trees) ss cs) (hws : List.Forall₂ (Along g trees) ws rs)
    (h : Strand.waitAll? ss ws = some ws') :
    List.Forall₂ (Along g trees) ws' (cs.foldl (fun rs c => join c rs) rs) := by
  induction hss generalizing ws rs with
  | nil =>
    cases h
    exact hws
  | cons hs _ ih =>
    rw [Strand.waitAll?] at h
    split at h
    · rename_i hwait
      exact ih (Along.wait hws hs hwait) h
    · cases h

def Taken (g : Ground τ φ σ) (trees : List (List (Tree τ φ α))) (next : Next τ α σ)
    (s : Strand τ φ) (r : Reading τ φ α σ) : Prop :=
  At (g.after next.length next.rest) (.taking trees next.token (next.kind, s)) r

omit [DecidableEq τ] [DecidableEq φ] in
theorem Along.taken {s : Strand τ φ} {r : Reading τ φ α σ} (h : Along g trees s r)
    (state : State τ φ) (next : Next τ α σ) :
    Taken g trees next { s with states := state :: s.states } (r.take state next) := by
  refine ⟨?_, ?_, ?_, h.weight, ?_, rfl⟩
  · simp only [Reading.take, Front.taking, h.states, List.cons_append]
    rfl
  · simp only [Reading.take, Front.taking, List.map_cons, h.trees]
    rfl
  · simp only [Reading.take, List.length_cons, h.height]
  · simp only [Reading.take, Ground.after, h.position]

variable {look : Nat}

theorem Along.advance (next : Next τ α σ) {fuel : Nat} {ws ws' : List (Strand τ φ)} {rs : List (Reading τ φ α σ)}
    {s : Strand τ φ} {r : Reading τ φ α σ} {taken : Option (Strand τ φ)}
    (h : Strand.advance? table look next.kind fuel ws s = some (ws', taken))
    (hws : List.Forall₂ (Along g trees) ws rs) (hs : Along g trees s r) {n : Nat}
    (hn : fuel + look ≤ n) :
    List.Forall₂ (Along g trees) ws' (Reading.advance table next n rs r).1 ∧
      Option.Rel (Taken g trees next) taken (Reading.advance table next n rs r).2 := by
  induction fuel generalizing ws rs s r n with
  | zero => cases h
  | succ fuel ih =>
    obtain ⟨n, rfl⟩ : ∃ k, n = k + 1 := ⟨n - 1, by omega⟩
    rw [Strand.advance?] at h
    split at h
    · cases h
    rename_i m hmoves
    split at h
    · cases h
    rename_i closed hclosed
    have hreal : table.moves n r.states next.kind = m := by
      rw [hs.states]
      exact Table.moves_append hmoves (by omega) g.below
    have hcs := hs.closeEach hclosed
    rw [Reading.advance, hreal]
    generalize m.closed.filterMap (r.close? table) = cs at hcs
    have hreverse := List.forall₂_reverse_iff.2 hcs
    generalize m.taken = state? at h
    cases state? with
    | some state =>
      obtain ⟨ws', hwait, heq⟩ := Option.map_eq_some_iff.1 h
      cases heq
      exact ⟨Along.waitAll hcs hws hwait, .some (hs.taken state next)⟩
    | none =>
      generalize closed.reverse = back at h hreverse
      dsimp only
      generalize cs.reverse = back' at hreverse
      cases hreverse with
      | nil =>
        cases h
        exact ⟨hws, .none⟩
      | cons hlast hothers =>
        dsimp only at h
        split at h
        · cases h
        rename_i ws'' hwait
        split at h
        · cases h
        rename_i hnew
        have hws'' := Along.waitAll (List.forall₂_reverse_iff.2 hothers) hws hwait
        dsimp only
        rw [any_same_along hws'' hlast, Bool.eq_false_iff.2 hnew, if_neg Bool.false_ne_true]
        exact ih h hws'' hlast (by omega)

abbrev Ended (g : Ground τ φ σ) (trees : List (List (Tree τ φ α))) (token : α) (length : Nat)
    (rest : σ) (e : τ × Strand τ φ) (r : Reading τ φ α σ) : Prop :=
  At (g.after length rest) (.taking trees token e) r

variable {scan : (τ → Bool) → σ → Option (Next τ α σ)} {cue : Cue τ} {token : α} {length : Nat}
  {rest : σ}

theorem Along.round (hcue : cue.Tells scan g.rest token length rest) {steps : Nat}
    {ws : List (Strand τ φ)} {rs : List (Reading τ φ α σ)} {es : List (τ × Strand τ φ)}
    (h : Strand.round? table look cue steps ws = some es)
    (hws : List.Forall₂ (Along g trees) ws rs) {fuel n : Nat} (hfuel : look + look ≤ fuel)
    (hn : steps ≤ n) (done : List (Reading τ φ α σ)) :
    ∃ ended, Reading.round table scan g.position fuel n rs done = done.reverse ++ ended ∧
      List.Forall₂ (Ended g trees token length rest) es ended := by
  induction steps generalizing ws rs es n done with
  | zero => cases h
  | succ steps ih =>
    obtain ⟨n, rfl⟩ : ∃ k, n = k + 1 := ⟨n - 1, by omega⟩
    cases hws with
    | nil =>
      cases h
      exact ⟨[], by simp [Reading.round], .nil⟩
    | @cons s r ws rs hs hws =>
      rw [Strand.round?] at h
      split at h
      · cases h
      rename_i kind hkind
      split at h
      · cases h
      rename_i ws' taken hadvance
      obtain ⟨es', hround, rfl⟩ := Option.map_eq_some_iff.1 h
      have hknown : ∀ t b, table.canFollow? look s.states t = some b →
          table.canFollow fuel r.states t = b := by
        intro t b hb
        rw [hs.states]
        exact Table.canFollow_append hb (by omega) g.below
      have hscan : scan (table.canFollow fuel r.states) r.rest =
          some ⟨kind, token, length, rest⟩ := by
        rw [hs.rest]
        exact hcue _ _ hknown kind hkind
      have hfront : ¬ g.position < r.position := by
        rw [hs.position]
        exact Nat.lt_irrefl _
      obtain ⟨hws', htaken⟩ := Along.advance ⟨kind, token, length, rest⟩ hadvance hws hs hfuel
      rw [Reading.round, if_neg hfront, hscan]
      obtain ⟨ended, hended, hes⟩ := ih hround hws' (Nat.le_of_succ_le_succ hn)
        ((Reading.advance table ⟨kind, token, length, rest⟩ fuel rs r).2.toList ++ done)
      refine ⟨(Reading.advance table ⟨kind, token, length, rest⟩ fuel rs r).2.toList ++ ended, ?_, ?_⟩
      · dsimp only
        rw [hended]
        cases (Reading.advance table ⟨kind, token, length, rest⟩ fuel rs r).2 <;> simp
      · refine List.rel_append ?_ hes
        revert htaken
        cases (Reading.advance table ⟨kind, token, length, rest⟩ fuel rs r).2 with
        | none =>
          rintro ⟨⟩
          exact .nil
        | some r' =>
          rintro ⟨htaken⟩
          exact .cons htaken .nil

omit [DecidableEq τ] [DecidableEq φ] in
theorem Ended.insert {d : τ × Strand τ φ} {r : Reading τ φ α σ}
    (hd : Ended g trees token length rest d r) {es es' : List (τ × Strand τ φ)}
    {rs : List (Reading τ φ α σ)} (hes : List.Forall₂ (Ended g trees token length rest) es rs)
    (h : Strand.insert? d es = some es') :
    List.Forall₂ (Ended g trees token length rest) es' (Reading.insert r rs) := by
  induction hes generalizing d r es' with
  | nil =>
    cases h
    exact .cons hd .nil
  | @cons e q es rs he hes ih =>
    have hsame : q.same r = sameRows e.2.states d.2.states := At.same he hd
    have hqr : q.weight < r.weight ↔ e.2.weight < d.2.weight := by
      rw [he.weight, hd.weight]
      exact Nat.add_lt_add_iff_right
    have hrq : r.weight < q.weight ↔ d.2.weight < e.2.weight := by
      rw [he.weight, hd.weight]
      exact Nat.add_lt_add_iff_right
    rw [Strand.insert?] at h
    simp only [Reading.insert, preferred, hsame, hqr, hrq]
    split at h
    · rename_i hrows
      rw [if_pos hrows]
      split at h
      · rename_i hlt
        cases h
        rw [if_pos hlt]
        exact .cons hd hes
      · rename_i hge
        split at h
        · rename_i hlt
          cases h
          rw [if_neg hge, if_pos hlt]
          exact .cons he hes
        · cases h
    · rename_i hrows
      rw [if_neg hrows]
      split at h
      · rename_i hlt
        obtain ⟨more, hmore, rfl⟩ := Option.map_eq_some_iff.1 h
        rw [if_pos hlt]
        exact .cons hd (ih he hmore)
      · rename_i hge
        obtain ⟨more, hmore, rfl⟩ := Option.map_eq_some_iff.1 h
        rw [if_neg hge]
        exact .cons he (ih hd hmore)

omit [DecidableEq τ] [DecidableEq φ] in
theorem Ended.insertAll {ds es es' : List (τ × Strand τ φ)} {qs rs : List (Reading τ φ α σ)}
    (hds : List.Forall₂ (Ended g trees token length rest) ds qs)
    (hes : List.Forall₂ (Ended g trees token length rest) es rs)
    (h : Strand.insertAll? ds es = some es') :
    List.Forall₂ (Ended g trees token length rest) es'
      (qs.foldl (fun kept r => Reading.insert r kept) rs) := by
  induction hds generalizing es rs with
  | nil =>
    cases h
    exact hes
  | cons hd _ ih =>
    rw [Strand.insertAll?] at h
    split at h
    · rename_i hinsert
      exact ih (hd.insert hes hinsert) h
    · cases h

omit [DecidableEq τ] [DecidableEq φ] in
theorem length_insert_le (r : Reading τ φ α σ) (rs : List (Reading τ φ α σ)) :
    (Reading.insert r rs).length ≤ rs.length + 1 := by
  induction rs generalizing r with
  | nil => exact Nat.le_refl 1
  | cons q rs ih =>
    rw [Reading.insert]
    split
    · simp
    · split
      · simpa using ih q
      · simpa using ih r

omit [DecidableEq τ] [DecidableEq φ] in
theorem length_insertAll_le (qs rs : List (Reading τ φ α σ)) :
    (qs.foldl (fun kept r => Reading.insert r kept) rs).length ≤ qs.length + rs.length := by
  induction qs generalizing rs with
  | nil => simp
  | cons q qs ih =>
    have hinsert := length_insert_le q rs
    have hmore := ih (Reading.insert q rs)
    simp only [List.foldl_cons, List.length_cons]
    omega

omit [DecidableEq τ] [DecidableEq φ] in
theorem withinLimits_of_few {rs kept : List (Reading τ φ α σ)} {groups : Nat}
    (hgroups : groups + rs.length ≤ groupLimit) (hkept : kept.length + rs.length ≤ limit) :
    withinLimits kept groups rs = rs := by
  induction rs generalizing kept groups with
  | nil => rfl
  | cons r rs ih =>
    simp only [List.length_cons] at hgroups hkept
    have hcount := List.countP_le_length (p := beside r) (l := kept)
    rw [withinLimits]
    split
    · rw [if_pos (by omega), ih (by omega) (by rw [List.length_cons]; omega)]
    · rename_i n hn
      rw [if_pos (by omega), ih (by omega) (by rw [List.length_cons]; omega)]

omit [DecidableEq τ] [DecidableEq φ] in
theorem narrow_of_few {rs : List (Reading τ φ α σ)} (h : rs.length ≤ groupLimit) :
    narrow rs = rs.foldl (fun kept r => Reading.insert r kept) [] := by
  have hlength := length_insertAll_le rs []
  have hlimit : groupLimit ≤ limit := by decide
  simp only [List.length_nil, Nat.add_zero] at hlength
  exact withinLimits_of_few (by omega) (by rw [List.length_nil]; omega)

omit [DecidableEq τ] in
theorem At.isWhole {s : Strand τ φ} {f : Front τ φ α} {r : Reading τ φ α σ} (h : At g f r)
    (hstates : f.states = s.states) (hne : s.states ≠ []) :
    Reading.isWhole table r = s.isWhole table := by
  obtain ⟨state, states, heq⟩ := List.exists_cons_of_ne_nil hne
  rw [Reading.isWhole, h.states, hstates, Strand.isWhole, heq]
  rfl

omit [DecidableEq τ] in
theorem result?_of_none {rs : List (Reading τ φ α σ)}
    (h : ∀ r ∈ rs, Reading.isWhole table r = false) : result? table rs = none := by
  have hnone : rs.filter (Reading.isWhole table) = [] := by
    rw [List.filter_eq_nil_iff]
    intro r hr
    rw [h r hr]
    exact Bool.false_ne_true
  rw [result?, hnone]

omit [DecidableEq τ] [DecidableEq φ] in
theorem along_ofRows {fs : List (Front τ φ α)} {rs : List (Reading τ φ α σ)}
    (h : List.Forall₂ (At g) fs rs) :
    List.Forall₂ (Along g (fs.map (·.trees)))
      (Strand.ofRows (fs.map fun f => (f.states, f.weight))) rs := by
  rw [List.forall₂_iff_get] at h ⊢
  obtain ⟨hlength, hget⟩ := h
  refine ⟨by simpa [Strand.ofRows] using hlength, fun i hi hr => ?_⟩
  have hf : i < fs.length := by simpa [Strand.ofRows] using hi
  have hfront : ((Strand.ofRows (fs.map fun f => (f.states, f.weight))).get ⟨i, hi⟩).front
      (fs.map (·.trees)) = fs.get ⟨i, hf⟩ := by
    simp [Strand.ofRows, Strand.front, closeParts, hf]
  rw [Along, hfront]
  exact hget i hf hr

omit [DecidableEq τ] [DecidableEq φ] in
theorem foldl_front {rs : List (Reading τ φ α σ)} {n : Nat}
    (h : ∀ r ∈ rs, r.position = n) : rs.foldl (fun m r => min m r.position) n = n := by
  induction rs with
  | nil => rfl
  | cons r rs ih =>
    obtain ⟨hr, hrs⟩ := List.forall_mem_cons.1 h
    rw [List.foldl_cons, hr, Nat.min_self, ih hrs]

omit [DecidableEq τ] [DecidableEq φ] in
theorem position_of_at {fs : List (Front τ φ α)} {rs : List (Reading τ φ α σ)}
    (h : List.Forall₂ (At g) fs rs) : ∀ r ∈ rs, r.position = g.position := by
  induction h with
  | nil => simp
  | cons hr _ ih => exact List.forall_mem_cons.2 ⟨hr.position, ih⟩

theorem round_of_round? {fs : List (Front τ φ α)} {rs : List (Reading τ φ α σ)}
    (hrs : List.Forall₂ (At g) fs rs) {es : List (τ × Strand τ φ)}
    (h : Strand.round? table look cue look
      (Strand.ofRows (fs.map fun f => (f.states, f.weight))) = some es)
    (hcue : cue.Tells scan g.rest token length rest) (hsize : look ≤ table.size) :
    ∃ ended, List.Forall₂ (Ended g (fs.map (·.trees)) token length rest) es ended ∧
      ∀ r more, rs = r :: more → ∀ fuel, run table scan (fuel + 1) rs =
        (result? table ended).or (run table scan fuel (narrow ended)) := by
  have hbound : look + look ≤ (g.position + 2) * (table.size + 1) := by
    have hmul : 2 * (table.size + 1) ≤ (g.position + 2) * (table.size + 1) :=
      Nat.mul_le_mul_right _ (Nat.le_add_left 2 _)
    omega
  obtain ⟨ended, hround, hended⟩ := Along.round hcue h (along_ofRows hrs) hbound
    (Nat.le_trans (Nat.le_add_left look look) hbound) []
  refine ⟨ended, hended, ?_⟩
  rintro r more rfl fuel
  have hposition := position_of_at hrs
  obtain ⟨hr, hmore⟩ := List.forall_mem_cons.1 hposition
  rw [List.reverse_nil, List.nil_append] at hround
  rw [run, hr, foldl_front hmore]
  simp only [hround]
  cases result? table ended <;> rfl

/-- A turn that is known from the last states is the turn of all readings that have these states. -/
theorem run_of_turn? {fs : List (Front τ φ α)} {rs : List (Reading τ φ α σ)}
    (hrs : List.Forall₂ (At g) fs rs) (hne : fs ≠ []) {es : List (τ × Strand τ φ)}
    (h : Strand.turn? table look cue (fs.map fun f => (f.states, f.weight)) = some es)
    (hcue : cue.Tells scan g.rest token length rest) (hsize : look ≤ table.size) :
    ∃ rs', (∀ fuel, run table scan (fuel + 1) rs = run table scan fuel rs') ∧
      List.Forall₂ (At (g.after length rest)) (es.map (Front.taking (fs.map (·.trees)) token))
        rs' := by
  unfold Strand.turn? at h
  split at h
  · cases h
  rename_i endings hround
  split at h
  · cases h
  rename_i hfew
  rw [Bool.or_eq_true, not_or, Bool.not_eq_true, List.any_eq_false, decide_eq_true_eq] at hfew
  obtain ⟨hwhole, hfew⟩ := hfew
  obtain ⟨ended, hended, hrun⟩ := round_of_round? hrs hround hcue hsize
  have hlength : ended.length ≤ groupLimit := hended.length_eq ▸ Nat.le_of_not_lt hfew
  have hnone : result? table ended = none := by
    refine result?_of_none fun r hr => ?_
    obtain ⟨i, hi, rfl⟩ := List.getElem_of_mem hr
    have hi' : i < endings.length := hended.length_eq ▸ hi
    have hat := (List.forall₂_iff_get.1 hended).2 i hi' hi
    have hnot := hwhole _ (List.getElem_mem hi')
    have hne : endings[i].2.states ≠ [] := by
      intro hempty
      rw [Strand.isWhole, hempty] at hnot
      exact hnot rfl
    exact (At.isWhole hat rfl hne).trans (Bool.eq_false_iff.2 hnot)
  obtain ⟨f, fs, rfl⟩ := List.exists_cons_of_ne_nil hne
  cases hrs with
  | cons hr hmore =>
    refine ⟨narrow ended, fun fuel => ?_, ?_⟩
    · rw [hrun _ _ rfl, hnone, Option.none_or]
    · rw [narrow_of_few hlength]
      exact List.forall₂_map_left_iff.2 (Ended.insertAll hended .nil h)

theorem run_of_whole {f : Front τ φ α} {r : Reading τ φ α σ} (hr : At g f r)
    {e : τ × Strand τ φ} (h : Strand.round? table look cue look
      (Strand.ofRows [(f.states, f.weight)]) = some [e])
    (hne : e.2.states ≠ []) (hwhole : e.2.isWhole table = true)
    (hcue : cue.Tells scan g.rest token length rest) (hsize : look ≤ table.size) (fuel : Nat) :
    run table scan (fuel + 1) [r] = some (Front.taking [f.trees] token e).trees.reverse := by
  have hrs : List.Forall₂ (At g) [f] [r] := .cons hr .nil
  obtain ⟨ended, hended, hrun⟩ := round_of_round? hrs h hcue hsize
  cases hended with
  | @cons _ r' _ _ he hnone =>
    cases hnone
    have hend : Reading.isWhole table r' = true := (At.isWhole he rfl hne).trans hwhole
    have hresult : result? table [r'] = some (r'.trees.map (·.tree)).reverse := by
      rw [result?, List.filter_cons_of_pos hend]
      rfl
    rw [hrun _ _ rfl, hresult, he.trees, Option.some_or]
    rfl

end Reading

end AnnotationIndex.Grammar
