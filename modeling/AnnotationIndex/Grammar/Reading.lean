import AnnotationIndex.Grammar.State

/-!
# Reading texts

A text is read from left to right. What has been read is a row of trees with a state after each of
them. At every token a reading may close productions that are complete and then take the token.
If several ways remain open, all of them are followed side by side. Readings that come to the same
row of states are joined, and the preferred one is kept.

A word of the text may be different tokens in different readings: which tokens a reading can take
next decides how the text before it is cut.
-/

namespace AnnotationIndex.Grammar

variable {τ φ α σ : Type} [DecidableEq τ] [DecidableEq φ]

namespace Table

/-- The row of states after a production is closed. The last state comes first. -/
def close? (table : Table τ φ) (states : List (State τ φ)) (p : Production τ φ) :
    Option (List (State τ φ)) :=
  let below := states.drop p.body.length
  match below with
  | [] => none
  | s :: _ => (s.next? table (.phrase p.head)).map (· :: below)

/-- Whether the token `t` can come next, possibly after productions are closed. -/
def canFollow (table : Table τ φ) : Nat → List (State τ φ) → τ → Bool
  | 0, _, _ => false
  | _, [], _ => false
  | fuel + 1, s :: states, t =>
    s.takes table (.token t) ||
      s.complete.any fun p =>
        match table.close? (s :: states) p with
        | some closed => table.canFollow fuel closed t
        | none => false

/-- What a reading does at a token: the productions it closes, and the state after the token if it
takes the token at once. -/
structure Moves (τ φ : Type) where
  closed : List (Production τ φ)
  taken : Option (State τ φ)

/-- What to do in the state `s`, where the token `t` can be taken as `taken` says. Of the
productions that may be closed only the strongest are. They give way to taking the
token, or the other way round, where the strengths differ or the grouping decides; otherwise both
ways are open. -/
def settle (table : Table τ φ) (s : State τ φ) (taken : Option (State τ φ))
    (closable : List (Production τ φ)) (t : τ) : Moves τ φ :=
  match (closable.map (·.strength)).max? with
  | none => ⟨[], taken⟩
  | some strength =>
    let closed := closable.filter (·.strength = strength)
    match taken with
    | none => ⟨closed, none⟩
    | some _ =>
      let rivals := s.rivals table t
      match rivals.any (strength < ·), rivals.any (· < strength) with
      | true, false => ⟨[], taken⟩
      | false, true => ⟨closed, none⟩
      | true, true => ⟨closed, taken⟩
      | false, false =>
        if closed.all (·.grouping = some .left) then ⟨closed, none⟩
        else if closed.all (·.grouping = some .right) then ⟨[], taken⟩
        else ⟨closed, taken⟩

/-- The moves of a reading with the given states at the token `t`. A production is closed only if
the token can follow it. This need not be known beforehand where there is nothing else to do. -/
def moves (table : Table τ φ) (fuel : Nat) (states : List (State τ φ)) (t : τ) : Moves τ φ :=
  match states with
  | [] => ⟨[], none⟩
  | s :: _ =>
    let taken := s.next? table (.token t)
    match s.complete, taken with
    | [], _ => ⟨[], taken⟩
    | [p], none => ⟨[p], none⟩
    | complete, _ =>
      table.settle s taken (complete.filter fun p =>
        match table.close? states p with
        | some closed => table.canFollow fuel closed t
        | none => false) t

end Table

structure Weighed (τ φ α : Type) where
  tree : Tree τ φ α
  weight : Nat

/-- One way to read the beginning of a text. -/
structure Reading (τ φ α σ : Type) where
  /-- The states after each tree, the last one first, and the state before the text. -/
  states : List (State τ φ)
  /-- The trees that were read, the last one first. -/
  trees : List (Weighed τ φ α)
  height : Nat
  weight : Nat
  position : Nat
  rest : σ

structure Next (τ α σ : Type) where
  kind : τ
  token : α
  length : Nat
  rest : σ

namespace Reading

def close? (table : Table τ φ) (r : Reading τ φ α σ) (p : Production τ φ) :
    Option (Reading τ φ α σ) :=
  (table.close? r.states p).map fun states =>
    let n := p.body.length
    let parts := (r.trees.take n).reverse
    let weight := parts.foldl (fun sum part => sum + part.weight) p.weight
    { r with
      states
      trees := ⟨.node p.head (parts.map (·.tree)), weight⟩ :: r.trees.drop n
      height := r.height - n + 1
      weight := r.weight + p.weight }

def take (r : Reading τ φ α σ) (state : State τ φ) (next : Next τ α σ) : Reading τ φ α σ where
  states := state :: r.states
  trees := ⟨.leaf next.kind next.token, 0⟩ :: r.trees
  height := r.height + 1
  weight := r.weight
  position := r.position + next.length
  rest := next.rest

def sameStates : List (State τ φ) → List (State τ φ) → Bool
  | s :: ss, t :: ts => State.sameItems s.items t.items && sameStates ss ts
  | [], [] => true
  | _, _ => false

/-- Whether two readings can only go on in the same way. -/
def same (r s : Reading τ φ α σ) : Bool :=
  r.position == s.position && r.height == s.height && sameStates r.states s.states

def lastParts (r : Reading τ φ α σ) : Nat :=
  match r.trees with
  | t :: _ => t.tree.parts.length
  | [] => 0

/-- The preferred one of two readings that can only go on in the same way: the heavier one, then
the one whose last phrase has fewer parts, then the first. -/
def preferred (r s : Reading τ φ α σ) : Reading τ φ α σ :=
  if r.weight < s.weight then s
  else if s.weight < r.weight then r
  else if s.lastParts < r.lastParts then s
  else r

def join (r : Reading τ φ α σ) : List (Reading τ φ α σ) → List (Reading τ φ α σ)
  | [] => [r]
  | s :: rs => if s.same r then s.preferred r :: rs else s :: join r rs

def insert (r : Reading τ φ α σ) : List (Reading τ φ α σ) → List (Reading τ φ α σ)
  | [] => [r]
  | s :: rs =>
    if s.same r then s.preferred r :: rs
    else if s.weight < r.weight then r :: insert s rs
    else s :: insert r rs

/-- Whether two readings are at the same place and go on in the same way until what is open there is
closed. -/
def beside (r s : Reading τ φ α σ) : Bool :=
  r.position == s.position && sameStates (r.states.take 1) (s.states.take 1)

def groupLimit : Nat := 6

def limit : Nat := 40

/-- Leaves out the readings that would exceed the limits besides those in `kept`. -/
def withinLimits (kept : List (Reading τ φ α σ)) (groups : Nat) :
    List (Reading τ φ α σ) → List (Reading τ φ α σ)
  | [] => []
  | r :: rs =>
    match kept.countP (beside r) with
    | 0 =>
      if groups < groupLimit then r :: withinLimits (r :: kept) (groups + 1) rs
      else withinLimits kept groups rs
    | n =>
      if n < limit then r :: withinLimits (r :: kept) groups rs else withinLimits kept groups rs

/-- The heaviest of some readings, each way to go on only once. -/
def narrow (rs : List (Reading τ φ α σ)) : List (Reading τ φ α σ) :=
  withinLimits [] 0 (rs.foldl (fun kept r => insert r kept) [])

/-- Closes productions until the token is taken. Readings that split off join the others that wait
at the same place. -/
def advance (table : Table τ φ) (next : Next τ α σ) :
    Nat → List (Reading τ φ α σ) → Reading τ φ α σ →
      List (Reading τ φ α σ) × Option (Reading τ φ α σ)
  | 0, waiting, _ => (waiting, none)
  | fuel + 1, waiting, r =>
    let moves := table.moves fuel r.states next.kind
    let closed := moves.closed.filterMap (r.close? table)
    match moves.taken, closed.reverse with
    | some state, _ => (closed.foldl (fun ws c => join c ws) waiting, some (r.take state next))
    | none, [] => (waiting, none)
    | none, last :: others =>
      let waiting := others.reverse.foldl (fun ws c => join c ws) waiting
      if waiting.any (·.same last) then (join last waiting, none)
      else advance table next fuel waiting last

/-- Takes one token in each reading that has come no further than `front`. -/
def round (table : Table τ φ)
    (scan : (τ → Bool) → σ → Option (Next τ α σ)) (front fuel : Nat) :
    Nat → List (Reading τ φ α σ) → List (Reading τ φ α σ) → List (Reading τ φ α σ)
  | 0, _, done => done.reverse
  | _, [], done => done.reverse
  | steps + 1, r :: waiting, done =>
    if front < r.position then round table scan front fuel steps waiting (r :: done)
    else
      match scan (table.canFollow fuel r.states) r.rest with
      | none => round table scan front fuel steps waiting done
      | some next =>
        let (waiting, r?) := advance table next fuel waiting r
        round table scan front fuel steps waiting (r?.toList ++ done)

def isWhole (table : Table τ φ) (r : Reading τ φ α σ) : Bool :=
  match r.states with
  | s :: _ => s.complete.any (·.head = table.whole.production.head)
  | [] => false

/-- The preferred one of two readings of a whole text: the heavier one, then the one with the
symbols that come first in the grammar, then the first. -/
def preferredWhole (table : Table τ φ) (r s : Reading τ φ α σ) : Reading τ φ α σ :=
  let trees (r : Reading τ φ α σ) := (r.trees.map (·.tree)).reverse
  if r.weight < s.weight then s
  else if s.weight < r.weight then r
  else if Tree.comparePartsBy table.rank (trees r) (trees s) = .gt then s
  else r

def result? (table : Table τ φ) (rs : List (Reading τ φ α σ)) : Option (List (Tree τ φ α)) :=
  match rs.filter (isWhole table) with
  | [] => none
  | r :: rs => some ((rs.foldl (preferredWhole table) r).trees.map (·.tree)).reverse

/-- Reads on until a reading comes to the end of the text or none is left. -/
def run (table : Table τ φ) (scan : (τ → Bool) → σ → Option (Next τ α σ)) :
    Nat → List (Reading τ φ α σ) → Option (List (Tree τ φ α))
  | 0, _ => none
  | _, [] => none
  | fuel + 1, r :: rs =>
    let front := rs.foldl (fun n s => min n s.position) r.position
    -- At most as many productions are closed at a token as there are trees and unit phrases.
    let bound := (front + 2) * (table.size + 1)
    let after := round table scan front bound bound (r :: rs) []
    match result? table after with
    | some trees => some trees
    | none => run table scan fuel (narrow after)

end Reading

def Table.read? (table : Table τ φ) (scan : (τ → Bool) → σ → Option (Next τ α σ)) (length : Nat)
    (text : σ) : Option (List (Tree τ φ α)) :=
  Reading.run table scan (length + 2) [⟨[State.start table], [], 0, 0, 0, text⟩]

end AnnotationIndex.Grammar
