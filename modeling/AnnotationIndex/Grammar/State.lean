import AnnotationIndex.Grammar.Basic

/-!
# States of reading

A state tells how far each production has been read that is open at a place of the text. Only
productions with a symbol already read are listed. Which others may begin at the same place follows
from the phrases that can come next and from the phrases that those can begin with.
-/

namespace AnnotationIndex.Grammar

/-- A production of which a part has been read. -/
structure Item (τ φ : Type) where
  number : Nat
  production : Production τ φ
  rest : List (Symbol τ φ)

namespace Item

variable {τ φ : Type}

def same (i j : Item τ φ) : Bool := i.number == j.number && i.rest.length == j.rest.length

def next? [DecidableEq τ] [DecidableEq φ] (x : Symbol τ φ) (i : Item τ φ) : Option (Item τ φ) :=
  match i.rest with
  | y :: rest => if x = y then some { i with rest } else none
  | [] => none

end Item

structure Table (τ φ : Type) where
  openings : Symbol τ φ → List (Item τ φ)
  /-- Whether the first phrase can begin with the second one, or is that one. -/
  isCorner : φ → φ → Bool
  /-- The production that stands for a whole text. -/
  whole : Item τ φ
  rank : Symbol τ φ → Nat
  size : Nat

/-- The numbers of the tokens and phrases of a grammar, each below a bound. -/
structure Numbering (τ φ : Type) where
  token : τ → Nat
  phrase : φ → Nat
  tokens : Nat
  phrases : Nat

namespace Table

variable {τ φ : Type}

/-- The places that can be reached by `step` from those in `todo`, besides those in `reached`. -/
def reach (step : Nat → List Nat) : Nat → List Nat → Array Bool → Array Bool
  | 0, _, reached => reached
  | _, [], reached => reached
  | fuel + 1, p :: todo, reached =>
    if reached.getD p true then reach step fuel todo reached
    else reach step fuel (step p ++ todo) (reached.setIfInBounds p true)

def ofProductions (number : Numbering τ φ) (first : Production τ φ)
    (more : List (Production τ φ)) : Table τ φ :=
  let opened := (first :: more).zipIdx.filterMap fun (p, i) =>
    match p.body with
    | x :: rest => some (x, (⟨i, p, rest⟩ : Item τ φ))
    | [] => none
  let tokenRows := (Array.range number.tokens).map fun n => opened.filterMap fun (x, i) =>
    match x with
    | .token t => if number.token t = n then some i else none
    | .phrase _ => none
  let phraseRows := (Array.range number.phrases).map fun n => opened.filterMap fun (x, i) =>
    match x with
    | .token _ => none
    | .phrase p => if number.phrase p = n then some i else none
  let steps := (Array.range number.phrases).map fun n => opened.filterMap fun (x, i) =>
    match x with
    | .token _ => none
    | .phrase p => if number.phrase i.production.head = n then some (number.phrase p) else none
  let fuel := opened.length + number.phrases + 1
  let corners := (Array.range number.phrases).map fun n =>
    reach (fun p => steps.getD p []) fuel [n] (Array.replicate number.phrases false)
  { openings := fun
      | .token t => tokenRows.getD (number.token t) []
      | .phrase p => phraseRows.getD (number.phrase p) []
    isCorner := fun p q => (corners.getD (number.phrase p) #[]).getD (number.phrase q) false
    whole := ⟨0, first, first.body⟩
    rank := fun
      | .token t => number.token t
      | .phrase p => number.phrase p
    size := number.phrases }

def canBegin [DecidableEq τ] (table : Table τ φ) (t : τ) : Symbol τ φ → Bool
  | .token u => decide (t = u)
  | .phrase p => (table.openings (.token t)).any fun i => table.isCorner p i.production.head

end Table

structure State (τ φ : Type) where
  items : List (Item τ φ)
  expected : List φ
  complete : List (Production τ φ)

namespace State

variable {τ φ : Type} [DecidableEq τ] [DecidableEq φ]

def ofItems (items : List (Item τ φ)) : State τ φ where
  items := items
  expected := (items.filterMap fun i =>
    match i.rest with
    | .phrase p :: _ => some p
    | _ => none).eraseDups
  complete := items.filterMap fun i => if i.rest.isEmpty then some i.production else none

def start (table : Table τ φ) : State τ φ := ofItems [table.whole]

def sameItems : List (Item τ φ) → List (Item τ φ) → Bool
  | i :: is, j :: js => i.same j && sameItems is js
  | [], [] => true
  | _, _ => false

/-- The productions that begin here with the symbol `x`, after that symbol. -/
def opened (table : Table τ φ) (s : State τ φ) (x : Symbol τ φ) : List (Item τ φ) :=
  match s.expected with
  | [] => []
  | expected =>
    (table.openings x).filter fun i =>
      expected.any fun p => table.isCorner p i.production.head

def next? (table : Table τ φ) (s : State τ φ) (x : Symbol τ φ) : Option (State τ φ) :=
  match s.items.filterMap (Item.next? x) ++ s.opened table x with
  | [] => none
  | items => some (ofItems items)

def takes (table : Table τ φ) (s : State τ φ) (x : Symbol τ φ) : Bool :=
  s.items.any (fun i => (i.next? x).isSome) || !(s.opened table x).isEmpty

/-- The strengths of the productions already begun that would go on with the token `t`. -/
def rivals (table : Table τ φ) (s : State τ φ) (t : τ) : List Int :=
  s.items.filterMap fun i =>
    if i.rest.head?.any (table.canBegin t) then some i.production.strength else none

end State

end AnnotationIndex.Grammar
