/-!
# Grammars

A grammar is a list of productions over tokens and phrases. Rules with optional parts and choices
are a shorthand for several productions. Where a text can be read in more than one way, the
strength and the grouping of productions settle how operators bind, and the weight of productions
tells which of the remaining readings is preferred. Where the weights are the same, the order of
the tokens and phrases can decide.
-/

namespace AnnotationIndex.Grammar

inductive Symbol (τ φ : Type) where
  | token (t : τ)
  | phrase (p : φ)
  deriving DecidableEq, Hashable, Repr

/-- How a chain of operators of one strength is read. -/
inductive Grouping where
  | left | right
  deriving DecidableEq, Repr

structure Production (τ φ : Type) where
  head : φ
  body : List (Symbol τ φ)
  strength : Int
  grouping : Option Grouping
  weight : Nat
  deriving DecidableEq, Repr

/-- The right side of a production with optional parts and choices. -/
inductive Rule (τ φ : Type) where
  | symbol (s : Symbol τ φ)
  | sequence (parts : List (Rule τ φ))
  | choice (options : List (Rule τ φ))
  deriving Repr

namespace Rule

variable {τ φ : Type}

mutual

/-- The sequences of symbols that a rule stands for. -/
def bodies : Rule τ φ → List (List (Symbol τ φ))
  | symbol s => [[s]]
  | sequence parts => bodiesOfSequence parts
  | choice options => bodiesOfChoice options

def bodiesOfSequence : List (Rule τ φ) → List (List (Symbol τ φ))
  | [] => [[]]
  | part :: parts =>
    let rest := bodiesOfSequence parts
    (bodies part).flatMap fun first => rest.map (first ++ ·)

def bodiesOfChoice : List (Rule τ φ) → List (List (Symbol τ φ))
  | [] => []
  | option :: options => bodies option ++ bodiesOfChoice options

end

def opt (r : Rule τ φ) : Rule τ φ := choice [sequence [], r]

def productions [DecidableEq τ] [DecidableEq φ] (r : Rule τ φ) (head : φ) :
    List (Production τ φ) :=
  r.bodies.eraseDups.map (⟨head, ·, 0, none, 0⟩)

end Rule

inductive Tree (τ φ α : Type) where
  | leaf (kind : τ) (token : α)
  | node (phrase : φ) (parts : List (Tree τ φ α))
  deriving Repr

namespace Tree

variable {τ φ α : Type}

mutual

/-- The tokens of a tree from left to right, before `more`. -/
def tokensBefore (more : List α) : Tree τ φ α → List α
  | leaf _ token => token :: more
  | node _ parts => tokensOfParts more parts

def tokensOfParts (more : List α) : List (Tree τ φ α) → List α
  | [] => more
  | part :: parts => part.tokensBefore (tokensOfParts more parts)

end

def tokens (t : Tree τ φ α) : List α := t.tokensBefore []

def parts : Tree τ φ α → List (Tree τ φ α)
  | leaf _ _ => []
  | node _ parts => parts

def isPhrase [DecidableEq φ] (p : φ) : Tree τ φ α → Bool
  | leaf _ _ => false
  | node q _ => p = q

mutual

/-- Trees are ordered by the ranks of their symbols, then by how many parts they have, and then
part by part. -/
def compareBy (rank : Symbol τ φ → Nat) : Tree τ φ α → Tree τ φ α → Ordering
  | leaf t _, leaf u _ => compare (rank (.token t)) (rank (.token u))
  | leaf _ _, node _ _ => .lt
  | node _ _, leaf _ _ => .gt
  | node p ps, node q qs =>
    (compare (rank (.phrase p)) (rank (.phrase q))).then <|
      (compare ps.length qs.length).then (comparePartsBy rank ps qs)

def comparePartsBy (rank : Symbol τ φ → Nat) : List (Tree τ φ α) → List (Tree τ φ α) → Ordering
  | t :: ts, u :: us => (t.compareBy rank u).then (comparePartsBy rank ts us)
  | _, _ => .eq

end

end Tree

end AnnotationIndex.Grammar
