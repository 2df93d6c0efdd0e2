import Std.Data.HashMap
import AnnotationIndex.Pattern.Basic
import AnnotationIndex.Text.Utf8Ranges

/-!
# The size of machines

A pattern is refused if a machine that looks for it would take up too much room. Such a machine
reads bytes. It has states of equal size, and beyond that room for each step that a state with
several steps can take. There is one machine that reads forward and one that reads backward.
-/

namespace AnnotationIndex.Pattern

open Text

/-- The room that a machine takes up while it is built. -/
structure Room where
  states : Nat
  steps : Nat

namespace Room

def stateBytes : Nat := 32

def bytes (r : Room) : Nat := r.states * stateBytes + r.steps

def limit : Nat := 10 * 1024 * 1024

end Room

abbrev Build := StateT Room Option

namespace Build

inductive Direction where
  | forward | backward
  deriving DecidableEq

def grow (states steps : Nat) : Build Nat := fun r =>
  let r' : Room := ⟨r.states + states, r.steps + steps⟩
  if r'.bytes ≤ Room.limit then some (r.states, r') else none

/-- A new state. A state that reads a byte of several ranges needs eight bytes for each. -/
def state (ranges : Nat) : Build Nat := grow 1 (8 * ranges)

/-- The last state of a part of a machine: a fork can take any number of steps, and each takes four
bytes; another state has room for one. -/
inductive Exit where
  | plain | fork
  deriving DecidableEq

def step : Exit → Build Unit
  | .plain => pure ()
  | .fork => do let _ ← grow 0 4

def nothing : Build Exit := do
  let _ ← state 0
  return .plain

def followedBy (e : Exit) : List (Build Exit) → Build Exit
  | [] => return e
  | b :: bs => do
    step e
    followedBy (← b) bs

def joined : List (Build Exit) → Build Exit
  | [] => nothing
  | b :: bs => do followedBy (← b) bs

def followedByCopies (b : Build Exit) : Nat → Exit → Build Exit
  | 0, e, r => some (e, r)
  | n + 1, e, r =>
    match (do step e; b : Build Exit) r with
    | some (e, r) => followedByCopies b n e r
    | none => none

def copies (b : Build Exit) : Nat → Build Exit
  | 0 => nothing
  | n + 1 => do followedByCopies b n (← b)

def optionalCopies (b : Build Exit) : Nat → Exit → Build Exit
  | 0, e, r => some (e, r)
  | n + 1, e, r =>
    let copy : Build Exit := do
      let _ ← grow 1 8
      let next ← b
      step e
      return next
    match copy r with
    | some (e, r) => optionalCopies b n e r
    | none => none

/-- A part as often as the bounds allow. Where the part cannot be empty (`advances`), a loop around
it needs one fork only. -/
def repeated (b : Build Exit) (advances : Bool) (least : Nat) (most : Option Nat) : Build Exit :=
  match least, most with
  | 0, some 1 => do
    let _ ← grow 1 8
    step (← b)
    nothing
  | 0, none =>
    if advances then do
      let _ ← grow 1 4
      step (← b)
      return .fork
    else do
      step (← b)
      let _ ← grow 2 16
      nothing
  | least + 1, none => do
    step (← copies b (least + 1))
    let _ ← grow 1 4
    return .fork
  | least, some most =>
    if least = most then copies b least
    else do
      let e ← copies b least
      let _ ← state 0
      step (← optionalCopies b (most - least) e)
      return .plain

/-- A number for a key, by which it is kept in a memory of limited size. -/
def slot (size : UInt64) (key : List Nat) : UInt64 :=
  key.foldl (fun h n => (h ^^^ n.toUInt64) * 1099511628211) 14695981039346656037 % size

/-- A memory of states by their keys. Each slot keeps its latest key. -/
abbrev Memory := Std.HashMap UInt64 (List Nat × Nat)

def remembered (size : UInt64) (memory : Memory) (key : List Nat) (make : Build Nat) :
    Build (Nat × Memory) := do
  let place := slot size key
  match memory[place]? with
  | some (key', n) =>
    if key = key' then return (n, memory)
    else
      let n ← make
      return (n, memory.insert place (key, n))
  | none =>
    let n ← make
    return (n, memory.insert place (key, n))

/-- A state whose steps are not all known yet: the ends of the steps so far as a key, latest first,
and the bytes of the step that is still open. -/
structure OpenState where
  steps : List (Nat × Nat × Nat)
  latest : Option (Nat × Nat)

namespace OpenState

def finish (s : OpenState) (target : Nat) : OpenState :=
  match s.latest with
  | some (a, b) => ⟨(a, b, target) :: s.steps, none⟩
  | none => s

def key (s : OpenState) : List Nat := s.steps.reverse.flatMap fun (a, b, target) => [a, b, target]

end OpenState

def forwardSlots : UInt64 := 10000

def complete (target : Nat) : List OpenState → Memory → Build (Nat × Memory)
  | [], memory => return (target, memory)
  | s :: ss, memory => do
    let (next, memory) ← complete target ss memory
    let s := s.finish next
    remembered forwardSlots memory s.key (state s.steps.length)

/-- Adds a row of bytes to open states. They share the states for the bytes that the row has in
common with the row before. -/
def addRow (target : Nat) : List OpenState → ByteRow → Memory → Build (List OpenState × Memory)
  | [], row, memory => return (row.map fun range => ⟨[], some range⟩, memory)
  | ss, [], memory => return (ss, memory)
  | s :: ss, range :: row, memory => do
    if s.latest = some range then
      let (ss, memory) ← addRow target ss row memory
      return (s :: ss, memory)
    else
      let (next, memory) ← complete target ss memory
      let s := { s.finish next with latest := some range }
      return (s :: row.map fun range => ⟨[], some range⟩, memory)

def addRows (target : Nat) : List OpenState → List ByteRow → Memory →
    Build (List OpenState × Memory)
  | ss, [], memory => return (ss, memory)
  | ss, row :: rows, memory => do
    let (ss, memory) ← addRow target ss row memory
    addRows target ss rows memory

/-- One character, read forward. Rows with the same end share the states for it. -/
def forwardRows (rows : List ByteRow) : Build Exit := do
  let target ← state 0
  let (ss, memory) ← addRows target [⟨[], none⟩] rows ∅
  let _ ← complete target ss memory
  return .plain

def backwardSlots : UInt64 := 1000

def backwardRow (target : Nat) : ByteRow → Memory → Build Memory
  | [], memory => return memory
  | (a, b) :: row, memory => do
    let (n, memory) ← remembered backwardSlots memory [target, a, b] (state 0)
    backwardRow n row memory

/-- One character, read backward. Rows with the same beginning share the states for it. -/
def backwardRows (rows : List ByteRow) : Build Exit := do
  let _ ← state 0
  let target ← state 0
  let _ ← rows.foldlM (fun memory row => do
    let memory ← backwardRow target row memory
    step .fork
    return memory) ∅
  return .plain

def oneOf (direction : Direction) (s : CharSet) : Build Exit :=
  if s.ranges.all (·.2 < 128) then do
    let _ ← state 0
    let _ ← state s.ranges.length
    return .plain
  else
    match direction with
    | .forward => forwardRows s.byteRows
    | .backward => backwardRows s.byteRows

def anyOf : List (Build Exit) → Build Exit
  | [] => nothing
  | [b] => b
  | b :: b' :: bs => do
    let e ← b
    let e' ← b'
    let _ ← grow 2 8
    step e
    step e'
    bs.forM fun b => do
      step (← b)
      let _ ← grow 0 4
    return .plain

/-- The texts that go on from a place, arranged by their next bytes. Each chunk holds what was added
before a text ended here. -/
inductive Trie where
  | mk (chunks : List (List (Nat × Trie))) (latest : List (Nat × Trie))

namespace Trie

def empty : Trie := mk [] []

def isLeaf : Trie → Bool
  | mk chunks latest => latest.isEmpty && chunks.all List.isEmpty

def close (t : Trie) : Trie :=
  match t with
  | mk chunks latest => if t.isLeaf && !chunks.isEmpty then t else mk (chunks ++ [latest]) []

def ofBytes : List Nat → Trie
  | [] => empty.close
  | b :: bs => mk [] [(b, ofBytes bs)]

mutual

def add (bytes : List Nat) : Trie → Trie
  | mk chunks latest =>
    match bytes with
    | [] => (mk chunks latest).close
    | b :: bs => mk chunks (addStep b bs latest)

def addStep (b : Nat) (bs : List Nat) : List (Nat × Trie) → List (Nat × Trie)
  | [] => [(b, ofBytes bs)]
  | (c, t) :: steps => if b = c then (c, t.add bs) :: steps else (c, t) :: addStep b bs steps

end

def chunkState (steps : Nat) : Build Unit := do
  if steps ≠ 0 then
    let _ ← state (if steps = 1 then 0 else steps)

mutual

/-- The states for what goes on from a place: a fork to the chunks, and after each chunk but the
latest to the end. -/
def states : Trie → Build Unit
  | mk chunks latest => do
    statesOfChunks chunks
    statesOfSteps latest
    chunkState latest.length
    let filled := (latest :: chunks).countP (!·.isEmpty)
    let _ ← grow 1 (4 * (filled + chunks.length))

def statesOfChunks : List (List (Nat × Trie)) → Build Unit
  | [] => pure ()
  | chunk :: chunks => do
    statesOfSteps chunk
    chunkState chunk.length
    statesOfChunks chunks

def statesOfSteps : List (Nat × Trie) → Build Unit
  | [] => pure ()
  | (_, t) :: steps => do
    if !t.isLeaf then t.states
    statesOfSteps steps

end

end Trie

def bytesOf (direction : Direction) (s : List Char) : List Nat :=
  let bytes := s.flatMap fun c => bytesOfCode c.toNat
  match direction with
  | .forward => bytes
  | .backward => bytes.reverse

/-- Any of several texts. Texts that begin alike share the states for it. -/
def anyText (direction : Direction) (texts : List (List Char)) : Build Exit := do
  let _ ← state 0
  (texts.foldl (fun t s => t.add (bytesOf direction s)) Trie.empty).states
  return .plain

end Build

open Build

def text? : Pattern → Option (List Char)
  | text (c :: s) => some (c :: s)
  | _ => none

mutual

def build (direction : Direction) : Pattern → Build Exit
  | text s => joined ((bytesOf direction s).map fun _ => nothing)
  | oneOf s => Build.oneOf direction s
  | place _ => nothing
  | times p least most =>
    Build.repeated (p.build direction) (p.leastLength.any (0 < ·)) least most
  | group _ p =>
    match direction with
    | .forward => do
      let _ ← state 0
      step (← p.build direction)
      nothing
    | .backward => p.build direction
  | seq ps =>
    let parts := buildEach direction ps
    joined (match direction with
      | .forward => parts
      | .backward => parts.reverse)
  | either ps =>
    match ps.mapM text? with
    | some texts => anyText direction texts
    | none => anyOf (buildEach direction ps)

def buildEach (direction : Direction) : List Pattern → List (Build Exit)
  | [] => []
  | p :: ps => p.build direction :: buildEach direction ps

end

mutual

def beginsAt (anchor : Anchor) : Pattern → Bool
  | place a => a = anchor
  | times p least _ => 0 < least && p.beginsAt anchor
  | group _ p => p.beginsAt anchor
  | seq ps => someBeginsAt anchor ps
  | either ps => allBeginAt anchor ps
  | _ => false

def someBeginsAt (anchor : Anchor) : List Pattern → Bool
  | [] => false
  | p :: ps => p.beginsAt anchor || (p.mostLength = some 0 && someBeginsAt anchor ps)

def allBeginAt (anchor : Anchor) : List Pattern → Bool
  | [] => true
  | p :: ps => p.beginsAt anchor && allBeginAt anchor ps

end

mutual

def endsAt (anchor : Anchor) : Pattern → Bool
  | place a => a = anchor
  | times p least _ => 0 < least && p.endsAt anchor
  | group _ p => p.endsAt anchor
  | seq ps => someEndsAt anchor ps
  | either ps => allEndAt anchor ps
  | _ => false

def someEndsAt (anchor : Anchor) : List Pattern → Bool
  | [] => false
  | p :: ps => someEndsAt anchor ps || (mostSum ps = some 0 && p.endsAt anchor)

def allEndAt (anchor : Anchor) : List Pattern → Bool
  | [] => true
  | p :: ps => p.endsAt anchor && allEndAt anchor ps

end

/-- The machine that looks for a pattern. Unless the pattern can stand at one place only, it first
passes over any number of bytes. -/
def machine (p : Pattern) (direction : Direction) : Build Unit := do
  let fixed := match direction with
    | .forward => p.beginsAt .textStart
    | .backward => p.endsAt .textEnd
  if fixed then
    let _ ← state 0
  else
    let _ ← grow 3 16
  step (← (group 0 p).build direction)
  let _ ← state 0

/-- The number of texts from which on a choice between them is made without such machines. -/
def manyTexts : Nat := 3000

def hasManyTexts : Pattern → Bool
  | either ps => manyTexts ≤ ps.length && (ps.mapM text?).isSome
  | _ => false

/-- Whether there is room for the machines that look for a pattern. -/
def fits (p : Pattern) : Bool :=
  p.hasManyTexts ||
    ((p.machine .forward).run ⟨0, 0⟩).isSome && ((p.machine .backward).run ⟨0, 0⟩).isSome

end AnnotationIndex.Pattern
