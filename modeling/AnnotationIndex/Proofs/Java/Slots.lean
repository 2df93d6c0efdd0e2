import AnnotationIndex.Proofs.Grammar.Turns
import AnnotationIndex.Proofs.Java.Evaluation

/-!
# The grammar around annotations

How the grammar of source files reads annotations and their arguments, token by token. A turn of the
readings depends on the last states only, which are given by what has been read since a bracket. So
there are finitely many turns, and they are computed with the table of the grammar.
-/

namespace AnnotationIndex.Java.Syntax

open Terminal Phrase
open Grammar (Cue Front Ground Reading Strand Table closeParts)

abbrev Symbol := Grammar.Symbol Terminal Phrase

abbrev RowState := Grammar.State Terminal Phrase

deriving instance DecidableEq for Grammar.Item

deriving instance DecidableEq for Grammar.State

deriving instance DecidableEq for Grammar.Strand

/-- What stands before the symbols that matter: nothing, the parenthesis before the arguments of an
annotation, or the brace before the items of an array. -/
inductive Anchor where
  | top | paren | brace
  deriving DecidableEq

def Anchor.start (table : Table Terminal Phrase) : Anchor → List RowState
  | top => [.start table]
  | paren => (table.rowAfter [.start table]
      [.token atSign, .phrase qualifiedName, .token leftParen]).take 1
  | brace => (table.rowAfter [.start table]
      [.token atSign, .phrase qualifiedName, .token leftParen, .token leftBrace]).take 1

def Anchor.after (a : Anchor) (table : Table Terminal Phrase) (path : List Symbol) : List RowState :=
  table.rowAfter (a.start table) path

/-- A reading after a turn: the reading from which it comes, the phrases it has closed, the kind of
the token it has taken, what it has read since the anchor, and how much heavier it has become. -/
structure Outcome where
  origin : Nat := 0
  closed : List (Phrase × Nat) := []
  kind : Terminal
  path : List Symbol
  weight : Nat := 0

structure Move where
  anchor : Anchor
  before : List (List Symbol)
  cue : Cue Terminal
  outcomes : List Outcome

/-- How far productions may reach that are closed at a token. -/
def reachLimit : Nat := 16

def Move.holds (table : Table Terminal Phrase) (m : Move) : Bool :=
  decide (Strand.turn? table reachLimit m.cue (m.before.map (m.anchor.after table · , 0)) =
    some (m.outcomes.map fun o =>
      (o.kind, ⟨o.origin, o.closed, m.anchor.after table o.path, o.weight⟩)))

def sure (t : Terminal) : Cue Terminal := ⟨fun _ => some t⟩

def keyword (t : Terminal) : Cue Terminal :=
  ⟨fun known => (known t).map fun fits => if fits then t else name⟩

def plainName : Cue Terminal :=
  ⟨fun known => if known nonSealed = some false then some name else none⟩

def plainSign : Cue Terminal :=
  ⟨fun known => if known atInterface = some false then some atSign else none⟩

/-- One reading takes a token. Before the turn it has read `before`, and with some phrases closed it
has read `after`, both behind `base`. -/
def Move.take (a : Anchor) (base before : List Symbol) (cue : Cue Terminal) (kind : Terminal)
    (closed : List (Phrase × Nat)) (after : List Symbol) : Move :=
  ⟨a, [base ++ before], cue, [{ kind, closed, path := base ++ (after ++ [.token kind]) }]⟩

def Move.shift (a : Anchor) (base path : List Symbol) (cue : Cue Terminal) (kind : Terminal) :
    Move := .take a base path cue kind [] path

/-- What has been read of the name of an annotation type after its last part, counted from the sign
before it. -/
inductive KindEnd where
  | second | later
  deriving DecidableEq

def KindEnd.path : KindEnd → List Symbol
  | second => [.token name, .token .dot, .token name]
  | later => [.phrase qualifiedName, .token .dot, .token name]

def kindMoves (a : Anchor) (base : List Symbol) : List Move :=
  [Move.shift a base [.token atSign] plainName name,
    .shift a base [.token atSign, .token name] (sure .dot) .dot,
    .shift a base [.token atSign, .token name, .token .dot] plainName name,
    .shift a base [.token atSign, .phrase qualifiedName, .token .dot] plainName name] ++
  [KindEnd.second, .later].flatMap fun e =>
    [Move.take a base (.token atSign :: e.path) (sure .dot) .dot [(qualifiedName, 3)]
        [.token atSign, .phrase qualifiedName],
      .take a base (.token atSign :: e.path) (sure leftParen) leftParen [(qualifiedName, 3)]
        [.token atSign, .phrase qualifiedName]]

/-- The ways in which an annotation ends: without arguments, with one value, with one pair and with
several pairs. -/
inductive UseEnd where
  | marker (kind : KindEnd)
  | value | pair | pairs
  deriving DecidableEq

namespace UseEnd

def all : List UseEnd := [marker .second, marker .later, value, pair, pairs]

theorem mem_all (e : UseEnd) : e ∈ all := by
  cases e with
  | marker kind => cases kind <;> simp [all]
  | _ => simp [all]

def path : UseEnd → List Symbol
  | marker e => .token atSign :: e.path
  | value => [.token atSign, .phrase qualifiedName, .token leftParen, .phrase elementValue,
      .token rightParen]
  | pair => [.token atSign, .phrase qualifiedName, .token leftParen, .phrase elementPair,
      .token rightParen]
  | pairs => [.token atSign, .phrase qualifiedName, .token leftParen, .phrase elementPair,
      .phrase morePairs, .token rightParen]

def closed : UseEnd → List (Phrase × Nat)
  | marker _ => [(qualifiedName, 3), (annotationUse, 2)]
  | value | pair => [(annotationArguments, 3), (annotationUse, 3)]
  | pairs => [(annotationArguments, 4), (annotationUse, 3)]

end UseEnd

/-- Where a value can stand: alone in parentheses, in the first, the second or a later pair, and as
the first, the second or a later item in braces. -/
inductive Slot where
  | alone | firstPair | secondPair | laterPair | firstItem | secondItem | laterItem
  deriving DecidableEq

namespace Slot

def all : List Slot :=
  [alone, firstPair, secondPair, laterPair, firstItem, secondItem, laterItem]

theorem mem_all (s : Slot) : s ∈ all := by
  cases s <;> decide

def anchor : Slot → Anchor
  | alone | firstPair | secondPair | laterPair => .paren
  | firstItem | secondItem | laterItem => .brace

def path : Slot → List Symbol
  | alone | firstItem => []
  | firstPair => [.token name, .token assign]
  | secondPair => [.phrase elementPair, .token comma, .token name, .token assign]
  | laterPair => [.phrase elementPair, .phrase morePairs, .token comma, .token name, .token assign]
  | secondItem => [.phrase elementValue, .token comma]
  | laterItem => [.phrase elementValue, .phrase moreElements, .token comma]

def closed : Slot → List (Phrase × Nat)
  | alone | firstItem => []
  | firstPair => [(elementPair, 3)]
  | secondPair => [(elementPair, 3), (morePairs, 2)]
  | laterPair => [(elementPair, 3), (morePairs, 3)]
  | secondItem => [(moreElements, 2)]
  | laterItem => [(moreElements, 3)]

def closedPath : Slot → List Symbol
  | alone | firstItem => [.phrase elementValue]
  | firstPair => [.phrase elementPair]
  | secondPair | laterPair => [.phrase elementPair, .phrase morePairs]
  | secondItem | laterItem => [.phrase elementValue, .phrase moreElements]

def followers : Slot → List Terminal
  | alone => [rightParen]
  | firstPair | secondPair | laterPair => [rightParen, comma]
  | firstItem | secondItem | laterItem => [rightBrace, comma]

end Slot

def hosts : List (Anchor × List Symbol) := (.top, []) :: Slot.all.map fun s => (s.anchor, s.path)

/-- How many parts of a dotted name have been read before its last one: one or more. They are read
as a type and as an expression side by side. -/
inductive NameEnd where
  | second | later
  deriving DecidableEq

namespace NameEnd

def all : List NameEnd := [second, later]

def asType : NameEnd → Symbol
  | second => .token name
  | later => .phrase scopedType

/-- The readings after the last dot. The second and third one are in the order in which they were
split off. -/
def dots (e : NameEnd) : List (List Symbol) :=
  match e with
  | second => [[e.asType, .token .dot], [.phrase plainType, .token .dot],
      [.phrase primary, .token .dot]]
  | later => [[e.asType, .token .dot], [.phrase primary, .token .dot],
      [.phrase plainType, .token .dot]]

def expressionAt : NameEnd → Nat
  | second => 2
  | later => 1

def typeAt : NameEnd → Nat
  | second => 1
  | later => 2

def names (e : NameEnd) : List (List Symbol) :=
  [[e.asType, .token .dot, .token name], [.phrase primary, .token .dot, .token name]]

def lastWords (e : NameEnd) : List (List Symbol × Terminal) :=
  let asType := ([e.asType, .token .dot, .token name], name)
  let asClass := ([.phrase plainType, .token .dot, .token classWord], classWord)
  let asExpression := ([.phrase primary, .token .dot, .token name], name)
  match e with
  | second => [asType, asClass, asExpression]
  | later => [asType, asExpression, asClass]

end NameEnd

def expressionClosed : List (Phrase × Nat) := [(primary, 1), (expression, 1)]

inductive ValueEnd where
  | literal (kind : Terminal)
  | string | negative | name
  | constant (e : NameEnd)
  | classLiteral (e : NameEnd)
  | noItems | oneItem | items
  | use (e : UseEnd)

namespace ValueEnd

def all : List ValueEnd :=
  [literal integer, literal trueWord, literal falseWord, literal nullWord, string, negative, name,
    noItems, oneItem, items] ++
  NameEnd.all.flatMap (fun e => [constant e, classLiteral e]) ++ UseEnd.all.map use

def paths : ValueEnd → List (List Symbol)
  | literal kind => [[.token kind]]
  | string => [[.token Terminal.string]]
  | negative => [[.token minus, .token integer]]
  | name => [[.token Terminal.name]]
  | constant e => e.names
  | classLiteral e => e.lastWords.map (·.1)
  | noItems => [[.token leftBrace, .token rightBrace]]
  | oneItem => [[.token leftBrace, .phrase elementValue, .token rightBrace]]
  | items => [[.token leftBrace, .phrase elementValue, .phrase moreElements, .token rightBrace]]
  | use e => [e.path]

def origin : ValueEnd → Nat
  | constant _ => 1
  | classLiteral e => e.typeAt
  | _ => 0

def closed : ValueEnd → List (Phrase × Nat)
  | literal _ => (Phrase.literal, 1) :: expressionClosed
  | string => (stringLiteral, 1) :: (Phrase.literal, 1) :: expressionClosed
  | negative => (Phrase.literal, 1) :: expressionClosed ++ [(unary, 2), (expression, 1)]
  | name => expressionClosed
  | constant _ => (fieldAccess, 3) :: expressionClosed
  | classLiteral _ => (Phrase.classLiteral, 3) :: expressionClosed
  | noItems => [(elementArray, 2)]
  | oneItem => [(elementArray, 3)]
  | items => [(elementArray, 4)]
  | use e => e.closed

/-- Class literals are preferred to names. -/
def weight : ValueEnd → Nat
  | classLiteral _ => 17
  | _ => 0

end ValueEnd

def valueMoves (s : Slot) : List Move :=
  let after := (s.path ++ ·)
  [Terminal.string, integer, minus, leftBrace].map (fun t =>
    Move.shift s.anchor s.path [] (sure t) t) ++
  [trueWord, falseWord, nullWord].map (fun t => Move.shift s.anchor s.path [] (keyword t) t) ++
  [.shift s.anchor s.path [] plainName name,
    .shift s.anchor s.path [] plainSign atSign,
    .shift s.anchor s.path [.token minus] (sure integer) integer,
    .shift s.anchor s.path [.token leftBrace] (sure rightBrace) rightBrace,
    ⟨s.anchor, [after [.token name]], sure .dot,
      [{ kind := .dot, path := after [.token name, .token .dot] },
        { kind := .dot, path := after [.phrase plainType, .token .dot], closed := [(plainType, 1)] },
        { kind := .dot, path := after [.phrase primary, .token .dot], closed := [(primary, 1)] }]⟩] ++
  NameEnd.all.flatMap fun e =>
    [⟨s.anchor, e.names.map after, sure .dot,
        [{ kind := .dot, path := after [.phrase scopedType, .token .dot], closed := [(scopedType, 3)] },
          { kind := .dot, path := after [.phrase primary, .token .dot], origin := 1,
            closed := [(fieldAccess, 3), (primary, 1)] },
          { kind := .dot, path := after [.phrase plainType, .token .dot],
            closed := [(scopedType, 3), (plainType, 1)] }]⟩,
      ⟨s.anchor, e.dots.map after, plainName,
        [{ kind := name, path := after [e.asType, .token .dot, .token name] },
          { kind := name, path := after [.phrase primary, .token .dot, .token name],
            origin := e.expressionAt }]⟩,
      ⟨s.anchor, e.dots.map after, keyword classWord,
        e.lastWords.zipIdx.map fun (path, i) => { path := after path.1, kind := path.2, origin := i }⟩]

def endMoves (s : Slot) : List Move :=
  ValueEnd.all.flatMap fun e => s.followers.map fun t =>
    ⟨s.anchor, e.paths.map (s.path ++ ·), sure t,
      [{ kind := t, path := s.closedPath ++ [.token t], origin := e.origin,
         closed := e.closed ++ (elementValue, 1) :: s.closed, weight := e.weight }]⟩

def pairMoves : List Move :=
  [[], [.phrase elementPair, .token comma],
    [.phrase elementPair, .phrase morePairs, .token comma]].flatMap fun path =>
      [.shift .paren path [] plainName name, .shift .paren path [.token name] (sure assign) assign]

def classMoves : List Move :=
  UseEnd.all.map (fun e => Move.take .top [] e.path (keyword classWord) classWord
    (e.closed ++ [(modifierList, 1), (modifiers, 1)]) [.phrase modifiers]) ++
  [Move.shift .top [] [.phrase modifiers, .token classWord] plainName name,
    .shift .top [] [.phrase modifiers, .token classWord, .token name] (sure leftBrace) leftBrace,
    .shift .top [] [.phrase modifiers, .token classWord, .token name, .token leftBrace]
      (sure rightBrace) rightBrace]

def allMoves : List Move :=
  Slot.all.flatMap (fun s => valueMoves s ++ endMoves s) ++
    hosts.flatMap (fun host => kindMoves host.1 host.2) ++ pairMoves ++
    .shift .top [] [] (sure atSign) atSign :: classMoves

def wholePath : List Symbol :=
  [.phrase modifiers, .token classWord, .token name, .token leftBrace, .token rightBrace]

def wholeClosed : List (Phrase × Nat) :=
  [(classBody, 2), (classDeclaration, 4), (declaration, 1), (statement, 1), (items, 1), (source, 1)]

/-- Whether a single reading has come to the end of the text, after it has closed these phrases. -/
def isLastTurn (table : Table Terminal Phrase) :
    Option (List (Terminal × Strand Terminal Phrase)) → Bool
  | some [(kind, s)] => decide (kind = finish ∧ s.origin = 0 ∧ s.closed = wholeClosed) &&
      !s.states.isEmpty && s.isWhole table
  | _ => false

def endsWhole (table : Table Terminal Phrase) : Bool :=
  isLastTurn table (Strand.round? table reachLimit (sure finish) reachLimit
    [⟨0, [], Anchor.top.after table wholePath, 0⟩])

def meetsAnchors (table : Table Terminal Phrase) : Bool :=
  Slot.all.all (fun s => decide (s.anchor.after table (s.path ++ [.token leftBrace]) =
    Anchor.brace.start table ++ s.anchor.after table s.path)) &&
  hosts.all fun (a, path) =>
    decide (a.after table (path ++ [.token atSign, .phrase qualifiedName, .token leftParen]) =
      Anchor.paren.start table ++ a.after table (path ++ [.token atSign, .phrase qualifiedName]))

/-- The tokens of `@interfaces.K(1) class C {}`. The first two begin like `@interface`. -/
def interfacesTokens : List Token :=
  [⟨"", .symbol, "@"⟩, ⟨"", .word, "interfaces"⟩, ⟨"", .symbol, "."⟩, ⟨"", .word, "K"⟩,
    ⟨"", .symbol, "("⟩, ⟨"", .integer, "1"⟩, ⟨"", .symbol, ")"⟩, ⟨" ", .word, "class"⟩,
    ⟨" ", .word, "C"⟩, ⟨" ", .symbol, "\x7b"⟩, ⟨"", .symbol, "\x7d"⟩]

def refuses (table : Table Terminal Phrase) (ts : List Token) : Bool :=
  (table.read? scan (ts.foldl (fun n t => n + extent t) 0) ts).isNone

set_option maxRecDepth 100000 in
private theorem grammar_checked : (allMoves.all (·.holds compactTable) &&
    meetsAnchors compactTable && endsWhole compactTable &&
    refuses compactTable interfacesTokens) = true := by
  decide +kernel

private theorem grammar_facts : allMoves.all (·.holds table) = true ∧ meetsAnchors table = true ∧
    endsWhole table = true ∧ refuses table interfacesTokens = true := by
  have hchecked := grammar_checked
  rw [Bool.and_eq_true, Bool.and_eq_true, Bool.and_eq_true, ← table_eq_compact] at hchecked
  obtain ⟨⟨⟨hmoves, hmeets⟩, hends⟩, hrefuses⟩ := hchecked
  exact ⟨hmoves, hmeets, hends, hrefuses⟩

@[irreducible]
def rowAt (a : Anchor) (path : List Symbol) : List RowState := a.after table path

theorem turn_of_mem {m : Move} (h : m ∈ allMoves) :
    Strand.turn? table reachLimit m.cue (m.before.map (rowAt m.anchor · , 0)) =
      some (m.outcomes.map fun o =>
        (o.kind, ⟨o.origin, o.closed, rowAt m.anchor o.path, o.weight⟩)) := by
  have hm := of_decide_eq_true (List.all_eq_true.1 grammar_facts.1 m h)
  unfold rowAt
  exact hm

theorem Anchor.start_ne_nil (a : Anchor) : a.start table ≠ [] := by
  have hrow : ∀ path : List Symbol, (table.rowAfter [.start table] path).take 1 ≠ [] := by
    intro path htake
    exact Table.rowAfter_ne_nil (List.cons_ne_nil _ _) path
      ((List.take_eq_nil_iff.1 htake).resolve_left Nat.one_ne_zero)
  cases a with
  | top => exact List.cons_ne_nil _ _
  | paren => exact hrow _
  | brace => exact hrow _

/-- The states after a bracket that is an anchor are those at the anchor and, below them, those
before. -/
private theorem rowAt_of_meets {a b : Anchor} {before path : List Symbol}
    (h : a.after table before = b.start table ++ a.after table path) (more : List Symbol) :
    rowAt a (before ++ more) = rowAt b more ++ rowAt a path := by
  simp only [rowAt, Anchor.after] at h ⊢
  rw [Table.rowAfter_trans, h, Table.rowAfter_append b.start_ne_nil]

theorem rowAt_leftBrace (s : Slot) (more : List Symbol) :
    rowAt s.anchor (s.path ++ .token leftBrace :: more) =
      rowAt .brace more ++ rowAt s.anchor s.path := by
  have hmeets := grammar_facts.2.1
  have hslot := List.all_eq_true.1 (Bool.and_eq_true_iff.1 hmeets).1 s s.mem_all
  have hrow := rowAt_of_meets (of_decide_eq_true hslot) more
  rwa [List.append_assoc] at hrow

theorem rowAt_leftParen {host : Anchor × List Symbol} (h : host ∈ hosts) (more : List Symbol) :
    rowAt host.1 (host.2 ++
        Grammar.Symbol.token atSign :: .phrase qualifiedName :: .token leftParen :: more) =
      rowAt .paren more ++
        rowAt host.1 (host.2 ++ [Grammar.Symbol.token atSign, .phrase qualifiedName]) := by
  have hmeets := grammar_facts.2.1
  have hhost := List.all_eq_true.1 (Bool.and_eq_true_iff.1 hmeets).2 host h
  have hrow := rowAt_of_meets (of_decide_eq_true hhost) more
  rwa [List.append_assoc] at hrow

theorem round_of_whole : ∃ s : Strand Terminal Phrase,
    Strand.round? table reachLimit (sure finish) reachLimit
        [⟨0, [], rowAt .top wholePath, 0⟩] = some [(finish, s)] ∧
      s.origin = 0 ∧ s.closed = wholeClosed ∧ s.states ≠ [] ∧ s.isWhole table = true := by
  have hwhole := grammar_facts.2.2.1
  rw [endsWhole] at hwhole
  unfold rowAt
  generalize Strand.round? table reachLimit (sure finish) reachLimit
    [⟨0, [], Anchor.top.after table wholePath, 0⟩] = turn at hwhole ⊢
  match turn, hwhole with
  | some [(kind, s)], hwhole =>
    simp only [isLastTurn, Bool.and_eq_true, decide_eq_true_eq, Bool.not_eq_true',
      List.isEmpty_eq_false_iff] at hwhole
    obtain ⟨⟨⟨rfl, horigin, hclosed⟩, hne⟩, hend⟩ := hwhole
    exact ⟨s, rfl, horigin, hclosed, hne, hend⟩

theorem trees?_interfaces : trees? interfacesTokens = none :=
  Option.isNone_iff_eq_none.1 grammar_facts.2.2.2

end AnnotationIndex.Java.Syntax
