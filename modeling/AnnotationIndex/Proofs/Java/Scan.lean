import AnnotationIndex.Proofs.Java.Items

/-!
# The scan over items
-/

namespace AnnotationIndex.Java

namespace Header

open Syntax (depthStep depthAfter isEnclosed isEnclosed_append dotAfter)

/-- Whether the scan, outside brackets, takes a mark for the keyword of a declaration. Before the
first type of a file these are also declarations of packages and imports. -/
def isTaken (file afterDot : Bool) (m : Mark) (rest : List Mark) : Bool :=
  match m with
  | .word w => (file && (w = "package" || w = "import")) ||
    (isTypeKeyword w && !afterDot && (typeName? rest).isSome)
  | _ => false

/-- Whether the scan takes one of the marks before `next` for the keyword of a declaration. -/
def misleads (file : Bool) (next : List Mark) : Nat × Nat → Bool → List Mark → Bool
  | _, _, [] => false
  | d, afterDot, m :: rest =>
    (d = (0, 0) && isTaken file afterDot m (rest ++ next)) ||
      misleads file next ((depthStep d m).getD d) (m = .dot) rest

def within (s : State) (frames : List Frame) (d : Nat × Nat) (afterDot : Bool) : State :=
  { s with parens := d.1, frames := List.replicate d.2 .block ++ frames, afterDot }

theorem within_skip {s : State} {frames : List Frame} {d e : Nat × Nat} {afterDot : Bool}
    {m : Mark} (hstep : depthStep d m = some e)
    (hbrace : m = .openBrace → s.pending = none ∨ 0 < d.1) :
    (within s frames d afterDot).skip m = within s frames e (m = .dot) := by
  cases m with
  | openBrace =>
    cases hstep
    have hparens : (within s frames d (decide (Mark.openBrace = Mark.dot))).openBrace =
        within s frames (d.1, d.2 + 1) (decide (Mark.openBrace = Mark.dot)) := by
      rcases hbrace rfl with hpending | hpos
      · simp [State.openBrace, within, hpending, List.replicate_succ]
      · have hne : d.1 ≠ 0 := by omega
        cases hpending : s.pending <;>
          simp [State.openBrace, within, hpending, hne, List.replicate_succ]
    exact hparens
  | closeBrace =>
    simp only [depthStep] at hstep
    split at hstep
    · cases hstep
    · rename_i hne
      cases hstep
      obtain ⟨n, hn⟩ := Nat.exists_eq_succ_of_ne_zero hne
      simp [State.skip, within, hn, List.replicate_succ]
  | openParen =>
    cases hstep
    rfl
  | closeParen =>
    simp only [depthStep] at hstep
    split at hstep
    · cases hstep
    · cases hstep
      rfl
  | word w => cases hstep; rfl
  | dot => cases hstep; rfl
  | «at» => cases hstep; rfl
  | star => cases hstep; rfl
  | other => cases hstep; rfl

theorem outside_of_level {s : State} {frames : List Frame} {d : Nat × Nat} {afterDot : Bool}
    (h : (within s frames d afterDot).atFileLevel = true ∨
      (within s frames d afterDot).atTypeLevel = true) : d = (0, 0) := by
  obtain ⟨parens, braces⟩ := d
  cases parens with
  | succ parens => simp [State.atFileLevel, State.atTypeLevel, within] at h
  | zero =>
    cases braces with
    | zero => rfl
    | succ braces =>
      simp [State.atFileLevel, State.atTypeLevel, within, List.replicate_succ] at h

theorem scan_mark {s : State} {frames : List Frame} {d : Nat × Nat} {file afterDot : Bool}
    {m : Mark} {rest : List Mark} (hclear : d = (0, 0) → isTaken file afterDot m rest = false)
    (hfile : file = true ∨ s.names ≠ []) :
    scan (within s frames d afterDot) (m :: rest) =
      scan ((within s frames d afterDot).skip m) rest := by
  cases m with
  | word w =>
    have hword : (within s frames d afterDot).atFileLevel = true → w ≠ "package" ∧ w ≠ "import" := by
      intro hlevel
      have hstart := outside_of_level (.inl hlevel)
      have hnames : s.names = [] := by
        simp only [State.atFileLevel, within, Bool.and_eq_true] at hlevel
        simpa using hlevel.2
      have hclear' := hclear hstart
      rw [hfile.resolve_right fun h => h hnames] at hclear'
      simp only [isTaken, Bool.true_and, Bool.or_eq_false_iff, decide_eq_false_iff_not] at hclear'
      exact hclear'.1
    have hpackage : ¬ (w = "package" && (within s frames d afterDot).atFileLevel &&
        (within s frames d afterDot).package.isNone) = true := by
      intro h
      obtain ⟨⟨hw, hlevel⟩, -⟩ : (w = "package" ∧
          (within s frames d afterDot).atFileLevel = true) ∧ _ := by simpa using h
      exact (hword hlevel).1 hw
    have himport : ¬ (w = "import" && (within s frames d afterDot).atFileLevel) = true := by
      intro h
      obtain ⟨hw, hlevel⟩ : w = "import" ∧ (within s frames d afterDot).atFileLevel = true := by
        simpa using h
      exact (hword hlevel).2 hw
    rw [scan, if_neg hpackage, if_neg himport]
    split
    · rename_i hkeyword
      obtain ⟨⟨hw, hlevel⟩, hdot⟩ : (isTypeKeyword w = true ∧
          (within s frames d afterDot).atTypeLevel = true) ∧ afterDot = false := by
        simpa [within] using hkeyword
      have hstart := outside_of_level (.inr hlevel)
      have hnone : typeName? rest = none := by
        have hclear' := hclear hstart
        simp only [isTaken, hw, hdot, Bool.or_eq_false_iff] at hclear'
        simpa using hclear'.2
      rw [hnone]
    · rfl
  | _ =>
    rw [scan]
    simp

theorem misleads_mono {file : Bool} {next : List Mark} {d : Nat × Nat} {a : List Mark}
    (h : misleads file next d false a = false) (afterDot : Bool) :
    misleads file next d afterDot a = false := by
  cases a with
  | nil => rfl
  | cons m a =>
    simp only [misleads, Bool.or_eq_false_iff] at h ⊢
    refine ⟨?_, h.2⟩
    cases m <;> cases afterDot <;> simp_all [isTaken]

/-- Marks that do not mislead the scan leave only the brackets they open, and the last dot. -/
theorem scan_quiet {s : State} {frames : List Frame} {d e : Nat × Nat} {file afterDot : Bool}
    {a rest : List Mark} (hdepth : depthAfter d a = some e)
    (hclear : misleads file rest d afterDot a = false) (hfile : file = true ∨ s.names ≠ [])
    (hpending : s.pending = none ∨ isEnclosed d.1 a = true) :
    scan (within s frames d afterDot) (a ++ rest) =
      scan (within s frames e (dotAfter afterDot a)) rest := by
  induction a generalizing d afterDot with
  | nil =>
    cases hdepth
    rfl
  | cons m a ih =>
    obtain ⟨f, hstep, hrest⟩ := Option.bind_eq_some_iff.1 hdepth
    obtain ⟨hmark, hafter⟩ : (d = (0, 0) → isTaken file afterDot m (a ++ rest) = false) ∧
        misleads file rest f (m = .dot) a = false := by
      simpa [misleads, hstep] using hclear
    have hbrace : m = .openBrace → s.pending = none ∨ 0 < d.1 := by
      rintro rfl
      refine hpending.imp_right fun henclosed => ?_
      simpa using (Bool.and_eq_true_iff.1 henclosed).1
    have hpending' : s.pending = none ∨ isEnclosed f.1 a = true := by
      refine hpending.imp_right fun henclosed => ?_
      have hone : depthAfter d [m] = some f := by simp [depthAfter, hstep]
      have hsplit := isEnclosed_append hone a
      rw [List.singleton_append, henclosed] at hsplit
      exact (Bool.and_eq_true_iff.1 hsplit.symm).2
    rw [List.cons_append, scan_mark hmark hfile, within_skip hstep hbrace]
    exact ih hrest hafter hpending'

def outerOf : List Frame → Option String
  | .type outer :: _ => some outer
  | _ => none

structure IsReady (s : State) : Prop where
  parens : s.parens = 0
  pending : s.pending = none
  afterDot : s.afterDot = false
  level : s.frames = [] ∨ ∃ outer frames, s.frames = .type outer :: frames

theorem IsReady.within {s : State} (h : IsReady s) : within s s.frames (0, 0) false = s := by
  obtain ⟨package, onDemand, names, frames, pending, parens, afterDot⟩ := s
  obtain ⟨rfl, -, rfl, -⟩ := h
  rfl

theorem IsReady.atTypeLevel {s : State} (h : IsReady s) : s.atTypeLevel = true := by
  rcases h.level with hframes | ⟨outer, frames, hframes⟩ <;>
    simp [State.atTypeLevel, h.parens, hframes]

theorem scan_keyword {s : State} (h : IsReady s) {keyword name : String} {rest : List Mark}
    (hkeyword : isTypeKeyword keyword = true) (hname : isTypeName name = true) :
    scan s (.word keyword :: .word name :: rest) = scan (s.typeDecl name) rest := by
  have hne : keyword ≠ "package" ∧ keyword ≠ "import" := by
    constructor <;> rintro rfl <;> revert hkeyword <;> decide
  rw [scan]
  simp [hne, hkeyword, h.atTypeLevel, h.afterDot, typeName?, hname]

def State.found (s : State) (names : List String) : State :=
  { s with names := names.reverse ++ s.names }

def State.inside (s : State) (name : String) : State :=
  { s.typeDecl name with frames := .type (s.nested name) :: s.frames, pending := none }

theorem IsReady.found {s : State} (h : IsReady s) (names : List String) : IsReady (s.found names) :=
  ⟨h.parens, h.pending, h.afterDot, h.level⟩

theorem IsReady.inside {s : State} (h : IsReady s) (name : String) : IsReady (s.inside name) :=
  ⟨h.parens, rfl, rfl, .inr ⟨_, _, rfl⟩⟩

theorem State.found_found (s : State) (names more : List String) :
    (s.found names).found more = s.found (names ++ more) := by
  simp [State.found]

theorem within_typeDecl {s : State} (h : IsReady s) (name : String) :
    within (s.typeDecl name) s.frames (0, 0) false = s.typeDecl name := by
  simp [within, State.typeDecl, h.parens]

theorem scan_opening {s : State} (h : IsReady s) (name : String) (afterDot : Bool)
    (rest : List Mark) :
    scan (within (s.typeDecl name) s.frames (0, 0) afterDot) (.openBrace :: rest) =
      scan (s.inside name) rest := by
  rw [scan.eq_3]
  · congr 1
    simp [State.skip, State.openBrace, within, State.inside, State.typeDecl, h.parens]
  · simp

theorem scan_closing {s : State} (h : IsReady s) (name : String) (names : List String)
    (afterDot : Bool) (rest : List Mark) :
    scan (within ((s.inside name).found names) (s.inside name).frames (0, 0) afterDot)
        (.closeBrace :: rest) =
      scan (s.found (s.nested name :: names)) rest := by
  rw [scan.eq_3]
  · congr 1
    simp [State.skip, State.found, State.inside, State.typeDecl, within, h.pending, h.afterDot,
      h.parens]
  · simp

theorem skip_at {s : State} (h : IsReady s) : s.skip .at = s := by
  obtain ⟨package, onDemand, names, frames, pending, parens, afterDot⟩ := s
  obtain ⟨-, -, rfl, -⟩ := h
  rfl

theorem skip_other {s : State} (h : IsReady s) : s.skip .other = s := by
  obtain ⟨package, onDemand, names, frames, pending, parens, afterDot⟩ := s
  obtain ⟨-, -, rfl, -⟩ := h
  rfl

end Header

mutual

/-- The names that the scan gives to a type and to the types in it, without the package. -/
def WrittenType.paths (outer : Option String) : WrittenType → List String
  | .mk _ simple _ _ inner =>
    let name := match outer with
      | some outer => outer ++ "." ++ simple
      | none => simple
    name :: pathsIn name inner

def pathsIn (outer : String) : List WrittenType → List String
  | [] => []
  | t :: ts => t.paths (some outer) ++ pathsIn outer ts

end

theorem pathsIn_eq (outer : String) (ts : List WrittenType) :
    pathsIn outer ts = ts.flatMap (WrittenType.paths (some outer)) := by
  induction ts with
  | nil => rfl
  | cons t ts ih => rw [pathsIn, ih, List.flatMap_cons]

namespace Syntax

open Header (State Mark isTypeName misleads IsReady outerOf marks)
open Terminal Phrase

def declares : Tree → Bool
  | .leaf kind _ => kind = name
  | .node phrase _ => (declKind? phrase).isSome

mutual

/-- The scan sees the types that a tree before `next` declares and no others. -/
def isClear (file : Bool) (next : List Mark) : Tree → Bool
  | .leaf kind token => kind != name || isTypeName token.text
  | .node phrase parts =>
    if (declKind? phrase).isSome || isBody phrase then areClear file next parts
    else !misleads file next (0, 0) false (marksOf (Grammar.Tree.leavesOfParts parts))

/-- The trees are clear one after the other. The first type of a file ends what can stand before
all types. -/
def areClear (file : Bool) (next : List Mark) : List Tree → Bool
  | [] => true
  | t :: ts => isClear file (marksOf (Grammar.Tree.leavesOfParts ts) ++ next) t &&
      areClear (file && !declares t) next ts

end

def declare (s : State) (ts : List WrittenType) : State :=
  { s with names := (ts.flatMap (WrittenType.paths (outerOf s.frames))).reverse ++ s.names }

theorem areClear_append (file : Bool) (next : List Mark) (a b : List Tree) :
    areClear file next (a ++ b) =
      (areClear file (marksOf (b.flatMap Grammar.Tree.leaves) ++ next) a &&
        areClear (file && !a.any declares) next b) := by
  induction a generalizing file with
  | nil => simp [areClear]
  | cons t a ih =>
    simp only [List.cons_append, areClear, ih, Grammar.Tree.leavesOfParts_eq, List.flatMap_append,
      marksOf_append, List.append_assoc, Bool.and_assoc, List.any_cons, Bool.not_or]

theorem declKind?_isSome (p : Phrase) : (declKind? p).isSome = (keywordOf? p).isSome := by
  cases p <;> rfl

theorem typeDecls_eq (ts : List Tree) : typeDecls ts = ts.flatMap fun t => (typeDecl? t).toList := by
  induction ts with
  | nil => rfl
  | cons t ts ih => rw [typeDecls, ih, List.flatMap_cons]

theorem innerTypes_append (a b : List Tree) : innerTypes (a ++ b) = innerTypes a ++ innerTypes b := by
  induction a with
  | nil => rfl
  | cons t a ih =>
    cases t with
    | leaf kind token => exact ih
    | node phrase parts =>
      simp only [List.cons_append, innerTypes, ih]
      split
      · rw [List.append_assoc]
      · rfl

theorem innerTypes_header {header : List Tree} (h : ∀ t ∈ header, IsHeaderPart t) :
    innerTypes header = [] := by
  induction header with
  | nil => rfl
  | cons t header ih =>
    obtain ⟨ht, hrest⟩ := List.forall_mem_cons.1 h
    cases ht with
    | mk hkind hbody =>
      rw [innerTypes, hbody]
      exact ih hrest

theorem keywordOf?_ne_name {p : Phrase} {keyword : Terminal} (h : keywordOf? p = some keyword) :
    keyword ≠ name := by
  rintro rfl
  revert h
  cases p <;> simp [keywordOf?]

theorem typeDecl?_node {phrase : Phrase} {parts : List Tree} {kind : DeclKind} {text : String}
    (hkind : declKind? phrase = some kind) (hname : declaredName? parts = some text) :
    typeDecl? (.node phrase parts) =
      some (.mk kind text (annotationsOn parts) (membersOf parts) (innerTypes parts)) := by
  rw [typeDecl?, hkind, hname]

theorem typeDecl?_declaration {phrase body : Phrase} {keyword : Terminal}
    {before header items : List Tree} {word text opening closing : Token}
    (hkind : keywordOf? phrase = some keyword) (hbefore : IsBefore before)
    (hheader : ∀ t ∈ header, IsHeaderPart t) (hbody : isBody body = true) :
    ∃ kind annotations members, typeDecl? (.node phrase (before ++
        Grammar.Tree.leaf keyword word :: .leaf name text :: (header ++ [Grammar.Tree.node body
          (.leaf leftBrace opening :: (items ++ [Grammar.Tree.leaf rightBrace closing]))]))) =
      some (.mk kind text.text annotations members (typeDecls items)) := by
  have hsome : (declKind? phrase).isSome = true := by rw [declKind?_isSome, hkind]; rfl
  obtain ⟨kind, hkind'⟩ := Option.isSome_iff_exists.1 hsome
  have hkeyword : isLeaf name (.leaf keyword word) = false := by
    simpa [isLeaf, eq_comm] using keywordOf?_ne_name hkind
  have hname : declaredName? (before ++
      Grammar.Tree.leaf keyword word :: .leaf name text :: (header ++ [Grammar.Tree.node body
        (.leaf leftBrace opening :: (items ++ [Grammar.Tree.leaf rightBrace closing]))])) =
      some text.text := by
    have hfirst : before.find? (isLeaf name) = none := by
      cases hbefore <;> rfl
    unfold declaredName?
    rw [List.find?_append, hfirst, Option.none_or, List.find?_cons, hkeyword]
    rfl
  have hinner : innerTypes (before ++
      Grammar.Tree.leaf keyword word :: .leaf name text :: (header ++ [Grammar.Tree.node body
        (.leaf leftBrace opening :: (items ++ [Grammar.Tree.leaf rightBrace closing]))])) =
      typeDecls items := by
    have hfirst : innerTypes before = [] := by
      cases hbefore <;> rfl
    rw [innerTypes_append, hfirst, innerTypes, innerTypes, innerTypes_append,
      innerTypes_header hheader, innerTypes, hbody, innerTypes]
    simp [typeDecls_eq, typeDecl?]
  rw [typeDecl?_node hkind' hname, hinner]
  exact ⟨kind, _, _, rfl⟩

theorem spellings_keywords : ∀ p ∈ spellings,
    (p.2 ∈ [classWord, interfaceWord, enumWord, recordWord] →
      Header.isTypeKeyword p.1 = true ∧ marks p.1.toList = [.word p.1]) ∧
    (p.2 = atInterface → marks p.1.toList = [.at, .word "interface"]) := by
  decide +kernel

theorem keyword_marks {phrase : Phrase} {keyword : Terminal} {word : Token}
    (hkind : keywordOf? phrase = some keyword) (h : Faithful (keyword, word)) :
    ∃ k, Header.isTypeKeyword k = true ∧
      (marks word.text.toList = [.word k] ∨ marks word.text.toList = [.at, .word k]) := by
  have hkeyword : keyword ∈ [classWord, interfaceWord, enumWord, recordWord] ∨
      keyword = atInterface := by
    revert hkind
    cases phrase <;> intro hkind <;> cases hkind <;> decide
  have hspelled : (word.text, keyword) ∈ spellings := by
    generalize hleaf : (keyword, word) = leaf at h
    cases h with
    | finish gap kind =>
      cases hleaf
      simp at hkeyword
    | name t hmarks =>
      cases hleaf
      simp at hkeyword
    | literal kind t hkind' hmarks =>
      cases hleaf
      revert hkeyword hkind'
      simp +contextual [or_imp]
    | spelled kind t hmem =>
      cases hleaf
      exact hmem
  obtain ⟨hword, hat⟩ := spellings_keywords _ hspelled
  rcases hkeyword with hkeyword | hkeyword
  · exact ⟨word.text, (hword hkeyword).1, .inl (hword hkeyword).2⟩
  · exact ⟨"interface", by decide, .inr (hat hkeyword)⟩

theorem marksOf_leaf (kind : Terminal) (token : Token) :
    marksOf (Grammar.Tree.leaf kind token : Tree).leaves = marks token.text.toList := by
  simp [marksOf, Grammar.Tree.leaves]

theorem marksOf_nil : marksOf [] = [] := rfl

theorem spelled_marks {kind : Terminal} {m : Mark} {token : Token}
    (hspelling : ∀ p ∈ spellings, p.2 = kind → marks p.1.toList = [m])
    (hkind : kind ∉ [finish, name, integer, real, hexReal, character, string])
    (h : Faithful (kind, token)) : marks token.text.toList = [m] := by
  generalize hleaf : (kind, token) = leaf at h
  cases h with
  | finish gap k =>
    cases hleaf
    simp at hkind
  | name t hmarks =>
    cases hleaf
    simp at hkind
  | literal k t hliteral hmarks =>
    cases hleaf
    simp_all
  | spelled k t hmem =>
    cases hleaf
    exact hspelling _ hmem rfl

theorem brace_marks {token : Token} (h : Faithful (leftBrace, token)) :
    marks token.text.toList = [.openBrace] :=
  spelled_marks (by decide +kernel) (by decide) h

theorem closing_marks {token : Token} (h : Faithful (rightBrace, token)) :
    marks token.text.toList = [.closeBrace] :=
  spelled_marks (by decide +kernel) (by decide) h

theorem name_marks {token : Token} (h : Faithful (name, token)) :
    marks token.text.toList = [.word token.text] := by
  generalize hleaf : (name, token) = leaf at h
  cases h with
  | finish gap kind => cases hleaf
  | name t hmarks =>
    cases hleaf
    exact hmarks
  | literal kind t hkind hmarks =>
    cases hleaf
    exact absurd hkind (by decide)
  | spelled kind t hmem =>
    cases hleaf
    have hnone : ∀ p ∈ spellings, p.2 ≠ name := by decide
    exact absurd rfl (hnone _ hmem)

theorem isClear_plain {file : Bool} {next : List Mark} {phrase : Phrase} {parts : List Tree}
    (hkind : keywordOf? phrase = none) (hbody : isBody phrase = false)
    (h : isClear file next (.node phrase parts) = true) :
    misleads file next (0, 0) false (marksOf (Grammar.Tree.node phrase parts : Tree).leaves) =
      false := by
  have hnone : (declKind? phrase).isSome = false := by
    rw [declKind?_isSome, hkind]
    rfl
  simpa [isClear, hnone, hbody, Grammar.Tree.leaves] using h

theorem areClear_false (next : List Mark) (t : Tree) (ts : List Tree) :
    areClear false next (t :: ts) = (isClear false (marksOf (ts.flatMap Grammar.Tree.leaves) ++ next) t &&
      areClear false next ts) := by
  rw [areClear, Grammar.Tree.leavesOfParts_eq, Bool.false_and]

theorem scan_header {s : State} {frames : List Header.Frame} {header : List Tree} {rest : List Mark}
    (hnames : s.names ≠ []) (hheader : ∀ t ∈ header, IsHeaderPart t)
    (hclear : areClear false rest header = true) (afterDot : Bool) :
    ∃ afterDot', Header.scan (Header.within s frames (0, 0) afterDot)
        (marksOf (header.flatMap Grammar.Tree.leaves) ++ rest) =
      Header.scan (Header.within s frames (0, 0) afterDot') rest := by
  induction header generalizing afterDot with
  | nil => exact ⟨afterDot, rfl⟩
  | cons t header ih =>
    obtain ⟨ht, hmore⟩ := List.forall_mem_cons.1 hheader
    rw [areClear_false, Bool.and_eq_true_iff] at hclear
    rw [List.flatMap_cons, marksOf_append, List.append_assoc]
    cases ht with
    | @mk phrase parts hkind hbody hbalanced henclosed =>
      have hquiet := Header.misleads_mono (isClear_plain hkind hbody hclear.1) afterDot
      rw [Header.scan_quiet (hbalanced (0, 0)) hquiet (.inr hnames) (.inr henclosed)]
      exact ih hmore hclear.2 _

theorem scan_before {s : State} {file : Bool} {before : List Tree} {rest : List Mark}
    (hready : IsReady s) (hfile : file = true ∨ s.names ≠ []) (hbefore : IsBefore before)
    (hclear : areClear file rest before = true) :
    Header.scan s (marksOf (before.flatMap Grammar.Tree.leaves) ++ rest) = Header.scan s rest := by
  cases hbefore with
  | none => rfl
  | @some parts hbalanced htidy =>
    have hquiet : misleads file rest (0, 0) false
        (marksOf (Grammar.Tree.node modifiers parts : Tree).leaves) = false := by
      refine isClear_plain rfl rfl ?_
      simpa [areClear, Grammar.Tree.leavesOfParts, marksOf] using hclear
    have hscan := @Header.scan_quiet s s.frames _ _ _ _ _ rest (hbalanced (0, 0)) hquiet hfile
      (.inl hready.pending)
    rw [htidy, hready.within] at hscan
    rwa [List.flatMap_singleton]

theorem nested_eq (s : State) (hready : IsReady s) (simple : String) :
    s.nested simple = (match outerOf s.frames with
      | some outer => outer ++ "." ++ simple
      | none => simple) := by
  rcases hready.level with hframes | ⟨outer, frames, hframes⟩ <;>
    simp [State.nested, hframes, outerOf]

/-- The scan finds the types of an item. -/
def IsScanned (t : Tree) : Prop :=
  ∀ (s : State) (file : Bool) (rest : List Mark), IsReady s → (file = true ∨ s.names ≠ []) →
    (∀ leaf ∈ t.leaves, Faithful leaf) → isClear file rest t = true →
    Header.scan s (marksOf t.leaves ++ rest) = Header.scan (declare s (typeDecl? t).toList) rest

theorem ready_declare {s : State} (h : IsReady s) (ts : List WrittenType) :
    IsReady (declare s ts) := ⟨h.parens, h.pending, h.afterDot, h.level⟩

theorem declare_declare (s : State) (ts us : List WrittenType) :
    declare (declare s ts) us = declare s (ts ++ us) := by
  simp [declare]

theorem scan_items {s : State} {items : List Tree} {rest : List Mark}
    (hscanned : ∀ t ∈ items, IsScanned t) (hready : IsReady s) (hnames : s.names ≠ [])
    (hleaves : ∀ t ∈ items, ∀ leaf ∈ t.leaves, Faithful leaf)
    (hclear : areClear false rest items = true) :
    Header.scan s (marksOf (items.flatMap Grammar.Tree.leaves) ++ rest) =
      Header.scan (declare s (typeDecls items)) rest := by
  induction items generalizing s with
  | nil => simp [declare, marksOf, typeDecls]
  | cons t items ih =>
    obtain ⟨ht, hscanned'⟩ := List.forall_mem_cons.1 hscanned
    obtain ⟨hleavest, hleaves'⟩ := List.forall_mem_cons.1 hleaves
    rw [areClear_false, Bool.and_eq_true_iff] at hclear
    have hnames' : (declare s (typeDecl? t).toList).names ≠ [] := by
      simp [declare, hnames]
    rw [List.flatMap_cons, marksOf_append, List.append_assoc,
      ht s false _ hready (.inr hnames) hleavest hclear.1,
      ih hscanned' (ready_declare hready _) hnames' hleaves' hclear.2, declare_declare, typeDecls]

theorem paths_mk (outer : Option String) (kind : DeclKind) (simple : String)
    (annotations : List (AnnotationOf Written)) (members : List WrittenMember)
    (inner : List WrittenType) :
    (WrittenType.mk kind simple annotations members inner).paths outer =
      (match outer with
        | some outer => outer ++ "." ++ simple
        | none => simple) :: inner.flatMap (WrittenType.paths (some (match outer with
          | some outer => outer ++ "." ++ simple
          | none => simple))) := by
  cases outer <;> rw [WrittenType.paths, pathsIn_eq]

theorem scan_declaration {s : State} {keyword : Terminal} {phrase : Phrase}
    {header items : List Tree} {word text : Token} {rest : List Mark}
    (hready : IsReady s) (hkind : keywordOf? phrase = some keyword)
    (hword : Faithful (keyword, word)) (hname : isTypeName text.text = true)
    (hheader : ∀ t ∈ header, IsHeaderPart t) (hscanned : ∀ t ∈ items, IsScanned t)
    (hleaves : ∀ t ∈ items, ∀ leaf ∈ t.leaves, Faithful leaf)
    (hclearHeader : areClear false (.openBrace :: (marksOf (items.flatMap Grammar.Tree.leaves) ++
      Mark.closeBrace :: rest)) header = true)
    (hclearItems : areClear false (.closeBrace :: rest) items = true) (kind : DeclKind)
    (annotations : List (AnnotationOf Written)) (members : List WrittenMember) :
    Header.scan s (marks word.text.toList ++ Mark.word text.text ::
      (marksOf (header.flatMap Grammar.Tree.leaves) ++ Mark.openBrace ::
        (marksOf (items.flatMap Grammar.Tree.leaves) ++ Mark.closeBrace :: rest))) =
      Header.scan
        (declare s [.mk kind text.text annotations members (typeDecls items)]) rest := by
  obtain ⟨k, hk, hmarks⟩ := keyword_marks hkind hword
  have hstart : ∀ more, Header.scan s (marks word.text.toList ++ Mark.word text.text :: more) =
      Header.scan (Header.within (s.typeDecl text.text) s.frames (0, 0) false) more := by
    intro more
    rw [Header.within_typeDecl hready]
    rcases hmarks with hmarks | hmarks
    · rw [hmarks]
      exact Header.scan_keyword hready hk hname
    · rw [hmarks, List.cons_append, Header.scan.eq_3, Header.skip_at hready]
      · exact Header.scan_keyword hready hk hname
      · simp
  have hclose : ∀ more, Header.scan (declare (s.inside text.text) (typeDecls items))
      (.closeBrace :: more) =
        Header.scan (declare s [.mk kind text.text annotations members (typeDecls items)]) more := by
    intro more
    have hinner : IsReady (declare (s.inside text.text) (typeDecls items)) :=
      (hready.inside text.text).found _
    have hpaths : (WrittenType.mk kind text.text annotations members (typeDecls items)).paths
        (outerOf s.frames) = s.nested text.text ::
          (typeDecls items).flatMap (WrittenType.paths (some (s.nested text.text))) := by
      rw [paths_mk, ← nested_eq s hready]
    have hdeclare : declare s [.mk kind text.text annotations members (typeDecls items)] =
        s.found (s.nested text.text ::
          (typeDecls items).flatMap (WrittenType.paths (some (s.nested text.text)))) := by
      rw [declare, List.flatMap_singleton, hpaths]
      rfl
    rw [hdeclare, ← Header.scan_closing hready _ _ false more]
    exact congrArg (Header.scan · _) hinner.within.symm
  have hnames : (s.inside text.text).names ≠ [] := by simp [State.inside, State.typeDecl]
  obtain ⟨afterDot, hscan⟩ := @scan_header (s.typeDecl text.text) s.frames header _
    (by simp [State.typeDecl]) hheader hclearHeader false
  rw [hstart, hscan, Header.scan_opening hready,
    scan_items hscanned (hready.inside text.text) hnames hleaves hclearItems, hclose]

theorem separator_marks {kind : Terminal} {token : Token} (hkind : kind = semicolon ∨ kind = comma)
    (h : Faithful (kind, token)) : marks token.text.toList = [.other] := by
  rcases hkind with rfl | rfl
  · exact spelled_marks (by decide +kernel) (by decide) h
  · exact spelled_marks (by decide +kernel) (by decide) h

theorem body_marks {body : Phrase} {items : List Tree} {opening closing : Token}
    (hopening : Faithful (leftBrace, opening)) (hclosing : Faithful (rightBrace, closing)) :
    marksOf (Grammar.Tree.node body
        (.leaf leftBrace opening :: (items ++ [Grammar.Tree.leaf rightBrace closing])) : Tree).leaves =
      .openBrace :: (marksOf (items.flatMap Grammar.Tree.leaves) ++ [Mark.closeBrace]) := by
  rw [Grammar.Tree.leaves_node, List.flatMap_cons, marksOf_append, marksOf_leaf,
    brace_marks hopening, List.flatMap_append, List.flatMap_singleton, marksOf_append, marksOf_leaf,
    closing_marks hclosing]
  rfl

theorem declaration_marks {phrase body : Phrase} {keyword : Terminal}
    {before header items : List Tree} {word text opening closing : Token}
    (hopening : Faithful (leftBrace, opening)) (hclosing : Faithful (rightBrace, closing))
    (htext : Faithful (name, text)) :
    marksOf (Grammar.Tree.node phrase (before ++
        Grammar.Tree.leaf keyword word :: .leaf name text :: (header ++ [Grammar.Tree.node body
          (.leaf leftBrace opening :: (items ++ [Grammar.Tree.leaf rightBrace closing]))])) :
            Tree).leaves =
      marksOf (before.flatMap Grammar.Tree.leaves) ++ (marks word.text.toList ++ Mark.word text.text ::
        (marksOf (header.flatMap Grammar.Tree.leaves) ++ Mark.openBrace ::
          (marksOf (items.flatMap Grammar.Tree.leaves) ++ [Mark.closeBrace]))) := by
  rw [Grammar.Tree.leaves_node, List.flatMap_append, marksOf_append, List.flatMap_cons,
    marksOf_append, marksOf_leaf, List.flatMap_cons, marksOf_append, marksOf_leaf,
    name_marks htext, List.flatMap_append, marksOf_append, List.flatMap_singleton,
    body_marks hopening hclosing]
  rfl

theorem areClear_declaration {file : Bool} {rest : List Mark} {phrase body : Phrase}
    {keyword : Terminal} {before header items : List Tree} {word text opening closing : Token}
    (hkind : keywordOf? phrase = some keyword) (hbody : isBody body = true)
    (hopening : Faithful (leftBrace, opening)) (hclosing : Faithful (rightBrace, closing))
    (htext : Faithful (name, text))
    (hclear : isClear file rest (.node phrase (before ++
      Grammar.Tree.leaf keyword word :: .leaf name text :: (header ++ [Grammar.Tree.node body
        (.leaf leftBrace opening :: (items ++ [Grammar.Tree.leaf rightBrace closing]))]))) = true) :
    areClear file (marks word.text.toList ++ Mark.word text.text ::
        (marksOf (header.flatMap Grammar.Tree.leaves) ++ Mark.openBrace ::
          (marksOf (items.flatMap Grammar.Tree.leaves) ++ Mark.closeBrace :: rest))) before = true ∧
      isTypeName text.text = true ∧
      areClear false (.openBrace :: (marksOf (items.flatMap Grammar.Tree.leaves) ++
        Mark.closeBrace :: rest)) header = true ∧
      areClear false (.closeBrace :: rest) items = true := by
  have hsome : (declKind? phrase).isSome = true := by rw [declKind?_isSome, hkind]; rfl
  have hbodyMarks := @body_marks body items opening closing hopening hclosing
  rw [isClear, hsome, Bool.true_or, if_pos rfl, areClear_append, Bool.and_eq_true_iff] at hclear
  obtain ⟨hmodifiers, hrest⟩ := hclear
  rw [areClear, areClear, Bool.and_eq_true_iff, Bool.and_eq_true_iff] at hrest
  obtain ⟨-, hname, htail⟩ := hrest
  refine ⟨?_, by simpa [isClear] using hname, ?_⟩
  · simpa [marksOf_append, marksOf_leaf, name_marks htext, hbodyMarks] using hmodifiers
  · have hfalse : (((file && !before.any declares) && !declares (.leaf keyword word)) &&
        !declares (.leaf name text)) = false := by simp [declares]
    rw [hfalse, areClear_append, Bool.false_and, areClear_false, Bool.and_eq_true_iff,
      Bool.and_eq_true_iff] at htail
    obtain ⟨hheader, hitems, -⟩ := htail
    rw [isClear, hbody, Bool.or_true, if_pos rfl, areClear_false, Bool.and_eq_true_iff,
      areClear_append, Bool.and_eq_true_iff] at hitems
    refine ⟨?_, ?_⟩
    · simpa [marksOf_append, hbodyMarks] using hheader
    · simpa [marksOf_leaf, closing_marks hclosing, marksOf_nil] using hitems.2.1

theorem mem_leaves {phrase : Phrase} {t : Tree} {ts : List Tree} {leaf : Terminal × Token}
    (ht : t ∈ ts) (hleaf : leaf ∈ t.leaves) : leaf ∈ (Grammar.Tree.node phrase ts : Tree).leaves := by
  rw [Grammar.Tree.leaves_node]
  exact List.mem_flatMap.2 ⟨t, ht, hleaf⟩

theorem mem_leaf {phrase : Phrase} {kind : Terminal} {token : Token} {ts : List Tree}
    (h : .leaf kind token ∈ ts) : (kind, token) ∈ (Grammar.Tree.node phrase ts : Tree).leaves :=
  mem_leaves h (List.mem_singleton_self _)

/-- The scan finds the types of every item. -/
theorem scan_item {t : Tree} (h : IsItem t) : IsScanned t := by
  induction h with
  | separator token hkind =>
    intro s file rest hready hfile hleaves hclear
    rw [marksOf_leaf, separator_marks hkind (hleaves _ (by simp [Grammar.Tree.leaves])),
      List.singleton_append, Header.scan.eq_3, Header.skip_other hready]
    · rfl
    · simp
  | @plain phrase parts hkind hbody hbalanced htidy =>
    intro s file rest hready hfile hleaves hclear
    have hnone : typeDecl? (.node phrase parts) = none := by
      have hkind' : declKind? phrase = none := by
        rw [← Option.not_isSome_iff_eq_none, declKind?_isSome, hkind]
        exact Bool.false_ne_true
      rw [typeDecl?, hkind']
    have hscan := @Header.scan_quiet s s.frames _ _ _ _ _ rest (hbalanced (0, 0))
      (isClear_plain hkind hbody hclear) hfile (.inl hready.pending)
    rw [htidy, hready.within] at hscan
    rw [hscan, hnone]
    rfl
  | @declaration phrase body keyword before header items word text opening closing hkind hbefore
      hheader hbody hitems ih =>
    intro s file rest hready hfile hleaves hclear
    have hword : Faithful (keyword, word) := hleaves _ (mem_leaf (by simp))
    have htext : Faithful (name, text) := hleaves _ (mem_leaf (by simp))
    have hopening : Faithful (leftBrace, opening) :=
      hleaves _ (mem_leaves (by simp) (@mem_leaf body _ _ (.leaf leftBrace opening :: (items ++
        [Grammar.Tree.leaf rightBrace closing])) List.mem_cons_self))
    have hclosing : Faithful (rightBrace, closing) :=
      hleaves _ (mem_leaves (by simp) (@mem_leaf body _ _ (.leaf leftBrace opening :: (items ++
        [Grammar.Tree.leaf rightBrace closing])) (by simp)))
    have hinner : ∀ t ∈ items, ∀ leaf ∈ t.leaves, Faithful leaf := by
      intro t ht leaf hleaf
      have hin : leaf ∈ (Grammar.Tree.node body
          (.leaf leftBrace opening :: (items ++ [Grammar.Tree.leaf rightBrace closing])) : Tree).leaves :=
        mem_leaves (by simp [ht]) hleaf
      exact hleaves leaf (mem_leaves (by simp) hin)
    obtain ⟨hmodifiers, hname, hclearHeader, hclearItems⟩ :=
      areClear_declaration hkind hbody hopening hclosing htext hclear
    obtain ⟨kind, annotations, members, hdecl⟩ :=
      @typeDecl?_declaration phrase body keyword before header items word text opening closing hkind
        hbefore hheader hbody
    rw [hdecl, declaration_marks hopening hclosing htext]
    simp only [List.append_assoc, List.cons_append, List.nil_append]
    rw [scan_before hready hfile hbefore hmodifiers]
    exact scan_declaration hready hkind hword hname hheader ih hinner hclearHeader hclearItems kind
      annotations members

end Syntax

end AnnotationIndex.Java
