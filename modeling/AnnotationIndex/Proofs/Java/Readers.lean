import AnnotationIndex.Java.Unit
import AnnotationIndex.Proofs.Java.Evaluation
import AnnotationIndex.Proofs.Java.Scan

/-!
# Headers and compilation units

A source text has two readers: the scan for its header, and the grammar. Where the scan can tell
tokens and declarations apart, both find the same package and the same types.
-/

namespace AnnotationIndex.Java

mutual

theorem paths_member (package outer : String) : ∀ w : WrittenType,
    w.paths (some (package ++ "." ++ outer)) = (w.paths (some outer)).map (package ++ "." ++ ·)
  | .mk kind simple annotations members inner => by
    have hname : package ++ "." ++ outer ++ "." ++ simple =
        package ++ "." ++ (outer ++ "." ++ simple) := by
      simp only [String.append_assoc]
    simp only [WrittenType.paths, List.map_cons, hname]
    rw [pathsIn_member package (outer ++ "." ++ simple) inner]

theorem pathsIn_member (package outer : String) : ∀ ws : List WrittenType,
    pathsIn (package ++ "." ++ outer) ws = (pathsIn outer ws).map (package ++ "." ++ ·)
  | [] => rfl
  | w :: ws => by
    rw [pathsIn, pathsIn, List.map_append, paths_member package outer w,
      pathsIn_member package outer ws]

end

theorem paths_package (package : String) (w : WrittenType) :
    w.paths (some package) = (w.paths none).map (package ++ "." ++ ·) := by
  obtain ⟨kind, simple, annotations, members, inner⟩ := w
  simp only [WrittenType.paths, List.map_cons]
  rw [pathsIn_member package simple inner]

theorem paths_qualified (package : Option String) (w : WrittenType) :
    ((w.paths none).map fun name => match package with
      | some package => package ++ "." ++ name
      | none => name) = w.paths package := by
  cases package with
  | none => exact List.map_id _
  | some package => exact (paths_package package w).symm

mutual

theorem names_decls? {resolve : String → String} : ∀ (outer : Option String) (w : WrittenType)
    (decls : List TypeDecl), w.decls? resolve outer = some decls →
      decls.map (·.name) = w.paths outer
  | outer, .mk kind simple annotations members inner, decls, h => by
    simp only [WrittenType.decls?, Option.bind_eq_bind, Option.bind_eq_some_iff] at h
    obtain ⟨uses, -, members, -, more, hmore, h⟩ := h
    cases h
    cases outer <;> rw [List.map_cons, names_writtenDecls? _ inner more hmore, WrittenType.paths]

theorem names_writtenDecls? {resolve : String → String} : ∀ (outer : String)
    (ws : List WrittenType) (decls : List TypeDecl),
    writtenDecls? resolve outer ws = some decls → decls.map (·.name) = pathsIn outer ws
  | outer, [], decls, h => by
    cases h
    rfl
  | outer, w :: ws, decls, h => by
    simp only [writtenDecls?, Option.bind_eq_bind, Option.bind_eq_some_iff] at h
    obtain ⟨first, hfirst, more, hmore, h⟩ := h
    cases h
    rw [List.map_append, names_decls? (some outer) w first hfirst,
      names_writtenDecls? outer ws more hmore, pathsIn]

end

theorem names_types {resolve : String → String} {package : Option String}
    {types : List WrittenType} {decls : List (List TypeDecl)}
    (h : types.mapM (WrittenType.decls? resolve package) = some decls) :
    decls.flatten.map (·.name) = types.flatMap (WrittenType.paths package) := by
  induction types generalizing decls with
  | nil =>
    cases h
    rfl
  | cons w types ih =>
    rw [List.mapM_cons] at h
    simp only [Option.bind_eq_bind, Option.bind_eq_some_iff] at h
    obtain ⟨first, hfirst, more, hmore, hpure⟩ := h
    cases hpure
    rw [List.flatMap_cons, List.flatten_cons, List.map_append, names_decls? _ w first hfirst,
      ih hmore]

/-- A unit has the package of its outline, and its types have the names that were written. -/
theorem names_unit? {outline : Outline} {known : String → Bool} {unit : CompilationUnit}
    (h : outline.unit? known = some unit) :
    unit.package = outline.scope.package ∧
      unit.types.map (·.name) = outline.types.flatMap (WrittenType.paths outline.scope.package) := by
  obtain ⟨decls, hdecls, rfl⟩ := Option.map_eq_some_iff.1 h
  exact ⟨rfl, names_types hdecls⟩

namespace Syntax

open Header (State Mark misleads IsReady marks)
open Terminal Phrase

def isCompact (path : Tree) : Bool := (path.tokens.drop 1).all (·.gap.isEmpty)

def isReadPackage (next : List Mark) (parts : List Tree) : Bool :=
  let uses := parts.takeWhile (·.isPhrase annotationUse)
  let tail := parts.dropWhile (·.isPhrase annotationUse)
  !misleads true (marksOf (tail.flatMap Grammar.Tree.leaves) ++ next) (0, 0) false
      (marksOf (uses.flatMap Grammar.Tree.leaves)) &&
    (parts.find? isDottedName).all isCompact

/-- The scan reads the items of a file. A package is declared at most once and before all types. -/
def areRead (file unnamed : Bool) : List Tree → Bool
  | [] => true
  | t :: ts =>
    let next := marksOf (ts.flatMap Grammar.Tree.leaves)
    match t with
    | .node packageDeclaration parts =>
      file && unnamed && isReadPackage next parts && areRead file false ts
    | .node importDeclaration _ => (file || isClear false next t) && areRead file unnamed ts
    | t => isClear file next t && areRead (file && !declares t) unnamed ts

theorem spellings_path : ∀ p ∈ spellings, isPathSymbol (.token p.2) = true →
    (p.1 = "." ∧ marks p.1.toList = [.dot]) ∨ marks p.1.toList = [.word p.1] := by
  decide +kernel

theorem path_leaf {leaf : Leaf} (h : Faithful leaf) (hpath : isPathSymbol (.token leaf.1) = true) :
    (leaf.2.text = "." ∧ marks leaf.2.text.toList = [.dot]) ∨
      marks leaf.2.text.toList = [.word leaf.2.text] := by
  cases h with
  | finish gap kind =>
    have hfinish : isPathSymbol (.token finish) = false := by decide
    rw [hfinish] at hpath
    cases hpath
  | name t hmarks => exact .inr hmarks
  | literal kind t hkind hmarks =>
    have hkinds : ∀ k ∈ [integer, real, hexReal, character, string],
        isPathSymbol (.token k) = false := by decide
    rw [hkinds kind hkind] at hpath
    cases hpath
  | spelled kind t hmem => exact spellings_path _ hmem hpath

theorem dottedName_path {leaves : List Leaf} (h : ∀ leaf ∈ leaves, Faithful leaf)
    (hpath : ∀ leaf ∈ leaves, isPathSymbol (.token leaf.1) = true) (rest : List Mark) :
    Header.dottedName (marksOf leaves ++ .other :: rest) =
      (String.join (leaves.map (·.2.text)), .other :: rest) := by
  induction leaves with
  | nil => rfl
  | cons leaf leaves ih =>
    obtain ⟨hleaf, hrest⟩ := List.forall_mem_cons.1 h
    obtain ⟨hone, hmore⟩ := List.forall_mem_cons.1 hpath
    have hih := ih hrest hmore
    rw [marksOf, List.flatMap_cons, List.append_assoc]
    change Header.dottedName (marks leaf.2.text.toList ++ (marksOf leaves ++ .other :: rest)) = _
    rcases path_leaf hleaf hone with ⟨htext, hdot⟩ | hword
    · rw [hdot, List.singleton_append, Header.dottedName, hih]
      simp [htext]
    · rw [hword, List.singleton_append, Header.dottedName, hih]
      simp

theorem sourceText_compact {ts : List Token} (h : (ts.drop 1).all (·.gap.isEmpty) = true) :
    sourceText ts = String.join (ts.map (·.text)) := by
  cases ts with
  | nil => rfl
  | cons t ts =>
    have hall : ∀ (us : List Token) (text : String), us.all (·.gap.isEmpty) = true →
        us.foldl (fun text u => text ++ u.gap ++ u.text) text =
          text ++ String.join (us.map (·.text)) := by
      intro us
      induction us with
      | nil => simp
      | cons u us ih =>
        intro text hus
        obtain ⟨hu, hmore⟩ := Bool.and_eq_true_iff.1 (List.all_cons ▸ hus)
        have hgap : u.gap = "" := by simpa using hu
        rw [List.foldl_cons, ih _ hmore, hgap]
        simp [String.append_assoc]
    rw [sourceText, hall ts t.text h]
    simp

theorem marksOf_of_join {leaves : List Leaf}
    (h : String.join (leaves.map (·.2.text)) = "") : marksOf leaves = [] := by
  induction leaves with
  | nil => rfl
  | cons leaf leaves ih =>
    obtain ⟨htext, hrest⟩ : leaf.2.text = "" ∧ String.join (leaves.map (·.2.text)) = "" := by
      simpa using h
    have hnone : marks leaf.2.text.toList = [] := by
      rw [htext]
      exact marks_nil
    rw [marksOf, List.flatMap_cons, hnone]
    exact ih hrest

theorem IsPackageOf.find?_path {uses : List Tree} {path : Tree} {word last : Token}
    (h : IsPackageOf uses path) :
    (uses ++ [.leaf packageWord word, path, .leaf semicolon last]).find? isDottedName =
      some path := by
  have hnone : uses.find? isDottedName = none := by
    rw [List.find?_eq_none]
    intro t ht
    obtain ⟨parts, rfl⟩ := h.annotations t ht
    exact Bool.false_ne_true
  rw [List.find?_append, hnone, Option.none_or, List.find?_cons, List.find?_cons, h.dotted]
  rfl

theorem isReadPackage_parts {uses : List Tree} {path : Tree} {word last : Token}
    {next : List Mark} (h : IsPackageOf uses path)
    (hread : isReadPackage next (uses ++ [.leaf packageWord word, path, .leaf semicolon last]) =
      true) :
    misleads true (marksOf ((Grammar.Tree.leaf packageWord word :: path ::
        [.leaf semicolon last]).flatMap Grammar.Tree.leaves) ++ next) (0, 0) false
        (marksOf (uses.flatMap Grammar.Tree.leaves)) = false ∧ isCompact path = true := by
  have huses : ∀ t ∈ uses, t.isPhrase annotationUse = true := by
    intro t ht
    obtain ⟨parts, rfl⟩ := h.annotations t ht
    rfl
  unfold isReadPackage at hread
  rw [List.takeWhile_append_of_pos huses, List.dropWhile_append_of_pos huses, h.find?_path] at hread
  simpa [Grammar.Tree.isPhrase] using hread

theorem scan_packageWord {s : State} {afterDot : Bool} {name : String} {a rest : List Mark}
    (hready : IsReady s) (hlevel : s.atFileLevel = true) (hnone : s.package = none)
    (hdotted : Header.dottedName (a ++ .other :: rest) = (name, .other :: rest))
    (hname : name ≠ "") :
    Header.scan (Header.within s s.frames (0, 0) afterDot)
        (.word "package" :: (a ++ .other :: rest)) =
      Header.scan { s with package := some name } rest := by
  have htaken : ("package" = "package" && (Header.within s s.frames (0, 0) afterDot).atFileLevel &&
      (Header.within s s.frames (0, 0) afterDot).package.isNone) = true := by
    simpa [Header.within, State.atFileLevel, hnone, hready.parens] using hlevel
  have hstate : ((Header.within s s.frames (0, 0) afterDot).packageDecl
      (a ++ .other :: rest)).skip .other = { s with package := some name } := by
    rw [State.packageDecl, hdotted]
    simp [State.skip, Header.within, hname, hready.parens, hready.afterDot]
  rw [Header.scan.eq_2, if_pos htaken, hdotted, Header.scan.eq_3, hstate]
  simp

theorem scan_package {s : State} {uses : List Tree} {path : Tree} {word last : Token}
    {rest : List Mark} (hready : IsReady s) (hlevel : s.atFileLevel = true)
    (hnone : s.package = none) (hpackage : IsPackageOf uses path)
    (hleaves : ∀ t ∈ uses ++ [Grammar.Tree.leaf packageWord word, path, .leaf semicolon last],
      ∀ leaf ∈ t.leaves, Faithful leaf)
    (hread : isReadPackage rest
      (uses ++ [Grammar.Tree.leaf packageWord word, path, .leaf semicolon last]) = true) :
    Header.scan s (marksOf ((uses ++
        [Grammar.Tree.leaf packageWord word, path, .leaf semicolon last]).flatMap
          Grammar.Tree.leaves) ++ rest) =
      Header.scan { s with package := some (textOf path) } rest := by
  obtain ⟨hquiet, hcompact⟩ := isReadPackage_parts hpackage hread
  have hword : marks word.text.toList = [.word "package"] := by
    have hspellings : ∀ p ∈ spellings, p.2 = packageWord → marks p.1.toList = [.word "package"] := by
      decide +kernel
    exact spelled_marks hspellings (by decide) (hleaves (.leaf packageWord word) (by simp) _ (by
      simp [Grammar.Tree.leaves]))
  have hlast : marks last.text.toList = [.other] :=
    separator_marks (.inl rfl) (hleaves (.leaf semicolon last) (by simp) _ (by
      simp [Grammar.Tree.leaves]))
  have hpath : ∀ leaf ∈ path.leaves, Faithful leaf := hleaves path (by simp)
  have htail : marksOf ((Grammar.Tree.leaf packageWord word :: path ::
      [.leaf semicolon last]).flatMap Grammar.Tree.leaves) =
        .word "package" :: (marksOf path.leaves ++ [Mark.other]) := by
    rw [List.flatMap_cons, List.flatMap_cons, List.flatMap_singleton, marksOf_append,
      marksOf_append, marksOf_leaf, marksOf_leaf, hword, hlast]
    rfl
  have htext : String.join (path.leaves.map (·.2.text)) = textOf path := by
    rw [textOf, sourceText_compact hcompact, Grammar.Tree.tokens_eq, List.map_map]
    rfl
  have hname : textOf path ≠ "" := by
    intro hempty
    have htidy := hpackage.tidy true
    rw [marksOf_of_join (htext.trans hempty)] at htidy
    cases htidy
  have hscan := @Header.scan_quiet s s.frames _ _ _ _ _ _ (hpackage.balanced (0, 0)) hquiet
    (.inl rfl) (.inl hready.pending)
  rw [List.flatMap_append, marksOf_append, List.append_assoc]
  rw [hready.within] at hscan
  rw [hscan, htail]
  have hdotted := dottedName_path hpath hpackage.words rest
  rw [htext] at hdotted
  rw [List.cons_append, List.append_assoc, List.singleton_append]
  exact scan_packageWord hready hlevel hnone hdotted hname

theorem afterOther_append {a : List Mark} (h : .other ∉ a) (rest : List Mark) :
    Header.afterOther (a ++ .other :: rest) = rest := by
  have hall : ∀ m ∈ a, (m != Mark.other) = true := by
    intro m hm
    rw [bne_iff_ne]
    rintro rfl
    exact h hm
  rw [Header.afterOther, List.dropWhile_append_of_pos hall]
  simp

theorem dottedName_append {a : List Mark} (h : .other ∉ a) (rest : List Mark) :
    ∃ b, .other ∉ b ∧ (Header.dottedName (a ++ .other :: rest)).2 = b ++ .other :: rest := by
  induction a with
  | nil => exact ⟨[], by simp, rfl⟩
  | cons m a ih =>
    have hmore : Mark.other ∉ a := fun hmem => h (List.mem_cons_of_mem m hmem)
    cases m with
    | word w => exact ih hmore
    | dot => exact ih hmore
    | _ => exact ⟨_ :: a, h, rfl⟩

theorem importTail_append {a : List Mark} (h : .other ∉ a) (rest : List Mark) :
    (Header.importTail (a ++ .other :: rest)).2 = rest := by
  have hafter : ∀ b, .other ∉ b →
      Header.afterOther (Header.dottedName (b ++ .other :: rest)).2 = rest := by
    intro b hb
    obtain ⟨c, hc, heq⟩ := dottedName_append hb rest
    rw [heq, afterOther_append hc]
  unfold Header.importTail
  split
  · rename_i tail heq
    cases a with
    | nil => cases heq
    | cons m a =>
      obtain ⟨-, rfl⟩ := List.cons.inj heq
      exact hafter a fun hmem => h (List.mem_cons_of_mem m hmem)
  · exact hafter a h

theorem scan_importWord {s : State} {a rest : List Mark} (hready : IsReady s)
    (hlevel : s.atFileLevel = true) (h : .other ∉ a) :
    Header.scan s (.word "import" :: (a ++ .other :: rest)) =
      Header.scan { s with
        onDemand := s.onDemand ++ (Header.importTail (a ++ .other :: rest)).1.toList } rest := by
  have htail := importTail_append h rest
  have hdot : Header.endsInDot (a ++ .other :: rest) rest = false := by
    have hlength : (a ++ .other :: rest).length - rest.length = (a ++ [Mark.other]).length := by
      simp
      omega
    have hsplit : a ++ .other :: rest = (a ++ [Mark.other]) ++ rest := by simp
    rw [Header.endsInDot, hlength, hsplit, List.take_left]
    simp
  rw [Header.scan.eq_2, if_neg (by simp), if_pos (by simpa using hlevel), htail]
  congr 1
  simp [State.importDecl, htail, hdot, hready.afterDot]

theorem scan_import {s : State} {path : List Tree} {word last : Token} {rest : List Mark}
    (hready : IsReady s) (hlevel : s.atFileLevel = true)
    (hpath : ∀ leaf ∈ path.flatMap Grammar.Tree.leaves,
      isPathSymbol (.token leaf.1) = true ∨ leaf.1 = star)
    (hleaves : ∀ t ∈ .leaf importWord word :: (path ++ [Grammar.Tree.leaf semicolon last]),
      ∀ leaf ∈ t.leaves, Faithful leaf) :
    ∃ onDemand, Header.scan s (marksOf ((Grammar.Tree.leaf importWord word ::
        (path ++ [Grammar.Tree.leaf semicolon last])).flatMap Grammar.Tree.leaves) ++ rest) =
      Header.scan { s with onDemand } rest := by
  have hword : marks word.text.toList = [.word "import"] := by
    have hspellings : ∀ p ∈ spellings, p.2 = importWord → marks p.1.toList = [.word "import"] := by
      decide +kernel
    exact spelled_marks hspellings (by decide) (hleaves (.leaf importWord word) (by simp) _ (by
      simp [Grammar.Tree.leaves]))
  have hlast : marks last.text.toList = [.other] :=
    separator_marks (.inl rfl) (hleaves (.leaf semicolon last) (by simp) _ (by
      simp [Grammar.Tree.leaves]))
  have hnone : Mark.other ∉ marksOf (path.flatMap Grammar.Tree.leaves) := by
    intro hmem
    obtain ⟨leaf, hleaf, hmark⟩ := List.mem_flatMap.1 hmem
    obtain ⟨t, ht, hin⟩ := List.mem_flatMap.1 hleaf
    have hfaithful : Faithful leaf := hleaves t (by simp [ht]) leaf hin
    rcases hpath leaf hleaf with hname | hstar
    · rcases path_leaf hfaithful hname with ⟨-, hdot⟩ | hone
      · simp [hdot] at hmark
      · simp [hone] at hmark
    · have hspellings : ∀ p ∈ spellings, p.2 = star → marks p.1.toList = [.star] := by
        decide +kernel
      have hone : marks leaf.2.text.toList = [.star] := by
        refine spelled_marks hspellings (by decide) ?_
        rw [← hstar]
        exact hfaithful
      simp [hone] at hmark
  have hmarks : marksOf ((Grammar.Tree.leaf importWord word ::
      (path ++ [Grammar.Tree.leaf semicolon last])).flatMap Grammar.Tree.leaves) =
        .word "import" :: (marksOf (path.flatMap Grammar.Tree.leaves) ++ [Mark.other]) := by
    rw [List.flatMap_cons, List.flatMap_append, List.flatMap_singleton, marksOf_append,
      marksOf_append, marksOf_leaf, marksOf_leaf, hword, hlast]
    rfl
  rw [hmarks, List.cons_append, List.append_assoc, List.singleton_append]
  exact ⟨_, scan_importWord hready hlevel hnone⟩

inductive IsFileItem : Tree → Prop
  | package {uses : List Tree} {path : Tree} (word last : Token) (h : IsPackageOf uses path) :
      IsFileItem (.node packageDeclaration
        (uses ++ [.leaf packageWord word, path, .leaf semicolon last]))
  | imported {path : List Tree} {word last : Token}
      (hitem : IsItem (.node importDeclaration
        (.leaf importWord word :: (path ++ [.leaf semicolon last]))))
      (hpath : ∀ leaf ∈ path.flatMap Grammar.Tree.leaves,
        isPathSymbol (.token leaf.1) = true ∨ leaf.1 = star) :
      IsFileItem (.node importDeclaration
        (.leaf importWord word :: (path ++ [.leaf semicolon last])))
  | item {t : Tree} (hitem : IsItem t) (hpackage : t.isPhrase packageDeclaration = false)
      (himport : t.isPhrase importDeclaration = false) : IsFileItem t

theorem fileItem_of_formed {t i : Tree} (h : t.Formed productions)
    (hleaves : ∀ leaf ∈ t.leaves, Faithful leaf) (hroot : t.root = .phrase source)
    (hi : i ∈ dissolve [] t) : IsFileItem i := by
  have hitem : IsItem i := (items_of_formed h hleaves).1 (by rw [hroot]; rfl) i hi
  by_cases hpackage : i.isPhrase packageDeclaration = true
  · cases i with
    | leaf kind token => cases hpackage
    | node phrase parts =>
      obtain rfl : packageDeclaration = phrase := by simpa [Grammar.Tree.isPhrase] using hpackage
      obtain ⟨uses, word, path, last, rfl, hparts⟩ := package_of_formed h hleaves hi
      exact .package word last hparts
  · by_cases himport : i.isPhrase importDeclaration = true
    · cases i with
      | leaf kind token => cases himport
      | node phrase parts =>
        obtain rfl : importDeclaration = phrase := by simpa [Grammar.Tree.isPhrase] using himport
        obtain ⟨word, path, last, rfl, hpath⟩ := import_of_formed h hleaves hi
        exact .imported hitem hpath
    · exact .item hitem (by simpa using hpackage) (by simpa using himport)

theorem declares_item {t : Tree} (h : IsItem t) : declares t = (typeDecl? t).isSome := by
  cases h with
  | separator token hkind => rcases hkind with rfl | rfl <;> rfl
  | @plain phrase parts hkind hbody hbalanced htidy =>
    have hnone : declKind? phrase = none := by
      rw [← Option.not_isSome_iff_eq_none, declKind?_isSome, hkind]
      exact Bool.false_ne_true
    rw [declares, typeDecl?, hnone]
    rfl
  | @declaration phrase body keyword before header items word text opening closing hkind hbefore
      hheader hbody hitems =>
    obtain ⟨kind, annotations, members, hdecl⟩ :=
      @typeDecl?_declaration phrase body keyword before header items word text opening closing hkind
        hbefore hheader hbody
    rw [hdecl, declares, declKind?_isSome, hkind]
    rfl

theorem topLevel_item {t : Tree} (hpackage : t.isPhrase packageDeclaration = false)
    (himport : t.isPhrase importDeclaration = false) :
    topLevel t = ((typeDecl? t).map TopLevel.typeDecl).getD .other := by
  unfold topLevel
  split
  · cases hpackage
  · cases himport
  · split <;> simp_all

theorem topLevel_package {uses : List Tree} {path : Tree} {word last : Token}
    (h : IsPackageOf uses path) :
    topLevel (.node packageDeclaration
      (uses ++ [.leaf packageWord word, path, .leaf semicolon last])) =
        .packageName (textOf path) := by
  rw [topLevel, h.find?_path]

def typesAmong (items : List TopLevel) : List WrittenType :=
  items.filterMap fun
    | .typeDecl t => some t
    | _ => none

theorem topLevel_import (parts : List Tree) (scope : Scope) :
    (scope.add (topLevel (.node importDeclaration parts))).package = scope.package ∧
      typesAmong [topLevel (.node importDeclaration parts)] = [] := by
  rw [topLevel]
  split
  · rename_i path hpath
    refine ⟨?_, rfl⟩
    simp only [Scope.add]
    repeat' split
    all_goals rfl
  · exact ⟨rfl, rfl⟩

/-- What one item of a file adds to the package and the types that the scan has found. -/
structure Advances (s next : State) (item : TopLevel) : Prop where
  package : ∀ scope : Scope, s.package = scope.package → next.package = (scope.add item).package
  names : next.names =
    ((typesAmong [item]).flatMap (WrittenType.paths none)).reverse ++ s.names

theorem advances_import {s next : State} (parts : List Tree) (hpackage : next.package = s.package)
    (hnames : next.names = s.names) : Advances s next (topLevel (.node importDeclaration parts)) := by
  refine ⟨fun scope hscope => ?_, ?_⟩
  · rw [(topLevel_import parts scope).1, hpackage, hscope]
  · rw [(topLevel_import parts .empty).2, hnames]
    rfl

theorem add_typeDecl? {t : Tree} (scope : Scope)
    (htop : topLevel t = ((typeDecl? t).map TopLevel.typeDecl).getD .other) :
    (scope.add (topLevel t)).package = scope.package ∧
      typesAmong [topLevel t] = (typeDecl? t).toList := by
  rw [htop]
  cases typeDecl? t <;> exact ⟨rfl, rfl⟩

structure IsBetween (s : State) (file unnamed : Bool) : Prop where
  ready : IsReady s
  frames : s.frames = []
  file : file = s.names.isEmpty
  unnamed : unnamed = true → s.package = none

theorem IsBetween.atFileLevel {s : State} {file unnamed : Bool} (h : IsBetween s file unnamed)
    (hfile : file = true) : s.atFileLevel = true := by
  simp [State.atFileLevel, h.ready.parens, h.frames, ← h.file, hfile]

theorem IsBetween.names {s : State} {file unnamed : Bool} (h : IsBetween s file unnamed) :
    file = true ∨ s.names ≠ [] := by
  cases hfile : file with
  | true => exact .inl rfl
  | false =>
    right
    intro hnil
    have hempty := h.file
    rw [hnil, hfile] at hempty
    cases hempty

theorem declare_isEmpty (s : State) (decl : Option WrittenType) :
    (declare s decl.toList).names.isEmpty = (s.names.isEmpty && !decl.isSome) := by
  cases decl with
  | none => simp [declare]
  | some w =>
    obtain ⟨kind, simple, annotations, members, inner⟩ := w
    simp [declare, paths_mk]

/-- The scan goes over an item that declares no package and is no import before all types. -/
theorem scan_between {s : State} {file unnamed : Bool} {t : Tree} {rest : List Mark}
    (hs : IsBetween s file unnamed) (hitem : IsItem t) (hleaves : ∀ leaf ∈ t.leaves, Faithful leaf)
    (hclear : isClear file rest t = true) :
    Header.scan s (marksOf t.leaves ++ rest) =
        Header.scan (declare s (typeDecl? t).toList) rest ∧
      IsBetween (declare s (typeDecl? t).toList) (file && !declares t) unnamed := by
  refine ⟨scan_item hitem s file rest hs.ready hs.names hleaves hclear, ?_⟩
  refine ⟨ready_declare hs.ready _, hs.frames, ?_, hs.unnamed⟩
  rw [declare_isEmpty, declares_item hitem, hs.file]

theorem advances_declare {s : State} {t : Tree} (hframes : s.frames = [])
    (htop : topLevel t = ((typeDecl? t).map TopLevel.typeDecl).getD .other) :
    Advances s (declare s (typeDecl? t).toList) (topLevel t) := by
  refine ⟨?_, ?_⟩
  · intro scope hscope
    rw [(add_typeDecl? scope htop).1]
    exact hscope
  · rw [(add_typeDecl? .empty htop).2, declare, hframes]
    rfl

theorem scan_fileItem {s : State} {file unnamed : Bool} {t : Tree} {ts : List Tree}
    (hs : IsBetween s file unnamed) (ht : IsFileItem t)
    (hleaves : ∀ leaf ∈ t.leaves, Faithful leaf) (hread : areRead file unnamed (t :: ts) = true) :
    ∃ next file' unnamed', IsBetween next file' unnamed' ∧ areRead file' unnamed' ts = true ∧
      Advances s next (topLevel t) ∧
      Header.scan s (marksOf t.leaves ++ marksOf (ts.flatMap Grammar.Tree.leaves)) =
        Header.scan next (marksOf (ts.flatMap Grammar.Tree.leaves)) := by
  cases ht with
  | @package uses path word last h =>
    rw [areRead] at hread
    simp only [Bool.and_eq_true] at hread
    obtain ⟨⟨⟨hfile, hunnamed⟩, hpackage⟩, hmore⟩ := hread
    refine ⟨{ s with package := some (textOf path) }, file, false, ?_, hmore, ?_, ?_⟩
    · exact ⟨⟨hs.ready.parens, hs.ready.pending, hs.ready.afterDot, hs.ready.level⟩, hs.frames,
        hs.file, by simp⟩
    · rw [topLevel_package h]
      exact ⟨fun scope hscope => rfl, rfl⟩
    · have hparts : ∀ u ∈ uses ++ [Grammar.Tree.leaf packageWord word, path, .leaf semicolon last],
          ∀ leaf ∈ u.leaves, Faithful leaf :=
        fun u hu leaf hleaf => hleaves leaf (mem_leaves hu hleaf)
      rw [Grammar.Tree.leaves_node]
      exact scan_package hs.ready (hs.atFileLevel hfile) (hs.unnamed hunnamed) h hparts hpackage
  | @imported path word last hitem hpath =>
    rw [areRead] at hread
    obtain ⟨hclear, hmore⟩ := Bool.and_eq_true_iff.1 hread
    cases hfile : file with
    | true =>
      have hparts : ∀ u ∈ .leaf importWord word :: (path ++ [Grammar.Tree.leaf semicolon last]),
          ∀ leaf ∈ u.leaves, Faithful leaf :=
        fun u hu leaf hleaf => hleaves leaf (mem_leaves hu hleaf)
      obtain ⟨onDemand, hscan⟩ := @scan_import s path word last
        (marksOf (ts.flatMap Grammar.Tree.leaves)) hs.ready (hs.atFileLevel hfile) hpath hparts
      refine ⟨{ s with onDemand }, file, unnamed, ?_, hmore, ?_, ?_⟩
      · exact ⟨⟨hs.ready.parens, hs.ready.pending, hs.ready.afterDot, hs.ready.level⟩, hs.frames,
          hs.file, hs.unnamed⟩
      · exact advances_import _ rfl rfl
      · rw [Grammar.Tree.leaves_node]
        exact hscan
    | false =>
      rw [hfile] at hs hclear
      obtain ⟨hscan, hnext⟩ := scan_between hs hitem hleaves (by simpa using hclear)
      exact ⟨_, false, unnamed, hnext, hfile ▸ hmore, advances_import _ rfl rfl, hscan⟩
  | item hitem hpackage himport =>
    rw [areRead] at hread
    · obtain ⟨hclear, hmore⟩ := Bool.and_eq_true_iff.1 hread
      obtain ⟨hscan, hnext⟩ := scan_between hs hitem hleaves hclear
      exact ⟨_, _, _, hnext, hmore, advances_declare hs.frames (topLevel_item hpackage himport),
        hscan⟩
    · rintro parts rfl
      cases hpackage
    · rintro parts rfl
      cases himport

theorem scan_file {s : State} {file unnamed : Bool} {ts : List Tree} (hs : IsBetween s file unnamed)
    (hts : ∀ t ∈ ts, IsFileItem t) (hleaves : ∀ t ∈ ts, ∀ leaf ∈ t.leaves, Faithful leaf)
    (hread : areRead file unnamed ts = true) {scope : Scope} (hscope : s.package = scope.package) :
    (Header.scan s (marksOf (ts.flatMap Grammar.Tree.leaves))).package =
        ((ts.map topLevel).foldl Scope.add scope).package ∧
      (Header.scan s (marksOf (ts.flatMap Grammar.Tree.leaves))).names =
        ((typesAmong (ts.map topLevel)).flatMap (WrittenType.paths none)).reverse ++ s.names := by
  induction ts generalizing s file unnamed scope with
  | nil => exact ⟨by simpa [marksOf, Header.scan] using hscope, by
      simp [marksOf, Header.scan, typesAmong]⟩
  | cons t ts ih =>
    obtain ⟨ht, hts'⟩ := List.forall_mem_cons.1 hts
    obtain ⟨hleavest, hleaves'⟩ := List.forall_mem_cons.1 hleaves
    obtain ⟨next, file', unnamed', hnext, hread', hadvances, hscan⟩ :=
      scan_fileItem hs ht hleavest hread
    obtain ⟨hpackage, hnames⟩ := ih hnext hts' hleaves' hread' (hadvances.package scope hscope)
    have hsplit : typesAmong ((t :: ts).map topLevel) =
        typesAmong [topLevel t] ++ typesAmong (ts.map topLevel) := by
      rw [List.map_cons, ← List.singleton_append, typesAmong, List.filterMap_append]
      rfl
    rw [List.flatMap_cons, marksOf_append, hscan]
    refine ⟨by rw [hpackage, List.map_cons, List.foldl_cons], ?_⟩
    rw [hnames, hadvances.names, hsplit, List.flatMap_append, List.reverse_append,
      List.append_assoc]

/-- The scan for headers tells the tokens and the declarations of a text apart as the grammar
does. -/
def isReadable (text : List Char) : Bool :=
  text.head? != some '\ufeff' && !text.contains '\x0b' &&
    match (tokens? text).bind trees? with
    | some (t :: _) => t.leaves.all (isDistinct ·.2) && areApart (t.leaves.map (·.2)) &&
        areRead true true (dissolve [] t)
    | _ => true

theorem marks_of_tokens {text : List Char} (h : tokens? text = some [])
    (hmark : text.head? ≠ some '\ufeff') (hvertical : '\x0b' ∉ text) : marks text = [] := by
  unfold tokens? at h
  simp only [hmark, if_false] at h
  split at h
  · cases h
  · exact (tokensFrom?_marks h hvertical (by simp) rfl).1

/-- The scan of a text that the grammar accepts. -/
theorem scan_topLevels {text : List Char} {items : List TopLevel}
    (hitems : topLevels? text = some items) (hread : isReadable text = true) :
    (Header.scan {} (marks text)).package = (Scope.ofItems items).package ∧
      (Header.scan {} (marks text)).names =
        ((typesAmong items).flatMap (WrittenType.paths none)).reverse := by
  simp only [topLevels?, Option.bind_eq_bind, Option.bind_eq_some_iff] at hitems
  obtain ⟨ts, hts, trees, htrees, hitems⟩ := hitems
  obtain rfl := (Option.some.inj hitems).symm
  simp only [isReadable, Bool.and_eq_true, hts, Option.bind_some, htrees] at hread
  obtain ⟨⟨hmark, hvertical⟩, hread⟩ := hread
  replace hmark : text.head? ≠ some '\ufeff' := by simpa using hmark
  replace hvertical : '\x0b' ∉ text := by simpa using hvertical
  by_cases hne : ts = []
  · subst hne
    cases htrees
    rw [marks_of_tokens hts hmark hvertical, Header.scan]
    exact ⟨rfl, rfl⟩
  · obtain ⟨t, last, rest, rfl, hroot, hformed, hcuts⟩ := trees?_spec hne htrees
    simp only [Bool.and_eq_true, List.all_eq_true] at hread
    obtain ⟨⟨hdistinct, hapart⟩, hread⟩ := hread
    obtain ⟨hmarks, hfaithful⟩ := marks_of_cuts hts hcuts rfl hmark hvertical hdistinct hapart
    have hitem : ∀ i ∈ dissolve [] t, IsFileItem i :=
      fun i hi => fileItem_of_formed hformed hfaithful hroot hi
    have hleaves : ∀ i ∈ dissolve [] t, ∀ leaf ∈ i.leaves, Faithful leaf := by
      intro i hi leaf hleaf
      refine hfaithful leaf ?_
      rw [← dissolve_leaves t]
      exact List.mem_flatMap.2 ⟨i, hi, hleaf⟩
    have hstart : IsBetween {} true true := ⟨⟨rfl, rfl, rfl, .inl rfl⟩, rfl, rfl, fun _ => rfl⟩
    have hscope : ({} : State).package = Scope.empty.package := rfl
    have hscan := scan_file hstart hitem hleaves hread hscope
    rw [dissolve_leaves, ← hmarks] at hscan
    have hdissolve : dissolveAll [] [t, .leaf finish last] =
        dissolve [] t ++ [Grammar.Tree.leaf finish last] := by
      rw [dissolveAll_flatMap]
      simp [dissolve]
    have hfinish : topLevel (.leaf finish last) = .other := rfl
    rw [hdissolve, List.map_append, Scope.ofItems, List.foldl_append, List.map_singleton, hfinish,
      hscan.1, hscan.2]
    refine ⟨rfl, ?_⟩
    simp [typesAmong]

noncomputable def compactTrees? : List Token → Option (List Tree)
  | [] => some []
  | ts => compactTable.read? scan (ts.foldl (fun n t => n + extent t) 0) ts

theorem trees?_compact : trees? = compactTrees? := by
  funext ts
  cases ts with
  | nil => rfl
  | cons t ts =>
    unfold trees?
    rw [table_eq_compact]
    rfl

theorem isReadable_compact (text : List Char) : isReadable text =
    (text.head? != some '\ufeff' && !text.contains '\x0b' &&
      match (tokens? text).bind compactTrees? with
      | some (t :: _) => t.leaves.all (isDistinct ·.2) && areApart (t.leaves.map (·.2)) &&
          areRead true true (dissolve [] t)
      | _ => true) := by
  rw [isReadable, trees?_compact]

end Syntax

theorem Outline.ofSource?_compact (source : List Char) : Outline.ofSource? source =
    if source.all Text.isBlank then none
    else ((tokens? source).bind Syntax.compactTrees?).map fun trees =>
      let items := (Syntax.dissolveAll [] trees).map Syntax.topLevel
      { scope := Scope.ofItems items
        types := items.filterMap fun
          | .typeDecl t => some t
          | _ => none } := by
  rw [Outline.ofSource?, topLevels?, Syntax.trees?_compact]
  cases tokens? source with
  | none => rfl
  | some ts =>
    simp only [Option.bind_eq_bind, Option.bind_some]
    cases Syntax.compactTrees? ts <;> rfl

namespace Samples

/-- A package whose name is written with blanks. -/
def spaced : String := "package a . b; class C {}"

def quoting : String := "package a.b; import c.*; @K(\"class\") class A { enum B { } }"

def annotated : String := "@K class A {}"

def importing : String := "import q.*; @A class X {}"

def overloading : String := "class A { @K(1) void m() {} @K(2) void m(int i) {} }"

def reads (source : String) (package : Option String) (names : List String) : Bool :=
  (CompilationUnit.ofSource source fun _ => false).toOption.any fun unit =>
    unit.package == package && unit.types.map (·.name) == names

def annotatedClass (packages : List String) (kind name : String) : Outline :=
  ⟨⟨none, [], packages⟩, [.mk .classType name [⟨kind, []⟩] [] []]⟩

def isAnnotatedClass (packages : List String) (kind name : String) : Option Outline → Bool
  | some ⟨⟨none, [], packages'⟩, [.mk .classType name' [⟨kind', []⟩] [] []]⟩ =>
    packages' == packages && kind' == kind && name' == name
  | _ => false

def overloadedClass : Outline :=
  let member (text : String) : WrittenMember := ⟨.method, ["m"], [⟨"K", [⟨none, .integer text⟩]⟩]⟩
  ⟨Scope.empty, [.mk .classType "A" [] [member "1", member "2"] []]⟩

def isOverloadedClass : Option Outline → Bool
  | some ⟨⟨none, [], []⟩, [.mk .classType name [] [⟨.method, names, [⟨kind, [⟨none, .integer text⟩]⟩]⟩,
      ⟨.method, names', [⟨kind', [⟨none, .integer text'⟩]⟩]⟩] []]⟩ =>
    name == "A" && names == ["m"] && kind == "K" && text == "1" && names' == ["m"] && kind' == "K" &&
      text' == "2"
  | _ => false

theorem reads_outline (source : String) (package : Option String) (names : List String) :
    reads source package names =
      match Outline.ofSource? source.toList with
      | some outline =>
        match outline.unit? fun _ => false with
        | some unit => unit.package == package && unit.types.map (·.name) == names
        | none => false
      | none => false := by
  rw [reads, CompilationUnit.ofSource]
  cases Outline.ofSource? source.toList with
  | none => rfl
  | some outline =>
    dsimp only
    cases outline.unit? fun _ => false <;> rfl

-- All texts are read in one evaluation, since most of it goes into the table of the grammar.
set_option maxRecDepth 100000 in
theorem evaluated : (reads spaced (some "a . b") ["a . b.C"] &&
    (Header.ofSource spaced).package == some "a.b" &&
    reads quoting (some "a.b") ["a.b.A", "a.b.A.B"] && Syntax.isReadable quoting.toList &&
    (isAnnotatedClass [] "K" "A" (Outline.ofSource? annotated.toList) &&
      isAnnotatedClass ["q"] "A" "X" (Outline.ofSource? importing.toList) &&
      isOverloadedClass (Outline.ofSource? overloading.toList))) = true := by
  simp only [reads_outline, Syntax.isReadable_compact, Outline.ofSource?_compact]
  decide +kernel

theorem unit_of_reads {source : String} {package : Option String} {names : List String}
    (h : reads source package names = true) :
    ∃ unit, CompilationUnit.ofSource source (fun _ => false) = .ok unit ∧
      unit.package = package ∧ unit.types.map (·.name) = names := by
  unfold reads at h
  cases hunit : CompilationUnit.ofSource source fun _ => false with
  | error why =>
    rw [hunit] at h
    cases h
  | ok unit =>
    rw [hunit] at h
    exact ⟨unit, rfl, by simpa [Except.toOption] using h⟩

theorem of_isAnnotatedClass {packages : List String} {kind name : String} {outline : Option Outline}
    (h : isAnnotatedClass packages kind name outline = true) :
    outline = some (annotatedClass packages kind name) := by
  unfold isAnnotatedClass at h
  split at h
  · simp only [Bool.and_eq_true, beq_iff_eq] at h
    obtain ⟨⟨rfl, rfl⟩, rfl⟩ := h
    rfl
  · cases h

theorem outlines : Outline.ofSource? annotated.toList = some (annotatedClass [] "K" "A") ∧
    Outline.ofSource? importing.toList = some (annotatedClass ["q"] "A" "X") := by
  have heval := evaluated
  simp only [Bool.and_eq_true] at heval
  obtain ⟨-, ⟨hannotated, himporting⟩, -⟩ := heval
  exact ⟨of_isAnnotatedClass hannotated, of_isAnnotatedClass himporting⟩

theorem of_isOverloadedClass {outline : Option Outline} (h : isOverloadedClass outline = true) :
    outline = some overloadedClass := by
  unfold isOverloadedClass at h
  split at h
  · simp only [Bool.and_eq_true, beq_iff_eq] at h
    obtain ⟨⟨⟨⟨⟨⟨rfl, rfl⟩, rfl⟩, rfl⟩, rfl⟩, rfl⟩, rfl⟩ := h
    rfl
  · cases h

theorem outline_overloading : Outline.ofSource? overloading.toList = some overloadedClass := by
  have heval := evaluated
  simp only [Bool.and_eq_true] at heval
  exact of_isOverloadedClass heval.2.2

end Samples

/-- A unit that is read from a text has the package of its header and the types that the header
names, where the scan for headers can tell what it sees. -/
theorem header_of_unit {source : String} {known : String → Bool} {unit : CompilationUnit}
    (hunit : CompilationUnit.ofSource source known = .ok unit)
    (hread : Syntax.isReadable source.toList = true) :
    (Header.ofSource source).package = unit.package ∧
      (Header.ofSource source).types = unit.types.map (·.name) := by
  unfold CompilationUnit.ofSource at hunit
  split at hunit
  · cases hunit
  · rename_i outline houtline
    split at hunit
    · cases hunit
    · rename_i unit' hunit'
      cases hunit
      unfold Outline.ofSource? at houtline
      split at houtline
      · cases houtline
      · obtain ⟨items, hitems, rfl⟩ := Option.map_eq_some_iff.1 houtline
        obtain ⟨hpackage, hnames⟩ := Syntax.scan_topLevels hitems hread
        obtain ⟨hunitPackage, hunitNames⟩ := names_unit? hunit'
        refine ⟨?_, ?_⟩
        · rw [hunitPackage]
          exact hpackage
        · rw [hunitNames]
          simp only [Header.ofSource, Header.State.header]
          rw [hnames, List.reverse_reverse, List.map_flatMap, hpackage]
          exact congrArg (List.flatMap · _) (funext fun w => paths_qualified _ w)

theorem header_of_quoting : Syntax.isReadable Samples.quoting.toList = true ∧
    ∃ unit, CompilationUnit.ofSource Samples.quoting (fun _ => false) = .ok unit ∧
      (Header.ofSource Samples.quoting).package = unit.package ∧
        (Header.ofSource Samples.quoting).types = unit.types.map (·.name) := by
  have heval := Samples.evaluated
  simp only [Bool.and_eq_true] at heval
  obtain ⟨⟨⟨-, hreads⟩, hreadable⟩, -⟩ := heval
  obtain ⟨unit, hunit, -⟩ := Samples.unit_of_reads hreads
  exact ⟨hreadable, unit, hunit, header_of_unit hunit hreadable⟩

/-- The grammar keeps the blanks of a package name and the scan for headers drops them. -/
theorem header_of_spaced : ¬ ∀ (source : String) (known : String → Bool) (unit : CompilationUnit),
    CompilationUnit.ofSource source known = .ok unit →
      (Header.ofSource source).package = unit.package ∧
        (Header.ofSource source).types = unit.types.map (·.name) := by
  intro hagree
  have heval := Samples.evaluated
  simp only [Bool.and_eq_true] at heval
  obtain ⟨⟨⟨⟨hreads, hheader⟩, -⟩, -⟩, -⟩ := heval
  obtain ⟨unit, hunit, hpackage, -⟩ := Samples.unit_of_reads hreads
  have hsame := (hagree _ _ unit hunit).1
  rw [beq_iff_eq.1 hheader, hpackage] at hsame
  revert hsame
  decide

end AnnotationIndex.Java
