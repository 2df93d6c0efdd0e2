import AnnotationIndex.Proofs.Java.CanonicalTokens
import AnnotationIndex.Proofs.Java.CanonicalTrees

/-!
# Canonical annotations are read back

A file that holds a canonical annotation and an empty class after it is read as a unit with that
class and that annotation. One name is in the way: the grammar takes `@interface` as one sign where
a declaration can begin, also when the word goes on after these letters.
-/

namespace AnnotationIndex.Java

namespace Canonical

open Syntax
open Terminal Phrase
open Grammar (Cue Front Reading Table closeParts)

def emptyClass : List Char := " class C \x7b\x7d".toList

def emptyClassTokens : List Token :=
  [⟨" ", .word, "class"⟩, ⟨" ", .word, "C"⟩, ⟨" ", .symbol, "\x7b"⟩, sign "\x7d"]

/-- The text of a file with an annotation on an empty class. -/
def Annotation.file (a : Annotation) : List Char := a.source ++ emptyClass

def Annotation.fileTokens (a : Annotation) : List Token := a.tokens ++ emptyClassTokens

theorem Annotation.spell_fileTokens (a : Annotation) : spell a.fileTokens = a.file := by
  rw [fileTokens, spell_append, a.spell_tokens]
  rfl

theorem areCut_emptyClass : AreCut emptyClassTokens [] :=
  ⟨isCut_word (.inr rfl) (c := 'c') (by decide) (List.all_eq_true.1 (by decide))
      (.cons (by decide) _),
    isCut_word (.inr rfl) (c := 'C') (by decide) nofun (.cons (by decide) _),
    isCut_sign (.inr rfl) (c := '\x7b') (by decide) _,
    isCut_sign (.inl rfl) (c := '\x7d') (by decide) _, trivial⟩

theorem Annotation.areCut_fileTokens (a : Annotation) : AreCut a.fileTokens [] :=
  areCut_append.2 ⟨a.areCut_tokens (.cons (by decide) _), areCut_emptyClass⟩

theorem Annotation.tokens?_file (a : Annotation) : tokens? a.file = some a.fileTokens := by
  rw [← a.spell_fileTokens]
  exact tokens?_of_areCut a.areCut_fileTokens (by rw [a.spell_fileTokens]; simp [file, source])

/-- The sign of the first annotation in a file is no part of `@interface` if the word after it does
not begin so. -/
theorem tells_opening {i : Identifier} (h : ¬ "interface".toList <+: i.letters) (more : List Token) :
    (sure atSign).Tells scan (sign "@" :: i.token "" :: more) (sign "@") (extent (sign "@"))
      (i.token "" :: more) := by
  have hprefix : "interface".isPrefixOf i.text = false := by
    rw [← Bool.not_eq_true]
    intro hstart
    exact h (i.toList_text ▸ String.startsWith_string_iff.1 hstart)
  rintro canFollow known - kind ⟨⟩
  have hat : signs.lookup "@" = some atSign := by decide
  simp [scan, cutSign, sign, hat, compound?, Identifier.token, hprefix, cut]

theorem goes_classToken {before after : List Symbol} {cue : Cue Terminal} {kind : Terminal}
    {closed : List (Phrase × Nat)} (hm : .take .top [] before cue kind closed after ∈ classMoves)
    {token : Token} (hcue : ∀ more, cue.Tells scan (token :: more) token (extent token) more)
    (trees : List Tree) :
    Goes [⟨rowAt .top before, trees, 0⟩] [token]
      [⟨rowAt .top (after ++ [Grammar.Symbol.token kind]),
        .leaf kind token :: closeParts closed trees, 0⟩] := by
  have hgoes := Move.goes_take (mem_moves_of_class hm) hcue [] trees
  simpa only [List.append_nil, List.nil_append] using hgoes

theorem goes_emptyClass (e : UseEnd) (trees : List Tree) :
    Goes [⟨rowAt .top e.path, trees, 0⟩] emptyClassTokens
      [⟨rowAt .top wholePath, .leaf rightBrace (sign "\x7d") ::
        .leaf leftBrace ⟨" ", .symbol, "\x7b"⟩ :: .leaf name ⟨" ", .word, "C"⟩ ::
        .leaf classWord ⟨" ", .word, "class"⟩ ::
        closeParts (e.closed ++ [(modifierList, 1), (modifiers, 1)]) trees, 0⟩] := by
  have hclass : Move.take .top [] e.path (keyword classWord) classWord
      (e.closed ++ [(modifierList, 1), (modifiers, 1)]) [.phrase modifiers] ∈ classMoves :=
    List.mem_append_left _ (List.mem_map_of_mem e.mem_all)
  have hname : Move.shift .top [] [.phrase modifiers, .token classWord] plainName name ∈
      classMoves := List.mem_append_right _ List.mem_cons_self
  have hopen : Move.shift .top [] [.phrase modifiers, .token classWord, .token name]
      (sure leftBrace) leftBrace ∈ classMoves :=
    List.mem_append_right _ (List.mem_cons_of_mem _ List.mem_cons_self)
  have hclose : Move.shift .top []
      [.phrase modifiers, .token classWord, .token name, .token leftBrace] (sure rightBrace)
      rightBrace ∈ classMoves :=
    List.mem_append_right _ (List.mem_cons_of_mem _ (List.mem_cons_of_mem _ List.mem_cons_self))
  have hwords := (goes_classToken hclass (@tells_keyword " " "class" _ (by decide)) trees).trans
    (goes_classToken hname (@tells_name " " "C" (by decide)) _)
  have hbraces (trees : List Tree) :=
    (goes_classToken hopen (@tells_sign " " "\x7b" _ (by decide) (by decide) (by decide)) trees).trans
      (goes_classToken hclose (@tells_sign "" "\x7d" _ (by decide) (by decide) (by decide)) _)
  exact hwords.trans (hbraces _)

def fileTree (use : List Tree) : Tree :=
  .node Phrase.source [.node items [.node statement [.node declaration [.node classDeclaration
    [.node modifiers [.node modifierList [.node annotationUse use]],
      .leaf classWord ⟨" ", .word, "class"⟩, .leaf name ⟨" ", .word, "C"⟩,
      .node classBody [.leaf leftBrace ⟨" ", .symbol, "\x7b"⟩,
        .leaf rightBrace (sign "\x7d")]]]]]]

def endToken : Token := ⟨"", .symbol, ""⟩

theorem tells_end : (sure finish).Tells scan [] endToken 1 [] := by
  rintro canFollow known - kind ⟨⟩
  rfl

theorem sum_extent (ts : List Token) (n : Nat) :
    ts.foldl (fun n t => n + extent t) n = n + (spell ts).length := by
  induction ts generalizing n with
  | nil => rfl
  | cons t ts ih =>
    rw [List.foldl_cons, ih, spell_cons]
    simp [extent, ← String.length_toList, Nat.add_assoc]

theorem trees?_cons (t : Token) (ts : List Token) : trees? (t :: ts) =
    Reading.run table scan ((spell (t :: ts)).length + 2)
      [⟨[.start table], [], 0, 0, 0, t :: ts⟩] := by
  have hread : trees? (t :: ts) =
      table.read? scan ((t :: ts).foldl (fun n t => n + extent t) 0) (t :: ts) := rfl
  rw [hread, sum_extent, Nat.zero_add, Table.read?]

theorem run_opening {i : Identifier} (h : ¬ "interface".toList <+: i.letters) (more : List Token) :
    ∃ position rs, (∀ fuel, Reading.run table scan (fuel + 1)
        [⟨[.start table], [], 0, 0, 0, sign "@" :: i.token "" :: more⟩] =
          Reading.run table scan fuel rs) ∧
      List.Forall₂ (Reading.At ⟨[], 0, position, i.token "" :: more⟩)
        [⟨rowAt .top [.token atSign], [.leaf atSign (sign "@")], 0⟩] rs := by
  have hstates : [Grammar.State.start table] = (rowAt .top [] ++ []) ++ [] := by
    unfold rowAt
    rfl
  have hm : Move.shift .top [] [] (sure atSign) atSign ∈ allMoves := by
    simp [allMoves]
  have hstart : List.Forall₂ (Reading.At ⟨[], 0, 0, sign "@" :: i.token "" :: more⟩)
      (frontsAt .top [] [[]] [[]])
      [(⟨[.start table], [], 0, 0, 0, sign "@" :: i.token "" :: more⟩ :
        Reading Terminal Phrase Token (List Token))] :=
    .cons ⟨hstates, rfl, rfl, rfl, rfl, rfl⟩ .nil
  have hsame : [[]].length = ([[]] : List (List Tree)).length := rfl
  obtain ⟨position, rs, hrun, hrs⟩ := Move.run hm hsame (List.cons_ne_nil _ _)
    (tells_opening h more) hstart
  refine ⟨position, rs, hrun, ?_⟩
  have hresults : (Move.shift .top [] [] (sure atSign) atSign).results [] [[]] (sign "@") =
      [⟨rowAt .top [.token atSign] ++ [], [.leaf atSign (sign "@")], 0⟩] := rfl
  rwa [hresults, List.append_nil] at hrs

section Files

variable {resolve : String → String}
  (hresolve : ∀ k : Kind, resolve (String.ofList k.name.letters) = String.ofList k.name.letters)

include hresolve

theorem trees?_file (a : Annotation) (h : ¬ "interface".toList <+: a.kind.first.letters) :
    ∃ parts use, use? (.node annotationUse (dissolveAll [] parts)) = some use ∧
      annotationUse? resolve use = some a.use ∧
      trees? a.fileTokens = some [fileTree parts, .leaf finish endToken] := by
  obtain ⟨e, stack, parts, use, huse, hmeant, hclosed, hgoes⟩ := readsUse hresolve a
  refine ⟨parts, use, huse, hmeant, ?_⟩
  have hinner := hgoes (.top, []) List.mem_cons_self [] [.leaf atSign (sign "@")]
  rw [List.append_nil, List.append_nil] at hinner
  have hall := hinner.trans (goes_emptyClass e _)
  rw [Grammar.closeParts_append, hclosed] at hall
  obtain ⟨more, hmore⟩ : ∃ more, a.kind.name.tokens "" ++ Datum.tokensOfArguments a.arguments ++
      emptyClassTokens = a.kind.first.token "" :: more := ⟨_, rfl⟩
  have htokens : a.fileTokens = sign "@" :: a.kind.first.token "" :: more :=
    congrArg (sign "@" :: ·) hmore
  rw [hmore] at hall
  obtain ⟨position, rs, hrun, hrs⟩ := run_opening h more
  rw [← List.append_nil (_ :: more)] at hrs
  obtain ⟨weight, position', rs', hrun', hrs'⟩ := hall _ _ _ _ hrs
  cases hrs' with
  | @cons _ r _ _ hr hnone =>
    cases hnone
    obtain ⟨s, hround, horigin, hclosed, hne, hwhole⟩ := round_of_whole
    have hend := Reading.run_of_whole (e := (finish, s)) hr hround hne hwhole tells_end (by decide)
    have hlength := length_le_spell a.areCut_fileTokens
    rw [htokens, List.length_cons] at hlength
    obtain ⟨fuel, hfuel⟩ := Nat.exists_eq_add_of_le hlength
    have hsum : (spell (sign "@" :: a.kind.first.token "" :: more)).length + 2 =
        fuel + 1 + 1 + (a.kind.first.token "" :: more).length + 1 := by
      omega
    rw [htokens, trees?_cons, hsum, hrun, hrun', hend]
    simp only [Front.taking, horigin, hclosed]
    rfl

theorem topLevels?_file (a : Annotation) (h : ¬ "interface".toList <+: a.kind.first.letters) :
    ∃ use, annotationUse? resolve use = some a.use ∧
      topLevels? a.file = some [.typeDecl (.mk .classType "C" [use] [] []), .other] := by
  obtain ⟨parts, use, huse, hmeant, htrees⟩ := trees?_file hresolve a h
  refine ⟨use, hmeant, ?_⟩
  have hitems : (dissolveAll [] [fileTree parts, .leaf finish endToken]).map topLevel =
      [.typeDecl (.mk .classType "C" [use] [] []), .other] := by
    have hdissolve : dissolveAll [] [fileTree parts, .leaf finish endToken] =
        [.node classDeclaration [.node modifiers [.node annotationUse (dissolveAll [] parts)],
          .leaf classWord ⟨" ", .word, "class"⟩, .leaf name ⟨" ", .word, "C"⟩,
          .node classBody [.leaf leftBrace ⟨" ", .symbol, "\x7b"⟩, .leaf rightBrace (sign "\x7d")]],
        .leaf finish endToken] := by
      simp [fileTree, dissolveAll, dissolve, isGroup]
    have hname : textOf (.leaf name ⟨" ", .word, "C"⟩) = "C" := rfl
    simp [hdissolve, topLevel, typeDecl?, declKind?, declaredName?, annotationsOn, membersOf,
      innerTypes, typeDecls, isBody, isLeaf, member?, Grammar.Tree.isPhrase, Grammar.Tree.parts,
      huse, hname]
  rw [topLevels?, a.tokens?_file, Option.bind_eq_bind, Option.bind_some, htrees,
    Option.bind_eq_bind, Option.bind_some, hitems, Option.pure_def]

end Files

/-- A canonical annotation is read as the annotation that is meant. -/
theorem ofSource_file (a : Annotation) (h : ¬ "interface".toList <+: a.kind.first.letters)
    (known : String → Bool) : CompilationUnit.ofSource (String.ofList a.file) known =
      .ok ⟨none, [⟨"C", .classType, [a.use], []⟩]⟩ := by
  obtain ⟨use, hmeant, hitems⟩ := topLevels?_file (resolve_letters known) a h
  have hblank : a.file.all Text.isBlank = false := by
    have hat : Text.isBlank '@' = false := by decide
    have hfile : a.file = '@' :: (a.file.drop 1) := rfl
    rw [hfile, List.all_cons, hat, Bool.false_and]
  have houtline : Outline.ofSource? a.file =
      some ⟨Scope.empty, [.mk .classType "C" [use] [] []]⟩ := by
    rw [Outline.ofSource?, hblank, if_neg Bool.false_ne_true, hitems]
    rfl
  have hunit : Outline.unit? ⟨Scope.empty, [.mk .classType "C" [use] [] []]⟩ known =
      some ⟨none, [⟨"C", .classType, [a.use], []⟩]⟩ := by
    have hpackage : Scope.empty.package = none := rfl
    simp [Outline.unit?, WrittenType.decls?, writtenDecls?, hmeant, hpackage]
  rw [CompilationUnit.ofSource, String.toList_ofList, houtline]
  dsimp only
  rw [hunit]

/-- The annotation `@a.B(x = {-1, "\n"}, y = @interfaces.K)`. -/
def sampleUse : Annotation where
  kind := ⟨⟨'a', [], by decide, nofun, by decide⟩, ⟨'B', [], by decide, nofun, by decide⟩, []⟩
  arguments := .pairs
    [(⟨'x', [], by decide, nofun, by decide⟩,
        .array [.integer (-1) (by decide), .string ['\n']]),
      (⟨'y', [], by decide, nofun, by decide⟩,
        .nested ⟨⟨'i', "nterfaces".toList, by decide, List.all_eq_true.1 (by decide), by decide⟩,
          ⟨'K', [], by decide, nofun, by decide⟩, []⟩ (.pairs []))]

theorem ofSource_sampleUse : ¬ "interface".toList <+: sampleUse.kind.first.letters ∧
    String.ofList sampleUse.file = "@a.B(x = \x7b-1, \"\\n\"\x7d, y = @interfaces.K) class C \x7b\x7d" ∧
    CompilationUnit.ofSource (String.ofList sampleUse.file) (fun _ => false) = .ok ⟨none,
      [⟨"C", .classType, [⟨"a.B", [⟨some "x", .array [.integer (-1), .string "\n"]⟩,
        ⟨some "y", .nested ⟨"interfaces.K", []⟩⟩]⟩], []⟩]⟩ :=
  ⟨by decide, by decide, ofSource_file sampleUse (by decide) fun _ => false⟩

def interfacesUse : Annotation where
  kind := ⟨⟨'i', "nterfaces".toList, by decide, List.all_eq_true.1 (by decide), by decide⟩,
    ⟨'K', [], by decide, nofun, by decide⟩, []⟩
  arguments := .value (.integer 1 (by decide))

/-- At the start of a file the grammar cuts `@interfaces` after `@interface`. -/
theorem ofSource_interfacesUse (known : String → Bool) :
    CompilationUnit.ofSource (String.ofList interfacesUse.file) known = .error .malformed := by
  have htokens : interfacesUse.fileTokens = interfacesTokens := by decide
  have hitems : topLevels? interfacesUse.file = none := by
    rw [topLevels?, interfacesUse.tokens?_file, htokens, Option.bind_eq_bind, Option.bind_some,
      trees?_interfaces]
    rfl
  have houtline : Outline.ofSource? interfacesUse.file = none := by
    rw [Outline.ofSource?, hitems]
    split <;> rfl
  rw [CompilationUnit.ofSource, String.toList_ofList, houtline]

theorem not_ofSource_file : ¬ ∀ (a : Annotation) (known : String → Bool),
    CompilationUnit.ofSource (String.ofList a.file) known =
      .ok ⟨none, [⟨"C", .classType, [a.use], []⟩]⟩ := by
  intro hread
  have hfile := hread interfacesUse fun _ => false
  rw [ofSource_interfacesUse] at hfile
  cases hfile

end Canonical

end AnnotationIndex.Java
