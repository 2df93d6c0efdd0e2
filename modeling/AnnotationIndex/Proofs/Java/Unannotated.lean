import AnnotationIndex.Java.Unit
import AnnotationIndex.Proofs.Java.Items
import AnnotationIndex.Proofs.Text.Utf8

/-!
# Texts without annotations

An annotation begins with the sign `@`. Where no byte of a file is that sign, no character of its
text is, no token is made of it and no leaf is of its kind, so no phrase of the tree is an
annotation. What is declared there carries none, and nothing in it can fail to be read.
-/

namespace AnnotationIndex.Java

namespace Syntax

open Terminal Phrase Grammar

inductive Unannotated : Tree → Prop
  | leaf (kind : Terminal) (token : Token) : Unannotated (.leaf kind token)
  | node {phrase : Phrase} {parts : List Tree} (hphrase : phrase ≠ annotationUse)
      (hparts : ∀ t ∈ parts, Unannotated t) : Unannotated (.node phrase parts)

theorem unannotated_parts {t : Tree} (h : Unannotated t) : ∀ u ∈ t.parts, Unannotated u := by
  cases h with
  | leaf kind token => exact nofun
  | node hphrase hparts => exact hparts

theorem use?_of_unannotated {t : Tree} (h : Unannotated t) : use? t = none := by
  cases h with
  | leaf kind token => rfl
  | node hphrase hparts =>
    unfold use?
    split
    · rename_i heq
      exact absurd (Grammar.Tree.node.inj heq).1 hphrase
    · rfl

variable {parts : List Tree}

theorem annotationsOn_of_unannotated (h : ∀ t ∈ parts, Unannotated t) :
    annotationsOn parts = [] := by
  unfold annotationsOn
  split
  · rename_i t hfind
    rw [List.filterMap_eq_nil_iff]
    have hparts := unannotated_parts (h t (List.mem_of_find?_eq_some hfind))
    exact fun u hu => use?_of_unannotated (hparts u hu)
  · rfl

theorem member?_of_unannotated {t : Tree} (h : Unannotated t) :
    ∀ m ∈ member? t, m.annotations = [] := by
  cases h with
  | leaf kind token => exact nofun
  | node hphrase hparts =>
    have hnone := annotationsOn_of_unannotated hparts
    intro m hm
    unfold member? at hm
    dsimp only at hm
    split at hm
    all_goals first
      | cases hm
        exact hnone
      | obtain ⟨_, -, rfl⟩ := Option.map_eq_some_iff.1 hm
        exact hnone
      | cases hm

theorem component?_of_unannotated {t : Tree} (h : Unannotated t) :
    ∀ m ∈ component? t, m.annotations = [] := by
  intro m hm
  unfold component? at hm
  split at hm
  · obtain ⟨_, -, rfl⟩ := Option.map_eq_some_iff.1 hm
    exact annotationsOn_of_unannotated (unannotated_parts h)
  · cases hm

theorem membersOf_of_unannotated (h : ∀ t ∈ parts, Unannotated t) :
    ∀ m ∈ membersOf parts, m.annotations = [] := by
  intro m hm
  obtain ⟨t, ht, hm⟩ := List.mem_flatMap.1 hm
  have hparts := unannotated_parts (h t ht)
  split at hm
  · obtain ⟨u, hu, hm⟩ := List.mem_filterMap.1 hm
    exact component?_of_unannotated (hparts u hu) m hm
  · split at hm
    · obtain ⟨u, hu, hm⟩ := List.mem_filterMap.1 hm
      exact member?_of_unannotated (hparts u hu) m hm
    · cases hm
  · cases hm

end Syntax

/-- A type that was written without annotations, on itself, on its members and on the types in
it. -/
inductive WrittenType.Unannotated : WrittenType → Prop
  | mk {kind : DeclKind} {name : String} {members : List WrittenMember} {inner : List WrittenType}
      (hmembers : ∀ m ∈ members, m.annotations = []) (hinner : ∀ t ∈ inner, Unannotated t) :
      Unannotated (.mk kind name [] members inner)

namespace Syntax

open Terminal Phrase

mutual

theorem unannotated_typeDecl? : ∀ {t : Tree}, Unannotated t → ∀ d ∈ typeDecl? t, d.Unannotated
  | .leaf _ _, _ => by simp [typeDecl?]
  | .node phrase parts, h => by
    have hparts : ∀ t ∈ parts, Unannotated t := unannotated_parts h
    intro d hd
    unfold typeDecl? at hd
    split at hd
    · cases hd
      rw [annotationsOn_of_unannotated hparts]
      exact .mk (membersOf_of_unannotated hparts) (unannotated_innerTypes hparts)
    · cases hd

theorem unannotated_innerTypes : ∀ {parts : List Tree}, (∀ t ∈ parts, Unannotated t) →
    ∀ d ∈ innerTypes parts, d.Unannotated
  | [], _ => by simp [innerTypes]
  | .leaf _ _ :: parts, h => by
    rw [innerTypes]
    exact unannotated_innerTypes (List.forall_mem_cons.1 h).2
  | .node phrase inner :: parts, h => by
    obtain ⟨hfirst, hrest⟩ := List.forall_mem_cons.1 h
    have hmore := unannotated_innerTypes hrest
    rw [innerTypes]
    split
    · exact List.forall_mem_append.2 ⟨unannotated_typeDecls (unannotated_parts hfirst), hmore⟩
    · exact hmore

theorem unannotated_typeDecls : ∀ {ts : List Tree}, (∀ t ∈ ts, Unannotated t) →
    ∀ d ∈ typeDecls ts, d.Unannotated
  | [], _ => by simp [typeDecls]
  | t :: ts, h => by
    obtain ⟨hfirst, hrest⟩ := List.forall_mem_cons.1 h
    rw [typeDecls]
    refine List.forall_mem_append.2 ⟨fun d hd => ?_, unannotated_typeDecls hrest⟩
    exact unannotated_typeDecl? hfirst d (Option.mem_toList.1 hd)

end

end Syntax

def TypeDecl.Unannotated (d : TypeDecl) : Prop :=
  d.annotations = [] ∧ ∀ m ∈ d.members, m.annotations = []

theorem members?_of_unannotated {members : List WrittenMember}
    (h : ∀ m ∈ members, m.annotations = []) (resolve : String → String) :
    members.mapM (WrittenMember.members? resolve) =
      some (members.map fun m => m.names.map (⟨·, m.kind, []⟩)) := by
  induction members with
  | nil => rfl
  | cons m members ih =>
    obtain ⟨hfirst, hrest⟩ := List.forall_mem_cons.1 h
    rw [List.mapM_cons, ih hrest, WrittenMember.members?, hfirst]
    rfl

theorem writtenDecls?_of_all {resolve : String → String} {outer : String} {ts : List WrittenType}
    (h : ∀ t ∈ ts, ∃ decls, t.decls? resolve (some outer) = some decls ∧
      ∀ d ∈ decls, d.Unannotated) :
    ∃ decls, writtenDecls? resolve outer ts = some decls ∧ ∀ d ∈ decls, d.Unannotated := by
  induction ts with
  | nil => exact ⟨[], rfl, by simp⟩
  | cons t ts ih =>
    obtain ⟨⟨decls, hdecls, hbare⟩, hrest⟩ := List.forall_mem_cons.1 h
    obtain ⟨more, hmore, hbare'⟩ := ih hrest
    refine ⟨decls ++ more, ?_, List.forall_mem_append.2 ⟨hbare, hbare'⟩⟩
    rw [writtenDecls?, hdecls, hmore]
    rfl

theorem WrittenType.Unannotated.decls? {t : WrittenType} (h : t.Unannotated)
    (resolve : String → String) (enclosing : Option String) :
    ∃ decls, t.decls? resolve enclosing = some decls ∧
      ∀ d ∈ decls, d.Unannotated := by
  induction h generalizing enclosing with
  | @mk kind name members inner hmembers hinner ih =>
    have hflat : ∀ m ∈ (members.map fun m =>
        m.names.map (⟨·, m.kind, []⟩ : String → Member)).flatten, m.annotations = [] := by
      intro m hm
      obtain ⟨ms, hms, hm⟩ := List.mem_flatten.1 hm
      obtain ⟨written, -, rfl⟩ := List.mem_map.1 hms
      obtain ⟨member, -, rfl⟩ := List.mem_map.1 hm
      rfl
    have hmore := fun outer =>
      @writtenDecls?_of_all resolve outer inner fun t ht => ih t ht (some outer)
    unfold WrittenType.decls?
    rw [members?_of_unannotated hmembers]
    cases enclosing with
    | none =>
      obtain ⟨more, hdecls, hbare⟩ := hmore name
      exact ⟨⟨name, kind, [], _⟩ :: more, by simp [hdecls],
        List.forall_mem_cons.2 ⟨⟨rfl, hflat⟩, hbare⟩⟩
    | some outer =>
      obtain ⟨more, hdecls, hbare⟩ := hmore (outer ++ "." ++ name)
      exact ⟨⟨outer ++ "." ++ name, kind, [], _⟩ :: more, by simp [hdecls],
        List.forall_mem_cons.2 ⟨⟨rfl, hflat⟩, hbare⟩⟩

end AnnotationIndex.Java
