import AnnotationIndex.Proofs.Index.Answers
import AnnotationIndex.Proofs.Java.Readers

/-!
# Targets in sources that have changed

Without recorded arguments, the targets of a kind on a type or member are answered from the
annotations of that kind that are there when the question is asked. There are answers if there are
at least as many annotations as targets, and then they are the first annotations, in order.
-/

namespace AnnotationIndex

open Java

section Draws

variable {τ κ α : Type} [BEq κ] [LawfulBEq κ]

/-- The request for an element with a number is answered by what stands there in the list that
belongs to the key of the element. -/
def Draws (key : τ → κ) (live : κ → Option (List AnnotationUse)) (answer : τ → AnnotationUse → α)
    (f : τ × Nat → Request α) : Prop :=
  ∀ p a, (f p).answer = .ok a ↔
    ∃ uses use, live (key p.1) = some uses ∧ uses[p.2]? = some use ∧ a = answer p.1 use

variable {key : τ → κ} {live : κ → Option (List AnnotationUse)} {answer : τ → AnnotationUse → α}
  {f : τ × Nat → Request α}

theorem eq_take_of_places {β : Type} {l picked : List β} {n : Nat}
    (h : (List.range' 0 n).map (l[·]?) = picked.map some) : picked = l.take n := by
  have hlength : n = picked.length := by simpa using congrArg List.length h
  apply List.ext_getElem?
  intro i
  have hplace := congrArg (·[i]?) h
  simp only [List.getElem?_map] at hplace
  rw [List.getElem?_take]
  by_cases hi : i < n
  · rw [if_pos hi]
    rw [List.getElem?_range' hi] at hplace
    cases hpicked : picked[i]? with
    | none => simp [hpicked] at hplace
    | some b => simpa [hpicked] using hplace.symm
  · rw [if_neg hi, List.getElem?_eq_none (by omega)]

theorem lt_of_mem_numbered {l : List τ} {p : τ × Nat} (h : p ∈ numbered key [] l) :
    p.2 < l.countP (key · == key p.1) := by
  have hmem : p.2 ∈ ((numbered key [] l).filter (key ·.1 == key p.1)).map (·.2) :=
    List.mem_map_of_mem (List.mem_filter.2 ⟨h, by simp⟩)
  rw [numbers_of_key] at hmem
  simpa using hmem

theorem exists_last_numbered (key : τ → κ) {l : List τ} {t : τ} (h : t ∈ l) :
    ∃ p ∈ numbered key [] l, key p.1 = key t ∧ p.2 + 1 = l.countP (key · == key t) := by
  have hpos : 0 < l.countP (key · == key t) := List.countP_pos_iff.2 ⟨t, h, by simp⟩
  have hmem : l.countP (key · == key t) - 1 ∈
      ((numbered key [] l).filter (key ·.1 == key t)).map (·.2) := by
    rw [numbers_of_key]
    simp only [List.count_nil, List.mem_range'_1]
    omega
  obtain ⟨p, hp, hnumber⟩ := List.mem_map.1 hmem
  obtain ⟨hp, hkey⟩ := List.mem_filter.1 hp
  exact ⟨p, hp, by simpa using hkey, by omega⟩

/-- There are answers if every key has a list with at least as many items as there are elements with
that key. -/
theorem Draws.exists_answers_iff (h : Draws key live answer f) (l : List τ) :
    (∃ found, answers ((numbered key [] l).map f) = .ok found) ↔
      ∀ t ∈ l, ∃ uses, live (key t) = some uses ∧ l.countP (key · == key t) ≤ uses.length := by
  rw [AnnotationIndex.exists_answers_iff]
  constructor
  · intro hall t ht
    obtain ⟨p, hp, hkey, hlast⟩ := exists_last_numbered key ht
    obtain ⟨a, ha⟩ := hall (f p) (List.mem_map_of_mem hp)
    obtain ⟨uses, use, huses, hget, -⟩ := (h p a).1 ha
    obtain ⟨hlt, -⟩ := List.getElem?_eq_some_iff.1 hget
    refine ⟨uses, by rw [← hkey, huses], ?_⟩
    omega
  · intro hall r hr
    obtain ⟨p, hp, rfl⟩ := List.mem_map.1 hr
    obtain ⟨uses, huses, hle⟩ := hall p.1 (mem_of_mem_numbered hp)
    have hlt : p.2 < uses.length := Nat.lt_of_lt_of_le (lt_of_mem_numbered hp) hle
    have hget := List.getElem?_eq_getElem hlt
    exact ⟨_, (h p _).2 ⟨uses, _, huses, hget, rfl⟩⟩

variable {note : α → AnnotationUse} {keyOf : α → κ}

omit [LawfulBEq κ] in
theorem Draws.keys_of_answers (h : Draws key live answer f)
    (hkey : ∀ t use, keyOf (answer t use) = key t) {l : List τ} {found : List α}
    (hfound : answers ((numbered key [] l).map f) = .ok found) :
    found.map keyOf = l.map key := by
  have hkeys : (numbered key [] l).map (fun p => key p.1) = found.map keyOf := by
    apply map_eq_of_answers ?_ hfound
    intro p _ a ha
    obtain ⟨_, use, -, -, rfl⟩ := (h p a).1 ha
    exact (hkey p.1 use).symm
  rw [← hkeys, ← numbered_fst key [] l, List.map_map, numbered_fst]
  rfl

/-- The answers for one key are the first items of its list. -/
theorem Draws.answers_of_key (h : Draws key live answer f)
    (hkey : ∀ t use, keyOf (answer t use) = key t) (hnote : ∀ t use, note (answer t use) = use)
    {l : List τ} {found : List α} (hfound : answers ((numbered key [] l).map f) = .ok found)
    {k : κ} {uses : List AnnotationUse} (huses : live k = some uses) :
    (found.filter (keyOf · == k)).map note = uses.take (l.countP (key · == k)) := by
  have hselects : Selects (Option.guard fun a => keyOf a == k) ((numbered key [] l).map f)
      (((numbered key [] l).filter (key ·.1 == k)).map f) := by
    apply Selects.filter
    intro p _ a ha
    obtain ⟨_, use, -, -, rfl⟩ := (h p a).1 ha
    rw [hkey]
  have hof := hselects found hfound
  rw [List.filterMap_eq_filter] at hof
  have hplaces : ((numbered key [] l).filter (key ·.1 == k)).map (fun p => uses[p.2]?) =
      (found.filter (keyOf · == k)).map fun a => some (note a) := by
    apply map_eq_of_answers ?_ hof
    intro p hp a ha
    obtain ⟨uses', use, huses', hget, rfl⟩ := (h p a).1 ha
    have hsame : key p.1 = k := by simpa using (List.mem_filter.1 hp).2
    rw [hsame, huses, Option.some.injEq] at huses'
    rw [hnote, ← hget, huses']
  apply eq_take_of_places
  rw [← List.count_nil (a := k), ← numbers_of_key, List.map_map, List.map_map]
  exact hplaces

end Draws

namespace Artifact

/-- The type has a location, the file there can be read as source, and it declares the type. -/
def Declares (a : Artifact) (tree : FileTree) (name : String) (decl : TypeDecl) : Prop :=
  ∃ path content unit, a.types.get? name = some path ∧ tree.read path = .ok content ∧
    CompilationUnit.ofSource (Text.lossyText content) a.loader.knows = .ok unit ∧
    unit.get? name = some decl

theorem unit_eq_ok_iff {loader : Loader} {tree : FileTree} {path : Path} {unit : CompilationUnit} :
    loader.unit tree path = .ok unit ↔ ∃ content, tree.read path = .ok content ∧
      CompilationUnit.ofSource (Text.lossyText content) loader.knows = .ok unit := by
  unfold Loader.unit Loader.outline CompilationUnit.ofSource Loader.unitOf
  cases tree.read path with
  | error fault => simp [Except.bind]
  | ok content =>
    cases houtline : Outline.ofSource? (Text.lossyText content).toList with
    | none => simp [Except.bind, houtline]
    | some outline =>
      cases hunit : outline.unit? loader.knows <;> simp [Except.bind, houtline, hunit]

private theorem bind_eq_ok_iff {α β : Type} {e : Except LoadError α} {f : α → Except LoadError β}
    {b : β} : e.bind f = .ok b ↔ ∃ a, e = .ok a ∧ f a = .ok b := by
  cases e <;> simp [Except.bind]

theorem declares_iff {a : Artifact} {tree : FileTree} {name : String} {decl : TypeDecl} :
    a.Declares tree name decl ↔ a.loader.decl tree name = .ok decl := by
  have hin : ∀ path unit, Loader.declIn path name unit = .ok decl ↔ unit.get? name = some decl := by
    intro path unit
    unfold Loader.declIn
    cases unit.get? name <;> simp
  have hlocations : a.loader.locations = a.types := rfl
  unfold Declares Loader.decl Loader.declAt
  rw [hlocations]
  cases a.types.get? name with
  | none => simp
  | some path =>
    simp only [bind_eq_ok_iff, unit_eq_ok_iff, hin, Option.some.injEq]
    constructor
    · rintro ⟨_, content, unit, rfl, hread, hsource, hget⟩
      exact ⟨unit, ⟨content, hread, hsource⟩, hget⟩
    · rintro ⟨unit, ⟨content, hread, hsource⟩, hget⟩
      exact ⟨path, content, unit, rfl, hread, hsource, hget⟩

theorem read_eq_some_iff {a : Artifact} {tree : FileTree} {name : String} {β : Type}
    {g : TypeDecl → β} {b : β} : (((a.catalog tree).load name).toOption.map g = some b) ↔
      ∃ decl, a.Declares tree name decl ∧ g decl = b := by
  have hload : (a.catalog tree).load name = a.loader.decl tree name := rfl
  simp only [declares_iff, hload]
  cases a.loader.decl tree name <;> simp [Except.toOption]

end Artifact

namespace Catalog

open Artifact Collection

def classRequest (c : Catalog) (kind : String) (p : ClassTarget × Nat) : Request TargetClass :=
  ⟨p.1.typeName, (c.classAnnotation kind p.1 p.2).map fun use => ⟨p.1.typeName, use⟩⟩

def memberRequest (c : Catalog) (memberKind : MemberKind) (kind : String) (p : MemberTarget × Nat) :
    Request TargetMember :=
  ⟨p.1.typeName, (c.memberAnnotation memberKind kind p.1 p.2).map fun use =>
    ⟨p.1.typeName, p.1.member, use⟩⟩

theorem findClasses_eq_map (c : Catalog) (kind : String) : c.findClasses kind =
    (numbered ClassTarget.typeName [] (targetsIn c.artifact.annotations kind).classes).map
      (c.classRequest kind) := by
  rw [findClasses_eq, targetsIn]
  cases c.artifact.annotations.get? kind with
  | none => rfl
  | some targets =>
    rw [Option.elim_some, Option.getD_some, classRequests, List.filter_eq_self.2 fun _ _ => rfl]
    rfl

theorem findMembers_eq_map (c : Catalog) (memberKind : MemberKind) (kind : String) :
    c.findMembers memberKind kind = (numbered (fun t => (t.typeName, t.member)) []
      ((targetsIn c.artifact.annotations kind).members memberKind)).map
        (c.memberRequest memberKind kind) := by
  rw [findMembers_eq, targetsIn]
  cases c.artifact.annotations.get? kind with
  | none => cases memberKind <;> rfl
  | some targets =>
    rw [Option.elim_some, Option.getD_some, memberRequests, List.filter_eq_self.2 fun _ _ => rfl]
    rfl

section Reflective

variable {c : Catalog} (h : c.artifact.argumentsCaptured = false)

include h

theorem draws_classes (kind : String) :
    Draws ClassTarget.typeName
      (fun name => (c.load name).toOption.map fun decl => decl.annotations.filter (·.kind = kind))
      (fun t use => ⟨t.typeName, use⟩) (c.classRequest kind) := by
  rintro ⟨t, n⟩ a
  simp only [classRequest, classAnnotation, h, Bool.false_eq_true, if_false]
  cases c.load t.typeName with
  | error e => simp [Except.map, Except.toOption]
  | ok decl =>
    simp only [Except.toOption, Option.map_some, Option.some.injEq, exists_eq_left', exists_and_left,
      nthOfKind?]
    cases (decl.annotations.filter (·.kind = kind))[n]? <;> simp [Except.map, eq_comm]

theorem draws_members (memberKind : MemberKind) (kind : String) :
    Draws (fun t : MemberTarget => (t.typeName, t.member))
      (fun k => (c.load k.1).toOption.map fun decl =>
        (memberAnnotations decl memberKind k.2).filter (·.kind = kind))
      (fun t use => ⟨t.typeName, t.member, use⟩) (c.memberRequest memberKind kind) := by
  rintro ⟨t, n⟩ a
  simp only [memberRequest, memberAnnotation, h, Bool.false_eq_true, if_false]
  cases c.load t.typeName with
  | error e => simp [Except.map, Except.toOption]
  | ok decl =>
    have hget : ((memberAnnotations decl memberKind t.member).filter (·.kind = kind))[n]? =
        nthOfKind? (memberAnnotations decl memberKind t.member) kind n := rfl
    simp only [Except.toOption, Option.map_some, Option.some.injEq, exists_eq_left', exists_and_left,
      hget]
    cases hnth : nthOfKind? (memberAnnotations decl memberKind t.member) kind n with
    | none => split <;> simp [Except.map]
    | some use => simp [member?_of_nth hnth, Except.map, eq_comm]

end Reflective

private theorem answers_of_draws {τ κ α : Type} [BEq κ] [LawfulBEq κ] {key : τ → κ}
    {answer : τ → AnnotationUse → α} {f : τ × Nat → Request α} {a : Artifact} {tree : FileTree}
    {nameOf : κ → String} {pool : κ → TypeDecl → List AnnotationUse} (keyOf : α → κ)
    (note : α → AnnotationUse)
    (h : Draws key (fun k => ((a.catalog tree).load (nameOf k)).toOption.map (pool k)) answer f)
    (hkey : ∀ t use, keyOf (answer t use) = key t) (hnote : ∀ t use, note (answer t use) = use)
    (l : List τ) :
    ((∃ found, answers ((numbered key [] l).map f) = .ok found) ↔
      ∀ t ∈ l, ∃ decl, a.Declares tree (nameOf (key t)) decl ∧
        l.countP (key · == key t) ≤ (pool (key t) decl).length) ∧
    ∀ found, answers ((numbered key [] l).map f) = .ok found →
      found.map keyOf = l.map key ∧
      ∀ k decl, a.Declares tree (nameOf k) decl →
        (found.filter (keyOf · == k)).map note = (pool k decl).take (l.countP (key · == k)) := by
  refine ⟨?_, fun found hfound => ⟨h.keys_of_answers hkey hfound, fun k decl hdecl => ?_⟩⟩
  · rw [h.exists_answers_iff]
    refine forall_congr' fun t => forall_congr' fun _ => ?_
    constructor
    · rintro ⟨uses, huses, hle⟩
      obtain ⟨decl, hdecl, rfl⟩ := read_eq_some_iff.1 huses
      exact ⟨decl, hdecl, hle⟩
    · rintro ⟨decl, hdecl, hle⟩
      exact ⟨_, read_eq_some_iff.2 ⟨decl, hdecl, rfl⟩, hle⟩
  · exact h.answers_of_key hkey hnote hfound (read_eq_some_iff.2 ⟨decl, hdecl, rfl⟩)

private theorem pair_beq (x y x' y' : String) :
    ((x, y) == (x', y')) = (decide (x = x') && decide (y = y')) := by
  rw [Bool.eq_iff_iff]
  simp

/-- Without recorded arguments, there are answers for a kind if each type with targets is declared at
its location, with at least as many annotations of the kind as there are targets. The answers are
then about the targets, in order, and those for one type or member are the first annotations that
are declared there. -/
theorem answers_from_sources (a : Artifact) (h : a.argumentsCaptured = false) (tree : FileTree)
    (kind : String) :
    let c := a.catalog tree
    let classes := (targetsIn a.annotations kind).classes
    let members := (targetsIn a.annotations kind).members
    (((∃ found, answers (c.findClasses kind) = .ok found) ↔
        ∀ t ∈ classes, ∃ decl, a.Declares tree t.typeName decl ∧
          classes.countP (·.typeName = t.typeName) ≤ decl.annotations.countP (·.kind = kind)) ∧
      ∀ found, answers (c.findClasses kind) = .ok found →
        found.map TargetClass.typeName = classes.map ClassTarget.typeName ∧
        ∀ typeName decl, a.Declares tree typeName decl →
          (found.filter (·.typeName = typeName)).map TargetClass.annotation =
            (decl.annotations.filter (·.kind = kind)).take
              (classes.countP (·.typeName = typeName))) ∧
    ∀ memberKind,
      ((∃ found, answers (c.findMembers memberKind kind) = .ok found) ↔
        ∀ t ∈ members memberKind, ∃ decl, a.Declares tree t.typeName decl ∧
          (members memberKind).countP (fun u => u.typeName = t.typeName && u.member = t.member) ≤
            (memberAnnotations decl memberKind t.member).countP (·.kind = kind)) ∧
      ∀ found, answers (c.findMembers memberKind kind) = .ok found →
        found.map (fun t => (t.typeName, t.member)) =
          (members memberKind).map (fun t => (t.typeName, t.member)) ∧
        ∀ typeName member decl, a.Declares tree typeName decl →
          (found.filter fun t => t.typeName = typeName && t.member = member).map
              TargetMember.annotation =
            ((memberAnnotations decl memberKind member).filter (·.kind = kind)).take
              ((members memberKind).countP fun t => t.typeName = typeName && t.member = member) := by
  intro c classes members
  have hcount : ∀ uses : List AnnotationUse,
      (uses.filter (·.kind = kind)).length = uses.countP (·.kind = kind) :=
    fun uses => List.countP_eq_length_filter.symm
  constructor
  · have hclasses := answers_of_draws TargetClass.typeName TargetClass.annotation
      (draws_classes (c := c) h kind) (fun _ _ => rfl) (fun _ _ => rfl) classes
    have hfind : c.findClasses kind = (numbered ClassTarget.typeName [] classes).map
        (c.classRequest kind) := findClasses_eq_map c kind
    rw [← hfind] at hclasses
    have hbeq : ∀ x y : String, (x == y) = decide (x = y) := fun _ _ => rfl
    simpa only [hbeq, hcount] using hclasses
  · intro memberKind
    have hmembers := answers_of_draws (fun t : TargetMember => (t.typeName, t.member))
      TargetMember.annotation (draws_members (c := c) h memberKind kind) (fun _ _ => rfl)
      (fun _ _ => rfl) (members memberKind)
    have hfind : c.findMembers memberKind kind =
        (numbered (fun t => (t.typeName, t.member)) [] (members memberKind)).map
          (c.memberRequest memberKind kind) := findMembers_eq_map c memberKind kind
    rw [← hfind] at hmembers
    simpa only [pair_beq, hcount, Prod.forall] using hmembers

end Catalog

namespace Overloads

def content : List UInt8 := Text.utf8Bytes Samples.overloading

def tree : FileTree := ⟨.ofList [(Text.utf8Bytes "/A.java", .file content)], []⟩

/-- Some targets for one kind of annotation on the methods of one name. -/
def artifact (targets : Nat) : Artifact where
  version := formatVersion
  argumentsCaptured := false
  types := .ofList [("A", .ofText "/A.java")]
  annotations := .ofList [("K", ⟨[], List.replicate targets ⟨"A", "m", []⟩, []⟩)]
  knownTypes := KeyMap.empty

def use (n : Int64) : AnnotationUse := ⟨"K", [⟨none, .integer n⟩]⟩

def decl : TypeDecl := ⟨"A", .classType, [], [⟨"m", .method, [use 1]⟩, ⟨"m", .method, [use 2]⟩]⟩

theorem lossyText_content : Text.lossyText content = Samples.overloading := by decide +kernel

theorem declares (n : Nat) : (artifact n).Declares tree "A" decl := by
  have hunit : Samples.overloadedClass.unit? (artifact n).loader.knows = some ⟨none, [decl]⟩ := rfl
  refine ⟨.ofText "/A.java", content, ⟨none, [decl]⟩, rfl, rfl, ?_, rfl⟩
  rw [lossyText_content, CompilationUnit.ofSource, Samples.outline_overloading]
  simp only [hunit]

theorem targets_artifact (n : Nat) : (Collection.targetsIn (artifact n).annotations "K").members
    .method = List.replicate n ⟨"A", "m", []⟩ := rfl

/-- Two targets get the annotations of the two methods, and three targets are too many. -/
theorem answers_from_overloads :
    (∃ found, answers (((artifact 2).catalog tree).findMembers .method "K") = .ok found ∧
      (found.filter fun t => t.typeName = "A" && t.member = "m").map TargetMember.annotation =
        [use 1, use 2]) ∧
    ¬∃ found, answers (((artifact 3).catalog tree).findMembers .method "K") = .ok found := by
  constructor
  · obtain ⟨hiff, hfirst⟩ := (Catalog.answers_from_sources (artifact 2) rfl tree "K").2 .method
    rw [targets_artifact] at hiff hfirst
    obtain ⟨found, hfound⟩ := hiff.2 fun t ht => by
      obtain rfl := List.eq_of_mem_replicate ht
      exact ⟨decl, declares 2, by decide⟩
    exact ⟨found, hfound, (hfirst found hfound).2 "A" "m" decl (declares 2)⟩
  · intro hall
    have hiff := ((Catalog.answers_from_sources (artifact 3) rfl tree "K").2 .method).1
    rw [targets_artifact] at hiff
    obtain ⟨decl', hdecl', hle⟩ := hiff.1 hall ⟨"A", "m", []⟩ (by simp)
    obtain rfl : decl = decl' := Except.ok.inj
      ((Artifact.declares_iff.1 (declares 3)).symm.trans (Artifact.declares_iff.1 hdecl'))
    revert hle
    decide

end Overloads

end AnnotationIndex
