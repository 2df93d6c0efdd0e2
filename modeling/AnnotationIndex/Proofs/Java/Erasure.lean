import AnnotationIndex.Java.Unit

/-!
# What does not depend on the known types

Which types are known decides the kinds of annotations and nothing else. `eraseKinds` takes the
kinds away, those of nested annotations too, and what is left of a compilation unit is what would be
read if every name of an annotation type meant nothing.
-/

namespace AnnotationIndex.Java

mutual

def Value.eraseKinds : Value → Value
  | .array items => .array (eraseKindsOfValues items)
  | .nested ⟨_, arguments⟩ => .nested ⟨"", eraseKindsOfArguments arguments⟩
  | v => v

def eraseKindsOfValues : List Value → List Value
  | [] => []
  | v :: vs => v.eraseKinds :: eraseKindsOfValues vs

def eraseKindsOfArguments : List (Argument Value) → List (Argument Value)
  | [] => []
  | ⟨name, v⟩ :: rest => ⟨name, v.eraseKinds⟩ :: eraseKindsOfArguments rest

end

def AnnotationOf.eraseKinds (use : AnnotationUse) : AnnotationUse :=
  ⟨"", eraseKindsOfArguments use.arguments⟩

def Member.eraseKinds (m : Member) : Member :=
  { m with annotations := m.annotations.map AnnotationOf.eraseKinds }

def TypeDecl.eraseKinds (decl : TypeDecl) : TypeDecl :=
  { decl with
    annotations := decl.annotations.map AnnotationOf.eraseKinds
    members := decl.members.map Member.eraseKinds }

/-- The unit with the kinds of all annotations taken away. -/
def CompilationUnit.eraseKinds (unit : CompilationUnit) : CompilationUnit :=
  { unit with types := unit.types.map TypeDecl.eraseKinds }

@[simp] theorem TypeDecl.kind_eraseKinds (decl : TypeDecl) : decl.eraseKinds.kind = decl.kind := rfl

theorem CompilationUnit.get?_eraseKinds (unit : CompilationUnit) (name : String) :
    unit.eraseKinds.get? name = (unit.get? name).map TypeDecl.eraseKinds := by
  rw [get?, eraseKinds, List.find?_map]
  rfl

/-- The meaning of names under which all kinds are empty. -/
private abbrev nameless : String → String := fun _ => ""

variable (resolve : String → String)

theorem eraseKinds_negated (text : String) (v : Value) :
    (negated text v).eraseKinds = negated text v.eraseKinds := by
  cases v <;> simp [negated, Value.eraseKinds]

private theorem map_cons {α : Type} {e : α → α} {f : List α → List α}
    (hcons : ∀ a l, f (a :: l) = e a :: f l) (head : Option α) (tail : Option (List α)) :
    (head.bind fun a => tail.bind fun l => some (a :: l)).map f =
      (head.map e).bind fun a => (tail.map f).bind fun l => some (a :: l) := by
  cases head <;> cases tail <;> simp [hcons]

mutual

theorem Written.eraseKinds_value? : ∀ w : Written,
    (w.value? resolve).map Value.eraseKinds = w.value? nameless
  | .string text => by
    simp [Written.value?, Option.map_map, Function.comp_def, Value.eraseKinds]
  | .character _ => rfl
  | .integer text => by
    simp only [Written.value?, Option.map_some]
    cases integerValue? text.toList <;> rfl
  | .real text => by
    simp only [Written.value?, Option.map_some]
    cases realValue? text.toList <;> rfl
  | .truth _ => rfl
  | .null => rfl
  | .classLiteral _ => rfl
  | .name _ => rfl
  | .negation operand text => by
    have hoperand := operand.eraseKinds_value?
    simp only [Written.value?, Option.map_map, Function.comp_def, eraseKinds_negated, ← hoperand]
  | .array items => by
    have hitems := eraseKinds_writtenValues? items
    simp only [Written.value?, Option.map_map, Function.comp_def, Value.eraseKinds, ← hitems]
  | .nested ⟨_, arguments⟩ => by
    have harguments := eraseKinds_writtenArguments? arguments
    simp only [Written.value?, Option.map_map, Function.comp_def, Value.eraseKinds, ← harguments]
  | .expression _ => rfl

theorem eraseKinds_writtenValues? : ∀ ws : List Written,
    (writtenValues? resolve ws).map eraseKindsOfValues = writtenValues? nameless ws
  | [] => rfl
  | w :: ws => by
    have hw := w.eraseKinds_value?
    have hws := eraseKinds_writtenValues? ws
    rw [writtenValues?, writtenValues?, ← hw, ← hws]
    exact map_cons (fun _ _ => rfl) _ _

theorem eraseKinds_writtenArguments? : ∀ as : List (Argument Written),
    (writtenArguments? resolve as).map eraseKindsOfArguments = writtenArguments? nameless as
  | [] => rfl
  | ⟨name, w⟩ :: rest => by
    have hw := w.eraseKinds_value?
    have hrest := eraseKinds_writtenArguments? rest
    rw [writtenArguments?, writtenArguments?, ← hw, ← hrest]
    cases w.value? resolve <;> cases writtenArguments? resolve rest <;> rfl

end

private theorem eraseKinds_mapM {α β : Type} {d d' : α → Option β} {e : β → β}
    (h : ∀ a, (d a).map e = d' a) (l : List α) : (l.mapM d).map (·.map e) = l.mapM d' := by
  induction l with
  | nil => rfl
  | cons a l ih =>
    rw [List.mapM_cons, List.mapM_cons, ← h a, ← ih]
    exact map_cons (fun _ _ => rfl) _ _

theorem eraseKinds_annotationUse? (use : AnnotationOf Written) :
    (annotationUse? resolve use).map AnnotationOf.eraseKinds = annotationUse? nameless use := by
  simp only [annotationUse?, Option.map_map, Function.comp_def, AnnotationOf.eraseKinds,
    ← eraseKinds_writtenArguments? resolve use.arguments]

theorem WrittenMember.eraseKinds_members? (m : WrittenMember) :
    (m.members? resolve).map (·.map Member.eraseKinds) = m.members? nameless := by
  simp only [WrittenMember.members?, Option.map_map, Function.comp_def, List.map_map,
    Member.eraseKinds, ← eraseKinds_mapM (eraseKinds_annotationUse? resolve) m.annotations]

mutual

theorem WrittenType.eraseKinds_decls? : ∀ (enclosing : Option String) (w : WrittenType),
    (w.decls? resolve enclosing).map (·.map TypeDecl.eraseKinds) = w.decls? nameless enclosing
  | enclosing, .mk kind simple annotations members inner => by
    have huses := eraseKinds_mapM (eraseKinds_annotationUse? resolve) annotations
    have hmembers := eraseKinds_mapM (e := List.map Member.eraseKinds)
      (WrittenMember.eraseKinds_members? resolve) members
    have hinner := fun outer => eraseKinds_writtenDecls? outer inner
    unfold WrittenType.decls?
    dsimp only
    rw [← huses, ← hmembers, ← hinner]
    cases annotations.mapM (annotationUse? resolve) <;>
      cases members.mapM (WrittenMember.members? resolve) <;>
        cases writtenDecls? resolve _ inner <;>
          simp [TypeDecl.eraseKinds, List.map_flatten]

theorem eraseKinds_writtenDecls? : ∀ (outer : String) (ws : List WrittenType),
    (writtenDecls? resolve outer ws).map (·.map TypeDecl.eraseKinds) =
      writtenDecls? nameless outer ws
  | _, [] => rfl
  | outer, w :: ws => by
    have hw := w.eraseKinds_decls? (some outer)
    have hws := eraseKinds_writtenDecls? outer ws
    rw [writtenDecls?, writtenDecls?, ← hw, ← hws]
    cases w.decls? resolve (some outer) <;> cases writtenDecls? resolve outer ws <;> simp

end

/-- The unit of an outline without kinds does not depend on the known types; nor does whether there
is one. -/
theorem Outline.eraseKinds_unit? (outline : Outline) (known known' : String → Bool) :
    (outline.unit? known).map CompilationUnit.eraseKinds =
      (outline.unit? known').map CompilationUnit.eraseKinds := by
  have hsingle : ∀ resolve : String → String,
      ((outline.types.mapM (WrittenType.decls? resolve outline.scope.package)).map
          (·.map (·.map TypeDecl.eraseKinds))).map List.flatten =
        (outline.types.mapM (WrittenType.decls? nameless outline.scope.package)).map
          List.flatten := by
    intro resolve
    rw [eraseKinds_mapM (WrittenType.eraseKinds_decls? resolve _)]
  have hboth := (hsingle (outline.scope.resolve known)).trans
    (hsingle (outline.scope.resolve known')).symm
  have hunit := congrArg (Option.map (CompilationUnit.mk outline.scope.package)) hboth
  simpa only [Outline.unit?, Option.map_map, Function.comp_def, CompilationUnit.eraseKinds,
    List.map_flatten] using hunit

/-- A source text is accepted or rejected for the same reason whatever is known, and if it is
accepted, the unit differs in nothing but the kinds of annotations. -/
theorem CompilationUnit.eraseKinds_ofSource (source : String) (known known' : String → Bool) :
    (ofSource source known).map eraseKinds = (ofSource source known').map eraseKinds := by
  unfold ofSource
  cases Outline.ofSource? source.toList with
  | none => rfl
  | some outline =>
    have hunit := outline.eraseKinds_unit? known known'
    cases h : outline.unit? known <;> cases h' : outline.unit? known' <;> simp_all [Except.map]

end AnnotationIndex.Java
