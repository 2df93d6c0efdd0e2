import AnnotationIndex.Proofs.Index.Answers

/-!
# Styles of queries

A kind of annotation, a test on targets and a type are three ways to ask for targets. They agree:
each asks for a part of what is recorded, and the number of a target is counted before anything is
left out.
-/

namespace AnnotationIndex

open Java

theorem KeyMap.flatMap_entries_of_key {α β : Type} (m : KeyMap String α) {f : String → α → List β}
    {key : String} (h : ∀ k v, k ≠ key → f k v = []) :
    (m.entries.flatMap fun e => f e.1 e.2) = (m.get? key).elim [] (f key) := by
  have hsorted := m.sorted
  rw [KeyMap.get?]
  generalize m.entries = entries at hsorted
  induction entries with
  | nil => rfl
  | cons first rest ih =>
    rw [List.pairwise_cons] at hsorted
    rw [List.flatMap_cons, List.lookup_cons]
    by_cases hkey : first.1 = key
    · have hrest : (rest.flatMap fun e => f e.1 e.2) = [] := by
        rw [List.flatMap_eq_nil_iff]
        intro e he
        apply h
        rintro rfl
        have hlt := hsorted.1 e he
        rw [hkey] at hlt
        exact String.lt_irrefl _ hlt
      simp [hkey, hrest]
    · have hne : (key == first.1) = false := by
        rw [beq_eq_false_iff_ne]
        exact Ne.symm hkey
      rw [h _ _ hkey, ih hsorted.2, hne]
      rfl

namespace TypeView

/-- The annotations on the members of one kind, by their names. -/
def members (v : TypeView) : MemberKind → KeyMap String (List AnnotationUse)
  | .method => v.methods
  | .property => v.properties

end TypeView

namespace Catalog

variable {c : Catalog}

theorem classAnnotation_kind {kind : String} {target : ClassTarget} {n : Nat}
    {use : AnnotationUse} (h : c.classAnnotation kind target n = .ok use) : use.kind = kind := by
  unfold classAnnotation at h
  split at h
  · cases h
    rfl
  · split at h
    · cases h
    · split at h
      · rename_i hnth
        cases h
        simpa using (List.mem_filter.1 (List.mem_of_getElem? hnth)).2
      · cases h

theorem memberAnnotation_kind {memberKind : MemberKind} {kind : String} {target : MemberTarget}
    {n : Nat} {use : AnnotationUse} (h : c.memberAnnotation memberKind kind target n = .ok use) :
    use.kind = kind := by
  unfold memberAnnotation at h
  split at h
  · cases h
    rfl
  · split at h
    · cases h
    · split at h
      · cases h
      · split at h
        · rename_i hnth
          cases h
          simpa using (List.mem_filter.1 (List.mem_of_getElem? hnth)).2
        · cases h

private theorem of_map_ok {α β : Type} {e : Except LoadError α} {f : α → β} {b : β}
    (h : e.map f = .ok b) : ∃ a, e = .ok a ∧ b = f a := by
  cases e with
  | error e => cases h
  | ok a =>
    cases h
    exact ⟨a, rfl, rfl⟩

theorem selects_classes {wanted wanted' : String → Bool} {kind : String} {targets : Targets}
    {q : TargetClass → Bool} (himp : ∀ t, wanted' t = true → wanted t = true)
    (hq : ∀ t use, use.kind = kind → wanted t = true → q ⟨t, use⟩ = wanted' t) :
    Selects (Option.guard q) (c.classRequests wanted kind targets)
      (c.classRequests wanted' kind targets) := by
  apply Selects.narrow
  · exact fun p => himp p.1.typeName
  · intro p hp a ha
    obtain ⟨use, huse, rfl⟩ := of_map_ok ha
    exact hq _ use (classAnnotation_kind huse) hp

theorem selects_members {memberKind : MemberKind} {wanted wanted' : String → String → Bool}
    {kind : String} {targets : Targets} {q : TargetMember → Bool}
    (himp : ∀ t m, wanted' t m = true → wanted t m = true)
    (hq : ∀ t m use, use.kind = kind → wanted t m = true → q ⟨t, m, use⟩ = wanted' t m) :
    Selects (Option.guard q) (c.memberRequests memberKind wanted kind targets)
      (c.memberRequests memberKind wanted' kind targets) := by
  apply Selects.narrow
  · exact fun p => himp p.1.typeName p.1.member
  · intro p hp a ha
    obtain ⟨use, huse, rfl⟩ := of_map_ok ha
    exact hq _ _ use (memberAnnotation_kind huse) hp

theorem classRequests_false (kind : String) (targets : Targets) :
    c.classRequests (fun _ => false) kind targets = [] := by
  simp [classRequests]

theorem memberRequests_false (memberKind : MemberKind) (kind : String) (targets : Targets) :
    c.memberRequests memberKind (fun _ _ => false) kind targets = [] := by
  simp [memberRequests]

theorem filterClasses_kind (c : Catalog) (kind : String) :
    c.filterClasses (fun k _ => k = kind) = c.findClasses kind := by
  have hother : ∀ k targets, k ≠ kind → c.classRequests (fun _ => k = kind) k targets = [] := by
    intro k targets hk
    simp only [hk, decide_false, classRequests_false]
  rw [findClasses_eq, filterClasses, KeyMap.flatMap_entries_of_key _ hother]
  simp

theorem filterMembers_kind (c : Catalog) (memberKind : MemberKind) (kind : String) :
    c.filterMembers memberKind (fun k _ _ => k = kind) = c.findMembers memberKind kind := by
  have hother : ∀ k targets, k ≠ kind →
      c.memberRequests memberKind (fun _ _ => k = kind) k targets = [] := by
    intro k targets hk
    simp only [hk, decide_false, memberRequests_false]
  rw [findMembers_eq, filterMembers, KeyMap.flatMap_entries_of_key _ hother]
  simp

theorem selects_filterClasses (c : Catalog) (wanted : String → String → Bool) :
    Selects (Option.guard fun t : TargetClass => wanted t.annotation.kind t.typeName)
      (c.filterClasses fun _ _ => true) (c.filterClasses wanted) := by
  apply Selects.flatMap
  rintro ⟨kind, targets⟩ -
  apply selects_classes
  · exact fun _ _ => rfl
  · rintro t use rfl -
    rfl

theorem selects_filterMembers (c : Catalog) (memberKind : MemberKind)
    (wanted : String → String → String → Bool) :
    Selects (Option.guard fun t : TargetMember => wanted t.annotation.kind t.typeName t.member)
      (c.filterMembers memberKind fun _ _ _ => true) (c.filterMembers memberKind wanted) := by
  apply Selects.flatMap
  rintro ⟨kind, targets⟩ -
  apply selects_members
  · exact fun _ _ _ => rfl
  · rintro t m use rfl -
    rfl

theorem selects_member (c : Catalog) (memberKind : MemberKind) (typeName member : String) :
    Selects (Option.guard fun t : TargetMember => t.member = member)
      (c.filterMembers memberKind fun _ t _ => t = typeName)
      (c.filterMembers memberKind fun _ t m => t = typeName && m = member) := by
  apply Selects.flatMap
  rintro ⟨kind, targets⟩ -
  apply selects_members
  · intro t m h
    exact (Bool.and_eq_true_iff.1 h).1
  · intro t m use _ ht
    simp only [ht, Bool.true_and]

namespace ViewItem

def class? : ViewItem → Option TargetClass
  | .onClass target => some target
  | .onMember _ _ => none

def member? (kind : MemberKind) : ViewItem → Option TargetMember
  | .onClass _ => none
  | .onMember kind' target => if kind' = kind then some target else none

end ViewItem

private abbrev onMembers (c : Catalog) (typeName kind : String) (targets : Targets)
    (memberKind : MemberKind) : List (Request ViewItem) :=
  (c.memberRequests memberKind (fun t _ => t = typeName) kind targets).map
    (Request.map (.onMember memberKind))

theorem selects_classes_of_type (c : Catalog) (typeName : String) :
    Selects ViewItem.class? (c.typeRequests typeName)
      (c.filterClasses fun _ t => t = typeName) := by
  apply Selects.flatMap
  rintro ⟨kind, targets⟩ -
  have hclasses : Selects ViewItem.class?
      ((c.classRequests (· = typeName) kind targets).map (Request.map .onClass))
      (c.classRequests (· = typeName) kind targets) :=
    Selects.unmark (f := ViewItem.onClass) (fun _ => rfl) _
  have hmembers : Selects ViewItem.class?
      ([MemberKind.method, .property].flatMap (c.onMembers typeName kind targets))
      ([MemberKind.method, .property].flatMap fun _ => []) :=
    Selects.flatMap fun memberKind _ => Selects.other (fun _ => rfl) _
  simpa using hclasses.append hmembers

theorem selects_members_of_type (c : Catalog) (memberKind : MemberKind) (typeName : String) :
    Selects (ViewItem.member? memberKind) (c.typeRequests typeName)
      (c.filterMembers memberKind fun _ t _ => t = typeName) := by
  apply Selects.flatMap
  rintro ⟨kind, targets⟩ -
  have hclasses : Selects (ViewItem.member? memberKind)
      ((c.classRequests (· = typeName) kind targets).map (Request.map .onClass)) [] :=
    Selects.other (fun _ => rfl) _
  have hmembers : Selects (ViewItem.member? memberKind)
      ([MemberKind.method, .property].flatMap (c.onMembers typeName kind targets))
      ([MemberKind.method, .property].flatMap fun other => if other = memberKind then
        c.memberRequests memberKind (fun t _ => t = typeName) kind targets else []) := by
    apply Selects.flatMap
    intro other _
    by_cases hkind : other = memberKind
    · subst hkind
      rw [if_pos rfl]
      exact Selects.unmark (fun _ => by simp [ViewItem.member?]) _
    · rw [if_neg hkind]
      exact Selects.other (fun _ => by simp [ViewItem.member?, hkind]) _
  cases memberKind <;> simpa using hclasses.append hmembers

theorem classes_ofItems (items : List ViewItem) :
    (TypeView.ofItems items).classes = (items.filterMap ViewItem.class?).map TargetClass.annotation := by
  have hall : ∀ v : TypeView, (items.foldl TypeView.add v).classes =
      v.classes ++ (items.filterMap ViewItem.class?).map TargetClass.annotation := by
    induction items with
    | nil => simp
    | cons item items ih =>
      intro v
      rw [List.foldl_cons, ih]
      cases item with
      | onClass target => simp [TypeView.add, ViewItem.class?]
      | onMember kind target =>
        cases kind <;> simp [TypeView.add, ViewItem.class?, List.filterMap_cons]
  exact hall .empty

theorem members_ofItems (items : List ViewItem) (memberKind : MemberKind) (member : String) :
    ((TypeView.ofItems items).members memberKind).get? member =
      let found := (items.filterMap (ViewItem.member? memberKind)).filter (·.member = member)
      if found = [] then none else some (found.map TargetMember.annotation) := by
  have hadd : ∀ (v : TypeView) (kind : MemberKind) (target : TargetMember),
      (v.add (.onMember kind target)).members kind = (v.members kind).alter target.member
        fun uses => uses.getD [] ++ [target.annotation] := by
    intro v kind target
    cases kind <;> rfl
  have hkeep : ∀ (v : TypeView) (item : ViewItem), item.member? memberKind = none →
      (v.add item).members memberKind = v.members memberKind := by
    intro v item hnone
    cases item with
    | onClass target => cases memberKind <;> rfl
    | onMember kind target =>
      cases kind <;> cases memberKind <;> first | rfl | simp [ViewItem.member?] at hnone
  have hall : ∀ v : TypeView, ((items.foldl TypeView.add v).members memberKind).get? member =
      let found := (items.filterMap (ViewItem.member? memberKind)).filter (·.member = member)
      if found = [] then (v.members memberKind).get? member
      else some (((v.members memberKind).get? member).getD [] ++ found.map TargetMember.annotation) := by
    induction items with
    | nil => simp
    | cons item items ih =>
      intro v
      rw [List.foldl_cons, ih, List.filterMap_cons]
      cases hpick : item.member? memberKind with
      | none => rw [hkeep v item hpick]
      | some target =>
        have hitem : item = .onMember memberKind target := by
          cases item with
          | onClass _ => cases hpick
          | onMember kind _ =>
            simp only [ViewItem.member?] at hpick
            split at hpick
            · rename_i hkind
              cases hpick
              rw [hkind]
            · cases hpick
        rw [hitem, hadd, KeyMap.get?_alter]
        by_cases hname : target.member = member
        · subst hname
          by_cases hmore : (items.filterMap (ViewItem.member? memberKind)).filter
              (fun t => t.member = target.member) = []
          · simp [hmore]
          · simp [hmore]
        · have hother : ∀ rest : List TargetMember, (target :: rest).filter
              (fun t => t.member = member) = rest.filter fun t => t.member = member :=
            fun rest => List.filter_cons_of_neg (by simpa using hname)
          simp only [hother, if_neg (Ne.symm hname)]
  have hempty : ((TypeView.empty).members memberKind).get? member = none := by
    cases memberKind <;> rfl
  rw [TypeView.ofItems, hall, hempty]
  simp

/-- The styles of queries agree. The targets of a kind are those that a test on the kind finds, with
the same first error. If all targets are found, those that a test holds for are found by that test,
in order. The view of a type holds the annotations of its class targets, and for each member the
annotations of its member targets, with no entry for a member without targets. -/
theorem styles_agree (c : Catalog) :
    ((∀ kind, answers (c.findClasses kind) = answers (c.filterClasses fun k _ => k = kind)) ∧
      ∀ memberKind kind, answers (c.findMembers memberKind kind) =
        answers (c.filterMembers memberKind fun k _ _ => k = kind)) ∧
    ((∀ found, answers (c.filterClasses fun _ _ => true) = .ok found →
        ∀ wanted : String → String → Bool, answers (c.filterClasses wanted) =
          .ok (found.filter fun t => wanted t.annotation.kind t.typeName)) ∧
      ∀ memberKind found, answers (c.filterMembers memberKind fun _ _ _ => true) = .ok found →
        ∀ wanted : String → String → String → Bool, answers (c.filterMembers memberKind wanted) =
          .ok (found.filter fun t => wanted t.annotation.kind t.typeName t.member)) ∧
    ∀ typeName view, c.view typeName = .ok view →
      (∃ found, answers (c.filterClasses fun _ t => t = typeName) = .ok found ∧
        view.classes = found.map TargetClass.annotation) ∧
      ∀ memberKind member, ∃ found,
        answers (c.filterMembers memberKind fun _ t m => t = typeName && m = member) = .ok found ∧
        (view.members memberKind).get? member =
          if found = [] then none else some (found.map TargetMember.annotation) := by
  refine ⟨⟨?_, ?_⟩, ⟨?_, ?_⟩, ?_⟩
  · exact fun kind => by rw [filterClasses_kind]
  · exact fun memberKind kind => by rw [filterMembers_kind]
  · intro found hfound wanted
    rw [selects_filterClasses c wanted found hfound, List.filterMap_eq_filter]
  · intro memberKind found hfound wanted
    rw [selects_filterMembers c memberKind wanted found hfound, List.filterMap_eq_filter]
  · intro typeName view hview
    obtain ⟨items, hitems, rfl⟩ := of_map_ok hview
    refine ⟨⟨_, selects_classes_of_type c typeName items hitems, classes_ofItems items⟩, ?_⟩
    intro memberKind member
    have hmembers := selects_members_of_type c memberKind typeName items hitems
    have hmember := selects_member c memberKind typeName member _ hmembers
    rw [List.filterMap_eq_filter] at hmember
    exact ⟨_, hmember, members_ofItems items memberKind member⟩

/-- A target on a class and three on its methods, two of them on methods of one name. -/
def onOverloaded : Catalog where
  artifact :=
    { version := formatVersion
      argumentsCaptured := false
      types := .empty
      annotations := ⟨[("p.K", ⟨[⟨"p.A", []⟩],
        [⟨"p.A", "m", []⟩, ⟨"p.A", "n", []⟩, ⟨"p.A", "m", []⟩], []⟩)], by simp⟩
      knownTypes := KeyMap.empty }
  load _ := .ok overloaded

/-- The annotations of the overloaded method are numbered whether or not the other method is asked
for. -/
theorem styles_agree_overloaded :
    let use (n : Int64) : AnnotationUse := ⟨"p.K", [⟨none, .integer n⟩]⟩
    let classes : List TargetClass := [⟨"p.A", use 0⟩]
    let methods : List TargetMember := [⟨"p.A", "m", use 1⟩, ⟨"p.A", "n", use 3⟩, ⟨"p.A", "m", use 2⟩]
    answers (onOverloaded.filterClasses fun _ _ => true) = .ok classes ∧
      answers (onOverloaded.filterClasses fun k _ => k = "p.K") =
        .ok (classes.filter fun t => t.annotation.kind = "p.K") ∧
      answers (onOverloaded.filterMembers .method fun _ _ _ => true) = .ok methods ∧
      answers (onOverloaded.filterMembers .method fun _ _ m => m = "m") =
        .ok (methods.filter fun t => t.member = "m") ∧
      ∃ view, onOverloaded.view "p.A" = .ok view ∧ ∃ found,
        answers (onOverloaded.filterMembers .method fun _ t m => t = "p.A" && m = "m") = .ok found ∧
          (view.members .method).get? "m" =
            if found = [] then none else some (found.map TargetMember.annotation) := by
  obtain ⟨-, ⟨hclasses, hmembers⟩, hview⟩ := styles_agree onOverloaded
  exact ⟨rfl, hclasses _ rfl fun k _ => k = "p.K", rfl, hmembers .method _ rfl fun _ _ m => m = "m",
    _, rfl, (hview "p.A" _ rfl).2 .method "m"⟩

end Catalog

end AnnotationIndex
