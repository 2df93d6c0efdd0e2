import AnnotationIndex.Index.ClassMap
import AnnotationIndex.Java.Unit

/-!
# What the names in a file depend on

Whether a type is known is asked only for names in the package of a file and in its on-demand
imports, so nothing else that is known changes its compilation unit.
-/

namespace AnnotationIndex.Java

open Text

/-- The package of the file, empty for the default package, and its on-demand imports. -/
def Scope.packages (scope : Scope) : List String := scope.package.getD "" :: scope.onDemand

private theorem takeWhile_of_absent {sep : Char} {s : List Char} (h : sep ∉ s) :
    s.takeWhile (· != sep) = s := by
  induction s with
  | nil => rfl
  | cons c s ih =>
    have hc : c ≠ sep := fun heq => h (by simp [heq])
    have hs : sep ∉ s := fun hmem => h (by simp [hmem])
    simp [hc, ih hs]

private theorem absent_of_splitFirst? {sep : Char} {s : List Char}
    (h : splitFirst? sep s = none) : sep ∉ s := by
  induction s with
  | nil => simp
  | cons c s ih =>
    by_cases hc : c = sep
    · simp [splitFirst?, hc] at h
    · have hdrop : (c :: s).dropWhile (· != sep) = s.dropWhile (· != sep) := by simp [hc]
      have hs : splitFirst? sep s = none := by
        unfold splitFirst? at h ⊢
        rw [hdrop] at h
        cases hrest : s.dropWhile (· != sep) with
        | nil => rfl
        | cons d rest => simp [hrest] at h
      have hmem := ih hs
      simp [hmem, Ne.symm hc]

private theorem splitLast?_of_absent {sep : Char} {s : List Char} (h : sep ∉ s) :
    splitLast? sep s = none := by
  have hreverse : sep ∉ s.reverse := by simpa using h
  have hdrop : s.reverse.drop s.reverse.length = [] := List.drop_length
  simp only [splitLast?, takeWhile_of_absent hreverse, hdrop]

private theorem splitLast?_append {sep : Char} {tail : List Char} (h : sep ∉ tail)
    (front : List Char) : splitLast? sep (front ++ sep :: tail) = some (front, tail) := by
  have hreverse : sep ∉ tail.reverse := by simpa using h
  have htake : (tail.reverse ++ sep :: front.reverse).takeWhile (· != sep) = tail.reverse := by
    rw [List.takeWhile_append_of_pos]
    · simp
    · intro c hc
      simp only [bne_iff_ne, ne_eq]
      rintro rfl
      exact hreverse hc
  have hsplit : (front ++ sep :: tail).reverse = tail.reverse ++ sep :: front.reverse := by simp
  simp only [splitLast?, hsplit, htake, List.drop_left]
  simp

theorem packageOf_simple {name : String} (h : '.' ∉ name.toList) : packageOf name = "" := by
  rw [packageOf, splitLast?_of_absent h]

theorem packageOf_qualified {name : String} (h : '.' ∉ name.toList) (package : String) :
    packageOf (package ++ "." ++ name) = package := by
  have hsplit : (package ++ "." ++ name).toList = package.toList ++ '.' :: name.toList := by simp
  rw [packageOf, hsplit, splitLast?_append h]
  simp

theorem Scope.packageOf_local {name : String} (h : '.' ∉ name.toList) (scope : Scope) :
    packageOf (scope.local_ name) = scope.package.getD "" := by
  unfold Scope.local_
  cases scope.package with
  | none => exact packageOf_simple h
  | some package => exact packageOf_qualified h package

/-- Two answers to what is known agree on the names that the scope can give to a simple name. -/
def Scope.Agree (scope : Scope) (known known' : String → Bool) : Prop :=
  ∀ name, packageOf name ∈ scope.packages → known name = known' name

variable {scope : Scope} {known known' : String → Bool}

theorem Scope.provided?_congr (h : scope.Agree known known') {name : String}
    (hname : '.' ∉ name.toList) : scope.provided? known name = scope.provided? known' name := by
  have hpackage : ∀ p ∈ scope.onDemand, known (p ++ "." ++ name) = known' (p ++ "." ++ name) := by
    intro p hp
    apply h
    rw [packageOf_qualified hname]
    exact List.mem_cons_of_mem _ hp
  unfold Scope.provided?
  generalize scope.onDemand = packages at hpackage
  induction packages with
  | nil => rfl
  | cons p packages ih =>
    have hp := hpackage p List.mem_cons_self
    have hrest := ih fun q hq => hpackage q (List.mem_cons_of_mem p hq)
    rw [List.map_cons, List.findSome?_cons, List.findSome?_cons, hrest]
    simp only [hp]

theorem Scope.lookup?_congr (h : scope.Agree known known') (name : String) :
    scope.lookup? known name = scope.lookup? known' name := by
  unfold Scope.lookup?
  cases hsplit : splitFirst? '.' name.toList with
  | some parts => rfl
  | none =>
    have hname := absent_of_splitFirst? hsplit
    have hlocal : known (scope.local_ name) = known' (scope.local_ name) := by
      apply h
      rw [Scope.packageOf_local hname]
      exact List.mem_cons_self
    simp only [hlocal, Scope.provided?_congr h hname]

theorem Scope.resolve_congr (h : scope.Agree known known') :
    scope.resolve known = scope.resolve known' := by
  funext written
  rw [Scope.resolve, Scope.resolve, Scope.lookup?_congr h]

theorem Outline.unit?_congr {outline : Outline} (h : outline.scope.Agree known known') :
    outline.unit? known = outline.unit? known' := by
  rw [Outline.unit?, Outline.unit?, Scope.resolve_congr h]

end AnnotationIndex.Java
