import AnnotationIndex.Proofs.Java.HeaderNames
import AnnotationIndex.Proofs.Java.Readers

/-!
# The types that a file declares

A file has an optional package declaration, imports and items. An item is a declared type with items
of its own, a block whose content does not matter, or a run of marks that declare nothing. The scan
reports the package, the imports on demand and, for every type, the path to it, each type before the
types inside it.
-/

namespace AnnotationIndex.Java.Header

open Syntax (depthStep depthAfter depthAfter_append depthAfter_shift isEnclosed dotAfter)

inductive Item where
  /-- A declared type: its keyword, its name, the marks up to its body, and the items inside. -/
  | type (keyword name : String) (head : List Mark) (items : List Item)
  /-- A pair of braces that belongs to no type. -/
  | block (content : List Mark)
  | filler (run : List Mark)

mutual

def Item.marks : Item → List Mark
  | .type keyword name head items =>
    .word keyword :: .word name :: (head ++ .openBrace :: (marksOfItems items ++ [.closeBrace]))
  | .block content => .openBrace :: (content ++ [.closeBrace])
  | .filler run => run

def marksOfItems : List Item → List Mark
  | [] => []
  | item :: items => item.marks ++ marksOfItems items

end

/-- The path to a type inside the types of an outer path. -/
def pathIn (outer : Option String) (name : String) : String :=
  match outer with
  | some outer => outer ++ "." ++ name
  | none => name

mutual

/-- The paths to the types that an item declares, each before those inside it. -/
def Item.types (outer : Option String) : Item → List String
  | .type _ name _ items => pathIn outer name :: typesOfItems (some (pathIn outer name)) items
  | .block _ => []
  | .filler _ => []

def typesOfItems (outer : Option String) : List Item → List String
  | [] => []
  | item :: items => item.types outer ++ typesOfItems outer items

end

def isMatched (a : List Mark) : Bool := depthAfter (0, 0) a = some (0, 0)

/-- Matched marks with braces in round brackets only, which hold no keyword that the scan outside
all brackets would follow. -/
def isRun (a : List Mark) : Bool :=
  isMatched a && isEnclosed 0 a && !misleads true [] (0, 0) false a

/-- Runs of filler are maximal, and no keyword of a type follows a dot. -/
def Item.permits : Item → Item → Bool
  | .filler _, .filler _ => false
  | .filler run, .type .. => !dotAfter false run
  | _, _ => true

mutual

def Item.isProper : Item → Bool
  | .type keyword name head items =>
    isTypeKeyword keyword && isTypeName name && isRun head && areProper items
  | .block content => isMatched content
  | .filler run => isRun run

def areProper : List Item → Bool
  | [] => true
  | item :: items => item.isProper && items.head?.all item.permits && areProper items

end

theorem typeName?_append {a next : List Mark} (h : typeName? next = none) :
    typeName? (a ++ next) = typeName? (a ++ []) := by
  cases a with
  | nil => exact h
  | cons m a => cases m <;> rfl

/-- What follows matters only if it is a name. -/
theorem misleads_next {next : List Mark} (h : typeName? next = none) {file : Bool}
    {d : Nat × Nat} {afterDot : Bool} {a : List Mark} :
    misleads file next d afterDot a = misleads file [] d afterDot a := by
  induction a generalizing d afterDot with
  | nil => rfl
  | cons m a ih =>
    have htaken : isTaken file afterDot m (a ++ next) = isTaken file afterDot m (a ++ []) := by
      cases m <;> simp only [isTaken, typeName?_append h]
    rw [misleads, misleads, ih, htaken]

theorem misleads_inside {file : Bool} {next : List Mark} {d e : Nat × Nat} {afterDot : Bool}
    {a : List Mark} (h : depthAfter d a = some e) :
    misleads file next (d.1, d.2 + 1) afterDot a = false := by
  induction a generalizing d afterDot with
  | nil => rfl
  | cons m a ih =>
    obtain ⟨f, hstep, hrest⟩ := Option.bind_eq_some_iff.1 h
    have hshift := Syntax.depthStep_shift hstep 0 1
    simp only [Nat.add_zero] at hshift
    rw [misleads, hshift, Option.getD_some, ih hrest]
    simp

theorem dotAfter_append (afterDot : Bool) (a b : List Mark) :
    dotAfter afterDot (a ++ b) = dotAfter (dotAfter afterDot a) b := List.foldl_append

theorem scan_run {s : State} {frames : List Frame} {afterDot : Bool} {a rest : List Mark}
    (ha : isRun a = true) (hnext : typeName? rest = none) :
    scan (within s frames (0, 0) afterDot) (a ++ rest) =
      scan (within s frames (0, 0) (dotAfter afterDot a)) rest := by
  simp only [isRun, isMatched, Bool.and_eq_true, decide_eq_true_eq, Bool.not_eq_true'] at ha
  obtain ⟨⟨hdepth, henclosed⟩, hclear⟩ := ha
  refine scan_quiet hdepth ?_ (.inl rfl) (.inr henclosed)
  rw [misleads_next hnext]
  exact misleads_mono hclear afterDot

theorem scan_brace {s : State} {frames : List Frame} {d e : Nat × Nat} {afterDot : Bool}
    {m : Mark} {rest : List Mark} (hm : m = .openBrace ∨ m = .closeBrace)
    (hstep : depthStep d m = some e) (hpending : s.pending = none) :
    scan (within s frames d afterDot) (m :: rest) = scan (within s frames e false) rest := by
  have hskip := @within_skip s frames d e afterDot m hstep fun _ => .inl hpending
  rcases hm with rfl | rfl <;> rw [scan.eq_3, hskip] <;> simp

/-- A block leaves nothing behind, not even the dot before it. -/
theorem scan_block {s : State} (hready : IsReady s) {afterDot : Bool} {content rest : List Mark}
    (hcontent : isMatched content = true) :
    scan (within s s.frames (0, 0) afterDot) (.openBrace :: (content ++ .closeBrace :: rest)) =
      scan (within s s.frames (0, 0) false) rest := by
  have hdepth : depthAfter (0, 0) content = some (0, 0) := by simpa [isMatched] using hcontent
  have hinside : depthAfter (0, 1) content = some (0, 1) := depthAfter_shift hdepth 0 1
  have hclear : misleads true (.closeBrace :: rest) (0, 1) false content = false :=
    misleads_inside hdepth
  rw [scan_brace (.inl rfl) (e := (0, 1)) rfl hready.pending,
    scan_quiet hinside hclear (.inl rfl) (.inl hready.pending),
    scan_brace (.inr rfl) (e := (0, 0)) rfl hready.pending]

theorem nested_pathIn {s : State} (hready : IsReady s) (name : String) :
    s.nested name = pathIn (outerOf s.frames) name :=
  Syntax.nested_eq s hready name

theorem typeName?_item {item : Item} (h : item.isProper = true)
    (hfiller : ∀ run, item ≠ .filler run) (rest : List Mark) :
    typeName? (item.marks ++ rest) = none := by
  cases item with
  | type keyword name head items =>
    have hkeyword : isTypeKeyword keyword = true := by
      simp only [Item.isProper, Bool.and_eq_true] at h
      exact h.1.1.1
    simp [Item.marks, typeName?, isTypeName, hkeyword]
  | block content => rfl
  | filler run => exact absurd rfl (hfiller run)

theorem typeName?_items {run : List Mark} {items : List Item} {rest : List Mark}
    (hitems : areProper items = true) (hpermits : items.head?.all (Item.filler run).permits = true)
    (hrest : typeName? rest = none) : typeName? (marksOfItems items ++ rest) = none := by
  cases items with
  | nil => exact hrest
  | cons item items =>
    simp only [areProper, Bool.and_eq_true] at hitems
    rw [marksOfItems, List.append_assoc]
    refine typeName?_item hitems.1.1 ?_ _
    rintro run' rfl
    simp [Item.permits] at hpermits

/-- After a dot only a block may follow. -/
def Continues (afterDot : Bool) (items : List Item) : Prop :=
  afterDot = true → ∀ item ∈ items.head?, ∃ content, item = .block content

theorem continues_next {item : Item} {items : List Item} {afterDot : Bool}
    (h : Continues afterDot (item :: items)) (hpermits : items.head?.all item.permits = true) :
    Continues (dotAfter afterDot item.marks) items := by
  intro hdot next hnext
  have hpermitted : item.permits next = true := by
    rw [Option.mem_def.1 hnext] at hpermits
    exact hpermits
  cases item with
  | type keyword name head inner =>
    simp [Item.marks, dotAfter] at hdot
  | block content => simp [Item.marks, dotAfter] at hdot
  | filler run =>
    have hstart : afterDot = false := by
      rw [Bool.eq_false_iff]
      intro hafter
      obtain ⟨content, hcontent⟩ := h hafter _ rfl
      cases hcontent
    cases next with
    | type keyword name head inner =>
      simp only [Item.permits, Bool.not_eq_true'] at hpermitted
      rw [hstart, Item.marks, hpermitted] at hdot
      cases hdot
    | block content => exact ⟨content, rfl⟩
    | filler run' => cases hpermitted

mutual

/-- The scan finds the types of an item where no dot comes before a declaration. -/
theorem scan_item : ∀ (item : Item) (s : State) (afterDot : Bool) (rest : List Mark),
    IsReady s → item.isProper = true → Continues afterDot [item] →
    (∀ run, item = .filler run → typeName? rest = none) →
    scan (within s s.frames (0, 0) afterDot) (item.marks ++ rest) =
      scan (within (s.found (item.types (outerOf s.frames))) s.frames (0, 0)
        (dotAfter afterDot item.marks)) rest
  | .type keyword name head items, s, afterDot, rest, hready, hproper, hdot, _ => by
    simp only [Item.isProper, Bool.and_eq_true] at hproper
    obtain ⟨⟨⟨hkeyword, hname⟩, hhead⟩, hitems⟩ := hproper
    have hstart : afterDot = false := by
      rw [Bool.eq_false_iff]
      intro hafter
      obtain ⟨content, hcontent⟩ := hdot hafter _ rfl
      cases hcontent
    have hinner := scan_items items (s.inside name) false (.closeBrace :: rest)
      (hready.inside name) hitems (fun h => absurd h Bool.false_ne_true) rfl
    rw [(hready.inside name).within] at hinner
    have hend : dotAfter afterDot (Item.type keyword name head items).marks = false := by
      simp [Item.marks, dotAfter]
    have htypes : (Item.type keyword name head items).types (outerOf s.frames) =
        s.nested name :: typesOfItems (some (s.nested name)) items := by
      rw [Item.types, nested_pathIn hready]
    rw [hend, htypes]
    rw [hstart, hready.within, Item.marks, List.cons_append, List.cons_append,
      scan_keyword hready hkeyword hname, List.append_assoc, ← within_typeDecl hready,
      List.cons_append, scan_run hhead rfl, scan_opening hready, List.append_assoc,
      List.singleton_append, hinner, scan_closing hready]
    exact congrArg (scan · rest) (hready.found _).within.symm
  | .block content, s, afterDot, rest, hready, hproper, _, _ => by
    have hend : dotAfter afterDot (Item.block content).marks = false := by
      simp [Item.marks, dotAfter]
    rw [hend, Item.marks, List.cons_append, List.append_assoc, List.singleton_append,
      scan_block hready hproper]
    rfl
  | .filler run, s, afterDot, rest, _, hproper, _, hnext => scan_run hproper (hnext run rfl)

theorem scan_items : ∀ (items : List Item) (s : State) (afterDot : Bool) (rest : List Mark),
    IsReady s → areProper items = true → Continues afterDot items → typeName? rest = none →
    scan (within s s.frames (0, 0) afterDot) (marksOfItems items ++ rest) =
      scan (within (s.found (typesOfItems (outerOf s.frames) items)) s.frames (0, 0)
        (dotAfter afterDot (marksOfItems items))) rest
  | [], s, afterDot, rest, _, _, _, _ => rfl
  | item :: items, s, afterDot, rest, hready, hproper, hdot, hrest => by
    simp only [areProper, Bool.and_eq_true] at hproper
    obtain ⟨⟨hitem, hpermits⟩, hitems⟩ := hproper
    have hfirst := scan_item item s afterDot (marksOfItems items ++ rest) hready hitem
      (fun h => hdot h) fun run hrun => typeName?_items hitems (hrun ▸ hpermits) hrest
    have hmore := scan_items items (s.found (item.types (outerOf s.frames)))
      (dotAfter afterDot item.marks) rest (hready.found _) hitems (continues_next hdot hpermits) hrest
    rw [marksOfItems, List.append_assoc, hfirst, typesOfItems, ← State.found_found, dotAfter_append]
    exact hmore

end

def pathMarks (path : List String) : List Mark := (path.map Mark.word).intersperse .dot

def pathText (path : List String) : String := ".".intercalate path

structure Import where
  isStatic : Bool
  path : List String
  isOnDemand : Bool

def Import.tail (i : Import) : List Mark :=
  (if i.isStatic then [.word "static"] else []) ++
    (pathMarks i.path ++ if i.isOnDemand then [.dot, .star] else [])

def Import.marks (i : Import) : List Mark := .word "import" :: (i.tail ++ [.other])

def Import.provided? (i : Import) : Option String :=
  if i.isOnDemand && !i.isStatic then some (pathText i.path) else none

/-- The first word of a path after `import` is not the one that marks a static import. -/
def Import.isProper (i : Import) : Bool :=
  !i.path.isEmpty && (i.isStatic || i.path.head? ≠ some "static")

/-- A source file: a package, imports and items. -/
structure File where
  package : Option (List String)
  imports : List Import
  items : List Item

namespace File

def packageMarks : Option (List String) → List Mark
  | some path => .word "package" :: (pathMarks path ++ [.other])
  | none => []

def marks (f : File) : List Mark :=
  packageMarks f.package ++ (f.imports.flatMap Import.marks ++ marksOfItems f.items)

def isProper (f : File) : Bool :=
  f.package.all (!·.isEmpty) && f.imports.all Import.isProper && areProper f.items

/-- What the file declares. -/
def header (f : File) : Header where
  package := f.package.map pathText
  onDemand := f.imports.filterMap Import.provided?
  types := (typesOfItems none f.items).map (pathIn (f.package.map pathText))

end File

theorem pathMarks_cons (word next : String) (path : List String) :
    pathMarks (word :: next :: path) = .word word :: .dot :: pathMarks (next :: path) := by
  simp [pathMarks]

theorem pathText_cons (word next : String) (path : List String) :
    pathText (word :: next :: path) = word ++ ("." ++ pathText (next :: path)) := by
  rw [pathText, String.intercalate_cons_cons, String.append_assoc]
  rfl

theorem dottedName_pathMarks {path : List String} (h : path ≠ []) (rest : List Mark) :
    dottedName (pathMarks path ++ rest) =
      (pathText path ++ (dottedName rest).1, (dottedName rest).2) := by
  induction path with
  | nil => exact absurd rfl h
  | cons word path ih =>
    cases path with
    | nil => simp [pathMarks, pathText, dottedName]
    | cons next path =>
      rw [pathMarks_cons, List.cons_append, List.cons_append, dottedName, dottedName,
        ih (List.cons_ne_nil next path), pathText_cons]
      simp only [String.append_assoc]

theorem pathText_ne {path : List String} (h : path ≠ []) (hwords : ∀ w ∈ path, w ≠ "") :
    pathText path ≠ "" := by
  cases path with
  | nil => exact absurd rfl h
  | cons word path =>
    have hword : word ≠ "" := hwords word List.mem_cons_self
    cases path with
    | nil => simpa [pathText] using hword
    | cons next path =>
      rw [pathText_cons]
      simp [hword]

theorem mem_pathMarks {path : List String} {word : String} (h : word ∈ path) :
    .word word ∈ pathMarks path := by
  induction path with
  | nil => cases h
  | cons first path ih =>
    cases path with
    | nil => simpa [pathMarks] using h
    | cons next path =>
      rw [pathMarks_cons]
      rcases List.mem_cons.1 h with rfl | h
      · exact List.mem_cons_self
      · exact List.mem_cons_of_mem _ (List.mem_cons_of_mem _ (ih h))

theorem other_not_mem_pathMarks (path : List String) : Mark.other ∉ pathMarks path := by
  induction path with
  | nil => simp [pathMarks]
  | cons word path ih =>
    cases path with
    | nil => simp [pathMarks]
    | cons next path =>
      rw [pathMarks_cons]
      simpa using ih

theorem importTail_static (marks : List Mark) : (importTail (.word "static" :: marks)).1 = none := rfl

theorem importTail_path {word : String} (hword : word ≠ "static") (marks : List Mark) :
    (importTail (.word word :: marks)).1 =
      onDemandOf? (dottedName (.word word :: marks)).1 (dottedName (.word word :: marks)).2 := by
  unfold importTail
  split
  · rename_i heq
    cases heq
    exact absurd rfl hword
  · rfl

theorem onDemandOf?_star {text : String} (h : text ≠ "") (rest : List Mark) :
    onDemandOf? (text ++ ".") (.star :: rest) = some text := by
  have hreverse : (text ++ ".").toList.reverse = '.' :: text.toList.reverse := by simp
  simp only [onDemandOf?, hreverse]
  simp [h]

theorem Import.other_not_mem_tail (i : Import) : Mark.other ∉ i.tail := by
  have hpath := other_not_mem_pathMarks i.path
  unfold Import.tail
  split <;> split <;> simp [hpath]

theorem Import.provided?_tail {i : Import} (h : i.isProper = true) (hwords : ∀ w ∈ i.path, w ≠ "")
    (rest : List Mark) : (importTail (i.tail ++ Mark.other :: rest)).1 = i.provided? := by
  obtain ⟨isStatic, path, isOnDemand⟩ := i
  cases isStatic with
  | true =>
    rw [Import.tail, if_pos rfl, List.append_assoc, List.singleton_append, importTail_static]
    simp [Import.provided?]
  | false =>
    cases path with
    | nil => simp [Import.isProper] at h
    | cons word path =>
      have hstatic : word ≠ "static" := by simpa [Import.isProper] using h
      have htext := pathText_ne (List.cons_ne_nil word path) hwords
      obtain ⟨more, hmore⟩ : ∃ more, pathMarks (word :: path) = .word word :: more := by
        cases path with
        | nil => exact ⟨_, rfl⟩
        | cons next path => exact ⟨_, pathMarks_cons word next path⟩
      have hname := dottedName_pathMarks (List.cons_ne_nil word path)
        ((if isOnDemand then [.dot, .star] else []) ++ Mark.other :: rest)
      simp only [Import.tail, Bool.false_eq_true, if_false, List.nil_append, List.append_assoc]
      rw [hmore] at hname ⊢
      rw [List.cons_append, importTail_path hstatic, ← List.cons_append, hname]
      cases isOnDemand with
      | true => simpa [dottedName, Import.provided?] using onDemandOf?_star htext _
      | false => simp [dottedName, Import.provided?, onDemandOf?]

def State.atTop (package : Option String) (onDemand : List String) : State :=
  { package, onDemand }

theorem ready_atTop (package : Option String) (onDemand : List String) :
    IsReady (State.atTop package onDemand) := ⟨rfl, rfl, rfl, .inl rfl⟩

theorem scan_imports {imports : List Import} (h : imports.all Import.isProper = true)
    (hwords : ∀ i ∈ imports, ∀ w ∈ i.path, w ≠ "") (package : Option String)
    (onDemand : List String) (rest : List Mark) :
    scan (.atTop package onDemand) (imports.flatMap Import.marks ++ rest) =
      scan (.atTop package (onDemand ++ imports.filterMap Import.provided?)) rest := by
  induction imports generalizing onDemand with
  | nil => simp
  | cons i imports ih =>
    obtain ⟨hi, himports⟩ := Bool.and_eq_true_iff.1 (List.all_cons ▸ h)
    obtain ⟨hwordsi, hmore⟩ := List.forall_mem_cons.1 hwords
    have hready := ready_atTop package onDemand
    have hprovided : onDemand ++ (i :: imports).filterMap Import.provided? =
        (onDemand ++ i.provided?.toList) ++ imports.filterMap Import.provided? := by
      cases hi : i.provided? <;> simp [hi]
    have hmarks : (i :: imports).flatMap Import.marks ++ rest =
        .word "import" :: (i.tail ++ .other :: (imports.flatMap Import.marks ++ rest)) := by
      simp [Import.marks]
    rw [hmarks, Syntax.scan_importWord hready rfl i.other_not_mem_tail, i.provided?_tail hi hwordsi,
      hprovided]
    exact ih himports hmore (onDemand ++ i.provided?.toList)

theorem scan_packageMarks {package : Option (List String)}
    (h : package.all (!·.isEmpty) = true)
    (hwords : ∀ path ∈ package, ∀ w ∈ path, w ≠ "")
    (rest : List Mark) :
    scan {} (File.packageMarks package ++ rest) = scan (.atTop (package.map pathText) []) rest := by
  cases package with
  | none => rfl
  | some path =>
    have hpath : path ≠ [] := by simpa using h
    have hready := ready_atTop none []
    have hname := dottedName_pathMarks hpath (.other :: rest)
    have htext : dottedName (pathMarks path ++ .other :: rest) = (pathText path, .other :: rest) := by
      rw [hname]
      simp [dottedName]
    have hscan := @Syntax.scan_packageWord _ false _ _ _ hready rfl rfl htext
      (pathText_ne hpath (hwords path rfl))
    rw [hready.within] at hscan
    rw [File.packageMarks, List.cons_append, List.append_assoc, List.singleton_append]
    exact hscan

theorem header_atTop (package : Option String) (onDemand names : List String)
    (afterDot : Bool) :
    (within ((State.atTop package onDemand).found names) [] (0, 0) afterDot).header =
      ⟨package, onDemand, names.map (pathIn package)⟩ := by
  cases package with
  | none =>
    have hmap : names.map (pathIn none) = names := List.map_id names
    simp [State.header, State.found, State.atTop, within, hmap]
  | some package =>
    have hmap : names.map (pathIn (some package)) = names.map (package ++ "." ++ ·) := rfl
    simp [State.header, State.found, State.atTop, within, hmap]

theorem word_ne_empty {source : String} {f : File} (h : marks source.toList = f.marks)
    {path : List String} (hpath : ∀ m ∈ pathMarks path, m ∈ f.marks) : ∀ w ∈ path, w ≠ "" := by
  intro w hw
  have hproper : (Mark.word w).Proper := by
    apply marks_proper source.toList
    rw [h]
    exact hpath _ (mem_pathMarks hw)
  exact hproper.1

/-- The header of a source text is what the file declares that its marks spell: the package, the
imports on demand, and all types with those inside them. -/
theorem ofSource_declared {f : File} (h : f.isProper = true) {source : String}
    (hmarks : marks source.toList = f.marks) : ofSource source = f.header := by
  simp only [File.isProper, Bool.and_eq_true] at h
  obtain ⟨⟨hpackage, himports⟩, hitems⟩ := h
  have hpackageWords : ∀ path ∈ f.package, ∀ w ∈ path, w ≠ "" := by
    intro path hpath
    apply word_ne_empty hmarks
    intro m hm
    rw [File.marks, Option.mem_def.1 hpath]
    simp [File.packageMarks, hm]
  have himportWords : ∀ i ∈ f.imports, ∀ w ∈ i.path, w ≠ "" := by
    intro i hi
    apply word_ne_empty hmarks
    intro m hm
    have hin : m ∈ i.marks := by simp [Import.marks, Import.tail, hm]
    simp only [File.marks, List.mem_append, List.mem_flatMap]
    exact .inr (.inl ⟨i, hi, hin⟩)
  have hready := ready_atTop (f.package.map pathText) (f.imports.filterMap Import.provided?)
  have hscan := scan_items f.items _ false [] hready hitems
    (fun hdot => absurd hdot Bool.false_ne_true) rfl
  rw [hready.within, List.append_nil] at hscan
  rw [ofSource, hmarks, File.marks, scan_packageMarks hpackage hpackageWords,
    scan_imports himports himportWords, List.nil_append, hscan, scan.eq_1]
  exact header_atTop _ _ _ _

namespace Samples

/-- Types in a type, a type in a method, and an array in the argument of an annotation. -/
def nested : String :=
  "package a.b; import c.d.*; import static e.F.*; @K({ 1 }) class A<T> extends B " ++
    "{ int n = 1; void m() { class Local { } } enum E { X { }, Y; record R(int x) { } } } " ++
    "interface I { }"

def nestedFile : File where
  package := some ["a", "b"]
  imports := [⟨false, ["c", "d"], true⟩, ⟨true, ["e", "F"], true⟩]
  items :=
    [.filler [.at, .word "K", .openParen, .openBrace, .other, .closeBrace, .closeParen],
      .type "class" "A" [.other, .word "T", .other, .word "extends", .word "B"]
        [.filler [.word "int", .word "n", .other, .other, .other, .word "void", .word "m",
            .openParen, .closeParen],
          .block [.word "class", .word "Local", .openBrace, .closeBrace],
          .type "enum" "E" []
            [.filler [.word "X"], .block [], .filler [.other, .word "Y", .other],
              .type "record" "R" [.openParen, .word "int", .word "x", .closeParen] []]],
      .type "interface" "I" [] []]

end Samples

set_option maxRecDepth 100000 in
theorem ofSource_declared_nested : Samples.nestedFile.isProper = true ∧
    marks Samples.nested.toList = Samples.nestedFile.marks ∧
    ofSource Samples.nested =
      ⟨some "a.b", ["c.d"], ["a.b.A", "a.b.A.E", "a.b.A.E.R", "a.b.I"]⟩ := by
  have hproper : Samples.nestedFile.isProper = true := by decide +kernel
  have hmarks : marks Samples.nested.toList = Samples.nestedFile.marks := by decide +kernel
  have hheader : Samples.nestedFile.header =
      ⟨some "a.b", ["c.d"], ["a.b.A", "a.b.A.E", "a.b.A.E.R", "a.b.I"]⟩ := by decide +kernel
  exact ⟨hproper, hmarks, (ofSource_declared hproper hmarks).trans hheader⟩

end AnnotationIndex.Java.Header
