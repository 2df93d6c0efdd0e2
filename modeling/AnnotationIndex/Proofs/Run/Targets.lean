import AnnotationIndex.Proofs.Java.Readers
import AnnotationIndex.Proofs.Run.KnownTypes
import AnnotationIndex.Proofs.Run.Replacing
import AnnotationIndex.Proofs.Text.Paths

/-!
# How many targets are recorded

Each annotation that is recorded of a type yields one target for every time that the kept files list
the type. A file that is found twice, or declares a type twice, lists it twice.
-/

namespace AnnotationIndex

open Java

theorem countP_flatMap_uniform {α β : Type} {l : List α} {f : α → List β} {p : β → Bool}
    {q : α → Bool} {n : Nat} (h : ∀ x ∈ l, (f x).countP p = if q x then n else 0) :
    (l.flatMap f).countP p = l.countP q * n := by
  induction l with
  | nil => simp
  | cons x l ih =>
    obtain ⟨hx, hl⟩ := List.forall_mem_cons.1 h
    rw [List.flatMap_cons, List.countP_append, hx, ih hl, List.countP_cons]
    cases q x with
    | true => simp [Nat.add_mul, Nat.add_comm]
    | false => simp

/-- How many annotations of a kind are recorded of a type, among some that are written on it. -/
def ExtractOptions.recordedOf (o : ExtractOptions) (decl : TypeDecl) (uses : List AnnotationUse)
    (kind : String) : Nat :=
  if o.isDefinition decl then 0 else (o.recorded uses).countP (·.kind = kind)

theorem countP_classes (o : ExtractOptions) (decl : TypeDecl) (kind : String) :
    (o.extract decl).classes.countP (·.kind = kind) = o.recordedOf decl decl.annotations kind := by
  unfold ExtractOptions.extract ExtractOptions.recordedOf
  split
  · rfl
  · rw [List.countP_map]
    rfl

theorem countP_memberRecords (o : ExtractOptions) (memberKind : MemberKind) (members : List Member)
    (kind name : String) :
    (o.memberRecords memberKind members).countP (fun r => r.kind = kind && r.member = name) =
      (o.recorded ((members.filter fun m => m.kind = memberKind && m.name = name).flatMap
        (·.annotations))).countP (·.kind = kind) := by
  unfold ExtractOptions.memberRecords ExtractOptions.recorded
  induction members with
  | nil => rfl
  | cons m members ih =>
    by_cases hkind : m.kind = memberKind
    · by_cases hname : m.name = name
      · simp [hkind, hname, ih, List.countP_append, List.countP_map, Function.comp_def]
      · simp [hkind, hname, ih, List.countP_append, List.countP_map, Function.comp_def]
    · simp [hkind, ih]

theorem countP_members (o : ExtractOptions) (decl : TypeDecl) (memberKind : MemberKind)
    (kind name : String) :
    ((o.extract decl).members memberKind).countP (fun r => r.kind = kind && r.member = name) =
      o.recordedOf decl (memberAnnotations decl memberKind name) kind := by
  unfold ExtractOptions.extract ExtractOptions.recordedOf
  split
  · cases memberKind <;> rfl
  · cases memberKind with
    | method => exact countP_memberRecords o .method decl.members kind name
    | property => exact countP_memberRecords o .property decl.members kind name

namespace TypeRecords

theorem countP_classTargets (r : TypeRecords) (kind name : String) :
    (r.classTargets kind).countP (·.typeName = name) =
      if r.typeName = name then r.records.classes.countP (·.kind = kind) else 0 := by
  unfold classTargets
  rw [List.countP_map]
  by_cases hname : r.typeName = name
  · simp [hname, Function.comp_def, List.countP_eq_length_filter]
  · simp [hname, Function.comp_def]

theorem countP_memberTargets (r : TypeRecords) (memberKind : MemberKind) (kind name member : String) :
    (r.memberTargets memberKind kind).countP (fun t => t.typeName = name && t.member = member) =
      if r.typeName = name then
        (r.records.members memberKind).countP (fun m => m.kind = kind && m.member = member)
      else 0 := by
  unfold memberTargets
  rw [List.countP_map]
  by_cases hname : r.typeName = name
  · simp [hname, Function.comp_def, List.countP_filter, Bool.and_comm]
  · simp [hname, Function.comp_def]

end TypeRecords

namespace FileTree

variable {tree : FileTree} {p q : Path}

theorem read_same {content content' : List UInt8} (h : tree.read p = .ok content)
    (h' : tree.read q = .ok content') (hsame : p.same q = true) : content = content' := by
  obtain ⟨location, hfind⟩ := read_eq_ok_iff.1 h
  obtain ⟨location', hfind'⟩ := read_eq_ok_iff.1 h'
  obtain ⟨-, hwalk, hnode, -⟩ := find_eq_ok_iff.1 hfind
  obtain ⟨-, hwalk', hnode', -⟩ := find_eq_ok_iff.1 hfind'
  have hcomponents : p.components = q.components := by simpa [Path.same] using hsame
  rw [hcomponents, hwalk'] at hwalk
  obtain rfl := Except.ok.inj hwalk
  rw [hnode'] at hnode
  exact (Node.file.inj (Option.some.inj hnode)).symm

end FileTree

namespace Plain

variable {path : Path} {content : List UInt8} {name : String}

theorem declared_of_accepts (h : accepts path content name = .ok true) (known : String → Bool) :
    ∃ outline unit decl, Outline.ofSource? (Text.lossyText content).toList = some outline ∧
      outline.unit? known = some unit ∧ unit.get? name = some decl := by
  obtain ⟨outline, unit, houtline, hunit⟩ := outline_of_accepts h known
  obtain ⟨outline', unit', houtline', hunit'⟩ := outline_of_accepts h fun _ => false
  obtain rfl := Option.some.inj (houtline.symm.trans houtline')
  have hdeclared : (unit'.get? name).isSome = true := by
    unfold accepts at h
    split at h
    · simp only [instantiable, houtline, hunit'] at h
      cases hget : unit'.get? name with
      | none => simp [hget] at h
      | some decl => rfl
    · cases h
  have hkind := instantiable_eq hunit hunit' name
  obtain ⟨decl', hdecl'⟩ := Option.isSome_iff_exists.1 hdeclared
  rw [hdecl'] at hkind
  obtain ⟨decl, hdecl, -⟩ := Option.map_eq_some_iff.1 hkind
  exact ⟨outline, unit, decl, houtline, hunit, hdecl⟩

theorem readable_of_kept {tree : FileTree} {excluded : Path → Bool} {roots : List Path}
    {r : Resolution} (hr : resolution tree excluded roots = .ok r) {map : ClassMap}
    (h : kept tree r.map = .ok map) : ∀ f ∈ map.files,
    tree.read f.file.path = .ok (contentAt tree f.file.path) ∧
      ∀ t ∈ f.types, accepts f.file.path (contentAt tree f.file.path) t = .ok true := by
  intro f hf
  obtain ⟨g, hg, heq, hamong⟩ := mem_kept h hf
  have hfile : f.file = g.file := by rw [heq]
  rw [hfile]
  refine ⟨?_, fun t ht => (accepts_of_kept hamong ht).2⟩
  unfold resolution at hr
  cases hsources : sources tree roots with
  | error e => simp [hsources, Except.map] at hr
  | ok paths =>
    simp only [hsources, Except.map, Except.ok.injEq] at hr
    rw [← hr] at hg
    exact (foundIn_resolution g hg).read

variable {options : ExtractOptions} {known : String → Bool} {tree : FileTree} {map : ClassMap}

theorem recordsIn_of_declared (options : ExtractOptions) {unit : CompilationUnit} {decl : TypeDecl}
    (hdecl : unit.get? name = some decl) (types : List String) :
    (recordsIn options unit types).countP (·.typeName = name) = types.count name ∧
      ∀ r ∈ recordsIn options unit types, r.typeName = name → r.records = options.extract decl := by
  unfold recordsIn
  induction types with
  | nil => simp
  | cons t types ih =>
    obtain ⟨hcount, hrecords⟩ := ih
    by_cases hname : t = name
    · subst hname
      rw [List.filterMap_cons, hdecl]
      refine ⟨by simp [hcount], ?_⟩
      intro r hr hrname
      rcases List.mem_cons.1 hr with rfl | hr
      · rfl
      · exact hrecords r hr hrname
    · rw [List.filterMap_cons]
      cases hget : unit.get? t with
      | none => exact ⟨by simpa [hname] using hcount, hrecords⟩
      | some other =>
        refine ⟨by simpa [hname] using hcount, ?_⟩
        intro r hr hrname
        rcases List.mem_cons.1 hr with rfl | hr
        · exact absurd hrname hname
        · exact hrecords r hr hrname

theorem name_of_record {path : Path} {content : List UInt8} {types : List String}
    {records : List TypeRecords} (h : fileRecords options known path content types = .ok records)
    {r : TypeRecords} (hr : r ∈ records) : r.typeName ∈ types := by
  unfold fileRecords at h
  split at h
  · cases h
    cases hr
  · split at h
    · cases h
    · cases h
      obtain ⟨t, ht, hget⟩ := List.mem_filterMap.1 hr
      obtain ⟨decl, -, rfl⟩ := Option.map_eq_some_iff.1 hget
      exact ht

theorem ofSource_eq_ok_iff {source : String} {unit : CompilationUnit} :
    CompilationUnit.ofSource source known = .ok unit ↔ ∃ outline,
      Outline.ofSource? source.toList = some outline ∧ outline.unit? known = some unit := by
  unfold CompilationUnit.ofSource
  split
  · rename_i houtline
    simp [houtline]
  · rename_i outline houtline
    split
    · rename_i hunit
      simp [houtline, hunit]
    · rename_i hunit
      simp [houtline, hunit]

def DeclaredAs (known : String → Bool) (content : List UInt8) (name : String) (decl : TypeDecl) :
    Prop :=
  ∃ outline unit, Outline.ofSource? (Text.lossyText content).toList = some outline ∧
    outline.unit? known = some unit ∧ unit.get? name = some decl

theorem owned_of_declared {decl : TypeDecl} {f : ResolvedFile} {here : List TypeRecords}
    (h : fileRecords options known f.file.path (contentAt tree f.file.path) f.types = .ok here)
    (hf : name ∈ f.types → map.isOwnedBy name f.file.path = true →
      DeclaredAs known (contentAt tree f.file.path) name decl) :
    (here.filter fun r => map.isOwnedBy r.typeName f.file.path).countP (·.typeName = name) =
        (f.types.filter fun t => map.isOwnedBy t f.file.path).count name ∧
      ∀ r ∈ here.filter fun r => map.isOwnedBy r.typeName f.file.path,
        r.typeName = name → r.records = options.extract decl := by
  by_cases howned : name ∈ f.types ∧ map.isOwnedBy name f.file.path = true
  · obtain ⟨hmem, howned⟩ := howned
    obtain ⟨outline, unit, houtline, hunit, hdecl⟩ := hf hmem howned
    simp only [fileRecords, houtline, hunit, Except.ok.injEq] at h
    obtain ⟨hcount, hrecords⟩ := recordsIn_of_declared options hdecl f.types
    rw [h] at hcount hrecords
    refine ⟨?_, fun r hr => hrecords r (List.mem_filter.1 hr).1⟩
    rw [List.countP_filter, List.count_filter (p := fun t => map.isOwnedBy t f.file.path) howned,
      ← hcount]
    refine List.countP_congr fun r _ => ?_
    simp only [Bool.and_eq_true, decide_eq_true_eq, and_iff_left_iff_imp]
    rintro rfl
    exact howned
  · have hnone : ∀ r ∈ here.filter fun r => map.isOwnedBy r.typeName f.file.path,
        r.typeName ≠ name := by
      rintro r hr rfl
      obtain ⟨hr, hrowned⟩ := List.mem_filter.1 hr
      exact howned ⟨name_of_record h hr, hrowned⟩
    have hcount : name ∉ f.types.filter fun t => map.isOwnedBy t f.file.path := by
      intro hmem
      exact howned (List.mem_filter.1 hmem)
    refine ⟨?_, fun r hr hname => absurd hname (hnone r hr)⟩
    rw [List.count_eq_zero.2 hcount, List.countP_eq_zero]
    simpa using hnone

theorem recordsOf_of_declared {decl : TypeDecl} {files : List ResolvedFile}
    {records : List TypeRecords} (h : recordsOf options known tree map files = .ok records)
    (hfiles : ∀ f ∈ files, name ∈ f.types → map.isOwnedBy name f.file.path = true →
      DeclaredAs known (contentAt tree f.file.path) name decl) :
    records.countP (·.typeName = name) =
        (files.flatMap fun f => f.types.filter fun t => map.isOwnedBy t f.file.path).count name ∧
      ∀ r ∈ records, r.typeName = name → r.records = options.extract decl := by
  induction files generalizing records with
  | nil =>
    cases h
    simp
  | cons f files ih =>
    obtain ⟨hf, hrest⟩ := List.forall_mem_cons.1 hfiles
    rw [recordsOf] at h
    split at h
    · rename_i hempty
      obtain ⟨hcount, hrecords⟩ := ih h hrest
      have hnone : f.types = [] := by simpa using hempty
      exact ⟨by simpa [hnone] using hcount, hrecords⟩
    · obtain ⟨here, hhere, h⟩ := bind_eq_ok h
      obtain ⟨more, hmore, h⟩ := bind_eq_ok h
      cases h
      obtain ⟨hcount, hrecords⟩ := ih hmore hrest
      obtain ⟨hcount', hrecords'⟩ := owned_of_declared hhere hf
      refine ⟨?_, ?_⟩
      · rw [List.countP_append, hcount', hcount, List.flatMap_cons, List.count_append]
      · intro r hr hrname
        exact (List.mem_append.1 hr).elim (hrecords' r · hrname) (hrecords r · hrname)

end Plain

namespace Collected

/-- How often the kept files list a type that they own. -/
def listings (c : Collected) (name : String) : Nat := (c.kept.entries.map (·.2)).count name

/-- The class targets of a type for a kind of annotation. -/
def classTargets (c : Collected) (kind name : String) : Nat :=
  (Collection.targetsIn c.collection.annotations kind).classes.countP (·.typeName = name)

/-- The targets of the members of a type with a given name. -/
def memberTargets (c : Collected) (kind name : String) (memberKind : MemberKind)
    (member : String) : Nat :=
  ((Collection.targetsIn c.collection.annotations kind).members memberKind).countP fun t =>
    t.typeName = name && t.member = member

/-- For each time that it is listed, a type that is declared in content has one target for every
annotation that is recorded of it or of a member. -/
structure Targeted (config : Config) (c : Collected) (name : String) (decl : TypeDecl) : Prop where
  classes : ∀ kind, c.classTargets kind name =
    c.listings name * config.extractOptions.recordedOf decl decl.annotations kind
  members : ∀ kind memberKind member, c.memberTargets kind name memberKind member =
    c.listings name * config.extractOptions.recordedOf decl
      (memberAnnotations decl memberKind member) kind

variable {config : Config} {tree : FileTree} {exclusion : Option Pattern} {c : Collected}

theorem targeted_of_records {records : List TypeRecords} {name : String} {path : Path}
    {decl : TypeDecl} (howner : c.kept.owner? name = some path)
    (hcollection : c.collection.annotations =
      (Collection.empty.addAll records c.kept.owner?).annotations)
    (hcount : records.countP (·.typeName = name) = c.listings name)
    (hrecords : ∀ r ∈ records, r.typeName = name →
      r.records = config.extractOptions.extract decl) :
    Targeted config c name decl := by
  have hitems : (records.filterMap fun r => (c.kept.owner? r.typeName).map (r, ·)).countP
      (·.1.typeName = name) = c.listings name := by
    rw [List.countP_filterMap, ← hcount]
    refine List.countP_congr fun r _ => ?_
    by_cases hname : r.typeName = name
    · simp [hname, howner]
    · cases c.kept.owner? r.typeName <;> simp [hname]
  have hitem : ∀ item ∈ records.filterMap fun r => (c.kept.owner? r.typeName).map (r, ·),
      item.1.typeName = name → item.1.records = config.extractOptions.extract decl := by
    intro item hitem
    obtain ⟨r, hr, hlocated⟩ := List.mem_filterMap.1 hitem
    obtain ⟨_, -, rfl⟩ := Option.map_eq_some_iff.1 hlocated
    exact hrecords r hr
  rw [Collection.addAll_eq_addEach] at hcollection
  constructor
  · intro kind
    rw [classTargets, hcollection, Collection.classes_addEach, ← hitems]
    refine countP_flatMap_uniform fun item hmem => ?_
    rw [TypeRecords.countP_classTargets]
    by_cases hname : item.1.typeName = name
    · rw [hitem item hmem hname, countP_classes]
      simp [hname]
    · simp [hname]
  · intro kind memberKind member
    rw [memberTargets, hcollection, Collection.members_addEach, ← hitems]
    refine countP_flatMap_uniform fun item hmem => ?_
    rw [TypeRecords.countP_memberTargets]
    by_cases hname : item.1.typeName = name
    · rw [hitem item hmem hname, countP_members]
      simp [hname]
    · simp [hname]

theorem targeted_of_collect (h : Plain.collect config exclusion tree = .ok c) {name : String}
    {path : Path} (howner : c.kept.owner? name = some path) :
    ∃ content decl, tree.read path = .ok content ∧
      Plain.DeclaredAs c.loader.knows content name decl ∧ Targeted config c name decl := by
  obtain ⟨r, hr, h⟩ := Plain.bind_eq_ok h
  obtain ⟨kept, hkept, h⟩ := Plain.bind_eq_ok h
  obtain ⟨records, hrecords, h⟩ := Plain.bind_eq_ok h
  cases h
  have hread := Plain.readable_of_kept hr hkept
  obtain ⟨f, hf, rfl, hname, -⟩ := Plain.file_of_owner hkept howner
  obtain ⟨hcontent, haccepts⟩ := hread f hf
  obtain ⟨outline, unit, decl, houtline, hunit, hdecl⟩ := Plain.declared_of_accepts
    (haccepts name hname) (Loader.knows { locations := r.map.locations })
  refine ⟨_, decl, hcontent, ⟨outline, unit, houtline, hunit, hdecl⟩, ?_⟩
  -- Every file that owns the type has the path of this file, and so its content.
  have hsame : ∀ g ∈ kept.files, name ∈ g.types → kept.isOwnedBy name g.file.path = true →
      Plain.DeclaredAs (Loader.knows { locations := r.map.locations })
        (Plain.contentAt tree g.file.path) name decl := by
    intro g hg _ howned
    unfold ClassMap.isOwnedBy at howned
    rw [howner] at howned
    rw [← FileTree.read_same hcontent (hread g hg).1 howned]
    exact ⟨outline, unit, houtline, hunit, hdecl⟩
  obtain ⟨hcount, hrecord⟩ := Plain.recordsOf_of_declared hrecords hsame
  refine targeted_of_records howner ?_ ?_ hrecord
  · dsimp only
    split <;> rfl
  · rw [hcount, listings, ClassMap.entries, List.map_flatMap]
    simp only [List.map_map, Function.comp_def, List.map_id']

end Collected

section Start

variable {config : Config} {tree : FileTree} {c : Collected}

/-- After a run on an empty store, each kept type has one target for every annotation that is
recorded of its declaration or of a member, for each time that the kept files list the type. -/
theorem targets_of_run (config : Config) (tree : FileTree) (report : RunReport)
    (hkeys : (⟨tree, config⟩ : Setting).KeysTell)
    (hreals : (⟨tree, config⟩ : Setting).RealsReadBack)
    (hrun : (run MemoryStore.backend config (.start tree)).1 = .ok report) :
    ∃ c, (collecting config tree { store := .empty }).1 = .ok c ∧
      writeArtifact config.outputPath (c.artifact config).render tree =
        (.ok (), (run MemoryStore.backend config (.start tree)).2.tree) ∧
      ∀ name path, c.kept.owner? name = some path → ∃ content unit decl,
        tree.read path = .ok content ∧
        CompilationUnit.ofSource (Text.lossyText content) c.loader.knows = .ok unit ∧
        unit.get? name = some decl ∧ c.Targeted config name decl := by
  obtain ⟨c, hcollecting, hpublish⟩ := collecting_of_run hrun
  refine ⟨c, hcollecting, (publish_ok_iff.1 hpublish).2, ?_⟩
  intro name path howner
  obtain ⟨exclusion, -, hcollect⟩ :=
    Plain.bind_eq_ok ((collecting_of_start hkeys hreals).symm.trans hcollecting)
  obtain ⟨content, decl, hread, ⟨outline, unit, houtline, hunit, hdecl⟩, htargeted⟩ :=
    Collected.targeted_of_collect hcollect howner
  exact ⟨content, unit, decl, hread, Plain.ofSource_eq_ok_iff.2 ⟨outline, houtline, hunit⟩, hdecl,
    htargeted⟩

end Start

namespace Repeated

def path : Path := .ofText "/A.java"

def content : List UInt8 := Text.utf8Bytes Samples.annotated

def tree : FileTree := ⟨.ofList [(path.bytes, .file content)], []⟩

def output : Path := .ofText "/o.json"

/-- A configuration in which one root stands several times. -/
def config (n : Nat) : Config :=
  { includePaths := List.replicate n path, outputPath := output, captureArguments := false }

def file : ResolvedFile := Plain.fileWith path content

def outline : Outline := Samples.annotatedClass [] "K" "A"

def found : Nat → Resolution
  | 0 => .empty
  | n + 1 => { found n with
      filesScanned := (found n).filesScanned + 1, map := (found n).map.push file }

def loader (n : Nat) : Loader := { locations := (found n).map.locations }

def kept (n : Nat) : ClassMap := (found n).map.retainWith (List.replicate n ["A"])

/-- The file owns its class as often as the root stands there, and the class has one annotation. -/
def isFound (n : Nat) : Bool :=
  (kept n).owner? "A" == some path && ((kept n).entries.map (·.2)).count "A" == n &&
    (outline.unit? (loader n).knows).any fun unit => (unit.get? "A").any fun decl =>
      (config n).extractOptions.recordedOf decl decl.annotations "K" == 1

def isKept : Bool :=
  (outline.unit? fun _ => false).any fun unit =>
    (unit.get? "A").any (·.kind ≠ .interfaceType)

-- No file is compared here, since its fingerprint would be computed for that.
set_option maxRecDepth 100000 in
theorem evaluated : [1, 2].all isFound = true ∧ file.types = ["A"] ∧
    Text.lossyText content = Samples.annotated ∧ mentionsAnnotations content = true ∧
      isKept = true := by decide +kernel

theorem types_file : file.types = ["A"] := evaluated.2.1

theorem next_path (r : Resolution) : Plain.next tree (isExcluded none) r path =
    { r with filesScanned := r.filesScanned + 1, map := r.map.push file } := by
  have hincluded : isExcluded none path = false := rfl
  have hread : tree.read path = .ok content := rfl
  have htypes : (Plain.headerOf content).types.isEmpty = false := by
    change file.types.isEmpty = false
    rw [types_file]
    rfl
  simp only [Plain.next, hincluded, hread, htypes, Bool.false_eq_true, if_false]
  rfl

theorem resolution_config {n : Nat} (hn : n ∈ [1, 2]) :
    Plain.resolution tree (isExcluded none) (config n).includePaths = .ok (found n) := by
  have hsources : Plain.sources tree (config n).includePaths = .ok (List.replicate n path) := by
    simp only [List.mem_cons, List.not_mem_nil, or_false] at hn
    rcases hn with rfl | rfl <;> rfl
  have hfound : ∀ n, (List.replicate n path).foldl (Plain.next tree (isExcluded none)) .empty =
      found n := by
    intro n
    induction n with
    | zero => rfl
    | succ n ih =>
      rw [List.replicate_succ', List.foldl_append, ih]
      exact next_path (found n)
  rw [Plain.resolution, hsources, Except.map, hfound]

theorem files_found (n : Nat) : (found n).map.files = List.replicate n file := by
  induction n with
  | zero => rfl
  | succ n ih => rw [found, ClassMap.push, ih, List.replicate_succ']

theorem files_kept (n : Nat) : (kept n).files = List.replicate n file := by
  have hfile : { file with types := ["A"] } = file := by rw [← types_file]
  rw [kept, ClassMap.files_retainWith, files_found, List.zip_replicate', List.map_replicate, hfile]

theorem outline_content : Outline.ofSource? (Text.lossyText content).toList = some outline := by
  rw [evaluated.2.2.1]
  exact Samples.outlines.1

theorem content_of_read {p : Path} {c : List UInt8} (h : tree.read p = .ok c) : c = content := by
  obtain ⟨l, hfind⟩ := FileTree.read_eq_ok_iff.1 h
  obtain ⟨-, -, hnode, -⟩ := FileTree.find_eq_ok_iff.1 hfind
  unfold FileTree.node? at hnode
  split at hnode
  · cases hnode
  · have hentries : tree.nodes.entries = [(path.bytes, .file content)] := rfl
    have hentry : (l.path.bytes, Node.file c) ∈ tree.nodes.entries :=
      KeyMap.mem_entries_iff.2 hnode
    rw [hentries, List.mem_singleton] at hentry
    exact Node.file.inj (Prod.mk.inj hentry).2

theorem keysTell (config : Config) : (⟨tree, config⟩ : Setting).KeysTell :=
  fun _ _ _ _ _ _ _ hread hread' _ => (content_of_read hread).trans (content_of_read hread').symm

theorem contentAt_path : Plain.contentAt tree path = content := Plain.contentAt_of_read rfl

theorem prepare_config (n : Nat) : Plain.prepare (config n) tree = .ok none := by
  have houtput : tree.isDirectory output = false := rfl
  have hne : output.bytes.isEmpty = false := rfl
  have hcheck : checkOutput tree (config n).outputPath = .ok () := by
    simp only [checkOutput, config, houtput, hne, Bool.false_eq_true, if_false]
  simp only [Plain.prepare, hcheck]
  rfl

theorem open_temporary : FileTree.Open tree (temporaryPath output) ⟨[], Text.utf8Bytes "o.json.tmp", false⟩ :=
  ⟨FileTree.slot?_eq_some_iff.2 ⟨rfl, rfl, rfl, rfl, by decide, rfl⟩, rfl, nofun⟩

theorem open_output : FileTree.Open tree output ⟨[], Text.utf8Bytes "o.json", false⟩ :=
  ⟨FileTree.slot?_eq_some_iff.2 ⟨rfl, rfl, rfl, rfl, by decide, rfl⟩, rfl, nofun⟩

theorem replaceable_output : Replaceable tree output where
  parent := by
    have hparent : outputParent? output = some (.ofText "/") := rfl
    have hdirectory : tree.isDirectory (.ofText "/") = true := rfl
    intro parent hp
    rw [hparent] at hp
    cases hp
    exact hdirectory
  temporary := ⟨_, open_temporary⟩
  target := ⟨_, open_output⟩

theorem keptAmong_content : Plain.keptAmong path content ["A"] = .ok ["A"] := by
  obtain ⟨-, -, -, hmentions, hclass⟩ := evaluated
  obtain ⟨unit, hunit, hkind⟩ := (Option.any_eq_true _ _).1 hclass
  rw [Plain.keptAmong_of_outline hmentions outline_content hunit]
  exact congrArg Except.ok (List.filter_cons_of_pos hkind)

theorem keptLists_files (n : Nat) : Plain.keptLists tree (List.replicate n file) =
    .ok (List.replicate n ["A"]) := by
  have hpath : file.file.path = path := rfl
  induction n with
  | zero => rfl
  | succ n ih =>
    rw [List.replicate_succ, Plain.keptLists, ih, hpath, contentAt_path, types_file,
      keptAmong_content]
    rfl

theorem recordsOf_files {known : String → Bool} {unit : CompilationUnit}
    (hunit : outline.unit? known = some unit) (options : ExtractOptions) (map : ClassMap)
    (n : Nat) : ∃ records,
      Plain.recordsOf options known tree map (List.replicate n file) = .ok records := by
  induction n with
  | zero => exact ⟨[], rfl⟩
  | succ n ih =>
    obtain ⟨more, hmore⟩ := ih
    have hrecords : Plain.fileRecords options known file.file.path
        (Plain.contentAt tree file.file.path) file.types =
          .ok (Plain.recordsIn options unit file.types) :=
      Plain.fileRecords_of_outline outline_content hunit options path file.types
    have hne : ¬file.types.isEmpty = true := by simp [types_file]
    rw [List.replicate_succ, Plain.recordsOf, if_neg hne, hrecords, hmore]
    exact ⟨_, rfl⟩

theorem collected {n : Nat} (hn : n ∈ [1, 2]) : ∃ c,
    (Plain.prepare (config n) tree).bind (Plain.collect (config n) · tree) = .ok c ∧
      c.collection.locations.values.all Path.isText = true ∧
      c.kept.owner? "A" = some path ∧ c.listings "A" = n ∧
      ∀ decl, Plain.DeclaredAs c.loader.knows content "A" decl →
        (config n).extractOptions.recordedOf decl decl.annotations "K" = 1 := by
  have hfound := List.all_eq_true.1 evaluated.1 n hn
  simp only [isFound, Bool.and_eq_true, beq_iff_eq] at hfound
  obtain ⟨⟨howner, hcount⟩, hunit⟩ := hfound
  obtain ⟨unit, hunit, hdecl⟩ := (Option.any_eq_true _ _).1 hunit
  have hkept : Plain.kept tree (found n).map = .ok (kept n) := by
    rw [Plain.kept, files_found, keptLists_files]
    rfl
  obtain ⟨records, hrecords⟩ := recordsOf_files hunit (config n).extractOptions (kept n) n
  rw [← files_kept] at hrecords
  have hcollect := Plain.collect_of_recordsOf (resolution_config hn) hkept hrecords
  have hpaths : ∀ f ∈ (kept n).files, f.file.path.isText = true := by
    intro f hf
    rw [files_kept] at hf
    rw [List.eq_of_mem_replicate hf]
    exact Path.isText_ofText "/A.java"
  refine ⟨Plain.collectedFrom (config n) (found n) (kept n) records, ?_,
    (Collected.found_of_collect (prepare_config n) hcollect).isText_locations hpaths, howner,
    hcount, ?_⟩
  · rw [prepare_config]
    exact hcollect
  · rintro decl ⟨outline', unit', houtline', hunit', hdecl'⟩
    rw [outline_content] at houtline'
    cases houtline'
    rw [← Option.some.inj (hunit.symm.trans hunit')] at hdecl'
    rw [hdecl'] at hdecl
    simpa using hdecl

theorem targets_of_collected {n : Nat} {c : Collected} (hlistings : c.listings "A" = n)
    (hrecorded : ∀ decl, Plain.DeclaredAs c.loader.knows content "A" decl →
      (config n).extractOptions.recordedOf decl decl.annotations "K" = 1) {decl : TypeDecl}
    (hdecl : Plain.DeclaredAs c.loader.knows content "A" decl)
    (h : c.Targeted (config n) "A" decl) : c.classTargets "K" "A" = n := by
  rw [h.classes, hlistings, hrecorded decl hdecl, Nat.mul_one]

end Repeated

/-- A class whose file is found once has a target for its annotation. -/
theorem targets_of_root : (⟨Repeated.tree, Repeated.config 1⟩ : Setting).KeysTell ∧
    (⟨Repeated.tree, Repeated.config 1⟩ : Setting).RealsReadBack ∧ ∃ report c,
    (run MemoryStore.backend (Repeated.config 1) (.start Repeated.tree)).1 = .ok report ∧
      (collecting (Repeated.config 1) Repeated.tree { store := .empty }).1 = .ok c ∧
      c.kept.owner? "A" = some Repeated.path ∧ c.classTargets "K" "A" = 1 := by
  have hreals : (⟨Repeated.tree, Repeated.config 1⟩ : Setting).RealsReadBack :=
    Setting.realsReadBack_of_not_captured rfl
  have hkeys := Repeated.keysTell (Repeated.config 1)
  obtain ⟨c, hcollect, hpaths, howner, hlistings, hrecorded⟩ :=
    Repeated.collected (n := 1) List.mem_cons_self
  obtain ⟨report, hrun⟩ := run_of_collect (s := .start Repeated.tree) (apart_single hkeys hreals)
    List.mem_cons_self (valid_empty _) hcollect hpaths Repeated.replaceable_output
  obtain ⟨c', hc', -, htargets⟩ := targets_of_run _ _ report hkeys hreals hrun
  obtain rfl : c = c' :=
    Except.ok.inj (hcollect.symm.trans ((collecting_of_start hkeys hreals).symm.trans hc'))
  obtain ⟨content, unit, decl, hread, hunit, hdecl, htargeted⟩ := htargets "A" _ howner
  obtain rfl : Repeated.content = content := Except.ok.inj hread
  obtain ⟨outline, houtline, hunit⟩ := Plain.ofSource_eq_ok_iff.1 hunit
  exact ⟨hkeys, hreals, report, c, hrun, hc', howner, Repeated.targets_of_collected hlistings hrecorded
    ⟨outline, unit, houtline, hunit, hdecl⟩ htargeted⟩

/-- If its file is found twice, the class has two targets for its one annotation. -/
theorem targets_of_repeated_root : ∃ report c unit decl,
    (run MemoryStore.backend (Repeated.config 2) (.start Repeated.tree)).1 = .ok report ∧
      (collecting (Repeated.config 2) Repeated.tree { store := .empty }).1 = .ok c ∧
      c.kept.owner? "A" = some Repeated.path ∧
      CompilationUnit.ofSource (Text.lossyText Repeated.content) c.loader.knows = .ok unit ∧
      unit.get? "A" = some decl ∧
      (Repeated.config 2).extractOptions.recordedOf decl decl.annotations "K" = 1 ∧
      c.classTargets "K" "A" = 2 := by
  have hreals : (⟨Repeated.tree, Repeated.config 2⟩ : Setting).RealsReadBack :=
    Setting.realsReadBack_of_not_captured rfl
  have hkeys := Repeated.keysTell (Repeated.config 2)
  obtain ⟨c, hcollect, hpaths, howner, hlistings, hrecorded⟩ :=
    Repeated.collected (n := 2) (List.mem_cons_of_mem _ List.mem_cons_self)
  obtain ⟨report, hrun⟩ := run_of_collect (s := .start Repeated.tree) (apart_single hkeys hreals)
    List.mem_cons_self (valid_empty _) hcollect hpaths Repeated.replaceable_output
  have hcollecting := (collecting_of_start hkeys hreals).trans hcollect
  obtain ⟨exclusion, -, hcollected⟩ := Plain.bind_eq_ok hcollect
  obtain ⟨content, decl, hread, hdeclared, htargeted⟩ :=
    Collected.targeted_of_collect hcollected howner
  obtain rfl : Repeated.content = content := Except.ok.inj hread
  have htargets := Repeated.targets_of_collected hlistings hrecorded hdeclared htargeted
  obtain ⟨outline, unit, houtline, hunit, hdecl⟩ := hdeclared
  exact ⟨report, c, unit, decl, hrun, hcollecting, howner,
    Plain.ofSource_eq_ok_iff.2 ⟨outline, houtline, hunit⟩, hdecl,
    hrecorded decl ⟨outline, unit, houtline, hunit, hdecl⟩, htargets⟩

end AnnotationIndex
