import AnnotationIndex.Proofs.Index.RecordDocuments
import AnnotationIndex.Proofs.Run.Files
import AnnotationIndex.Proofs.Text.Paths

/-!
# Valid stores

A store is valid for a list of runs if each of its entries is what one of these runs found out about
one of its files. Under a valid store every run comes to the results it would come to without one,
and leaves a valid store.
-/

namespace AnnotationIndex

open Digest Java Json

/-- A configuration and the files that it is run on. -/
structure Setting where
  tree : FileTree
  config : Config

/-- What is checked before a run reads anything. -/
def Plain.prepare (config : Config) (tree : FileTree) : Except Failure (Option Pattern) := do
  let exclusion ← config.exclusion
  checkOutput tree config.outputPath
  return exclusion

namespace Setting

def sources (r : Setting) : List Path :=
  match Plain.prepare r.config r.tree, Plain.sources r.tree r.config.includePaths with
  | .ok exclusion, .ok paths => paths.filter (!isExcluded exclusion ·)
  | _, _ => []

def contents (r : Setting) : List (List UInt8) :=
  r.sources.filterMap fun path => (r.tree.read path).toOption

def resolution (r : Setting) : Except Failure Resolution := do
  let exclusion ← Plain.prepare r.config r.tree
  Plain.resolution r.tree (isExcluded exclusion) r.config.includePaths

def locations (r : Setting) : Locations :=
  match r.resolution with
  | .ok resolution => resolution.map.locations
  | .error _ => .empty

def kept (r : Setting) : Except Failure ClassMap := do
  let resolution ← r.resolution
  Plain.kept r.tree resolution.map

def keptFiles (r : Setting) : List ResolvedFile :=
  match r.kept with
  | .ok map => map.files.filter (!·.types.isEmpty)
  | .error _ => []

def contentOf (r : Setting) (f : ResolvedFile) : List UInt8 := Plain.contentAt r.tree f.file.path

def knows (r : Setting) (name : String) : Bool := ({ locations := r.locations } : Loader).knows name

def records (r : Setting) (f : ResolvedFile) : Except Failure (List TypeRecords) :=
  Plain.fileRecords r.config.extractOptions r.knows f.file.path (r.contentOf f) f.types

end Setting

/-- What is assumed about everything that occurs in a list of runs. -/
structure Distinguished (runs : List Setting) : Prop where
  /-- Different contents have different digests. -/
  contents : ∀ r ∈ runs, ∀ c ∈ r.contents, ∀ r' ∈ runs, ∀ c' ∈ r'.contents,
    sha256Hex c = sha256Hex c' → c = c'
  /-- Different options have different short digests. -/
  options : ∀ r ∈ runs, ∀ r' ∈ runs,
    r.config.extractOptions.salt = r'.config.extractOptions.salt →
      r.config.extractOptions.saltKey = r'.config.extractOptions.saltKey
  /-- Different lists of visible types have different short digests. -/
  visible : ∀ r ∈ runs, ∀ f ∈ r.keptFiles, ∀ r' ∈ runs, ∀ f' ∈ r'.keptFiles,
    visibilitySalt r.locations f.scope = visibilitySalt r'.locations f'.scope →
      visibilityKey r.locations f.scope = visibilityKey r'.locations f'.scope
  /-- No semicolon stands in an ignored kind. -/
  ignored : ∀ r ∈ runs, ∀ kind ∈ r.config.ignoredAnnotations.toList, ';' ∉ kind.toList
  /-- The scope of a file with kept types has the packages in which its names are looked for. -/
  scopes : ∀ r ∈ runs, ∀ f ∈ r.keptFiles, ∀ outline,
    Outline.ofSource? (Text.lossyText (r.contentOf f)).toList = some outline →
      ∀ package ∈ outline.scope.packages, package ∈ f.scope
  /-- The floating point numbers in the records are read back. -/
  reals : ∀ r ∈ runs, ∀ f ∈ r.keptFiles, ∀ records, r.records f = .ok records →
    ∀ x ∈ realsOfRecords records, ReadsBack x

/-- What a run files for the file at a path. -/
inductive Setting.Files (r : Setting) : Bucket → Path → StoredEntry → Prop
  | header {path : Path} {content : List UInt8} (hpath : path ∈ r.sources)
      (hread : r.tree.read path = .ok content) :
      Files r .resolve path ⟨.ofBytes content, (Plain.headerOf content).toJson.compact⟩
  | kept {path : Path} {content : List UInt8} {kept : List String} (hpath : path ∈ r.sources)
      (hread : r.tree.read path = .ok content)
      (hkept : Plain.keptAmong path content (Plain.headerOf content).types = .ok kept) :
      Files r .filter path ⟨.ofBytes content, (Json.array (kept.map .string)).compact⟩
  | records {f : ResolvedFile} {records : List TypeRecords} (hf : f ∈ r.keptFiles)
      (hrecords : r.records f = .ok records) :
      Files r .extract f.file.path
        ⟨recordsFingerprint r.config.extractOptions r.locations f,
          (recordsDocument records).compact⟩

/-- One of the runs files the entry for a path that has the key. -/
def Filed (runs : List Setting) (bucket : Bucket) (key : String) (e : StoredEntry) : Prop :=
  ∃ r ∈ runs, ∃ path : Path, path.text = key ∧ r.Files bucket path e

/-- Each entry is what one of the runs files. -/
def Valid (runs : List Setting) (store : MemoryStore) : Prop :=
  ∀ bucket key e, store.get? bucket key = some e → Filed runs bucket key e

theorem valid_empty (runs : List Setting) : Valid runs .empty := by
  intro bucket key e h
  cases bucket <;> cases h

theorem Valid.insert {runs : List Setting} {store : MemoryStore} (h : Valid runs store)
    {r : Setting} (hr : r ∈ runs) {bucket : Bucket} {path : Path} {e : StoredEntry}
    (he : r.Files bucket path e) : Valid runs (store.insert bucket path.text e) := by
  intro other key e' hget
  rw [Tables.get?_insert] at hget
  split at hget
  · rename_i hsame
    obtain ⟨rfl, rfl⟩ := hsame
    cases hget
    exact ⟨r, hr, path, rfl, he⟩
  · exact h other key e' hget

theorem Plain.bare_recordsIn {options : ExtractOptions} (h : options.captureArguments = false)
    (unit : CompilationUnit) (types : List String) :
    ∀ tr ∈ Plain.recordsIn options unit types, tr.records.Bare := by
  have harguments : ∀ a, options.argumentsOf a = [] := by
    intro a
    simp [ExtractOptions.argumentsOf, h]
  have hmembers : ∀ kind members, ∀ m ∈ options.memberRecords kind members, m.arguments = [] := by
    simp only [ExtractOptions.memberRecords, harguments, List.mem_flatMap, List.mem_map]
    rintro kind members m ⟨member, -, a, -, rfl⟩
    rfl
  have hextract : ∀ decl, (options.extract decl).Bare := by
    intro decl
    unfold ExtractOptions.extract
    split
    · exact ⟨nofun, nofun⟩
    · refine ⟨?_, List.forall_mem_append.2 ⟨hmembers _ _, hmembers _ _⟩⟩
      simp only [harguments, List.mem_map]
      rintro c ⟨a, -, rfl⟩
      rfl
  simp only [Plain.recordsIn, List.mem_filterMap, Option.map_eq_some_iff]
  rintro tr ⟨t, -, decl, -, rfl⟩
  exact hextract decl

namespace Setting

variable {r : Setting}

theorem mem_contents {path : Path} {content : List UInt8} (hpath : path ∈ r.sources)
    (hread : r.tree.read path = .ok content) : content ∈ r.contents := by
  rw [contents, List.mem_filterMap]
  refine ⟨path, hpath, ?_⟩
  rw [hread]
  rfl

theorem foundIn_resolution {resolution : Resolution} (h : r.resolution = .ok resolution) :
    ∀ f ∈ resolution.map.files, Plain.FoundIn r.tree r.sources f := by
  unfold Setting.resolution at h
  cases hprepare : Plain.prepare r.config r.tree with
  | error e => simp [hprepare, bind, Except.bind] at h
  | ok exclusion =>
    cases hsources : Plain.sources r.tree r.config.includePaths with
    | error e =>
      simp [hprepare, Plain.resolution, hsources, bind, Except.bind, Except.map] at h
    | ok paths =>
      simp only [hprepare, Plain.resolution, hsources, bind, Except.bind, Except.map,
        Except.ok.injEq] at h
      have hpaths : r.sources = paths.filter (!isExcluded exclusion ·) := by
        simp only [sources, hprepare, hsources]
      rw [hpaths, ← h]
      exact Plain.foundIn_resolution

/-- A file whose types are kept: it was read from the tree, its scope is that of its header, and its
types are those that are kept of the types of its header. -/
theorem of_mem_kept {map : ClassMap} (h : r.kept = .ok map) {f : ResolvedFile}
    (hf : f ∈ map.files) : r.tree.read f.file.path = .ok (r.contentOf f) ∧
      f.file.path ∈ r.sources ∧ f.file.fingerprint = .ofBytes (r.contentOf f) ∧
      f.scope = (Plain.headerOf (r.contentOf f)).scope ∧
      Plain.keptAmong f.file.path (r.contentOf f) (Plain.headerOf (r.contentOf f)).types =
        .ok f.types := by
  unfold Setting.kept at h
  cases hresolution : r.resolution with
  | error e => simp [hresolution, bind, Except.bind] at h
  | ok resolution =>
    simp only [hresolution, bind, Except.bind] at h
    obtain ⟨g, hg, heq, hkept⟩ := Plain.mem_kept h hf
    have hfound := foundIn_resolution hresolution g hg
    have hfile : f.file = g.file := by rw [heq]
    have hgtypes : g.types = (Plain.headerOf (r.contentOf f)).types := by
      rw [hfound.eq, contentOf, hfile]
      rfl
    have hgscope : g.scope = (Plain.headerOf (r.contentOf f)).scope := by
      rw [hfound.eq, contentOf, hfile]
      rfl
    have hgfingerprint : g.file.fingerprint = .ofBytes (r.contentOf f) := by
      rw [hfound.eq, contentOf, hfile]
      rfl
    refine ⟨?_, ?_, ?_, ?_, ?_⟩
    · rw [contentOf, hfile]
      exact hfound.read
    · rw [hfile]
      exact hfound.mem
    · rw [hfile]
      exact hgfingerprint
    · exact (congrArg ResolvedFile.scope heq).trans hgscope
    · rw [← hgtypes, contentOf, hfile]
      exact hkept

theorem of_mem_keptFiles {f : ResolvedFile} (hf : f ∈ r.keptFiles) :
    ∃ map, r.kept = .ok map ∧ f ∈ map.files ∧ f.types ≠ [] := by
  unfold keptFiles at hf
  cases hkept : r.kept with
  | error e => simp [hkept] at hf
  | ok map =>
    simp only [hkept, List.mem_filter] at hf
    exact ⟨map, rfl, hf.1, by simpa using hf.2⟩

theorem kept_of_resolution {resolution : Resolution} {map : ClassMap}
    (h : r.resolution = .ok resolution) (hkept : Plain.kept r.tree resolution.map = .ok map) :
    r.kept = .ok map := by
  simp only [kept, h, bind, Except.bind, hkept]

theorem mem_keptFiles {map : ClassMap} (hkept : r.kept = .ok map) {f : ResolvedFile}
    (hf : f ∈ map.files) (hne : f.types ≠ []) : f ∈ r.keptFiles := by
  simp only [keptFiles, hkept, List.mem_filter]
  exact ⟨hf, by simpa using hne⟩

theorem locations_of_resolution {resolution : Resolution} (h : r.resolution = .ok resolution) :
    r.locations = resolution.map.locations := by simp only [locations, h]

theorem mem_sources_of_prepare {exclusion : Option Pattern}
    (h : Plain.prepare r.config r.tree = .ok exclusion) (candidates : List Path)
    (hcandidates : Plain.sources r.tree r.config.includePaths = .ok candidates) :
    ∀ path ∈ candidates, isExcluded exclusion path = false → path ∈ r.sources := by
  intro path hpath hexcluded
  simp only [sources, h, hcandidates]
  exact List.mem_filter.2 ⟨hpath, by simp [hexcluded]⟩

/-- Whatever the files of a run hold, the names of its types come from their headers. -/
theorem scanned_locations (r : Setting) : Scanned r.locations := by
  unfold locations
  cases hresolution : r.resolution with
  | error e =>
    intro name hname
    cases hname
  | ok resolution => exact Plain.scanned_locations (foundIn_resolution hresolution)

theorem bare_of_not_captured (h : r.config.captureArguments = false)
    {f : ResolvedFile} {records : List TypeRecords} (hrecords : r.records f = .ok records) :
    ∀ tr ∈ records, tr.records.Bare := by
  unfold Setting.records Plain.fileRecords at hrecords
  split at hrecords
  · cases hrecords
    exact nofun
  · split at hrecords
    · cases hrecords
    · cases hrecords
      exact Plain.bare_recordsIn h _ _

theorem reals_of_not_captured (h : r.config.captureArguments = false)
    {f : ResolvedFile} {records : List TypeRecords} (hrecords : r.records f = .ok records) :
    realsOfRecords records = [] :=
  List.flatMap_eq_nil_iff.2 fun tr htr => (bare_of_not_captured h hrecords tr htr).reals_eq_nil

end Setting

abbrev ContentsApart (runs : List Setting) : Prop :=
  ∀ r ∈ runs, ∀ path ∈ r.sources, ∀ r' ∈ runs, ∀ path' ∈ r'.sources, path.text = path'.text →
    ∀ content content', r.tree.read path = .ok content → r'.tree.read path' = .ok content' →
      Fingerprint.ofBytes content = .ofBytes content' → content = content'

/-- Entries that different runs file under one key and one fingerprint are the same. -/
structure Apart (runs : List Setting) : Prop where
  contents : ContentsApart runs
  records : ∀ r ∈ runs, ∀ f ∈ r.keptFiles, ∀ r' ∈ runs, ∀ f' ∈ r'.keptFiles,
    f.file.key = f'.file.key →
    recordsFingerprint r.config.extractOptions r.locations f =
      recordsFingerprint r'.config.extractOptions r'.locations f' →
    ∀ records, r'.records f' = .ok records → r.records f = .ok records
  reals : ∀ r ∈ runs, ∀ f ∈ r.keptFiles, ∀ records, r.records f = .ok records →
    ∀ x ∈ realsOfRecords records, ReadsBack x

/-- Different contents that are read under one key have different digests. -/
def Setting.KeysTell (r : Setting) : Prop :=
  ∀ path ∈ r.sources, ∀ path' ∈ r.sources, path.text = path'.text →
    ∀ content content', r.tree.read path = .ok content → r.tree.read path' = .ok content' →
      sha256Hex content = sha256Hex content' → content = content'

/-- The same is read under one key. -/
def Setting.KeysAgree (r : Setting) : Prop := Plain.KeysAgree r.tree r.sources

theorem Setting.KeysAgree.tell {r : Setting} (h : r.KeysAgree) : r.KeysTell := by
  intro path hpath path' hpath' hkey content content' hread hread' _
  rw [h path hpath path' hpath' hkey, hread'] at hread
  exact (Except.ok.inj hread).symm

theorem Setting.keysAgree_of_text {r : Setting} (h : ∀ path ∈ r.sources, path.isText = true) :
    r.KeysAgree := by
  intro path hpath path' hpath' hkey
  rw [Path.eq_of_text (h path hpath) (h path' hpath') hkey]

section Support

variable {runs : List Setting} {r : Setting}

/-- Records that were filed under a fingerprint are the records of every file with that
fingerprint. -/
theorem records_eq_of_fingerprint (h : Distinguished runs) (hr : r ∈ runs) {r' : Setting}
    (hr' : r' ∈ runs) {f f' : ResolvedFile} (hf : f ∈ r.keptFiles) (hf' : f' ∈ r'.keptFiles)
    (heq : recordsFingerprint r.config.extractOptions r.locations f =
      recordsFingerprint r'.config.extractOptions r'.locations f')
    {records : List TypeRecords} (hrecords : r'.records f' = .ok records) :
    r.records f = .ok records := by
  obtain ⟨map, hmap, hmem, -⟩ := Setting.of_mem_keptFiles hf
  obtain ⟨map', hmap', hmem', -⟩ := Setting.of_mem_keptFiles hf'
  obtain ⟨hread, hpath, hfingerprint, hscope, htypes⟩ := Setting.of_mem_kept hmap hmem
  obtain ⟨hread', hpath', hfingerprint', hscope', htypes'⟩ := Setting.of_mem_kept hmap' hmem'
  rw [recordsFingerprint, recordsFingerprint, hfingerprint, hfingerprint'] at heq
  obtain ⟨hdigest, hsalt, hvisible⟩ := salted_parts heq
  have hcontent := h.contents r hr _ (Setting.mem_contents hpath hread) r' hr' _
    (Setting.mem_contents hpath' hread') hdigest
  have hoptions : r.config.extractOptions = r'.config.extractOptions :=
    ExtractOptions.saltKey_inj (ExtractOptions.unbroken_kinds rfl (h.ignored r hr))
      (ExtractOptions.unbroken_kinds rfl (h.ignored r' hr')) (h.options r hr r' hr' hsalt)
  have hkey := h.visible r hr f hf r' hr' f' hf' hvisible
  have hscopes : f.scope = f'.scope := by rw [hscope, hscope', hcontent]
  have htypeLists : visibleTypes r.locations f.scope = visibleTypes r'.locations f.scope := by
    rw [hscopes] at hkey ⊢
    exact visibilityKey_inj r.scanned_locations r'.scanned_locations hkey
  have hkeptTypes : f.types = f'.types := by
    have hsame := Plain.keptAmong_path htypes' f.file.path
    rw [← hcontent, htypes] at hsame
    exact Except.ok.inj hsame
  have hknown : Plain.fileRecords r.config.extractOptions r.knows f.file.path (r.contentOf f)
      f.types = Plain.fileRecords r.config.extractOptions r'.knows f.file.path (r.contentOf f)
      f.types := by
    apply Plain.fileRecords_known
    intro outline houtline name hname
    have hpackage := h.scopes r hr f hf outline houtline _ hname
    have hcontains := contains_eq_of_visibleTypes_eq htypeLists hpackage
    rw [Setting.knows, Setting.knows, Loader.knows, Loader.knows]
    exact congrArg (· || (KeyMap.empty : KeySet).contains name) hcontains
  rw [Setting.records, hknown, hoptions, hcontent, hkeptTypes]
  exact Plain.fileRecords_path hrecords _

theorem Distinguished.apart (h : Distinguished runs) : Apart runs where
  contents := by
    intro r hr path hpath r' hr' path' hpath' _ content content' hread hread' heq
    exact h.contents r hr content (Setting.mem_contents hpath hread) r' hr' content'
      (Setting.mem_contents hpath' hread') (congrArg Fingerprint.text heq)
  records := by
    intro r hr f hf r' hr' f' hf' _ heq records hrecords
    exact records_eq_of_fingerprint h hr hr' hf hf' heq hrecords
  reals := h.reals

/-- A single run files one entry for each content under a key. -/
theorem apart_single (hkeys : r.KeysTell) (hreals : ∀ f ∈ r.keptFiles, ∀ records,
    r.records f = .ok records → ∀ x ∈ realsOfRecords records, ReadsBack x) : Apart [r] where
  contents := by
    simp only [ContentsApart, List.forall_mem_singleton]
    intro path hpath path' hpath' hkey content content' hread hread' heq
    exact hkeys path hpath path' hpath' hkey content content' hread hread'
      (congrArg Fingerprint.text heq)
  records := by
    simp only [List.forall_mem_singleton]
    intro f hf f' hf' hkey heq records hrecords
    obtain ⟨map, hmap, hmem, -⟩ := Setting.of_mem_keptFiles hf
    obtain ⟨map', hmap', hmem', -⟩ := Setting.of_mem_keptFiles hf'
    obtain ⟨hread, hpath, hfingerprint, -, htypes⟩ := Setting.of_mem_kept hmap hmem
    obtain ⟨hread', hpath', hfingerprint', -, htypes'⟩ := Setting.of_mem_kept hmap' hmem'
    rw [recordsFingerprint, recordsFingerprint, hfingerprint, hfingerprint'] at heq
    have hcontent := hkeys _ hpath _ hpath' hkey _ _ hread hread' (salted_parts heq).1
    have hkeptTypes : f.types = f'.types := by
      have hsame := Plain.keptAmong_path htypes' f.file.path
      rw [← hcontent, htypes] at hsame
      exact Except.ok.inj hsame
    rw [Setting.records, hcontent, hkeptTypes]
    exact Plain.fileRecords_path hrecords _
  reals := by
    simpa only [List.forall_mem_singleton] using hreals

structure Describes (runs : List Setting) (inv : MemoryStore → Prop) : Prop where
  entry : ∀ store, inv store → ∀ bucket key e, bucket ≠ .extract →
    store.get? bucket key = some e → Filed runs bucket key e
  insert : ∀ store, inv store → ∀ r ∈ runs, ∀ bucket path e, r.Files bucket path e →
    inv (store.insert bucket path.text e)

theorem describes_valid (runs : List Setting) : Describes runs (Valid runs) :=
  ⟨fun _ hvalid bucket key e _ hget => hvalid bucket key e hget,
    fun _ hvalid _ hr _ _ _ he => hvalid.insert hr he⟩

variable {inv : MemoryStore → Prop}

theorem headerMemo (hd : Describes runs inv) (h : ContentsApart runs) (hr : r ∈ runs) {path : Path}
    {content : List UInt8} (hpath : path ∈ r.sources) (hread : r.tree.read path = .ok content) :
    HeaderMemo inv path content := by
  constructor
  · rintro store v hstore ⟨payload, hget, hrun⟩
    obtain ⟨r', hr', path', hkey, he⟩ := hd.entry store hstore .resolve _ _ nofun hget
    generalize hentry : StoredEntry.mk (.ofBytes content) payload = e at he
    cases he with
    | header hpath' hread' =>
      obtain ⟨hfingerprint, rfl⟩ := StoredEntry.mk.inj hentry
      have hcontent := h r hr _ hpath r' hr' _ hpath' hkey.symm _ _ hread hread' hfingerprint
      rw [run_header, ← hcontent] at hrun
      cases hrun
      rfl
  · rintro store v hstore hv
    cases hv
    exact hd.insert store hstore r hr _ _ _ (.header hpath hread)

theorem keptMemo (hd : Describes runs inv) (h : ContentsApart runs) (hr : r ∈ runs)
    {f : ResolvedFile} (hf : Plain.FoundIn r.tree r.sources f) : KeptMemo inv r.tree f := by
  have hfingerprint : f.file.fingerprint = .ofBytes (Plain.contentAt r.tree f.file.path) := by
    rw [hf.eq]
    rfl
  have htypes : f.types = (Plain.headerOf (Plain.contentAt r.tree f.file.path)).types := by
    rw [hf.eq]
    rfl
  rw [KeptMemo, hfingerprint, htypes]
  constructor
  · rintro store v hstore ⟨payload, hget, hrun⟩
    obtain ⟨r', hr', path', hkey, he⟩ := hd.entry store hstore .filter _ _ nofun hget
    generalize hentry : StoredEntry.mk _ payload = e at he
    cases he with
    | kept hpath' hread' hkept =>
      obtain ⟨heq, rfl⟩ := StoredEntry.mk.inj hentry
      have hcontent := h r hr _ hf.mem r' hr' _ hpath' hkey.symm _ _ hf.read hread' heq
      rw [Decoder.run_texts] at hrun
      cases hrun
      rw [hcontent]
      exact Plain.keptAmong_path hkept f.file.path
  · rintro store v hstore hv
    exact hd.insert store hstore r hr _ _ _ (.kept hf.mem hf.read hv)

theorem recordsMemo (h : Apart runs) (hr : r ∈ runs) {f : ResolvedFile}
    (hf : f ∈ r.keptFiles) :
    RecordsMemo (Valid runs) r.config.extractOptions { locations := r.locations } r.tree f := by
  constructor
  · rintro store v hvalid ⟨payload, hget, hrun⟩
    obtain ⟨r', hr', path, hkey, he⟩ := hvalid _ _ _ hget
    change r.records f = .ok v
    generalize hentry : StoredEntry.mk _ payload = e at he
    cases he with
    | records hf' hrecords =>
      obtain ⟨heq, rfl⟩ := StoredEntry.mk.inj hentry
      have hsame := h.records r hr f hf r' hr' _ hf' hkey.symm heq _ hrecords
      rw [run_records (h.reals r' hr' _ hf' _ hrecords)] at hrun
      split at hrun
      · cases hrun
        exact hsame
      · cases hrun
  · rintro store v hvalid hv
    exact hvalid.insert hr (.records hf hv)

variable {exclusion : Option Pattern}

theorem Setting.resolution_of_prepare (hprepare : Plain.prepare r.config r.tree = .ok exclusion) :
    r.resolution = Plain.resolution r.tree (isExcluded exclusion) r.config.includePaths := by
  simp only [Setting.resolution, hprepare, bind, Except.bind]

theorem headersMemo (hd : Describes runs inv) (h : ContentsApart runs) (hr : r ∈ runs)
    (hprepare : Plain.prepare r.config r.tree = .ok exclusion) :
    ∀ paths, Plain.sources r.tree r.config.includePaths = .ok paths → ∀ path ∈ paths, ∀ content,
      isExcluded exclusion path = false → r.tree.read path = .ok content →
        HeaderMemo inv path content := by
  intro paths hpaths path hpath content hexcluded hread
  have hsource := Setting.mem_sources_of_prepare hprepare paths hpaths path hpath hexcluded
  exact headerMemo hd h hr hsource hread

theorem keptMemos (hd : Describes runs inv) (h : ContentsApart runs) (hr : r ∈ runs)
    (hprepare : Plain.prepare r.config r.tree = .ok exclusion) {resolution : Resolution}
    (hresolution : Plain.resolution r.tree (isExcluded exclusion) r.config.includePaths =
      .ok resolution) :
    ∀ f ∈ resolution.map.files, Readable r.tree f ∧ KeptMemo inv r.tree f := by
  intro f hf
  rw [← Setting.resolution_of_prepare hprepare] at hresolution
  have hfound := Setting.foundIn_resolution hresolution f hf
  exact ⟨⟨_, hfound.read⟩, keptMemo hd h hr hfound⟩

/-- Under a valid store, everything that a run files may be filed. -/
theorem runMemo (h : Apart runs) (hr : r ∈ runs)
    (hprepare : Plain.prepare r.config r.tree = .ok exclusion) :
    RunMemo (Valid runs) r.config exclusion r.tree := by
  refine ⟨headersMemo (describes_valid runs) h.contents hr hprepare,
    fun _ => keptMemos (describes_valid runs) h.contents hr hprepare, ?_⟩
  intro resolution map heq hmap f hf hne
  rw [← Setting.resolution_of_prepare hprepare] at heq
  have hkept := Setting.kept_of_resolution heq hmap
  have hmemo := recordsMemo h hr (Setting.mem_keptFiles hkept hf hne)
  rw [Setting.locations_of_resolution heq] at hmemo
  exact ⟨⟨_, (Setting.of_mem_kept hkept hf).1⟩, hmemo⟩

end Support

end AnnotationIndex
