import AnnotationIndex.Files.Links
import AnnotationIndex.Proofs.Data.KeyMap
import AnnotationIndex.Proofs.Files.Parents
import Mathlib.Logic.Relation

/-!
# What paths lead to through links

Where a path leads is decided by the directories and the links on its way. Where these are the same,
a path leads to the same location. Directories that are made on the way to a path are such a change,
and the path finds nothing new through them unless it goes into one of them and leads up again.
-/

namespace AnnotationIndex

/-- The first path is the second one or leads to it: it is a parent of it, or a parent's parent. -/
inductive Path.OnTheWay : Path → Path → Prop
  | here (p : Path) : OnTheWay p p
  | above {q parent p : Path} (h : p.parent? = some parent) (hq : OnTheWay q parent) : OnTheWay q p

theorem Path.OnTheWay.components {q p : Path} (h : q.OnTheWay p) :
    q.components <+: p.components := by
  induction h with
  | here => exact List.prefix_rfl
  | above h _ ih => exact ih.trans (components_parent h)

theorem Path.of_mem_tail {p : Path} {c : Component} (h : c ∈ p.components.tail) :
    c = .parent ∨ ∃ name, c = .name name := by
  have hpieces : ∀ d ∈ (Text.splitWhere (· == slash) p.bytes).filterMap componentOf?,
      d = .parent ∨ ∃ name, d = .name name :=
    fun d hd => (mem_components_of_pieces hd).imp_right fun ⟨name, hname, _⟩ => ⟨name, hname⟩
  unfold components at h
  dsimp only at h
  split at h
  · exact hpieces c h
  · split at h
    · exact hpieces c h
    · exact hpieces c (List.mem_of_mem_tail h)

namespace LinkedTree

open FileTree

variable {t t' t'' : LinkedTree} {p q : Path} {l l' m : Location} {content : List UInt8}
variable {entry : Entry} {s : Slot} {id links : Nat} {places : List Location}

theorem entryAt_place (hl : l ≠ []) (entry : Entry) (l' : Location) :
    (t.place l entry).entryAt l' = if l' = l then some entry else t.entryAt l' := by
  unfold entryAt place
  by_cases hroot : l' = []
  · simp [hroot, Ne.symm hl]
  · simp [hroot, KeyMap.get?_insert]

theorem entryAt_remove (hl : l ≠ []) (l' : Location) :
    (t.remove l).entryAt l' = if l' = l then none else t.entryAt l' := by
  unfold entryAt remove
  by_cases hroot : l' = []
  · simp [hroot, Ne.symm hl]
  · simp [hroot, KeyMap.get?_erase]

theorem target?_congr (h : t'.entryAt l = t.entryAt l) : t'.target? l = t.target? l := by
  rw [target?, target?, h]

/-- Whatever is a directory in one tree is one in the other, and the links are the same. -/
structure WaysKept (t t' : LinkedTree) : Prop where
  current : t'.current = t.current
  directory : ∀ l, t.entryAt l = some .directory → t'.entryAt l = some .directory
  target : ∀ l, t'.target? l = t.target? l

theorem WaysKept.refl (t : LinkedTree) : WaysKept t t := ⟨rfl, fun _ h => h, fun _ => rfl⟩

theorem WaysKept.trans (h : WaysKept t t') (h' : WaysKept t' t'') : WaysKept t t'' :=
  ⟨h'.current.trans h.current, fun l hl => h'.directory l (h.directory l hl),
    fun l => (h'.target l).trans (h.target l)⟩

theorem WaysKept.stride (h : WaysKept t t') (l : Location) (components : List Path.Component) :
    t'.stride l components = t.stride l components ∨
      ∃ fault, t.stride l components = .fails fault := by
  induction components generalizing l with
  | nil => exact .inl rfl
  | cons c rest ih =>
    cases hentry : t.entryAt l with
    | none => exact .inr ⟨.notFound, by simp only [LinkedTree.stride, hentry]⟩
    | some entry =>
      cases entry with
      | directory =>
        simp only [LinkedTree.stride, hentry, h.directory l hentry]
        cases c with
        | root => exact ih []
        | here => exact ih l
        | parent => exact ih l.dropLast
        | name name =>
          simp only [h.target]
          split
          · exact .inl rfl
          · split
            · exact ih (l ++ [name])
            · exact .inl rfl
      | file id => exact .inr ⟨.notADirectory, by simp only [LinkedTree.stride, hentry]⟩
      | link target => exact .inr ⟨.notADirectory, by simp only [LinkedTree.stride, hentry]⟩
      | device => exact .inr ⟨.notADirectory, by simp only [LinkedTree.stride, hentry]⟩

theorem WaysKept.walk (h : WaysKept t t') {components : List Path.Component}
    (hwalk : t.walk links l components = .ok m) : t'.walk links l components = .ok m := by
  induction links generalizing l components with
  | zero =>
    unfold LinkedTree.walk at hwalk ⊢
    rcases h.stride l components with hsame | ⟨fault, hfails⟩
    · rwa [hsame]
    · rw [hfails] at hwalk
      cases hwalk
  | succ links ih =>
    unfold LinkedTree.walk at hwalk ⊢
    rcases h.stride l components with hsame | ⟨fault, hfails⟩
    · rw [hsame]
      cases hstride : t.stride l components with
      | fails fault =>
        rw [hstride] at hwalk
        cases hwalk
      | arrives m' => rwa [hstride] at hwalk
      | turns m' rest =>
        rw [hstride] at hwalk
        exact ih hwalk
    · rw [hfails] at hwalk
      cases hwalk

theorem locate_eq_ok_iff : t.locate p = .ok l ↔
    pathFault? p = none ∧ t.walk linkLimit t.current p.steps = .ok l := by
  unfold locate
  split <;> simp_all

theorem WaysKept.locate (h : WaysKept t t') (hlocate : t.locate p = .ok l) :
    t'.locate p = .ok l := by
  obtain ⟨hfault, hwalk⟩ := locate_eq_ok_iff.1 hlocate
  exact locate_eq_ok_iff.2 ⟨hfault, h.current ▸ h.walk hwalk⟩

theorem slot?_eq_some_iff : t.slot? p = .ok (some s) ↔ pathFault? p = none ∧
    t.walk linkLimit t.current (parentComponents p) = .ok s.parent ∧
      t.entryAt s.parent = some .directory ∧ lastName? p = some s.name ∧
      ¬nameLimit < s.name.length ∧ s.asDirectory = p.leadsToDirectory := by
  constructor
  · intro h
    unfold slot? at h
    split at h
    · cases h
    · rename_i hfault
      split at h
      · cases h
      · rename_i parent hwalk
        split at h
        · cases h
        · rename_i hentry
          split at h
          · cases h
          · rename_i name hname
            split at h
            · cases h
            · rename_i hlimit
              cases h
              exact ⟨hfault, hwalk, hentry, hname, hlimit, rfl⟩
        · cases h
  · rintro ⟨hfault, hwalk, hentry, hname, hlimit, hdirectory⟩
    simp only [slot?, hfault, hwalk, hentry, hname, if_neg hlimit, ← hdirectory]

theorem WaysKept.slot (h : WaysKept t t') (hs : t.slot? p = .ok (some s)) :
    t'.slot? p = .ok (some s) := by
  obtain ⟨hfault, hwalk, hentry, hrest⟩ := slot?_eq_some_iff.1 hs
  exact slot?_eq_some_iff.2 ⟨hfault, h.current ▸ h.walk hwalk, h.directory _ hentry, hrest⟩

theorem stride_append (t : LinkedTree) (l : Location) (front rest : List Path.Component) :
    t.stride l (front ++ rest) = match t.stride l front with
      | .fails fault => .fails fault
      | .arrives m => t.stride m rest
      | .turns m more => .turns m (more ++ rest) := by
  induction front generalizing l with
  | nil => rfl
  | cons c front ih =>
    simp only [List.cons_append, stride]
    split
    · rfl
    · cases c with
      | root => exact ih []
      | here => exact ih l
      | parent => exact ih l.dropLast
      | name name =>
        dsimp only
        split
        · rfl
        · split
          · exact ih (l ++ [name])
          · split
            · rfl
            · simp only [List.append_assoc]
    · rfl

/-- A way fails in its first part or goes on from where that leads, through the links that are left. -/
theorem walk_append (t : LinkedTree) (links : Nat) (l : Location) (front : List Path.Component) :
    (∃ fault, ∀ rest, t.walk links l (front ++ rest) = .error fault) ∨
      ∃ m left, t.walk links l front = .ok m ∧
        ∀ rest, t.walk links l (front ++ rest) = t.walk left m rest := by
  induction links generalizing l front with
  | zero =>
    cases hstride : t.stride l front with
    | fails fault => exact .inl ⟨fault, fun rest => by rw [walk, stride_append, hstride]⟩
    | arrives m =>
      refine .inr ⟨m, 0, by rw [walk, hstride], fun rest => ?_⟩
      rw [walk, stride_append, hstride, walk]
    | turns m more =>
      exact .inl ⟨.tooManyLinks, fun rest => by rw [walk, stride_append, hstride]⟩
  | succ links ih =>
    cases hstride : t.stride l front with
    | fails fault => exact .inl ⟨fault, fun rest => by rw [walk, stride_append, hstride]⟩
    | arrives m =>
      refine .inr ⟨m, links + 1, by rw [walk, hstride], fun rest => ?_⟩
      rw [walk, stride_append, hstride, walk]
    | turns m more =>
      have hwalk : ∀ rest, t.walk (links + 1) l (front ++ rest) = t.walk links m (more ++ rest) :=
        fun rest => by rw [walk, stride_append, hstride]
      simp only [hwalk]
      rw [walk, hstride]
      exact ih m more

theorem walk_append_of_ok {front : List Path.Component} (h : t.walk links l front = .ok m) :
    ∃ left, ∀ rest, t.walk links l (front ++ rest) = t.walk left m rest := by
  rcases t.walk_append links l front with ⟨fault, herror⟩ | ⟨m', left, hfront, hrest⟩
  · rw [← List.append_nil front, herror] at h
    cases h
  · cases h.symm.trans hfront
    exact ⟨left, hrest⟩

theorem walk_name {name : List UInt8} (hentry : t.entryAt l = some .directory)
    (hlimit : ¬nameLimit < name.length) (hlink : t.target? (l ++ [name]) = none)
    (rest : List Path.Component) :
    t.walk links l (.name name :: rest) = t.walk links (l ++ [name]) rest := by
  have hstride : t.stride l (.name name :: rest) = t.stride (l ++ [name]) rest := by
    rw [stride]
    simp only [hentry, if_neg hlimit, hlink]
  rw [walk.eq_def, hstride, ← walk.eq_def]

theorem locate_of_slot (hs : t.slot? p = .ok (some s)) (hnamed : s.asDirectory = false)
    (hlink : t.target? s.location = none) : t.locate p = .ok s.location := by
  obtain ⟨hfault, hwalk, hentry, hname, hlimit, hdirectory⟩ := slot?_eq_some_iff.1 hs
  obtain ⟨left, hleft⟩ := walk_append_of_ok hwalk
  have hend : t.walk left s.parent [.name s.name] = .ok s.location := by
    rw [walk_name hentry hlimit hlink, walk.eq_def, stride]
    rfl
  refine locate_eq_ok_iff.2 ⟨hfault, ?_⟩
  rw [Path.steps, ← hdirectory, hnamed, components_of_lastName hname, if_neg Bool.false_ne_true,
    List.append_nil, hleft, hend]

theorem read_eq_ok_iff : t.read p = .ok content ↔
    ∃ l, t.locate p = .ok l ∧ t.content? l = some content := by
  unfold read
  split
  · simp_all
  · rename_i l hlocate
    split
    · simp_all
    · simp_all

/-- Nothing is different but what is at some places. -/
structure SameBut (places : List Location) (t t' : LinkedTree) : Prop where
  current : t'.current = t.current
  entries : ∀ l, l ∉ places → t'.entryAt l = t.entryAt l
  contents : ∀ l, l ∉ places → t'.content? l = t.content? l

theorem SameBut.refl (places : List Location) (t : LinkedTree) : SameBut places t t :=
  ⟨rfl, fun _ _ => rfl, fun _ _ => rfl⟩

theorem SameBut.trans (h : SameBut places t t') (h' : SameBut places t' t'') :
    SameBut places t t'' :=
  ⟨h'.current.trans h.current, fun l hl => (h'.entries l hl).trans (h.entries l hl),
    fun l hl => (h'.contents l hl).trans (h.contents l hl)⟩

theorem SameBut.symm (h : SameBut places t t') : SameBut places t' t :=
  ⟨h.current.symm, fun l hl => (h.entries l hl).symm, fun l hl => (h.contents l hl).symm⟩

theorem SameBut.mono {more : List Location} (h : SameBut places t t') (hsub : places ⊆ more) :
    SameBut more t t' :=
  ⟨h.current, fun l hl => h.entries l (mt (@hsub l) hl), fun l hl => h.contents l (mt (@hsub l) hl)⟩

theorem SameBut.ways (h : SameBut places t t')
    (hdirectory : ∀ l ∈ places, t.entryAt l ≠ some .directory)
    (htarget : ∀ l ∈ places, t'.target? l = t.target? l) : WaysKept t t' := by
  refine ⟨h.current, fun l hl => ?_, fun l => ?_⟩
  · rwa [h.entries l fun hmem => hdirectory l hmem hl]
  · by_cases hmem : l ∈ places
    · exact htarget l hmem
    · exact target?_congr (h.entries l hmem)

theorem SameBut.read (h : SameBut places t t') (hways : WaysKept t t')
    (helsewhere : ∀ l ∈ places, t.locate p ≠ .ok l) (hread : t.read p = .ok content) :
    t'.read p = .ok content := by
  obtain ⟨l, hlocate, hcontent⟩ := read_eq_ok_iff.1 hread
  have hmem : l ∉ places := fun hmem => helsewhere l hmem hlocate
  exact read_eq_ok_iff.2 ⟨l, hways.locate hlocate, (h.contents l hmem).trans hcontent⟩

theorem sameBut_of_entries (hcurrent : t'.current = t.current) (hcontents : t'.contents = t.contents)
    (hentries : ∀ l, l ∉ places → t'.entryAt l = t.entryAt l) : SameBut places t t' := by
  refine ⟨hcurrent, hentries, fun l hl => ?_⟩
  rw [content?, content?, hentries l hl, hcontents]

theorem sameBut_remove (hl : l ≠ []) : SameBut [l] t (t.remove l) := by
  refine sameBut_of_entries rfl rfl fun l' hl' => ?_
  rw [entryAt_remove hl, if_neg (by simpa using hl')]

theorem sameBut_place (hl : l ≠ []) (entry : Entry) : SameBut [l] t (t.place l entry) := by
  refine sameBut_of_entries rfl rfl fun l' hl' => ?_
  rw [entryAt_place hl, if_neg (by simpa using hl')]

/-- There is a file at the location that has no other name. -/
def FileAt (t : LinkedTree) (l : Location) (id : Nat) : Prop :=
  t.entryAt l = some (.file id) ∧ ∀ l', t.entryAt l' = some (.file id) → l' = l

theorem FileAt.target (h : t.FileAt l id) : t.target? l = none := by rw [target?, h.1]

/-- A file was written at a location, where there was no other file or nothing. -/
structure Written (l : Location) (content : List UInt8) (t t' : LinkedTree) : Prop
    extends SameBut [l] t t' where
  ways : WaysKept t t'
  back : WaysKept t' t
  file : ∃ id, t'.FileAt l id ∧ t'.contents id = content

theorem SameBut.written (h : SameBut [l] t t') (hfree : t.entryAt l ≠ some .directory)
    (hlink : t.target? l = none) (hfile : t'.FileAt l id) (hcontent : t'.contents id = content) :
    Written l content t t' := by
  have htarget : t'.target? l = t.target? l := hfile.target.trans hlink.symm
  have hfree' : t'.entryAt l ≠ some .directory := by simp [hfile.1]
  refine ⟨h, h.ways ?_ ?_, h.symm.ways ?_ ?_, id, hfile, hcontent⟩ <;>
    rw [List.forall_mem_singleton]
  · exact hfree
  · exact htarget
  · exact hfree'
  · exact htarget.symm

theorem removed_of_removeFile (h : t.removeFile p = .ok t') (hs : t.slot? p = .ok (some s))
    (hfile : t.FileAt s.location id) : t' = t.remove s.location := by
  unfold removeFile at h
  simp only [hs, hfile.1] at h
  split at h
  · cases h
  · exact (Except.ok.inj h).symm

structure Moved (l l' : Location) (id : Nat) (t t' : LinkedTree) : Prop
    extends SameBut [l', l] t t' where
  gone : t'.entryAt l = none
  file : t'.entryAt l' = some (.file id)
  sameContents : t'.contents = t.contents

theorem Moved.target (h : Moved l l' id t t') : ∀ m ∈ [l', l], t'.target? m = none := by
  simp [target?, h.gone, h.file]

end LinkedTree

end AnnotationIndex
