import AnnotationIndex.Proofs.Files.Links

/-!
# Directories on the way

Making a directory with all that lead to it adds only directories on the way there. A path finds
nothing new through them, unless it goes into one that was missing and leads up again.
-/

namespace AnnotationIndex.LinkedTree

open FileTree

variable {t t' t'' : LinkedTree} {p q : Path} {l m : Location} {content : List UInt8}
variable {s : Slot} {links : Nat}

/-- One directory is made on the way to the path. -/
def MakesTo (p : Path) (t t' : LinkedTree) : Prop :=
  ∃ q : Path, q.OnTheWay p ∧ t.makeDirectory q = .ok t'

/-- Some directories are made on the way to the path. -/
def MadeTo (p : Path) : LinkedTree → LinkedTree → Prop := Relation.ReflTransGen (MakesTo p)

/-- There may be more directories, and nothing else is different. -/
structure MoreDirectories (t t' : LinkedTree) : Prop extends WaysKept t t' where
  contents : t'.contents = t.contents
  entries : ∀ l, t'.entryAt l = t.entryAt l ∨ t.entryAt l = none ∧ t'.entryAt l = some .directory

theorem MoreDirectories.refl (t : LinkedTree) : MoreDirectories t t :=
  ⟨.refl t, rfl, fun _ => .inl rfl⟩

theorem MoreDirectories.trans (h : MoreDirectories t t') (h' : MoreDirectories t' t'') :
    MoreDirectories t t'' := by
  refine ⟨h.toWaysKept.trans h'.toWaysKept, h'.contents.trans h.contents, fun l => ?_⟩
  rcases h'.entries l with hsame | ⟨hnone, hentry⟩
  · rw [hsame]
    exact h.entries l
  · rcases h.entries l with hsame' | ⟨-, hentry'⟩
    · exact .inr ⟨hsame'.symm.trans hnone, hentry⟩
    · rw [hnone] at hentry'
      cases hentry'

theorem slot_of_makeDirectory (h : t.makeDirectory p = .ok t') : ∃ s, t.slot? p = .ok (some s) ∧
    t.entryAt s.location = none ∧ t' = t.place s.location .directory := by
  unfold makeDirectory at h
  split at h
  · cases h
  · cases h
  · rename_i s hs
    split at h
    · cases h
    · rename_i hnone
      exact ⟨s, hs, hnone, (Except.ok.inj h).symm⟩

theorem MakesTo.more (h : MakesTo p t t') : MoreDirectories t t' := by
  obtain ⟨q, -, hmake⟩ := h
  obtain ⟨s, -, hnone, rfl⟩ := slot_of_makeDirectory hmake
  have hentry := entryAt_place (t := t) s.location_ne_nil .directory
  refine ⟨(sameBut_place s.location_ne_nil _).ways ?_ ?_, rfl, fun l => ?_⟩
  · simp [hnone]
  · simp [target?, hentry, hnone]
  · rw [hentry]
    split
    · rename_i heq
      exact .inr ⟨heq ▸ hnone, rfl⟩
    · exact .inl rfl

theorem MadeTo.more (h : MadeTo p t t') : MoreDirectories t t' := by
  induction h with
  | refl => exact .refl t
  | tail _ hmake ih => exact ih.trans hmake.more

theorem MadeTo.above {parent : Path} (h : MadeTo parent t t') (hparent : p.parent? = some parent) :
    MadeTo p t t' := by
  induction h with
  | refl => exact .refl
  | tail _ hmake ih =>
    obtain ⟨q, hq, hmake⟩ := hmake
    exact ih.tail ⟨q, .above hparent hq, hmake⟩

theorem MoreDirectories.read (h : MoreDirectories t t') (hread : t.read p = .ok content) :
    t'.read p = .ok content := by
  obtain ⟨l, hlocate, hcontent⟩ := read_eq_ok_iff.1 hread
  refine read_eq_ok_iff.2 ⟨l, h.toWaysKept.locate hlocate, ?_⟩
  have hentry : t'.entryAt l = t.entryAt l := by
    refine (h.entries l).resolve_right fun ⟨hnone, _⟩ => ?_
    simp [content?, hnone] at hcontent
  rw [content?, hentry, h.contents]
  exact hcontent

/-- Everything lies in a directory. -/
def Grounded (t : LinkedTree) : Prop :=
  ∀ l name entry, t.entryAt (l ++ [name]) = some entry → t.entryAt l = some .directory

/-- The path goes into a directory that is not there, and leads up afterwards. -/
def LeadsUpFromMissing (t : LinkedTree) (p : Path) : Prop :=
  ∃ front name rest l, p.components = front ++ .name name :: rest ∧ .parent ∈ rest ∧
    t.walk linkLimit t.current front = .ok l ∧ t.entryAt l = some .directory ∧
    t.entryAt (l ++ [name]) = none

/-- There is nothing at the location and below it, or there are directories only. -/
def Hollow (t : LinkedTree) (l : Location) : Prop :=
  ∀ below, t.entryAt (l ++ below) = none ∨ t.entryAt (l ++ below) = some .directory

theorem Grounded.none_below (h : t.Grounded) (hnone : t.entryAt l = none) (below : Location) :
    t.entryAt (l ++ below) = none := by
  induction below using List.reverseRecOn with
  | nil => rwa [List.append_nil]
  | append_singleton below name ih =>
    cases hentry : t.entryAt (l ++ (below ++ [name])) with
    | none => rfl
    | some entry =>
      rw [← List.append_assoc] at hentry
      rw [h _ _ _ hentry] at ih
      cases ih

theorem Hollow.target (h : t.Hollow l) (below : Location) : t.target? (l ++ below) = none := by
  rcases h below with hentry | hentry <;> rw [target?, hentry]

theorem Hollow.stride (h : t.Hollow l) {components : List Path.Component}
    (hdown : ∀ c ∈ components, c = .here ∨ ∃ name, c = .name name) (below : Location) :
    (∃ fault, t.stride (l ++ below) components = .fails fault) ∨
      ∃ below', t.stride (l ++ below) components = .arrives (l ++ below') := by
  induction components generalizing below with
  | nil => exact .inr ⟨below, rfl⟩
  | cons c rest ih =>
    obtain ⟨hc, hrest⟩ := List.forall_mem_cons.1 hdown
    rcases h below with hentry | hentry
    · exact .inl ⟨.notFound, by simp only [LinkedTree.stride, hentry]⟩
    · simp only [LinkedTree.stride, hentry]
      rcases hc with rfl | ⟨name, rfl⟩
      · exact ih hrest below
      · have htarget := h.target (below ++ [name])
        dsimp only
        split
        · exact .inl ⟨_, rfl⟩
        · rw [List.append_assoc, htarget]
          exact ih hrest (below ++ [name])

theorem Hollow.unreadable (h : t.Hollow l) {components : List Path.Component}
    (hdown : ∀ c ∈ components, c = .here ∨ ∃ name, c = .name name)
    (hwalk : t.walk links l components = .ok m) : t.content? m = none := by
  have hstride := h.stride hdown []
  rw [List.append_nil] at hstride
  rw [walk.eq_def] at hwalk
  rcases hstride with ⟨fault, hstride⟩ | ⟨below, hstride⟩
  · rw [hstride] at hwalk
    cases hwalk
  · rw [hstride] at hwalk
    cases hwalk
    rcases h below with hentry | hentry <;> rw [content?, hentry]

/-- A path that does not lead up finds nothing in a directory that was made on the way to it. -/
theorem MadeTo.unreadable (h : MadeTo q t t') (hq : q.components <+: p.components)
    (hgrounded : t.Grounded) (hup : ¬t.LeadsUpFromMissing p) :
    t' = t ∨ ∀ content, t'.read p ≠ .ok content := by
  rcases h.cases_head with heq | ⟨first, ⟨r, hr, hmake⟩, -⟩
  · exact .inl heq.symm
  · refine .inr fun content hread => ?_
    obtain ⟨s, hs, hnone, -⟩ := slot_of_makeDirectory hmake
    obtain ⟨-, hwalk, hentry, hname, hlimit, -⟩ := slot?_eq_some_iff.1 hs
    obtain ⟨rest, hrest⟩ := hr.components.trans hq
    rw [components_of_lastName hname, List.append_assoc, List.singleton_append] at hrest
    -- After the first directory that is made the path leads down.
    have hdown : ∀ c ∈ rest, ∃ name, c = .name name := by
      intro c hc
      refine (Path.of_mem_tail (p := p) ?_).resolve_left fun heq => hup ?_
      · rw [← hrest]
        cases parentComponents r with
        | nil => exact hc
        | cons first front => exact List.mem_append_right front (List.mem_cons_of_mem _ hc)
      · exact ⟨_, _, rest, s.parent, hrest.symm, heq ▸ hc, hwalk, hentry, hnone⟩
    have hmore := h.more
    have hhollow : t'.Hollow s.location := by
      intro below
      have hbelow := hgrounded.none_below hnone below
      exact (hmore.entries _).imp (·.trans hbelow) (·.2)
    obtain ⟨l, hlocate, hcontent⟩ := read_eq_ok_iff.1 hread
    obtain ⟨-, hway⟩ := locate_eq_ok_iff.1 hlocate
    rw [Path.steps, ← hrest, List.append_assoc, List.cons_append] at hway
    obtain ⟨left, hleft⟩ := walk_append_of_ok (hmore.current ▸ hmore.toWaysKept.walk hwalk)
    have htarget : t'.target? (s.parent ++ [s.name]) = none := by
      simpa [Slot.location] using hhollow.target []
    rw [hleft, walk_name (hmore.directory _ hentry) hlimit htarget] at hway
    have hsteps : ∀ c ∈ rest ++ (if p.leadsToDirectory then [.here] else []),
        c = .here ∨ ∃ name, c = .name name := by
      intro c hc
      rcases List.mem_append.1 hc with hc | hc
      · exact .inr (hdown c hc)
      · split at hc
        · exact .inl (List.mem_singleton.1 hc)
        · cases hc
    rw [hhollow.unreadable hsteps hway] at hcontent
    cases hcontent

end AnnotationIndex.LinkedTree
