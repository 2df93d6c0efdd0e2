import Mathlib.Data.List.Induction
import AnnotationIndex.Proofs.Data.KeyMap
import AnnotationIndex.Proofs.Files.Tree

/-!
# Trees with more directories

Making directories changes no file, so a path that led to a file leads to it afterwards. A path that
led to none leads to none afterwards, provided that everything lies in a directory and that the path
does not lead up. A new directory can be left again by a path that leads up, and so opens a way to
files that were there before.
-/

namespace AnnotationIndex

namespace FileTree

variable {t t' t'' : FileTree} {p : Path} {l l' : Location} {content : List UInt8}

/-- There may be more directories, and nothing else is different. -/
structure DirectoriesAdded (t t' : FileTree) : Prop extends DirectoriesIn t t' where
  file : ∀ l content, t'.node? l = some (.file content) ↔ t.node? l = some (.file content)

theorem DirectoriesAdded.refl (t : FileTree) : DirectoriesAdded t t :=
  ⟨⟨rfl, fun _ h => h⟩, fun _ _ => .rfl⟩

theorem DirectoriesAdded.trans (h : DirectoriesAdded t t') (h' : DirectoriesAdded t' t'') :
    DirectoriesAdded t t'' :=
  ⟨⟨h'.current.trans h.current, fun l hl => h'.directory l (h.directory l hl)⟩,
    fun l content => (h'.file l content).trans (h.file l content)⟩

theorem directoriesAdded_makeDirectory (h : t.makeDirectory p = .ok t') :
    DirectoriesAdded t t' := by
  unfold makeDirectory at h
  split at h
  · cases h
  · cases h
  · rename_i s _
    split at h
    · cases h
    · rename_i hnone
      cases h
      refine ⟨directoriesIn_place s.location_ne_nil (by simp [hnone]) _, fun l content => ?_⟩
      rw [node?_place]
      split
      · rename_i hsame
        -- Nothing was where the directory is.
        rw [node?_same s.location_ne_nil hsame.1 hsame.2, hnone]
        exact iff_of_false nofun nofun
      · exact .rfl

/-- What every new directory preserves is preserved by making a directory with all that lead to it,
also where it fails. -/
theorem ensureDirectories_invariant {inv : FileTree → Prop}
    (hstep : ∀ {t t' : FileTree} {p : Path}, inv t → t.makeDirectory p = .ok t' → inv t')
    (h : inv t) (p : Path) : inv (t.ensureDirectories p).2 := by
  rw [ensureDirectories]
  generalize p.components.length + 1 = depth
  induction depth generalizing p with
  | zero => exact h
  | succ depth ih =>
    rw [ensureWithin]
    split
    · exact h
    · split
      · rename_i hmade
        exact hstep h hmade
      · split
        · exact h
        · rename_i parent _
          have hparent := ih parent
          split
          · rename_i hmake
            rw [hmake] at hparent
            exact hparent
          · rename_i hmake
            rw [hmake] at hparent
            split
            · rename_i hmade
              exact hstep hparent hmade
            · exact hparent
      · exact h

theorem directoriesAdded_ensureDirectories (t : FileTree) (p : Path) :
    DirectoriesAdded t (t.ensureDirectories p).2 :=
  ensureDirectories_invariant (fun h hmade => h.trans (directoriesAdded_makeDirectory hmade))
    (.refl t) p

theorem DirectoriesAdded.read (h : DirectoriesAdded t t') (hread : t.read p = .ok content) :
    t'.read p = .ok content := by
  obtain ⟨l, hfind⟩ := read_eq_ok_iff.1 hread
  obtain ⟨-, -, hnode, -⟩ := find_eq_ok_iff.1 hfind
  have hsame : t'.node? l = t.node? l := ((h.file l content).2 hnode).trans hnode.symm
  exact read_eq_ok_iff.2 ⟨l, h.toDirectoriesIn.find hfind hsame⟩

theorem open_of_read (hread : t.read p = .ok content) : ∃ name s, Path.IsPlain name ∧
    p.EndsIn name ∧ Open t p s := by
  obtain ⟨l, hfind⟩ := read_eq_ok_iff.1 hread
  obtain ⟨hfault, -, -, hend⟩ := find_eq_ok_iff.1 hfind
  have hne : p.bytes ≠ [] := by
    intro hempty
    simp [pathFault?, hempty] at hfault
  obtain ⟨name, hplain, hname⟩ := Path.endsIn_of_named hne (hend.resolve_left nofun)
  obtain ⟨s, hs, -⟩ := open_of_find (lastName?_of_endsIn hplain hname) hfind
  exact ⟨name, s, hplain, hname, hs⟩

def bytesAbove (bytes : List UInt8) : List UInt8 :=
  (bytes.reverse.dropWhile (· != Path.slash)).tail.reverse

/-- Everything lies in a directory, and one is the current directory. -/
structure Grounded (t : FileTree) : Prop where
  current : t.node? t.current = some .directory
  above : ∀ e ∈ t.nodes.entries,
    bytesAbove e.1 = [] ∨ t.nodes.get? (bytesAbove e.1) = some .directory

theorem bytesAbove_concat (parent : Location) {name : List UInt8} (hname : Path.slash ∉ name) :
    bytesAbove (Location.path (parent ++ [name])).bytes = parent.flatMap (Path.slash :: ·) := by
  have hdrop : (name.reverse ++ Path.slash ::
      (parent.flatMap (Path.slash :: ·)).reverse).dropWhile (· != Path.slash) =
        Path.slash :: (parent.flatMap (Path.slash :: ·)).reverse := by
    rw [List.dropWhile_append_of_pos]
    · simp
    · intro c hc
      simp only [bne_iff_ne, ne_eq]
      rintro rfl
      exact hname (List.mem_reverse.1 hc)
  rw [bytesAbove, bytes_concat, hdrop, List.tail_cons, List.reverse_reverse]

theorem Grounded.parent (h : t.Grounded) {name : List UInt8} (hname : Path.slash ∉ name) {node : Node}
    (hnode : t.node? (l ++ [name]) = some node) : t.node? l = some .directory := by
  cases l with
  | nil => rfl
  | cons first rest =>
    have hentry : ((Location.path (first :: rest ++ [name])).bytes, node) ∈ t.nodes.entries := by
      have hget : t.nodes.get? (Location.path (first :: rest ++ [name])).bytes = some node := by
        simpa [node?] using hnode
      exact KeyMap.mem_entries_iff.2 hget
    have habove := h.above _ hentry
    simp only [bytesAbove_concat (first :: rest) hname] at habove
    rcases habove with hempty | habove
    · cases hempty
    · simpa [node?, Location.path] using habove

/-- The component leads to where it stands or into what lies there. -/
def Downward : Path.Component → Prop
  | .here => True
  | .name name => Path.slash ∉ name
  | _ => False

theorem downward_components (h : .parent ∉ p.components) : ∃ rest, (∀ c ∈ rest, Downward c) ∧
    (p.components = rest ∨ p.components = .root :: rest) := by
  have hpieces : ∀ c ∈ (Text.splitWhere (· == Path.slash) p.bytes).filterMap Path.componentOf?,
      Downward c := by
    intro c hc
    obtain rfl | ⟨name, rfl, hslash⟩ := Path.mem_components_of_pieces hc
    · exact absurd (List.mem_append_right _ hc) h
    · exact hslash
  unfold Path.components
  dsimp only
  split
  · exact ⟨_, hpieces, .inr rfl⟩
  · split
    · refine ⟨_, ?_, .inl rfl⟩
      intro c hc
      rcases List.mem_cons.1 hc with rfl | hc
      · trivial
      · exact hpieces c hc
    · exact ⟨_, hpieces, .inl rfl⟩

/-- A way down to something that was there before is not new. The induction is on the last
component: what was there before lies in a directory that was there before. -/
theorem DirectoriesAdded.walk_back (h : DirectoriesAdded t t') (hgrounded : t.Grounded)
    {components : List Path.Component} (hdown : ∀ c ∈ components, Downward c)
    (hwalk : t'.walk l components = .ok l') {node : Node} (hnode : t.node? l' = some node) :
    t.walk l components = .ok l' := by
  induction components using List.reverseRecOn generalizing l' node with
  | nil => exact hwalk
  | append_singleton front c ih =>
    obtain ⟨hfront, hlast⟩ := List.forall_mem_append.1 hdown
    obtain ⟨m, hm, hdirectory, hname⟩ := walk_concat hwalk
    rw [walk_append, hm] at hwalk
    rw [walk_append]
    have hc := hlast c (List.mem_singleton_self c)
    match c, hc with
    | .here, _ =>
      obtain rfl : m = l' := by simpa [bind, Except.bind, walk, hdirectory] using hwalk
      have hbefore : t.node? m = some .directory := by
        cases node with
        | directory => exact hnode
        | file content =>
          rw [(h.file m content).2 hnode] at hdirectory
          cases hdirectory
      rw [ih hfront hm hnode]
      simp [bind, Except.bind, walk, hbefore]
    | .name name, hslash =>
      obtain ⟨hlimit, rfl⟩ := hname name rfl
      have hbefore := hgrounded.parent hslash hnode
      rw [ih hfront hm hbefore]
      simp [bind, Except.bind, walk, hbefore, hlimit]

/-- A path that does not lead up leads to a file only if it did before. -/
theorem DirectoriesAdded.read_back (h : DirectoriesAdded t t') (hgrounded : t.Grounded)
    (hup : .parent ∉ p.components) (hread : t'.read p = .ok content) :
    t.read p = .ok content := by
  obtain ⟨l, hfind⟩ := read_eq_ok_iff.1 hread
  obtain ⟨hfault, hwalk, hnode, hend⟩ := find_eq_ok_iff.1 hfind
  have hfile := (h.file l content).1 hnode
  refine read_eq_ok_iff.2 ⟨l, find_eq_ok_iff.2 ⟨hfault, ?_, hfile, hend⟩⟩
  obtain ⟨rest, hdown, hcomponents | hcomponents⟩ := downward_components hup
  · rw [hcomponents] at hwalk ⊢
    rw [h.current] at hwalk
    exact h.walk_back hgrounded hdown hwalk hfile
  · rw [hcomponents] at hwalk ⊢
    rw [h.current] at hwalk
    simp only [walk, h.directory _ hgrounded.current] at hwalk
    simp only [walk, hgrounded.current]
    exact h.walk_back hgrounded hdown hwalk hfile

end FileTree

end AnnotationIndex
