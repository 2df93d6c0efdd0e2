import AnnotationIndex.Files.Tree
import AnnotationIndex.Proofs.Text.Pieces

/-!
# What paths lead to in a tree

Where a path leads is decided by the directories on its way. Operations on files change no directory,
so afterwards every path leads where it led before, and a place that is fit for a file stays so.
-/

namespace AnnotationIndex

private theorem lookup_filter_ne {κ α : Type} [DecidableEq κ] (key other : κ)
    (entries : List (κ × α)) :
    (entries.filter (·.1 ≠ key)).lookup other =
      if other = key then none else entries.lookup other := by
  induction entries with
  | nil => simp
  | cons e entries ih =>
    obtain ⟨k, v⟩ := e
    by_cases hk : k = key
    · rw [List.filter_cons_of_neg (by simpa using hk), ih, List.lookup_cons]
      by_cases hkey : other = key
      · rw [if_pos hkey, if_pos hkey]
      · have hne : (other == k) = false := by simpa [hk] using hkey
        rw [if_neg hkey, if_neg hkey, hne]
    · rw [List.filter_cons_of_pos (by simpa using hk), List.lookup_cons, List.lookup_cons, ih]
      by_cases hother : other = k
      · have hkey : other ≠ key := by simpa [hother] using hk
        rw [if_neg hkey]
        simp [hother, hk]
      · have hne : (other == k) = false := by simpa using hother
        rw [hne]

theorem KeyMap.get?_erase {κ α : Type} [LT κ] [DecidableEq κ] (m : KeyMap κ α) (key other : κ) :
    (m.erase key).get? other = if other = key then none else m.get? other :=
  lookup_filter_ne key other m.entries

private theorem getLast?_filterMap {α β : Type} {l : List α} {keep : α → Bool} {f : α → Option β}
    (h : ∀ a, keep a = false → f a = none) {a : α} (ha : (l.filter keep).getLast? = some a) {b : β}
    (hb : f a = some b) : (l.filterMap f).getLast? = some b := by
  have hfilter : l.filterMap f = (l.filter keep).filterMap f := by
    rw [List.filterMap_filter]
    congr 1
    funext x
    cases hx : keep x with
    | true => rfl
    | false => exact h x hx
  obtain ⟨front, hfront⟩ := List.getLast?_eq_some_iff.1 ha
  rw [hfilter, hfront, List.filterMap_append]
  simp [hb]

namespace FileTree

theorem components_of_lastName {p : Path} {name : List UInt8} (h : lastName? p = some name) :
    p.components = parentComponents p ++ [Path.Component.name name] := by
  unfold lastName? at h
  split at h
  · cases h
  · rename_i piece hlast
    split at h
    · rename_i name' hpiece
      cases h
      have hdot : p.lastWritten? ≠ some [Path.dot] := by
        rw [hlast]
        rintro hdot
        cases hdot
        cases hpiece
      have hend : (p.components).getLast? = some (.name name) := by
        have hempty : ∀ s : List UInt8, (!s.isEmpty) = false → Path.componentOf? s = none := by
          intro s hs
          have hs' : s.isEmpty = true := by simpa using hs
          simp [Path.componentOf?, hs']
        rw [Path.components, List.getLast?_append, getLast?_filterMap hempty hlast hpiece]
        rfl
      obtain ⟨front, hfront⟩ := List.getLast?_eq_some_iff.1 hend
      rw [parentComponents, if_neg hdot, hfront, List.dropLast_concat]
    · cases h

end FileTree

namespace Path

/-- A name that stands for itself wherever it ends a path. -/
structure IsPlain (name : List UInt8) : Prop where
  slash : Path.slash ∉ name
  piece : componentOf? name = some (.name name)

/-- The spelling of the path ends in the name: before it there is nothing or a slash. -/
def EndsIn (p : Path) (name : List UInt8) : Prop :=
  ∃ front, p.bytes = front ++ name ∧ (front = [] ∨ ∃ more, front = more ++ [slash])

theorem mem_components_of_pieces {s : List UInt8} {c : Component}
    (h : c ∈ (Text.splitWhere (· == slash) s).filterMap componentOf?) :
    c = .parent ∨ ∃ name, c = .name name ∧ slash ∉ name := by
  obtain ⟨piece, hpiece, hcomponent⟩ := List.mem_filterMap.1 h
  unfold componentOf? at hcomponent
  split at hcomponent
  · cases hcomponent
  · split at hcomponent
    · exact .inl (Option.some.inj hcomponent).symm
    · refine .inr ⟨_, (Option.some.inj hcomponent).symm, fun hslash => ?_⟩
      cases Text.absent_of_splitWhere hpiece slash hslash

variable {p : Path} {name : List UInt8}

theorem IsPlain.ne_nil (h : IsPlain name) : name ≠ [] := by
  rintro rfl
  cases h.piece

theorem endsIn_join (base : Path) (h : IsPlain name) : (base.join ⟨name⟩).EndsIn name := by
  have hrelative : isAbsolute ⟨name⟩ = false := by
    rw [isAbsolute, decide_eq_false_iff_not]
    intro hhead
    obtain ⟨rest, rfl⟩ := List.head?_eq_some_iff.1 hhead
    exact h.slash List.mem_cons_self
  rw [join, hrelative, if_neg Bool.false_ne_true]
  by_cases hempty : base.bytes = []
  · exact ⟨[], by simp [hempty], .inl rfl⟩
  · by_cases hslash : base.bytes.getLast? = some slash
    · exact ⟨base.bytes, by simp [hslash], .inr (List.getLast?_eq_some_iff.1 hslash)⟩
    · exact ⟨base.bytes ++ [slash], by simp [hslash, hempty], .inr ⟨_, rfl⟩⟩

theorem lastWritten?_of_endsIn {piece front : List UInt8} (hbytes : p.bytes = front ++ piece)
    (hfront : front = [] ∨ ∃ more, front = more ++ [slash]) (hslash : slash ∉ piece)
    (hne : piece ≠ []) : p.lastWritten? = some piece := by
  have hpiece : Text.splitWhere (· == slash) piece = [piece] := by
    apply Text.splitWhere_of_absent
    intro c hc
    rw [beq_eq_false_iff_ne]
    rintro rfl
    exact hslash hc
  rw [lastWritten?, hbytes]
  rcases hfront with rfl | ⟨more, rfl⟩
  · rw [List.nil_append, hpiece]
    simp [hne]
  · rw [List.append_assoc, List.singleton_append, Text.splitWhere_append _ _ (by rfl), hpiece]
    simp [hne]

theorem exists_lastPiece (s : List UInt8) : ∃ front piece, s = front ++ piece ∧
    (front = [] ∨ ∃ more, front = more ++ [slash]) ∧ slash ∉ piece := by
  induction s with
  | nil => exact ⟨[], [], rfl, .inl rfl, List.not_mem_nil⟩
  | cons c s ih =>
    obtain ⟨front, piece, rfl, rfl | ⟨more, rfl⟩, hslash⟩ := ih
    · by_cases hc : c = slash
      · exact ⟨[c], piece, rfl, .inr ⟨[], by rw [hc]; rfl⟩, hslash⟩
      · exact ⟨[], c :: piece, rfl, .inl rfl, by simp [hslash, Ne.symm hc]⟩
    · exact ⟨c :: (more ++ [slash]), piece, rfl, .inr ⟨c :: more, rfl⟩, hslash⟩

theorem endsIn_of_named (hne : p.bytes ≠ []) (hend : p.leadsToDirectory = false) :
    ∃ name, IsPlain name ∧ p.EndsIn name := by
  obtain ⟨front, piece, hbytes, hfront, hslash⟩ := exists_lastPiece p.bytes
  simp only [leadsToDirectory, Bool.or_eq_false_iff, decide_eq_false_iff_not] at hend
  obtain ⟨⟨hlast, hdot⟩, hdots⟩ := hend
  have hpiece : piece ≠ [] := by
    rintro rfl
    rcases hfront with rfl | ⟨more, rfl⟩
    · exact hne hbytes
    · exact hlast (by simp [hbytes])
  rw [lastWritten?_of_endsIn hbytes hfront hslash hpiece] at hdot hdots
  have hname : componentOf? piece = some (.name piece) := by
    have hdot' : piece ≠ [dot] := fun h => hdot (congrArg some h)
    have hdots' : piece ≠ [dot, dot] := fun h => hdots (congrArg some h)
    simp [componentOf?, hpiece, hdot', hdots']
  exact ⟨piece, ⟨hslash, hname⟩, front, hbytes, hfront⟩

end Path

namespace FileTree

theorem lastName?_of_endsIn {p : Path} {name : List UInt8} (h : Path.IsPlain name)
    (hend : p.EndsIn name) : lastName? p = some name := by
  obtain ⟨front, hbytes, hfront⟩ := hend
  simp [lastName?, Path.lastWritten?_of_endsIn hbytes hfront h.slash h.ne_nil, h.piece]

theorem bytes_concat (parent : Location) (name : List UInt8) :
    (Location.path (parent ++ [name])).bytes.reverse =
      name.reverse ++ Path.slash :: (parent.flatMap (Path.slash :: ·)).reverse := by
  simp [Location.path]

theorem name_of_bytes {parent parent' : Location} {a b : List UInt8} (ha : Path.slash ∉ a)
    (hb : Path.slash ∉ b)
    (h : (Location.path (parent ++ [a])).bytes = (Location.path (parent' ++ [b])).bytes) :
    a = b := by
  have hname : ∀ name rest : List UInt8, Path.slash ∉ name →
      (name.reverse ++ Path.slash :: rest).takeWhile (· != Path.slash) = name.reverse := by
    intro name rest hslash
    rw [List.takeWhile_append_of_pos]
    · simp
    · intro c hc
      simp only [bne_iff_ne, ne_eq]
      rintro rfl
      exact hslash (List.mem_reverse.1 hc)
  have hreverse := congrArg (fun s => s.reverse.takeWhile (· != Path.slash)) h
  simpa only [bytes_concat, hname _ _ ha, hname _ _ hb, List.reverse_inj] using hreverse

/-- Everything that is a directory in one tree is one in the other. -/
structure DirectoriesIn (t t' : FileTree) : Prop where
  current : t'.current = t.current
  directory : ∀ l, t.node? l = some .directory → t'.node? l = some .directory

variable {t t' : FileTree} {p : Path} {l l' : Location}

theorem walk_append (t : FileTree) (l : Location) (front rest : List Path.Component) :
    t.walk l (front ++ rest) = t.walk l front >>= fun l' => t.walk l' rest := by
  induction front generalizing l with
  | nil => rfl
  | cons c front ih =>
    simp only [List.cons_append, walk]
    split
    · rfl
    · rfl
    · split
      · exact ih _
      · exact ih _
      · exact ih _
      · split
        · rfl
        · exact ih _

theorem DirectoriesIn.walk (h : DirectoriesIn t t') {components : List Path.Component}
    (hwalk : t.walk l components = .ok l') : t'.walk l components = .ok l' := by
  induction components generalizing l with
  | nil => exact hwalk
  | cons c rest ih =>
    simp only [FileTree.walk] at hwalk ⊢
    split at hwalk
    · cases hwalk
    · cases hwalk
    · rename_i hnode
      rw [h.directory l hnode]
      split at hwalk
      · exact ih hwalk
      · exact ih hwalk
      · exact ih hwalk
      · split at hwalk
        · cases hwalk
        · rename_i hlimit
          simp only [if_neg hlimit]
          exact ih hwalk

theorem slot?_eq_some_iff {s : Slot} : t.slot? p = .ok (some s) ↔
    pathFault? p = none ∧ t.walk t.current (parentComponents p) = .ok s.parent ∧
      t.node? s.parent = some .directory ∧ lastName? p = some s.name ∧
      ¬nameLimit < s.name.length ∧ s.asDirectory = p.leadsToDirectory := by
  constructor
  · intro h
    unfold slot? at h
    split at h
    · cases h
    · rename_i hfault
      split at h
      · cases h
      · rename_i parent hwalk
        split at h
        · cases h
        · cases h
        · rename_i hnode
          split at h
          · cases h
          · rename_i name hname
            split at h
            · cases h
            · rename_i hlimit
              cases h
              exact ⟨hfault, hwalk, hnode, hname, hlimit, rfl⟩
  · rintro ⟨hfault, hwalk, hnode, hname, hlimit, hdirectory⟩
    simp only [slot?, hfault, hwalk, hnode, hname, if_neg hlimit, ← hdirectory]

theorem slots_apart {q : Path} {a b : Slot} {m n : List UInt8} (ha : t.slot? p = .ok (some a))
    (hb : t'.slot? q = .ok (some b)) (hm : Path.IsPlain m) (hn : Path.IsPlain n)
    (hp : p.EndsIn m) (hq : q.EndsIn n) (hne : m ≠ n) :
    a.location.path.bytes ≠ b.location.path.bytes := by
  obtain ⟨-, -, -, hnameA, -⟩ := slot?_eq_some_iff.1 ha
  obtain ⟨-, -, -, hnameB, -⟩ := slot?_eq_some_iff.1 hb
  obtain rfl : m = a.name := Option.some.inj ((lastName?_of_endsIn hm hp).symm.trans hnameA)
  obtain rfl : n = b.name := Option.some.inj ((lastName?_of_endsIn hn hq).symm.trans hnameB)
  exact fun hbytes => hne (name_of_bytes hm.slash hn.slash hbytes)

theorem DirectoriesIn.slot (h : DirectoriesIn t t') {s : Slot} (hs : t.slot? p = .ok (some s)) :
    t'.slot? p = .ok (some s) := by
  obtain ⟨hfault, hwalk, hnode, hrest⟩ := slot?_eq_some_iff.1 hs
  refine slot?_eq_some_iff.2 ⟨hfault, ?_, h.directory _ hnode, hrest⟩
  rw [h.current]
  exact h.walk hwalk

theorem find_eq_ok_iff {node : Node} : t.find p = .ok (l, node) ↔ pathFault? p = none ∧
    t.walk t.current p.components = .ok l ∧ t.node? l = some node ∧
      (node = .directory ∨ p.leadsToDirectory = false) := by
  unfold find locate
  cases hfault : pathFault? p with
  | some fault => simp
  | none =>
    cases hwalk : t.walk t.current p.components with
    | error fault => simp
    | ok l' =>
      -- What is found is at the location where the path ends.
      simp only [Except.ok.injEq, true_and]
      cases hnode : t.node? l' with
      | none => grind
      | some node' =>
        cases node' with
        | directory => grind
        | file content => cases hend : p.leadsToDirectory <;> grind

theorem read_eq_ok_iff {content : List UInt8} :
    t.read p = .ok content ↔ ∃ l, t.find p = .ok (l, .file content) := by
  unfold read
  split <;> simp_all

theorem walk_of_slot {s : Slot} (hs : t.slot? p = .ok (some s)) :
    t.walk t.current p.components = .ok s.location := by
  obtain ⟨-, hwalk, hparent, hname, hlimit, -⟩ := slot?_eq_some_iff.1 hs
  rw [components_of_lastName hname, walk_append, hwalk]
  simp only [bind, Except.bind, walk, hparent, if_neg hlimit]
  rfl

theorem find_of_slot {s : Slot} (hs : t.slot? p = .ok (some s)) {node : Node}
    (hnode : t.node? s.location = some node)
    (hkind : s.asDirectory = false ∨ node = .directory) : t.find p = .ok (s.location, node) := by
  obtain ⟨hfault, -, -, -, -, hdirectory⟩ := slot?_eq_some_iff.1 hs
  refine find_eq_ok_iff.2 ⟨hfault, walk_of_slot hs, hnode, ?_⟩
  rw [← hdirectory]
  exact hkind.symm

theorem find_of_empty_slot {s : Slot} (hs : t.slot? p = .ok (some s))
    (hnode : t.node? s.location = none) : t.find p = .error .notFound := by
  obtain ⟨hfault, -⟩ := slot?_eq_some_iff.1 hs
  simp only [find, locate, hfault, walk_of_slot hs, hnode]

theorem DirectoriesIn.find (h : DirectoriesIn t t') {node : Node} (hfind : t.find p = .ok (l, node))
    (hnode : t'.node? l = t.node? l) : t'.find p = .ok (l, node) := by
  obtain ⟨hfault, hwalk, hsome, hend⟩ := find_eq_ok_iff.1 hfind
  exact find_eq_ok_iff.2 ⟨hfault, h.current ▸ h.walk hwalk, hnode.trans hsome, hend⟩

theorem walk_concat {front : List Path.Component} {c : Path.Component}
    (h : t.walk l (front ++ [c]) = .ok l') :
    ∃ parent, t.walk l front = .ok parent ∧ t.node? parent = some .directory ∧
      ∀ name, c = .name name → ¬nameLimit < name.length ∧ l' = parent ++ [name] := by
  rw [walk_append] at h
  cases hfront : t.walk l front with
  | error fault =>
    rw [hfront] at h
    cases h
  | ok parent =>
    rw [hfront] at h
    change t.walk parent [c] = .ok l' at h
    refine ⟨parent, rfl, ?_⟩
    unfold walk at h
    split at h
    · cases h
    · cases h
    · rename_i hnode
      refine ⟨hnode, ?_⟩
      rintro name rfl
      simp only at h
      split at h
      · cases h
      · rename_i hlimit
        exact ⟨hlimit, (Except.ok.inj h).symm⟩

theorem Slot.location_ne_nil (s : Slot) : s.location ≠ [] := by simp [Slot.location]

theorem node?_place (node : Node) : (t.place l node).node? l' =
    if l' ≠ [] ∧ l'.path.bytes = l.path.bytes then some node else t.node? l' := by
  unfold node? place
  by_cases hroot : l' = []
  · simp [hroot]
  · simp [hroot, KeyMap.get?_insert]

theorem node?_remove : (t.remove l).node? l' =
    if l' ≠ [] ∧ l'.path.bytes = l.path.bytes then none else t.node? l' := by
  unfold node? remove
  by_cases hroot : l' = []
  · simp [hroot]
  · simp [hroot, KeyMap.get?_erase]

theorem node?_same (hl : l ≠ []) (hl' : l' ≠ []) (h : l'.path.bytes = l.path.bytes) :
    t.node? l' = t.node? l := by
  unfold node?
  simp [hl, hl', h]

theorem directoriesIn_place (hl : l ≠ []) (h : t.node? l ≠ some .directory) (node : Node) :
    DirectoriesIn t (t.place l node) := by
  refine ⟨rfl, fun l' hl' => ?_⟩
  rw [node?_place, if_neg]
  · exact hl'
  · rintro ⟨hne, hbytes⟩
    exact h (node?_same hl hne hbytes ▸ hl')

theorem directoriesIn_remove (hl : l ≠ []) (h : t.node? l ≠ some .directory) :
    DirectoriesIn t (t.remove l) := by
  refine ⟨rfl, fun l' hl' => ?_⟩
  rw [node?_remove, if_neg]
  · exact hl'
  · rintro ⟨hne, hbytes⟩
    exact h (node?_same hl hne hbytes ▸ hl')

/-- A path names a slot that a file can be put into. -/
structure Open (t : FileTree) (p : Path) (s : Slot) : Prop where
  slot : t.slot? p = .ok (some s)
  named : s.asDirectory = false
  free : t.node? s.location ≠ some .directory

variable {s : Slot} {content : List UInt8}

theorem open_of_find {name : List UInt8} (hname : lastName? p = some name)
    (h : t.find p = .ok (l, .file content)) : ∃ s, Open t p s ∧ s.location = l := by
  obtain ⟨hfault, hwalk, hnode, hend⟩ := find_eq_ok_iff.1 h
  rw [components_of_lastName hname] at hwalk
  obtain ⟨parent, hparent, hdirectory, hlast⟩ := walk_concat hwalk
  obtain ⟨hlimit, rfl⟩ := hlast name rfl
  have hnamed : p.leadsToDirectory = false := hend.resolve_left nofun
  refine ⟨⟨parent, name, p.leadsToDirectory⟩, ⟨?_, hnamed, ?_⟩, rfl⟩
  · exact slot?_eq_some_iff.2 ⟨hfault, hparent, hdirectory, hname, hlimit, rfl⟩
  · simp [Slot.location, hnode]

theorem Open.find_eq_location (h : Open t p s) {node : Node} (hfind : t.find p = .ok (l, node)) :
    l = s.location ∧ ∃ content, node = .file content := by
  obtain ⟨-, hwalk, hnode, -⟩ := find_eq_ok_iff.1 hfind
  obtain rfl : s.location = l := Except.ok.inj ((walk_of_slot h.slot).symm.trans hwalk)
  refine ⟨rfl, ?_⟩
  cases node with
  | directory => exact absurd hnode h.free
  | file content => exact ⟨content, rfl⟩

theorem Open.read_congr (h : Open t p s) (h' : Open t' p s)
    (hnode : t'.node? s.location = t.node? s.location) : t'.read p = t.read p := by
  unfold read
  cases hfile : t.node? s.location with
  | none => rw [find_of_empty_slot h.slot hfile, find_of_empty_slot h'.slot (hnode.trans hfile)]
  | some node =>
    rw [find_of_slot h.slot hfile (.inl h.named),
      find_of_slot h'.slot (hnode.trans hfile) (.inl h.named)]

theorem write_of_open (h : Open t p s) (content : List UInt8) :
    t.write p content = .ok (t.place s.location (.file content)) := by
  simp [write, h.slot, h.named, h.free]

theorem open_of_write (h : t.write p content = .ok t') :
    ∃ s, Open t p s ∧ t' = t.place s.location (.file content) := by
  unfold write at h
  split at h
  · cases h
  · cases h
  · rename_i s hslot
    split at h
    · cases h
    · rename_i hfree
      cases h
      simp only [Bool.or_eq_true, decide_eq_true_eq, not_or] at hfree
      exact ⟨s, ⟨hslot, by simpa using hfree.1, hfree.2⟩, rfl⟩

/-- The trees have the same directories, and the same files but at some places. -/
structure FilesDiffer (places : List Location) (t t' : FileTree) : Prop
    extends DirectoriesIn t t' where
  back : ∀ l, t'.node? l = some .directory → t.node? l = some .directory
  elsewhere : ∀ l, (∀ place ∈ places, l.path.bytes ≠ place.path.bytes) → t'.node? l = t.node? l

section FilesDiffer

variable {places : List Location}

theorem FilesDiffer.refl (places : List Location) (t : FileTree) : FilesDiffer places t t :=
  ⟨⟨rfl, fun _ h => h⟩, fun _ h => h, fun _ _ => rfl⟩

theorem FilesDiffer.trans {t'' : FileTree} (h : FilesDiffer places t t')
    (h' : FilesDiffer places t' t'') : FilesDiffer places t t'' :=
  ⟨⟨h'.current.trans h.current, fun l hl => h'.directory l (h.directory l hl)⟩,
    fun l hl => h.back l (h'.back l hl),
    fun l hl => (h'.elsewhere l hl).trans (h.elsewhere l hl)⟩

theorem FilesDiffer.symm (h : FilesDiffer places t t') : FilesDiffer places t' t :=
  ⟨⟨h.current.symm, h.back⟩, h.directory, fun l hl => (h.elsewhere l hl).symm⟩

theorem FilesDiffer.isOpen (h : FilesDiffer places t t') (hopen : Open t p s) : Open t' p s :=
  ⟨h.toDirectoriesIn.slot hopen.slot, hopen.named, fun hnode => hopen.free (h.back _ hnode)⟩

theorem filesDiffer_place (h : Open t p s) (hs : s.location ∈ places) (content : List UInt8) :
    FilesDiffer places t (t.place s.location (.file content)) := by
  refine ⟨directoriesIn_place s.location_ne_nil h.free _, fun l hl => ?_, fun l hl => ?_⟩
  · rw [node?_place] at hl
    split at hl
    · cases hl
    · exact hl
  · rw [node?_place, if_neg fun hsame => hl s.location hs hsame.2]

theorem filesDiffer_remove (h : Open t p s) (hs : s.location ∈ places) :
    FilesDiffer places t (t.remove s.location) := by
  refine ⟨directoriesIn_remove s.location_ne_nil h.free, fun l hl => ?_, fun l hl => ?_⟩
  · rw [node?_remove] at hl
    split at hl
    · cases hl
    · exact hl
  · rw [node?_remove, if_neg fun hsame => hl s.location hs hsame.2]

theorem removeFile_of_open (h : Open t p s) (hfile : t.node? s.location = some (.file content)) :
    t.removeFile p = .ok (t.remove s.location) := by
  simp [removeFile, h.slot, hfile, h.named]

theorem node?_remove_self (hl : l ≠ []) : (t.remove l).node? l = none := by
  rw [node?_remove, if_pos ⟨hl, rfl⟩]

theorem node?_place_self (hl : l ≠ []) (node : Node) : (t.place l node).node? l = some node := by
  rw [node?_place, if_pos ⟨hl, rfl⟩]

/-- Moving a file to an open place puts it there and changes no directory. -/
theorem moveFile_of_open {q : Path} {s' : Slot} (h : Open t p s) (h' : Open t q s')
    (hfile : t.node? s.location = some (.file content)) : ∃ t', t.moveFile p q = .ok t' ∧
      FilesDiffer [s.location, s'.location] t t' ∧
        t'.node? s'.location = some (.file content) := by
  by_cases hsame : s.location = s'.location
  · refine ⟨t, ?_, .refl _ t, hsame ▸ hfile⟩
    simp only [moveFile, h.slot, h'.slot, hfile]
    simp [h.named, h'.named, h'.free, hsame]
  · have hremove : FilesDiffer [s.location, s'.location] t (t.remove s.location) :=
      filesDiffer_remove h (by simp)
    refine ⟨(t.remove s.location).place s'.location (.file content), ?_,
      hremove.trans (filesDiffer_place (hremove.isOpen h') (by simp) content),
      node?_place_self s'.location_ne_nil _⟩
    simp [moveFile, h.slot, h'.slot, hfile, h.named, h'.named, h'.free, hsame]

end FilesDiffer

theorem open_of_moveFile {q : Path} (h : t.moveFile p q = .ok t') : ∃ s, Open t q s := by
  unfold moveFile at h
  split at h
  · cases h
  · cases h
  · cases h
  · cases h
  · rename_i s s' _ hslot'
    split at h
    · cases h
    · cases h
    · split at h
      · cases h
      · rename_i hnamed
        split at h
        · cases h
        · rename_i hfree
          simp only [Bool.or_eq_true, not_or, Bool.not_eq_true] at hnamed
          exact ⟨s', hslot', hnamed.2, hfree⟩

theorem isDirectory_iff : t.isDirectory p = true ↔ ∃ l, pathFault? p = none ∧
    t.walk t.current p.components = .ok l ∧ t.node? l = some .directory := by
  have hfind : t.isDirectory p = true ↔ ∃ l, t.find p = .ok (l, .directory) := by
    unfold isDirectory
    split
    · rename_i l hfind
      exact iff_of_true rfl ⟨l, hfind⟩
    · rename_i hne
      exact iff_of_false nofun fun ⟨l, hfind⟩ => hne l hfind
  simp only [hfind, find_eq_ok_iff, true_or, and_true]

theorem DirectoriesIn.isDirectory (h : DirectoriesIn t t') (hp : t.isDirectory p = true) :
    t'.isDirectory p = true := by
  obtain ⟨l, hfault, hwalk, hnode⟩ := isDirectory_iff.1 hp
  exact isDirectory_iff.2 ⟨l, hfault, h.current ▸ h.walk hwalk, h.directory l hnode⟩

theorem makeDirectory_of_isDirectory (h : t.isDirectory p = true) :
    t.makeDirectory p = .error .alreadyExists := by
  obtain ⟨l, hfault, hwalk, hnode⟩ := isDirectory_iff.1 h
  cases hname : lastName? p with
  | some name =>
    rw [components_of_lastName hname] at hwalk
    obtain ⟨parent, hparent, hdirectory, hlast⟩ := walk_concat hwalk
    obtain ⟨hlimit, rfl⟩ := hlast name rfl
    have hslot : t.slot? p = .ok (some ⟨parent, name, p.leadsToDirectory⟩) :=
      slot?_eq_some_iff.2 ⟨hfault, hparent, hdirectory, hname, hlimit, rfl⟩
    simp only [makeDirectory, hslot, Slot.location, hnode]
  | none =>
    obtain ⟨parent, hparent, hdirectory⟩ : ∃ parent,
        t.walk t.current (parentComponents p) = .ok parent ∧
          t.node? parent = some .directory := by
      unfold parentComponents
      split
      · exact ⟨l, hwalk, hnode⟩
      · rcases List.eq_nil_or_concat p.components with hnil | ⟨front, c, hfront⟩
        · rw [hnil] at hwalk ⊢
          exact ⟨l, hwalk, hnode⟩
        · rw [hfront, List.concat_eq_append] at hwalk
          rw [hfront, List.concat_eq_append, List.dropLast_concat]
          obtain ⟨parent, hparent, hdirectory, -⟩ := walk_concat hwalk
          exact ⟨parent, hparent, hdirectory⟩
    simp only [makeDirectory, slot?, hfault, hparent, hdirectory, hname]

theorem ensureDirectories_of_isDirectory (h : t.isDirectory p = true) :
    t.ensureDirectories p = (.ok (), t) := by
  rw [ensureDirectories, ensureWithin]
  split
  · rfl
  · simp only [makeDirectory_of_isDirectory h, h, if_true]

theorem isDirectory_of_makeDirectory (h : t.makeDirectory p = .ok t') :
    t'.isDirectory p = true := by
  unfold makeDirectory at h
  split at h
  · cases h
  · cases h
  · rename_i s hslot
    split at h
    · cases h
    · rename_i hnode
      cases h
      have hfree : t.node? s.location ≠ some .directory := by
        rw [hnode]
        exact nofun
      have hkept := (directoriesIn_place s.location_ne_nil hfree .directory).slot hslot
      have hfind := find_of_slot hkept (node?_place_self s.location_ne_nil .directory) (.inr rfl)
      simp only [isDirectory, hfind]

theorem isDirectory_of_ensureDirectories (hne : p.bytes ≠ [])
    (h : t.ensureDirectories p = (.ok (), t')) : t'.isDirectory p = true := by
  have hexisting : ∀ {s : FileTree} {fault : Fault},
      ((if s.isDirectory p then Except.ok () else .error fault), s) = (.ok (), t') →
        t'.isDirectory p = true := by
    intro s fault hs
    split at hs
    · rename_i hdirectory
      cases hs
      exact hdirectory
    · cases hs
  have hempty : p.bytes.isEmpty = false := by simpa using hne
  rw [ensureDirectories, ensureWithin] at h
  simp only [hempty, Bool.false_eq_true, if_false] at h
  split at h
  · rename_i hmade
    cases h
    exact isDirectory_of_makeDirectory hmade
  · split at h
    · cases h
    · split at h
      · cases h
      · split at h
        · rename_i hmade
          cases h
          exact isDirectory_of_makeDirectory hmade
        · exact hexisting h
  · exact hexisting h

end FileTree

end AnnotationIndex
