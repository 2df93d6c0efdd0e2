import AnnotationIndex.Proofs.Files.Tree

/-!
# Parents of paths

The parent of a path is spelled by what stands before a slash, and its components are the first ones
of the path.
-/

namespace AnnotationIndex.Path

/-- The components in a spelling, apart from the one that its start may stand for. -/
private def componentsOf (s : List UInt8) : List Component :=
  (Text.splitWhere (· == slash) s).filterMap componentOf?

private theorem componentsOf_append (front more : List UInt8) :
    componentsOf (front ++ slash :: more) = componentsOf front ++ componentsOf more := by
  rw [componentsOf, Text.splitWhere_append _ _ (by rfl), List.filterMap_append]
  rfl

private theorem components_slash {front : List UInt8} (h : front ≠ []) (more : List UInt8) :
    components ⟨front ++ slash :: more⟩ = components ⟨front⟩ ++ componentsOf more := by
  have hhead : (front ++ slash :: more).head? = front.head? := by
    cases front with
    | nil => exact absurd rfl h
    | cons c front => rfl
  have hpieces : (Text.splitWhere (· == slash) (front ++ slash :: more)).head? =
      (Text.splitWhere (· == slash) front).head? := by
    rw [Text.splitWhere_append _ _ (by rfl)]
    cases hfront : Text.splitWhere (· == slash) front with
    | nil => exact absurd hfront (Text.splitWhere_ne_nil _ front)
    | cons piece pieces => rfl
  have hrest := componentsOf_append front more
  simp only [componentsOf] at hrest
  simp only [components, isAbsolute, hhead, hpieces, hrest, componentsOf, List.append_assoc]
  rfl

theorem components_append {front : List UInt8} (h : front ≠ []) (more : List UInt8) :
    components ⟨front⟩ <+: components ⟨front ++ slash :: more⟩ :=
  ⟨_, (components_slash h more).symm⟩

/-- The first bytes stand for a component that no slash ends. -/
private def Starts (start : Nat) (s : List UInt8) : Prop :=
  start = 0 ∨ start = 1 ∧ (s.head? = some slash ∨ s = [dot] ∨ s.take 2 = [dot, slash])

private theorem starts_bodyStart (s : List UInt8) : Starts (bodyStart s) s := by
  unfold bodyStart
  split
  · rename_i hstart
    exact .inr ⟨rfl, by simpa [or_assoc] using hstart⟩
  · exact .inl rfl

private theorem cut_lastPiece (start : Nat) {s : List UInt8} (h : start ≤ s.length) :
    s.take (s.length - (lastPiece start s).2) = s.take start ∧ slash ∉ s.drop start ∨
      ∃ front piece, s.take (s.length - (lastPiece start s).2) = s.take start ++ front ∧
        s.drop start = front ++ slash :: piece := by
  obtain ⟨front, piece, hbody, hfront, hslash⟩ := exists_lastPiece (s.drop start)
  have hlength : (s.drop start).length = s.length - start := List.length_drop
  have hpiece : ∀ rest, (piece.reverse ++ rest).takeWhile (· != slash) =
      piece.reverse ++ rest.takeWhile (· != slash) := by
    intro rest
    apply List.takeWhile_append_of_pos
    intro c hc
    simp only [bne_iff_ne, ne_eq]
    rintro rfl
    exact hslash (List.mem_reverse.1 hc)
  rcases hfront with rfl | ⟨more, rfl⟩
  · refine .inl ⟨?_, by simpa [hbody] using hslash⟩
    have hsize : (lastPiece start s).2 = s.length - start := by
      have hwhole := hpiece []
      simp only [List.append_nil, List.takeWhile_nil] at hwhole
      simp only [lastPiece, hbody, List.nil_append, hwhole, List.reverse_reverse]
      simpa [hbody] using hlength
    rw [hsize, Nat.sub_sub_self h]
  · refine .inr ⟨more, piece, ?_, by simp [hbody]⟩
    have hsize : (lastPiece start s).2 = piece.length + 1 := by
      have hend := hpiece (slash :: more.reverse)
      simp only [lastPiece, hbody, List.reverse_append, List.reverse_singleton,
        List.singleton_append, hend]
      simp [Nat.lt_add_left]
    have hwhole : s = (s.take start ++ more) ++ slash :: piece := by
      conv_lhs => rw [← List.take_append_drop start s, hbody]
      simp
    have hcount : s.length - (piece.length + 1) = (s.take start ++ more).length := by
      have hcount := congrArg List.length hwhole
      simp only [List.length_append, List.length_cons] at hcount ⊢
      omega
    rw [hsize, hcount]
    exact (congrArg (List.take _) hwhole).trans List.take_left

private theorem starts_cut {start : Nat} {s : List UInt8} (h : Starts start s) :
    Starts start (s.take (s.length - (lastPiece start s).2)) ∧
      components ⟨s.take (s.length - (lastPiece start s).2)⟩ <+: components ⟨s⟩ := by
  have hlength : start ≤ s.length := by
    rcases h with rfl | ⟨rfl, h⟩
    · exact Nat.zero_le _
    · cases s with
      | nil => simp at h
      | cons c s => simp
  generalize hcut : s.take (s.length - (lastPiece start s).2) = cut
  rcases cut_lastPiece start hlength with ⟨hwhole, hslash⟩ | ⟨front, piece, hwhole, hbody⟩
  · rw [hcut] at hwhole
    subst hwhole
    rcases h with rfl | ⟨rfl, hhead | rfl | htwo⟩
    · exact ⟨.inl rfl, List.nil_prefix⟩
    · obtain ⟨rest, rfl⟩ := List.head?_eq_some_iff.1 hhead
      exact ⟨.inr ⟨rfl, .inl rfl⟩, _, rfl⟩
    · exact ⟨.inr ⟨rfl, .inr (.inl rfl)⟩, List.prefix_rfl⟩
    · obtain ⟨c, rest, rfl⟩ := List.exists_cons_of_ne_nil (List.ne_nil_of_length_pos hlength)
      have hmem : slash ∈ rest.take 1 := by
        rw [(List.cons.inj htwo).2]
        exact List.mem_singleton_self _
      exact absurd (List.mem_of_mem_take hmem) hslash
  · rw [hcut] at hwhole
    have hs : s = cut ++ slash :: piece := by
      conv_lhs => rw [← List.take_append_drop start s, hbody]
      simp [hwhole]
    rcases h with rfl | ⟨rfl, hstart⟩
    · refine ⟨.inl rfl, ?_⟩
      cases cut with
      | nil => exact List.nil_prefix
      | cons c cut => exact hs ▸ components_append (List.cons_ne_nil c cut) piece
    · obtain ⟨c, rest, rfl⟩ := List.exists_cons_of_ne_nil (List.ne_nil_of_length_pos hlength)
      obtain rfl : cut = c :: front := hwhole
      refine ⟨.inr ⟨rfl, ?_⟩, hs ▸ components_append (List.cons_ne_nil c front) piece⟩
      obtain rfl : rest = front ++ slash :: piece := hbody
      cases front with
      | nil => simpa [or_comm] using hstart
      | cons d front => simpa using hstart

private theorem starts_trimPieces {start : Nat} (fuel : Nat) {s : List UInt8} (h : Starts start s) :
    Starts start (trimPieces fuel start s) ∧
      components ⟨trimPieces fuel start s⟩ <+: components ⟨s⟩ := by
  induction fuel generalizing s with
  | zero => exact ⟨h, List.prefix_rfl⟩
  | succ fuel ih =>
    rw [trimPieces]
    split
    · exact ⟨h, List.prefix_rfl⟩
    · dsimp only
      split
      · exact ⟨h, List.prefix_rfl⟩
      · obtain ⟨hcut, hprefix⟩ := starts_cut h
        obtain ⟨htrim, hmore⟩ := ih hcut
        exact ⟨htrim, hmore.trans hprefix⟩

/-- The components of the parent of a path are the first ones of the path. -/
theorem components_parent {p parent : Path} (h : p.parent? = some parent) :
    parent.components <+: p.components := by
  unfold parent? at h
  split at h
  · cases h
  · cases h
  · cases h
    exact List.nil_prefix
  · cases h
    obtain ⟨htrim, hprefix⟩ := starts_trimPieces p.bytes.length (starts_bodyStart p.bytes)
    obtain ⟨hcut, hprefix'⟩ := starts_cut htrim
    exact (starts_trimPieces _ hcut).2.trans (hprefix'.trans hprefix)

end AnnotationIndex.Path
