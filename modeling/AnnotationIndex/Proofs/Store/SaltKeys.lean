import AnnotationIndex.Proofs.Java.HeaderNames
import AnnotationIndex.Proofs.Store.Salts
import Mathlib.Data.List.Infix

/-!
# What the keys of salts tell

The key of extraction options spells out kinds that can be any text. Where another kind seems to
begin within a kind, it reads like two, so the key determines the options up to such cuts. The key
of visible types determines the types, since no semicolon stands in a name of a header.
-/

namespace AnnotationIndex

namespace SaltKey

/-- The set that a kind is in. -/
inductive Role where
  | ignored
  | marker
  deriving DecidableEq

def Role.letter : Role → Char
  | .ignored => 'i'
  | .marker => 'd'

/-- Kinds one after the other, each after the letter of its set. -/
def spelled (kinds : List (Role × List Char)) : List Char :=
  kinds.flatMap fun k => ';' :: k.1.letter :: ':' :: k.2

private def lengthen (c : Char) : List (Role × List Char) → List (Role × List Char)
  | [] => []
  | (role, kind) :: more => (role, c :: kind) :: more

/-- A kind in pieces, cut wherever another kind seems to begin. -/
def cut (role : Role) : List Char → List (Role × List Char)
  | [] => [(role, [])]
  | ';' :: 'i' :: ':' :: rest => (role, []) :: cut .ignored rest
  | ';' :: 'd' :: ':' :: rest => (role, []) :: cut .marker rest
  | c :: rest => lengthen c (cut role rest)

/-- The pieces of some kinds, in order. -/
def pieces (kinds : List (Role × List Char)) : List (Role × List Char) :=
  kinds.flatMap fun k => cut k.1 k.2

theorem cut_opening (role next : Role) (rest : List Char) :
    cut role (';' :: next.letter :: ':' :: rest) = (role, []) :: cut next rest := by
  cases next <;> simp [Role.letter, cut]

theorem cut_cons {role : Role} {c : Char} {kind : List Char}
    (h : ∀ next rest, c :: kind ≠ ';' :: Role.letter next :: ':' :: rest) :
    cut role (c :: kind) = lengthen c (cut role kind) := by
  rw [cut]
  · rintro rest rfl rfl
    exact h .ignored rest rfl
  · rintro rest rfl rfl
    exact h .marker rest rfl

theorem exists_cut_eq (role : Role) (kind : List Char) :
    ∃ front more, cut role kind = (role, front) :: more := by
  fun_induction cut role kind with
  | case4 role c kind _ _ ih =>
    obtain ⟨front, more, hcut⟩ := ih
    exact ⟨c :: front, more, by rw [hcut, lengthen]⟩
  | _ => exact ⟨_, _, rfl⟩

theorem cut_append (role next : Role) (kind rest : List Char) :
    cut role (kind ++ ';' :: next.letter :: ':' :: rest) = cut role kind ++ cut next rest := by
  fun_induction cut role kind with
  | case1 role => exact cut_opening role next rest
  | case2 role kind ih => simp [cut, ih]
  | case3 role kind ih => simp [cut, ih]
  | case4 role c kind hignored hmarker ih =>
    -- What follows the kind starts with a semicolon, so no kind seems to begin across its end.
    have hnone : ∀ other rest', c :: (kind ++ ';' :: next.letter :: ':' :: rest) ≠
        ';' :: Role.letter other :: ':' :: rest' := by
      intro other rest' hopening
      obtain ⟨rfl, hkind⟩ := List.cons.inj hopening
      clear hopening
      cases kind with
      | nil => cases other <;> simp [Role.letter] at hkind
      | cons x kind =>
        cases kind with
        | nil => simp at hkind
        | cons y kind =>
          simp only [List.cons_append, List.cons.injEq] at hkind
          obtain ⟨rfl, rfl, -⟩ := hkind
          cases other with
          | ignored => exact hignored kind rfl rfl
          | marker => exact hmarker kind rfl rfl
    obtain ⟨front, more, hcut⟩ := exists_cut_eq role kind
    rw [List.cons_append, cut_cons hnone, ih, hcut]
    rfl

theorem spelled_cut (role : Role) (kind : List Char) :
    spelled (cut role kind) = ';' :: role.letter :: ':' :: kind := by
  fun_induction cut role kind with
  | case1 role => simp [spelled]
  | case2 role kind ih =>
    rw [spelled, List.flatMap_cons, ← spelled, ih]
    simp [Role.letter]
  | case3 role kind ih =>
    rw [spelled, List.flatMap_cons, ← spelled, ih]
    simp [Role.letter]
  | case4 role c kind _ _ ih =>
    obtain ⟨front, more, hcut⟩ := exists_cut_eq role kind
    rw [hcut] at ih ⊢
    simp only [lengthen, spelled, List.flatMap_cons, List.cons_append, List.cons.injEq,
      true_and] at ih ⊢
    exact ih

theorem spelled_pieces (kinds : List (Role × List Char)) :
    spelled (pieces kinds) = spelled kinds := by
  induction kinds with
  | nil => rfl
  | cons k kinds ih =>
    rw [pieces, List.flatMap_cons, ← pieces, spelled, List.flatMap_append, ← spelled, ← spelled,
      ih, spelled_cut]
    rfl

/-- What is spelled out behind a kind can be read back in pieces. -/
theorem cut_spelled (role : Role) (kind : List Char) (kinds : List (Role × List Char)) :
    cut role (kind ++ spelled kinds) = cut role kind ++ pieces kinds := by
  induction kinds generalizing role kind with
  | nil => simp [spelled, pieces]
  | cons k kinds ih =>
    rw [spelled, List.flatMap_cons, ← spelled, List.cons_append, List.cons_append,
      List.cons_append, cut_append, ih]
    rfl

/-- No other kind seems to begin within a kind. -/
def Unbroken (kind : List Char) : Prop := ∀ role : Role, ¬ [';', role.letter, ':'] <:+: kind

instance : DecidablePred Unbroken := fun kind =>
  decidable_of_iff (¬ [';', 'i', ':'] <:+: kind ∧ ¬ [';', 'd', ':'] <:+: kind)
    ⟨fun h role => by cases role; exacts [h.1, h.2], fun h => ⟨h .ignored, h .marker⟩⟩

theorem cut_of_unbroken {role : Role} {kind : List Char} (h : Unbroken kind) :
    cut role kind = [(role, kind)] := by
  fun_induction cut role kind with
  | case1 role => rfl
  | case2 role kind _ => exact absurd ⟨[], kind, rfl⟩ (h .ignored)
  | case3 role kind _ => exact absurd ⟨[], kind, rfl⟩ (h .marker)
  | case4 role c kind _ _ ih =>
    rw [ih fun next hnext => h next (List.infix_cons hnext)]
    rfl

theorem pieces_of_unbroken {kinds : List (Role × List Char)} (h : ∀ k ∈ kinds, Unbroken k.2) :
    pieces kinds = kinds := by
  induction kinds with
  | nil => rfl
  | cons k kinds ih =>
    rw [pieces, List.flatMap_cons, ← pieces, cut_of_unbroken (h k List.mem_cons_self),
      ih fun k' hk' => h k' (List.mem_cons_of_mem k hk')]
    rfl

theorem unbroken_of_no_semicolon {kind : List Char} (h : ';' ∉ kind) : Unbroken kind :=
  fun _ hopening => h (hopening.mem List.mem_cons_self)

end SaltKey

open SaltKey

namespace ExtractOptions

/-- The kinds that options name, each with its set. -/
def kinds (o : ExtractOptions) : List (Role × List Char) :=
  o.ignored.toList.map (fun kind => (.ignored, kind.toList)) ++
    o.markers.toList.map fun kind => (.marker, kind.toList)

theorem toList_saltKey (o : ExtractOptions) :
    o.saltKey.toList =
      ("args=" ++ if o.captureArguments then "true" else "false").toList ++ spelled o.kinds ++
        [';'] := by
  have hends : ∀ kinds : List (Role × List Char),
      ';' :: (kinds.flatMap fun k => k.1.letter :: ':' :: (k.2 ++ [';'])) =
        spelled kinds ++ [';'] := by
    intro kinds
    induction kinds with
    | nil => rfl
    | cons k kinds ih =>
      rw [spelled, List.flatMap_cons, List.flatMap_cons, ← spelled, List.append_assoc, ← ih]
      simp
  rw [List.append_assoc, ← hends, saltKey, kinds]
  simp [String.toList_join, List.flatMap_map, Role.letter]

/-- Options share a key if they agree on arguments and their kinds have the same pieces, and only
then. -/
theorem saltKey_eq_iff {o o' : ExtractOptions} :
    o.saltKey = o'.saltKey ↔
      o.captureArguments = o'.captureArguments ∧ pieces o.kinds = pieces o'.kinds := by
  -- The text before the kinds is read like one more kind, of which nothing is cut off.
  have hread : ∀ (capture : Bool) (kinds : List (Role × List Char)),
      cut .ignored (("args=" ++ if capture then "true" else "false").toList ++ spelled kinds) =
        (.ignored, ("args=" ++ if capture then "true" else "false").toList) :: pieces kinds := by
    intro capture kinds
    rw [cut_spelled]
    cases capture <;> rfl
  rw [← String.toList_inj, toList_saltKey, toList_saltKey, List.append_cancel_right_eq]
  constructor
  · intro h
    have hcut := congrArg (cut .ignored) h
    rw [hread, hread] at hcut
    obtain ⟨harguments, hpieces⟩ := List.cons.inj hcut
    refine ⟨?_, hpieces⟩
    cases hcapture : o.captureArguments <;> cases hcapture' : o'.captureArguments <;>
      simp [hcapture, hcapture'] at harguments ⊢
  · rintro ⟨hcapture, hpieces⟩
    rw [hcapture, ← spelled_pieces, hpieces, spelled_pieces]

theorem ext_kinds {o o' : ExtractOptions} (hcapture : o.captureArguments = o'.captureArguments)
    (h : o.kinds = o'.kinds) : o = o' := by
  have hset : ∀ role, (o.kinds.filter (·.1 = role)).map (·.2) =
      (o'.kinds.filter (·.1 = role)).map (·.2) := fun role => by rw [h]
  have hinj : ∀ {s t : KeySet}, s.toList.map (·.toList) = t.toList.map (·.toList) → s = t :=
    fun heq => KeySet.toList_inj ((List.map_inj_right fun _ _ => String.toList_inj.1).1 heq)
  have hignored : o.ignored = o'.ignored :=
    hinj (by simpa [kinds, List.filter_map, Function.comp_def] using hset .ignored)
  have hmarkers : o.markers = o'.markers :=
    hinj (by simpa [kinds, List.filter_map, Function.comp_def] using hset .marker)
  cases o
  cases o'
  cases hcapture
  cases hignored
  cases hmarkers
  rfl

theorem saltKey_inj {o o' : ExtractOptions} (h : ∀ k ∈ o.kinds, Unbroken k.2)
    (h' : ∀ k ∈ o'.kinds, Unbroken k.2) (heq : o.saltKey = o'.saltKey) : o = o' := by
  obtain ⟨hcapture, hpieces⟩ := saltKey_eq_iff.1 heq
  rw [pieces_of_unbroken h, pieces_of_unbroken h'] at hpieces
  exact ext_kinds hcapture hpieces

/-- Options with the default markers are in one piece if no ignored kind has a semicolon. -/
theorem unbroken_kinds {o : ExtractOptions} (hmarkers : o.markers = KeySet.ofList defaultMarkers)
    (h : ∀ kind ∈ o.ignored.toList, ';' ∉ kind.toList) : ∀ k ∈ o.kinds, Unbroken k.2 := by
  have hdefault : ∀ kind ∈ (KeySet.ofList defaultMarkers).toList, ';' ∉ kind.toList := by
    decide +kernel
  intro k hk
  rcases List.mem_append.1 hk with hk | hk
  · obtain ⟨kind, hkind, rfl⟩ := List.mem_map.1 hk
    exact unbroken_of_no_semicolon (h kind hkind)
  · obtain ⟨kind, hkind, rfl⟩ := List.mem_map.1 hk
    rw [hmarkers] at hkind
    exact unbroken_of_no_semicolon (hdefault kind hkind)

end ExtractOptions

/-- Two options have the same key exactly if they agree on arguments and their kinds, cut wherever
another kind seems to begin, have the same pieces. So options of which all kinds are in one piece
have different keys unless they are equal. -/
theorem options_of_saltKey (o o' : ExtractOptions) :
    (o.saltKey = o'.saltKey ↔
      o.captureArguments = o'.captureArguments ∧ pieces o.kinds = pieces o'.kinds) ∧
    ((∀ k ∈ o.kinds, Unbroken k.2) → (∀ k ∈ o'.kinds, Unbroken k.2) →
      (o.saltKey = o'.saltKey ↔ o = o')) := by
  refine ⟨ExtractOptions.saltKey_eq_iff, fun h h' => ⟨ExtractOptions.saltKey_inj h h', ?_⟩⟩
  rintro rfl
  rfl

/-- Options that ignore the given kinds. -/
def ExtractOptions.ignoring (kinds : List String) : ExtractOptions :=
  { ignored := KeySet.ofList kinds }

/-- A kind with a semicolon is not taken for two kinds, as long as no second one seems to begin. -/
theorem options_of_saltKey_semicolon :
    let o := ExtractOptions.ignoring ["a;b"]
    let o' := ExtractOptions.ignoring ["a", "b"]
    (∀ k ∈ o.kinds, Unbroken k.2) ∧ (∀ k ∈ o'.kinds, Unbroken k.2) ∧ o.saltKey ≠ o'.saltKey := by
  intro o o'
  have hunbroken : ∀ k ∈ o.kinds, Unbroken k.2 := by decide +kernel
  have hunbroken' : ∀ k ∈ o'.kinds, Unbroken k.2 := by decide +kernel
  refine ⟨hunbroken, hunbroken', fun hkey => ?_⟩
  have hsame := ((options_of_saltKey o o').2 hunbroken hunbroken').1 hkey
  have hcontains := congrArg (fun o => o.ignored.contains "a") hsame
  revert hcontains
  decide +kernel

/-- Options that ignore one kind have the same key as options that ignore two others, and record an
annotation that those ignore. -/
theorem saltKey_shared :
    let o := ExtractOptions.ignoring ["a;i:b"]
    let o' := ExtractOptions.ignoring ["a", "b"]
    o.saltKey = o'.saltKey ∧ o.ignored ≠ o'.ignored ∧
      (o.recorded [⟨"a", []⟩]).length = 1 ∧ (o'.recorded [⟨"a", []⟩]).length = 0 := by
  intro o o'
  refine ⟨by decide +kernel, fun h => ?_, by decide +kernel, by decide +kernel⟩
  have hcontains := congrArg (·.contains "a") h
  revert hcontains
  decide +kernel

/-- All types that are located are named in the header of a text. -/
def Scanned (locations : Locations) : Prop :=
  ∀ name, locations.contains name = true → ∃ source, name ∈ (Java.Header.ofSource source).types

theorem Scanned.visible {locations : Locations} (h : Scanned locations) {scope : List String} :
    ∀ name ∈ visibleTypes locations scope, name ≠ "" ∧ ';' ∉ name.toList := by
  intro name hname
  obtain ⟨source, hsource⟩ := h name (mem_visibleTypes.1 hname).1
  obtain ⟨hne, hdotted⟩ := Java.Header.ofSource_named source name hsource
  exact ⟨hne, hdotted.no_semicolon⟩

/-- The key of visible types determines them. -/
theorem visibilityKey_inj {locations locations' : Locations} (h : Scanned locations)
    (h' : Scanned locations') {scope scope' : List String}
    (heq : visibilityKey locations scope = visibilityKey locations' scope') :
    visibleTypes locations scope = visibleTypes locations' scope' :=
  intercalate_semicolon_inj h.visible h'.visible heq

/-- Whatever texts the names of two tables come from, and in whatever scopes they are looked up, the
same types are visible exactly if the keys are the same. -/
theorem visibleTypes_of_visibilityKey {locations locations' : Locations} (h : Scanned locations)
    (h' : Scanned locations') (scope scope' : List String) :
    visibilityKey locations scope = visibilityKey locations' scope' ↔
      visibleTypes locations scope = visibleTypes locations' scope' := by
  refine ⟨visibilityKey_inj h h', fun heq => ?_⟩
  rw [visibilityKey, visibilityKey, heq]

/-- The types of a text, located at a path. -/
def locationsIn (source : String) (path : Path) : Locations :=
  .ofList ((Java.Header.ofSource source).types.map (·, path))

theorem scanned_locationsIn (source : String) (path : Path) :
    Scanned (locationsIn source path) := by
  intro name hname
  rw [locationsIn, KeyMap.contains_ofList, List.map_map] at hname
  exact ⟨source, by simpa [Function.comp_def] using hname⟩

/-- Two texts of which neither can be read show different types. -/
theorem visibleTypes_of_visibilityKey_broken :
    visibilityKey (locationsIn "package a; class B \x7b class C" (.ofText "/B.java")) ["a", "a.B"] ≠
      visibilityKey (locationsIn "package a; class B; C" (.ofText "/B.java")) ["a"] := by
  rw [Ne, visibleTypes_of_visibilityKey (scanned_locationsIn _ _) (scanned_locationsIn _ _)]
  decide +kernel

end AnnotationIndex
