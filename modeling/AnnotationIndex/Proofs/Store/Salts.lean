import AnnotationIndex.Proofs.Data.KeyMap
import AnnotationIndex.Run.Extraction

/-!
# Fingerprints with salts

The parts of a salted fingerprint have fixed lengths, so they can be told apart. Names without
semicolons can be told apart when semicolons stand between them.
-/

namespace AnnotationIndex

open Digest

theorem length_sha256Hex (bytes : List UInt8) : (sha256Hex bytes).toList.length = 64 := by
  simp only [sha256Hex, String.toList_ofList]
  rfl

theorem length_shortDigest (text : String) : (shortDigest text).toList.length = 16 := by
  simp only [shortDigest, String.toList_ofList, List.length_take, length_sha256Hex]
  rfl

private theorem append_eq_append {a b c d : String} (h : a ++ b = c ++ d)
    (hlength : a.toList.length = c.toList.length) : a = c ∧ b = d := by
  have hlist := congrArg String.toList h
  rw [String.toList_append, String.toList_append] at hlist
  obtain ⟨hleft, hright⟩ := List.append_inj hlist hlength
  exact ⟨String.toList_inj.1 hleft, String.toList_inj.1 hright⟩

/-- Equal fingerprints of records have equal parts: the digest of the content, that of the options
and that of the visible types. -/
theorem salted_parts {content content' : List UInt8} {options options' visible visible' : String}
    (h : (Fingerprint.ofBytes content).salted (shortDigest options ++ ":" ++ shortDigest visible) =
      (Fingerprint.ofBytes content').salted
        (shortDigest options' ++ ":" ++ shortDigest visible')) :
    sha256Hex content = sha256Hex content' ∧ shortDigest options = shortDigest options' ∧
      shortDigest visible = shortDigest visible' := by
  have htext := congrArg Fingerprint.text h
  simp only [Fingerprint.salted, Fingerprint.ofBytes] at htext
  have hdigits : (sha256Hex content ++ ":").toList.length =
      (sha256Hex content' ++ ":").toList.length := by
    simp only [String.toList_append, List.length_append, length_sha256Hex]
  obtain ⟨hcontent, hsalts⟩ := append_eq_append htext hdigits
  have hcolon : (shortDigest options ++ ":").toList.length =
      (shortDigest options' ++ ":").toList.length := by
    simp only [String.toList_append, List.length_append, length_shortDigest]
  obtain ⟨hoptions, hvisible⟩ := append_eq_append hsalts hcolon
  have hlength : (sha256Hex content).toList.length = (sha256Hex content').toList.length := by
    rw [length_sha256Hex, length_sha256Hex]
  have hlength' : (shortDigest options).toList.length = (shortDigest options').toList.length := by
    rw [length_shortDigest, length_shortDigest]
  exact ⟨(append_eq_append hcontent hlength).1, (append_eq_append hoptions hlength').1, hvisible⟩

private theorem split_at_semicolon {a b x y : List Char} (ha : ';' ∉ a) (hb : ';' ∉ b)
    (h : a ++ ';' :: x = b ++ ';' :: y) : a = b ∧ x = y := by
  induction a generalizing b with
  | nil =>
    cases b with
    | nil => exact ⟨rfl, by simpa using h⟩
    | cons c b =>
      simp only [List.nil_append, List.cons_append, List.cons.injEq] at h
      exact absurd (List.mem_cons.2 (Or.inl h.1)) hb
  | cons c a ih =>
    cases b with
    | nil =>
      simp only [List.nil_append, List.cons_append, List.cons.injEq] at h
      exact absurd (List.mem_cons.2 (Or.inl h.1.symm)) ha
    | cons d b =>
      simp only [List.cons_append, List.cons.injEq] at h
      obtain ⟨hab, hxy⟩ := ih (fun hmem => ha (by simp [hmem])) (fun hmem => hb (by simp [hmem])) h.2
      exact ⟨by rw [h.1, hab], hxy⟩

/-- Texts without semicolons can be told apart when each is followed by one. -/
private theorem flatMap_semicolon_inj {l m : List (List Char)} (hl : ∀ s ∈ l, ';' ∉ s)
    (hm : ∀ s ∈ m, ';' ∉ s) (h : l.flatMap (· ++ [';']) = m.flatMap (· ++ [';'])) : l = m := by
  induction l generalizing m with
  | nil =>
    cases m with
    | nil => rfl
    | cons t m => simp at h
  | cons s l ih =>
    cases m with
    | nil => simp at h
    | cons t m =>
      simp only [List.flatMap_cons, List.append_assoc, List.singleton_append] at h
      obtain ⟨hst, hrest⟩ := split_at_semicolon (hl s (by simp)) (hm t (by simp)) h
      rw [hst, ih (fun u hu => hl u (by simp [hu])) (fun u hu => hm u (by simp [hu])) hrest]

private theorem intercalate_append_semicolon {l : List (List Char)} (h : l ≠ []) :
    [';'].intercalate l ++ [';'] = l.flatMap (· ++ [';']) := by
  induction l with
  | nil => exact absurd rfl h
  | cons s l ih =>
    cases l with
    | nil => simp
    | cons t l =>
      rw [List.intercalate_cons_cons, List.append_assoc, ih (by simp)]
      simp

private theorem intercalate_ne_nil {s : String} (hs : s ≠ "") (l : List String) :
    [';'].intercalate ((s :: l).map String.toList) ≠ [] := by
  have hne : s.toList ≠ [] := by
    intro heq
    exact hs (String.toList_inj.1 heq)
  cases l with
  | nil => simpa using hs
  | cons t l =>
    rw [List.map_cons, List.map_cons, List.intercalate_cons_cons]
    simp [hs]

theorem intercalate_semicolon_inj {l m : List String}
    (hl : ∀ s ∈ l, s ≠ "" ∧ ';' ∉ s.toList) (hm : ∀ s ∈ m, s ≠ "" ∧ ';' ∉ s.toList)
    (h : ";".intercalate l = ";".intercalate m) : l = m := by
  have hlist : [';'].intercalate (l.map String.toList) = [';'].intercalate (m.map String.toList) := by
    have htexts := congrArg String.toList h
    rwa [String.toList_intercalate, String.toList_intercalate] at htexts
  cases l with
  | nil =>
    cases m with
    | nil => rfl
    | cons t m => exact absurd hlist.symm (intercalate_ne_nil (hm t (by simp)).1 m)
  | cons s l =>
    cases m with
    | nil => exact absurd hlist (intercalate_ne_nil (hl s (by simp)).1 l)
    | cons t m =>
      have hends : ((s :: l).map String.toList).flatMap (· ++ [';']) =
          ((t :: m).map String.toList).flatMap (· ++ [';']) := by
        rw [← intercalate_append_semicolon (by simp), ← intercalate_append_semicolon (by simp),
          hlist]
      have hmaps := flatMap_semicolon_inj (List.forall_mem_map.2 fun u hu => (hl u hu).2)
        (List.forall_mem_map.2 fun u hu => (hm u hu).2) hends
      exact (List.map_inj_right fun _ _ => String.toList_inj.1).1 hmaps

theorem mem_visibleTypes {locations : Locations} {scope : List String} {name : String} :
    name ∈ visibleTypes locations scope ↔
      locations.contains name = true ∧ packageOf name ∈ scope := by
  rw [visibleTypes, List.mem_filter, KeyMap.mem_keys, List.contains_iff_mem]

theorem contains_eq_of_visibleTypes_eq {locations locations' : Locations} {scope : List String}
    (h : visibleTypes locations scope = visibleTypes locations' scope) {name : String}
    (hname : packageOf name ∈ scope) : locations.contains name = locations'.contains name := by
  rw [Bool.eq_iff_iff]
  constructor
  · intro hmem
    have hvisible : name ∈ visibleTypes locations scope := mem_visibleTypes.2 ⟨hmem, hname⟩
    rw [h] at hvisible
    exact (mem_visibleTypes.1 hvisible).1
  · intro hmem
    have hvisible : name ∈ visibleTypes locations' scope := mem_visibleTypes.2 ⟨hmem, hname⟩
    rw [← h] at hvisible
    exact (mem_visibleTypes.1 hvisible).1

end AnnotationIndex
