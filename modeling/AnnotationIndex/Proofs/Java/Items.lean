import AnnotationIndex.Proofs.Java.Brackets

/-!
# Items

After groups are dissolved, a file and the body of a type are rows of items. Each item is a
separator, a declaration of a type with its own items, or a phrase that shows no braces.
-/

namespace AnnotationIndex.Java.Syntax

open Header
open Terminal Phrase

mutual

theorem dissolve_eq (more : List Tree) : ∀ t : Tree, dissolve more t = dissolve [] t ++ more
  | .leaf kind token => rfl
  | .node phrase parts => by
    simp only [dissolve]
    split
    · exact dissolveAll_eq more parts
    · rfl

theorem dissolveAll_eq (more : List Tree) : ∀ ts : List Tree,
    dissolveAll more ts = dissolveAll [] ts ++ more
  | [] => rfl
  | t :: ts => by
    simp only [dissolveAll]
    rw [dissolve_eq (dissolveAll more ts) t, dissolve_eq (dissolveAll [] ts) t,
      dissolveAll_eq more ts, List.append_assoc]

end

theorem dissolveAll_flatMap (ts : List Tree) : dissolveAll [] ts = ts.flatMap (dissolve []) := by
  induction ts with
  | nil => rfl
  | cons t ts ih => rw [dissolveAll, dissolve_eq, ih, List.flatMap_cons]

mutual

theorem dissolve_leaves : ∀ t : Tree,
    (dissolve [] t).flatMap Grammar.Tree.leaves = t.leaves
  | .leaf kind token => rfl
  | .node phrase parts => by
    simp only [dissolve]
    split
    · rw [dissolveAll_leaves parts, Grammar.Tree.leaves_node]
    · rw [List.flatMap_singleton, Grammar.Tree.leaves_node, Grammar.Tree.leaves_node,
        dissolveAll_leaves parts]

theorem dissolveAll_leaves : ∀ ts : List Tree,
    (dissolveAll [] ts).flatMap Grammar.Tree.leaves = ts.flatMap Grammar.Tree.leaves
  | [] => rfl
  | t :: ts => by
    simp only [dissolveAll]
    rw [dissolve_eq, List.flatMap_append, dissolve_leaves t, dissolveAll_leaves ts,
      List.flatMap_cons]

end

inductive IsBefore : List Tree → Prop
  | none : IsBefore []
  | some {parts : List Tree}
      (hbalanced : IsBalanced (marksOf (Grammar.Tree.node modifiers parts : Tree).leaves))
      (htidy : EndsTidy (marksOf (Grammar.Tree.node modifiers parts : Tree).leaves)) :
      IsBefore [.node modifiers parts]

inductive IsHeaderPart : Tree → Prop
  | mk {phrase : Phrase} {parts : List Tree} (hkind : keywordOf? phrase = none)
      (hbody : isBody phrase = false)
      (hbalanced : IsBalanced (marksOf (Grammar.Tree.node phrase parts : Tree).leaves))
      (henclosed : isEnclosed 0 (marksOf (Grammar.Tree.node phrase parts : Tree).leaves) = true) :
      IsHeaderPart (.node phrase parts)

/-- The items of files and of bodies of types, after groups are dissolved. -/
inductive IsItem : Tree → Prop
  | separator {kind : Terminal} (token : Token) (h : kind = semicolon ∨ kind = comma) :
      IsItem (.leaf kind token)
  | plain {phrase : Phrase} {parts : List Tree} (hkind : keywordOf? phrase = none)
      (hbody : isBody phrase = false)
      (hbalanced : IsBalanced (marksOf (Grammar.Tree.node phrase parts : Tree).leaves))
      (htidy : EndsTidy (marksOf (Grammar.Tree.node phrase parts : Tree).leaves)) :
      IsItem (.node phrase parts)
  | declaration {phrase body : Phrase} {keyword : Terminal} {before header items : List Tree}
      {word text opening closing : Token} (hkind : keywordOf? phrase = some keyword)
      (hbefore : IsBefore before) (hheader : ∀ t ∈ header, IsHeaderPart t)
      (hbody : isBody body = true) (hitems : ∀ t ∈ items, IsItem t) :
      IsItem (.node phrase (before ++ .leaf keyword word :: .leaf name text :: (header ++
        [.node body (.leaf leftBrace opening :: (items ++ [.leaf rightBrace closing]))])))

theorem isGroup_of_isItemGroup {p : Phrase} (h : isItemGroup p = true) : isGroup p = true := by
  revert h
  cases p <;> decide

theorem isGroup_of_isBody {p : Phrase} (h : isBody p = true) : isGroup p = false := by
  revert h
  cases p <;> decide

theorem keywordOf?_of_isTight {p : Phrase} (h : isTight p = true) : keywordOf? p = none := by
  revert h
  cases p <;> decide

theorem root_token {t : Tree} {kind : Terminal} (h : t.root = .token kind) :
    ∃ token, t = .leaf kind token := by
  cases t with
  | leaf k token =>
    cases h
    exact ⟨token, rfl⟩
  | node p parts => cases h

theorem root_phrase {t : Tree} {p : Phrase} (h : t.root = .phrase p) :
    ∃ parts, t = .node p parts := by
  cases t with
  | leaf k token => cases h
  | node q parts =>
    cases h
    exact ⟨parts, rfl⟩

theorem dissolve_node {p : Phrase} (parts : List Tree) (h : isGroup p = false) :
    dissolve [] (.node p parts) = [.node p (dissolveAll [] parts)] := by
  simp [dissolve, h]

theorem declTail_parts {parts : List Tree} (h : isDeclTail (parts.map Grammar.Tree.root) = true) :
    ∃ (text : Token) (header : List Tree) (body : Tree),
      parts = .leaf name text :: (header ++ [body]) ∧
        (∀ t ∈ header, isHeaderSymbol t.root = true) ∧ isBodySymbol body.root = true := by
  unfold isDeclTail at h
  split at h
  · rename_i tail hparts
    obtain ⟨t, ts, rfl, ht, rfl⟩ := List.map_eq_cons_iff.1 hparts
    obtain ⟨text, rfl⟩ := root_token ht
    obtain ⟨hheader, hbody⟩ := Bool.and_eq_true_iff.1 h
    rcases List.eq_nil_or_concat ts with rfl | ⟨header, body, rfl⟩
    · cases hbody
    · refine ⟨text, header, body, by simp, ?_, ?_⟩
      · simpa using hheader
      · simpa using hbody
  · cases h

theorem declaration_parts {keyword : Terminal} {parts : List Tree}
    (h : isDeclaration keyword (parts.map Grammar.Tree.root) = true) :
    ∃ (before header : List Tree) (word text : Token) (body : Tree),
      parts = before ++ .leaf keyword word :: .leaf name text :: (header ++ [body]) ∧
        (before = [] ∨ ∃ ms, before = [.node modifiers ms]) ∧
        (∀ t ∈ header, isHeaderSymbol t.root = true) ∧ isBodySymbol body.root = true := by
  unfold isDeclaration at h
  split at h
  · rename_i k tail hparts
    obtain ⟨m, rest, rfl, hm, hrest⟩ := List.map_eq_cons_iff.1 hparts
    obtain ⟨w, ts, rfl, hw, rfl⟩ := List.map_eq_cons_iff.1 hrest
    obtain ⟨ms, rfl⟩ := root_phrase hm
    obtain ⟨word, rfl⟩ := root_token hw
    obtain ⟨hk, htail⟩ := Bool.and_eq_true_iff.1 h
    obtain rfl : k = keyword := by simpa using hk
    obtain ⟨text, header, body, rfl, hheader, hbody⟩ := declTail_parts htail
    exact ⟨[.node modifiers ms], header, word, text, body, rfl, .inr ⟨ms, rfl⟩, hheader, hbody⟩
  · rename_i k tail hparts
    obtain ⟨w, ts, rfl, hw, rfl⟩ := List.map_eq_cons_iff.1 hparts
    obtain ⟨word, rfl⟩ := root_token hw
    obtain ⟨hk, htail⟩ := Bool.and_eq_true_iff.1 h
    obtain rfl : k = keyword := by simpa using hk
    obtain ⟨text, header, body, rfl, hheader, hbody⟩ := declTail_parts htail
    exact ⟨[], header, word, text, body, rfl, .inl rfl, hheader, hbody⟩
  · cases h

theorem braced_parts {parts : List Tree} (h : isBraced (parts.map Grammar.Tree.root) = true) :
    ∃ (opening closing : Token) (items : List Tree),
      parts = .leaf leftBrace opening :: (items ++ [Grammar.Tree.leaf rightBrace closing]) ∧
        ∀ t ∈ items, isItemSymbol t.root = true := by
  unfold isBraced at h
  split at h
  · rename_i tail hparts
    obtain ⟨t, ts, rfl, ht, rfl⟩ := List.map_eq_cons_iff.1 hparts
    obtain ⟨opening, rfl⟩ := root_token ht
    obtain ⟨hitems, hlast⟩ := Bool.and_eq_true_iff.1 h
    rcases List.eq_nil_or_concat ts with rfl | ⟨items, last, rfl⟩
    · cases hlast
    · have hroot : last.root = .token rightBrace := by simpa using hlast
      obtain ⟨closing, rfl⟩ := root_token hroot
      exact ⟨opening, closing, items, by simp, by simpa using hitems⟩
  · cases h

theorem isDeclaration_of_formed {p : Production} {keyword : Terminal} (hp : p ∈ productions)
    (hkind : keywordOf? p.head = some keyword) : isDeclaration keyword p.body = true := by
  have hshape := (productions_wellShaped p hp).declaration
  rwa [hkind] at hshape

theorem isHeaderPart_of_formed {t : Tree} (h : t.Formed productions)
    (hleaves : ∀ leaf ∈ t.leaves, Faithful leaf) (hroot : isHeaderSymbol t.root = true) :
    ∃ u, dissolve [] t = [u] ∧ IsHeaderPart u := by
  cases t with
  | leaf kind token => cases hroot
  | node p parts =>
    obtain ⟨⟨⟨htight, hgroup⟩, hbody⟩, -⟩ : ((isTight p = true ∧ isGroup p = false) ∧
        isBody p = false) ∧ p ≠ modifiers := by
      simpa [isHeaderSymbol, Grammar.Tree.root] using hroot
    have hdissolve := dissolve_node parts hgroup
    have hsame := dissolve_leaves (.node p parts)
    rw [hdissolve, List.flatMap_singleton] at hsame
    refine ⟨_, hdissolve, .mk (keywordOf?_of_isTight htight) hbody ?_ ?_⟩
    · rw [hsame]
      exact tree_balanced h hleaves rfl
    · rw [hsame]
      exact tree_enclosed h hleaves rfl htight

theorem isBefore_of_formed {before : List Tree} (h : ∀ t ∈ before, t.Formed productions)
    (hleaves : ∀ t ∈ before, ∀ leaf ∈ t.leaves, Faithful leaf)
    (hbefore : before = [] ∨ ∃ ms, before = [.node modifiers ms]) :
    IsBefore (before.flatMap (dissolve [])) := by
  rcases hbefore with rfl | ⟨ms, rfl⟩
  · exact .none
  · have hdissolve := @dissolve_node modifiers ms rfl
    have hsame := dissolve_leaves (.node modifiers ms)
    rw [hdissolve, List.flatMap_singleton] at hsame
    rw [List.flatMap_singleton, hdissolve]
    refine .some ?_ ?_
    · rw [hsame]
      exact tree_balanced (h _ List.mem_cons_self) (hleaves _ List.mem_cons_self) rfl
    · rw [hsame]
      exact tree_tidy (h _ List.mem_cons_self) (hleaves _ List.mem_cons_self) rfl

def IsBodyTree (t : Tree) : Prop :=
  ∃ (body : Phrase) (opening closing : Token) (items : List Tree), isBody body = true ∧
    t = .node body (.leaf leftBrace opening :: (items ++ [.leaf rightBrace closing])) ∧
    ∀ i ∈ items, IsItem i

theorem isItem_of_declaration {phrase : Phrase} {keyword : Terminal} {parts : List Tree}
    (hkind : keywordOf? phrase = some keyword)
    (hdeclaration : isDeclaration keyword (parts.map Grammar.Tree.root) = true)
    (hformed : ∀ t ∈ parts, t.Formed productions)
    (hleaves : ∀ t ∈ parts, ∀ leaf ∈ t.leaves, Faithful leaf)
    (hbody : ∀ t ∈ parts, isBodySymbol t.root = true → ∃ u, dissolve [] t = [u] ∧ IsBodyTree u) :
    IsItem (.node phrase (dissolveAll [] parts)) := by
  obtain ⟨before, header, word, text, body, rfl, hbefore, hheader, hroot⟩ :=
    declaration_parts hdeclaration
  obtain ⟨hformed', hformed''⟩ := List.forall_mem_append.1 hformed
  obtain ⟨hleaves', hleaves''⟩ := List.forall_mem_append.1 hleaves
  obtain ⟨u, hu, q, opening, closing, items, hq, rfl, hitems⟩ := hbody body (by simp) hroot
  have hparts : dissolveAll [] (before ++ Grammar.Tree.leaf keyword word :: .leaf name text ::
      (header ++ [body])) = before.flatMap (dissolve []) ++ Grammar.Tree.leaf keyword word ::
        .leaf name text :: (header.flatMap (dissolve []) ++
          [Grammar.Tree.node q
            (.leaf leftBrace opening :: (items ++ [Grammar.Tree.leaf rightBrace closing]))]) := by
    rw [dissolveAll_flatMap]
    simp [dissolve, hu]
  rw [hparts]
  refine .declaration hkind (isBefore_of_formed hformed' hleaves' hbefore) ?_ hq hitems
  intro i hi
  obtain ⟨t, ht, hi⟩ := List.mem_flatMap.1 hi
  obtain ⟨v, hv, hpart⟩ := isHeaderPart_of_formed (hformed'' t (by simp [ht]))
    (hleaves'' t (by simp [ht])) (hheader t ht)
  rw [hv, List.mem_singleton] at hi
  exact hi ▸ hpart

theorem items_of_formed {t : Tree} (h : t.Formed productions)
    (hleaves : ∀ leaf ∈ t.leaves, Faithful leaf) :
    (isItemSymbol t.root = true → ∀ i ∈ dissolve [] t, IsItem i) ∧
      (isBodySymbol t.root = true → ∃ u, dissolve [] t = [u] ∧ IsBodyTree u) := by
  induction h with
  | leaf kind token =>
    refine ⟨?_, by simp [isBodySymbol, Grammar.Tree.root]⟩
    intro hroot i hi
    obtain rfl : i = .leaf kind token := by simpa [dissolve] using hi
    exact .separator token (by simpa [isItemSymbol, Grammar.Tree.root] using hroot)
  | @node p parts hp hbody hparts ih =>
    have hshape := productions_wellShaped p hp
    have hformed : (Grammar.Tree.node p.head parts : Tree).Formed productions :=
      .node hp hbody hparts
    have hsame := dissolve_leaves (.node p.head parts)
    have hleaves' : ∀ t ∈ parts, ∀ leaf ∈ t.leaves, Faithful leaf := by
      intro t ht leaf hleaf
      rw [Grammar.Tree.leaves_node] at hleaves
      exact hleaves leaf (List.mem_flatMap.2 ⟨t, ht, hleaf⟩)
    refine ⟨?_, ?_⟩
    · intro hroot i hi
      rcases (Bool.or_eq_true_iff).1 hroot with hgroup | hitem
      · rw [dissolve, if_pos (isGroup_of_isItemGroup hgroup), dissolveAll_flatMap] at hi
        obtain ⟨t, ht, hi⟩ := List.mem_flatMap.1 hi
        have hsymbols := hshape.group hgroup
        rw [← hbody, List.all_map, List.all_eq_true] at hsymbols
        exact (ih t ht (hleaves' t ht)).1 (hsymbols t ht) i hi
      · obtain ⟨⟨htidy, hgroup⟩, hbody'⟩ :
            (isTidy p.head = true ∧ isGroup p.head = false) ∧ isBody p.head = false := by
          simpa [isItem] using hitem
        have hdissolve := dissolve_node parts hgroup
        rw [hdissolve] at hi hsame
        rw [List.flatMap_singleton] at hsame
        obtain rfl := List.mem_singleton.1 hi
        cases hkind : keywordOf? p.head with
        | none =>
          refine .plain hkind hbody' ?_ ?_
          · rw [hsame]
            exact tree_balanced hformed hleaves rfl
          · rw [hsame]
            exact tree_tidy hformed hleaves htidy
        | some keyword =>
          have hdeclaration := isDeclaration_of_formed hp hkind
          rw [← hbody] at hdeclaration
          exact isItem_of_declaration hkind hdeclaration hparts hleaves'
            fun t ht => (ih t ht (hleaves' t ht)).2
    · intro hroot
      have hbraced := hshape.braced hroot
      rw [← hbody] at hbraced
      obtain ⟨opening, closing, items, rfl, hitems⟩ := braced_parts hbraced
      have hdissolve := dissolve_node
        (.leaf leftBrace opening :: (items ++ [Grammar.Tree.leaf rightBrace closing]))
        (isGroup_of_isBody hroot)
      refine ⟨_, hdissolve, p.head, opening, closing, items.flatMap (dissolve []), hroot, ?_, ?_⟩
      · rw [dissolveAll_flatMap]
        simp [dissolve]
      · intro i hi
        obtain ⟨t, ht, hi⟩ := List.mem_flatMap.1 hi
        have hmem : t ∈ Grammar.Tree.leaf leftBrace opening ::
            (items ++ [Grammar.Tree.leaf rightBrace closing]) := by simp [ht]
        exact (ih t hmem (hleaves' t hmem)).1 (hitems t ht) i hi

theorem production_of_dissolved {t : Tree} (h : t.Formed productions)
    (hleaves : ∀ leaf ∈ t.leaves, Faithful leaf) {p : Phrase} {parts : List Tree}
    (hi : .node p parts ∈ dissolve [] t) :
    ∃ written : List Tree, ∃ q ∈ productions, q.head = p ∧ written.map Grammar.Tree.root = q.body ∧
      (∀ t ∈ written, t.Formed productions) ∧
      (∀ t ∈ written, ∀ leaf ∈ t.leaves, Faithful leaf) ∧
      parts = written.flatMap (dissolve []) := by
  induction h with
  | leaf kind token => simp [dissolve] at hi
  | @node q written hq hbody hparts ih =>
    have hfaithful : ∀ t ∈ written, ∀ leaf ∈ t.leaves, Faithful leaf := by
      intro t ht leaf hleaf
      rw [Grammar.Tree.leaves_node] at hleaves
      exact hleaves leaf (List.mem_flatMap.2 ⟨t, ht, hleaf⟩)
    rw [dissolve] at hi
    split at hi
    · rw [dissolveAll_flatMap] at hi
      obtain ⟨t, ht, hi⟩ := List.mem_flatMap.1 hi
      exact ih t ht (hfaithful t ht) hi
    · obtain ⟨rfl, rfl⟩ : p = q.head ∧ parts = dissolveAll [] written := by simpa using hi
      exact ⟨written, q, hq, rfl, hbody, hparts, hfaithful, dissolveAll_flatMap written⟩

theorem tree_path {t : Tree} (h : t.Formed productions) (hroot : isPathSymbol t.root = true) :
    ∀ leaf ∈ t.leaves, isPathSymbol (.token leaf.1) = true := by
  induction h with
  | leaf kind token =>
    have hkind : isPathSymbol (.token kind) = true := hroot
    simpa [Grammar.Tree.leaves] using hkind
  | @node p parts hp hbody hparts ih =>
    have hsymbols := (productions_wellShaped p hp).path hroot
    rw [← hbody, List.all_map, List.all_eq_true] at hsymbols
    rw [Grammar.Tree.leaves_node]
    intro leaf hleaf
    obtain ⟨t, ht, hleaf⟩ := List.mem_flatMap.1 hleaf
    exact ih t ht (hsymbols t ht) leaf hleaf

theorem annotations_of_formed {t : Tree} (h : t.Formed productions)
    (hroot : isAnnotationSymbol t.root = true) :
    ∀ i ∈ dissolve [] t, ∃ parts, i = .node annotationUse parts := by
  induction h with
  | leaf kind token => cases hroot
  | @node p parts hp hbody hparts ih =>
    rcases (Bool.or_eq_true_iff).1 hroot with hall | hone
    · have hall' : p.head = annotations := by simpa using hall
      have hsymbols := (productions_wellShaped p hp).annotations hall'
      rw [← hbody, List.all_map, List.all_eq_true] at hsymbols
      intro i hi
      rw [dissolve, hall', if_pos (show isGroup annotations = true from rfl),
        dissolveAll_flatMap] at hi
      obtain ⟨t, ht, hi⟩ := List.mem_flatMap.1 hi
      exact ih t ht (hsymbols t ht) i hi
    · have hone' : p.head = annotationUse := by simpa using hone
      rw [hone', dissolve_node parts rfl]
      intro i hi
      exact ⟨_, List.mem_singleton.1 hi⟩

theorem path_of_formed {t : Tree} (h : t.Formed productions)
    (hleaves : ∀ leaf ∈ t.leaves, Faithful leaf) (hroot : isNameSymbol t.root = true) :
    ∃ path, dissolve [] t = [path] ∧ isDottedName path = true ∧
      (∀ leaf ∈ path.leaves, isPathSymbol (.token leaf.1) = true) ∧
      EndsTidy (marksOf path.leaves) := by
  have hpath : isPathSymbol t.root = true ∧ isTidySymbol t.root = true := by
    cases hr : t.root with
    | token kind =>
      rw [hr] at hroot
      have hkind : kind = name := by simpa [isNameSymbol] using hroot
      subst hkind
      decide
    | phrase p =>
      rw [hr] at hroot
      have hp : p = softName ∨ p = qualifiedName := by simpa [isNameSymbol] using hroot
      rcases hp with rfl | rfl <;> decide
  have hdissolve : ∃ path, dissolve [] t = [path] ∧ isDottedName path = true := by
    cases t with
    | leaf kind token => exact ⟨_, rfl, hroot⟩
    | node p parts =>
      have hp : p = softName ∨ p = qualifiedName := by
        simpa [isNameSymbol, Grammar.Tree.root] using hroot
      rcases hp with rfl | rfl
      · exact ⟨_, dissolve_node parts rfl, rfl⟩
      · exact ⟨_, dissolve_node parts rfl, rfl⟩
  obtain ⟨path, hpath', hdotted⟩ := hdissolve
  have hsame := dissolve_leaves t
  rw [hpath', List.flatMap_singleton] at hsame
  refine ⟨path, hpath', hdotted, ?_, ?_⟩
  · rw [hsame]
    exact tree_path h hpath.1
  · rw [hsame]
    exact tree_tidy h hleaves hpath.2

structure IsPackageOf (uses : List Tree) (path : Tree) : Prop where
  annotations : ∀ t ∈ uses, ∃ parts, t = .node annotationUse parts
  balanced : IsBalanced (marksOf (uses.flatMap Grammar.Tree.leaves))
  dotted : isDottedName path = true
  words : ∀ leaf ∈ path.leaves, isPathSymbol (.token leaf.1) = true
  tidy : EndsTidy (marksOf path.leaves)

private theorem package_tail {ts : List Tree} {x : Grammar.Symbol Terminal Phrase}
    (h : ts.map Grammar.Tree.root = [.token packageWord, x, .token semicolon])
    (hname : isNameSymbol x = true) (hformed : ∀ t ∈ ts, t.Formed productions)
    (hleaves : ∀ t ∈ ts, ∀ leaf ∈ t.leaves, Faithful leaf) :
    ∃ (word : Token) (path : Tree) (last : Token),
      ts.flatMap (dissolve []) = [.leaf packageWord word, path, .leaf semicolon last] ∧
        isDottedName path = true ∧ (∀ leaf ∈ path.leaves, isPathSymbol (.token leaf.1) = true) ∧
        EndsTidy (marksOf path.leaves) := by
  obtain ⟨w, ts, rfl, hw, htail⟩ := List.map_eq_cons_iff.1 h
  obtain ⟨n, ts, rfl, rfl, hend⟩ := List.map_eq_cons_iff.1 htail
  obtain ⟨s, ts, rfl, hs, hnil⟩ := List.map_eq_cons_iff.1 hend
  obtain rfl := List.map_eq_nil_iff.1 hnil
  obtain ⟨word, rfl⟩ := root_token hw
  obtain ⟨last, rfl⟩ := root_token hs
  obtain ⟨path, hpath, hspec⟩ := path_of_formed (hformed n (by simp)) (hleaves n (by simp)) hname
  exact ⟨word, path, last, by simp [dissolve, hpath], hspec⟩

theorem package_of_formed {t : Tree} (h : t.Formed productions)
    (hleaves : ∀ leaf ∈ t.leaves, Faithful leaf) {parts : List Tree}
    (hi : .node packageDeclaration parts ∈ dissolve [] t) :
    ∃ (uses : List Tree) (word : Token) (path : Tree) (last : Token),
      parts = uses ++ [.leaf packageWord word, path, .leaf semicolon last] ∧
        IsPackageOf uses path := by
  obtain ⟨written, q, hq, hhead, hbody, hformed, hfaithful, rfl⟩ :=
    production_of_dissolved h hleaves hi
  have hpackage := (productions_wellShaped q hq).package hhead
  rw [← hbody] at hpackage
  unfold isPackage at hpackage
  split at hpackage
  · rename_i x hparts
    obtain ⟨a, tail, rfl, ha, htail⟩ := List.map_eq_cons_iff.1 hparts
    obtain ⟨hformeda, hformed'⟩ := List.forall_mem_cons.1 hformed
    obtain ⟨hfaithfula, hfaithful'⟩ := List.forall_mem_cons.1 hfaithful
    obtain ⟨word, path, last, hdissolve, hdotted, hwords, htidy⟩ :=
      package_tail htail hpackage hformed' hfaithful'
    refine ⟨dissolve [] a, word, path, last, ?_, ?_, ?_, hdotted, hwords, htidy⟩
    · rw [List.flatMap_cons, hdissolve]
    · exact annotations_of_formed hformeda (by rw [ha]; rfl)
    · rw [dissolve_leaves]
      exact tree_balanced hformeda hfaithfula ha
  · rename_i x hparts
    obtain ⟨word, path, last, hdissolve, hdotted, hwords, htidy⟩ :=
      package_tail hparts hpackage hformed hfaithful
    exact ⟨[], word, path, last, hdissolve, by simp, fun d => rfl, hdotted, hwords, htidy⟩
  · cases hpackage

theorem import_of_formed {t : Tree} (h : t.Formed productions)
    (hleaves : ∀ leaf ∈ t.leaves, Faithful leaf) {parts : List Tree}
    (hi : .node importDeclaration parts ∈ dissolve [] t) :
    ∃ (word : Token) (path : List Tree) (last : Token),
      parts = .leaf importWord word :: (path ++ [Grammar.Tree.leaf semicolon last]) ∧
        ∀ leaf ∈ path.flatMap Grammar.Tree.leaves,
          isPathSymbol (.token leaf.1) = true ∨ leaf.1 = star := by
  obtain ⟨written, q, hq, hhead, hbody, hformed, hfaithful, rfl⟩ :=
    production_of_dissolved h hleaves hi
  have himport := (productions_wellShaped q hq).imported hhead
  rw [← hbody] at himport
  unfold isImport at himport
  split at himport
  · rename_i tail hparts
    obtain ⟨w, rest, rfl, hw, rfl⟩ := List.map_eq_cons_iff.1 hparts
    obtain ⟨word, rfl⟩ := root_token hw
    obtain ⟨hpath, hlast⟩ := Bool.and_eq_true_iff.1 himport
    rcases List.eq_nil_or_concat rest with rfl | ⟨path, s, rfl⟩
    · cases hlast
    · have hroot : s.root = .token semicolon := by simpa using hlast
      obtain ⟨last, rfl⟩ := root_token hroot
      refine ⟨word, path.flatMap (dissolve []), last, by simp [dissolve], ?_⟩
      intro leaf hleaf
      rw [← dissolveAll_flatMap, dissolveAll_leaves] at hleaf
      obtain ⟨t, ht, hleaf⟩ := List.mem_flatMap.1 hleaf
      have hsymbol : isPathSymbol t.root = true ∨ t.root = .token star := by
        have hall : ∀ u ∈ path, isPathSymbol u.root = true ∨ u.root = .token star := by
          simpa using hpath
        exact hall t ht
      rcases hsymbol with hsymbol | hstar
      · exact .inl (tree_path (hformed t (by simp [ht])) hsymbol leaf hleaf)
      · obtain ⟨token, rfl⟩ := root_token hstar
        have hone : leaf = (star, token) := by simpa [Grammar.Tree.leaves] using hleaf
        exact .inr (by rw [hone])
  · cases himport

theorem numbering_token (t u : Terminal) (h : numbering.token t = numbering.token u) : t = u := by
  have hof : ∀ t : Terminal, Terminal.ofNat t.ctorIdx = t := Terminal.ofNat_ctorIdx
  rw [← hof t, ← hof u]
  exact congrArg _ h

theorem numbering_phrase (p q : Phrase) (h : numbering.phrase p = numbering.phrase q) : p = q := by
  have hof : ∀ p : Phrase, Phrase.ofNat p.ctorIdx = p := Phrase.ofNat_ctorIdx
  rw [← hof p, ← hof q]
  exact congrArg _ h

theorem table_of : table.Of (wholeTextRule :: productions) := by
  refine Grammar.Table.of_ofProductions numbering_token numbering_phrase ?_ ?_
  · exact fun p hp => (productions_wellShaped p hp).lone
  · intro p hp
    rcases List.mem_cons.1 hp with rfl | hp
    · decide
    · exact (productions_wellShaped p hp).absent

theorem formed_of_whole {t : Tree} (h : t.Formed (wholeTextRule :: productions))
    (hroot : t.root ≠ .phrase wholeText) : t.Formed productions := by
  induction h with
  | leaf kind token => exact .leaf kind token
  | @node p parts hp hbody hparts ih =>
    rcases List.mem_cons.1 hp with rfl | hp
    · exact absurd rfl hroot
    · refine .node hp hbody ?_
      intro t ht
      refine ih t ht ?_
      intro heq
      apply (productions_wellShaped p hp).absent
      rw [← hbody, ← heq]
      exact List.mem_map_of_mem ht

theorem trees?_spec {ts : List Token} {trees : List Tree} (hne : ts ≠ [])
    (h : trees? ts = some trees) : ∃ (t : Tree) (last : Token) (rest : List Token),
      trees = [t, .leaf finish last] ∧ t.root = .phrase source ∧ t.Formed productions ∧
        Grammar.Cuts scan ts (t.leaves ++ [(finish, last)]) rest := by
  unfold trees? at h
  split at h
  · exact absurd rfl hne
  · obtain ⟨hroots, hformed, rest, hcuts⟩ := table_of.read?_sound h
    change trees.map Grammar.Tree.root = [.phrase source, .token finish] at hroots
    obtain ⟨t, us, rfl, ht, hend⟩ := List.map_eq_cons_iff.1 hroots
    obtain ⟨u, us, rfl, hu, hnil⟩ := List.map_eq_cons_iff.1 hend
    obtain rfl := List.map_eq_nil_iff.1 hnil
    obtain ⟨last, rfl⟩ := root_token hu
    refine ⟨t, last, rest, rfl, ht, ?_, by simpa [Grammar.Tree.leaves] using hcuts⟩
    refine formed_of_whole (hformed t (by simp)) ?_
    rw [ht]
    decide

end AnnotationIndex.Java.Syntax
