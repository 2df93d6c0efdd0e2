import AnnotationIndex.Run.Sources

/-!
# Results that do not depend on the store

`Settled x r` says that the stage `x` comes to the result `r` without making use of the store.
`Gives inv x r` says that the computation `x` has the result `r` whatever the store holds, as long
as the store satisfies `inv`, and that `x` preserves `inv`.
-/

namespace AnnotationIndex

variable {σ α β : Type} {inv : σ → Prop}

theorem bind_apply {τ : Type} (x : StateM τ α) (f : α → StateM τ β) (s : τ) :
    (x >>= f) s = f (x s).1 (x s).2 := rfl

/-- From every session the stage has the given result, and it leaves the store as it is. -/
def Settled (x : Stage σ α) (r : Except Failure α) : Prop :=
  ∀ s, (x s).1 = r ∧ (x s).2.store = s.store

namespace Settled

theorem ok (a : α) : Settled (Pure.pure a : Stage σ α) (.ok a) := fun _ => ⟨rfl, rfl⟩

theorem error (f : Failure) : Settled (throw f : Stage σ α) (.error f) := fun _ => ⟨rfl, rfl⟩

theorem report (events : List Event) : Settled (Stage.report events : Stage σ Unit) (.ok ()) :=
  fun _ => ⟨rfl, rfl⟩

theorem andThen {x : Stage σ α} {f : α → Stage σ β} {r : Except Failure α}
    {g : α → Except Failure β} (hx : Settled x r)
    (hf : ∀ a, r = .ok a → Settled (f a) (g a)) : Settled (x >>= f : Stage σ β) (r >>= g) := by
  intro s
  obtain ⟨hresult, hstore⟩ := hx s
  change (ExceptT.bindCont f (x s).1 (x s).2).1 = _ ∧
    (ExceptT.bindCont f (x s).1 (x s).2).2.store = _
  rw [hresult]
  cases r with
  | error e => exact ⟨rfl, hstore⟩
  | ok a =>
    obtain ⟨hnext, hkeeps⟩ := hf a rfl (x s).2
    exact ⟨hnext, hkeeps.trans hstore⟩

theorem okThen {x : Stage σ α} {f : α → Stage σ β} {a : α} {r : Except Failure β}
    (hx : Settled x (.ok a)) (hf : Settled (f a) r) : Settled (x >>= f : Stage σ β) r := by
  have hthen : Settled (x >>= f : Stage σ β) (Except.ok a >>= fun _ => r) := by
    apply hx.andThen
    intro b hb
    cases hb
    exact hf
  exact hthen

end Settled

/-- The computation has the given result for every store that satisfies `inv`, and it preserves
`inv`. -/
def Gives (inv : σ → Prop) (x : StateM (Session σ) α) (r : α) : Prop :=
  ∀ s, inv s.store → (x s).1 = r ∧ inv (x s).2.store

namespace Gives

theorem pure (a : α) : Gives inv (Pure.pure a) a := fun _ h => ⟨rfl, h⟩

theorem bind {x : StateM (Session σ) α} {f : α → StateM (Session σ) β} {a : α}
    {b : β} (hx : Gives inv x a) (hf : Gives inv (f a) b) : Gives inv (x >>= f) b := by
  intro s hs
  obtain ⟨hresult, hstore⟩ := hx s hs
  have hbind : (x >>= f) s = f a (x s).2 := by
    rw [← hresult]
    rfl
  rw [hbind]
  exact hf (x s).2 hstore

theorem report (events : List Event) : Gives inv (Session.report events) () := fun _ h => ⟨rfl, h⟩

theorem ok (a : α) : Gives inv (Pure.pure a : Stage σ α) (.ok a) := fun _ h => ⟨rfl, h⟩

theorem lift {x : StateM (Session σ) α} {a : α} (hx : Gives inv x a) :
    Gives inv (liftM x : Stage σ α) (.ok a) := by
  intro s hs
  obtain ⟨hresult, hstore⟩ := hx s hs
  have hlift : (liftM x : Stage σ α) s = (.ok (x s).1, (x s).2) := rfl
  rw [hlift, hresult]
  exact ⟨rfl, hstore⟩

theorem liftExcept (e : Except Failure α) : Gives inv (liftM e : Stage σ α) e :=
  fun _ h => ⟨rfl, h⟩

theorem stageReport (events : List Event) :
    Gives inv (Stage.report events : Stage σ Unit) (.ok ()) := (report events).lift

theorem andThen {x : Stage σ α} {f : α → Stage σ β} {r : Except Failure α}
    {g : α → Except Failure β} (hx : Gives inv x r)
    (hf : ∀ a, r = .ok a → Gives inv (f a) (g a)) :
    Gives inv (x >>= f : Stage σ β) (r >>= g) := by
  intro s hs
  obtain ⟨hresult, hstore⟩ := hx s hs
  change (ExceptT.bindCont f (x s).1 (x s).2).1 = _ ∧ inv (ExceptT.bindCont f (x s).1 (x s).2).2.store
  rw [hresult]
  cases r with
  | error e => exact ⟨rfl, hstore⟩
  | ok a => exact hf a rfl (x s).2 hstore

theorem okThen {x : Stage σ α} {f : α → Stage σ β} {a : α}
    {r : Except Failure β} (hx : Gives inv x (.ok a)) (hf : Gives inv (f a) r) :
    Gives inv (x >>= f : Stage σ β) r := by
  have hthen : Gives inv (x >>= f : Stage σ β) (Except.ok a >>= fun _ => r) := by
    apply hx.andThen
    intro b hb
    cases hb
    exact hf
  exact hthen

/-- What was filed under a key and a fingerprint and is read from there. -/
def Filed (store : MemoryStore) (d : Decoder α) (bucket : Bucket) (file : SourceFile)
    (fingerprint : Fingerprint) (v : α) : Prop :=
  ∃ payload, store.get? bucket file.key = some ⟨fingerprint, payload⟩ ∧ d.run payload = some v

end Gives

end AnnotationIndex
