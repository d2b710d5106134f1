import Mathlib.Logic.Basic

/-!
# Running operations

Operations are state transformers, most of them with refusals. This module says what their
combinators do to a state, so that proofs can follow an operation step by step, and what it means
that every run of an operation keeps a property of the state.

The module introduces:

* `Run.bind_eq_ok`, `Run.map_eq_ok` — results that are made of others.
* `Run.bind_apply`, `Run.lift_apply`, `Run.tryCatch_apply` and their kind — one combinator applied
  to a state.
* `Keeps` — a property of the state that no run of an operation destroys, with one lemma for each
  combinator.
* `Triple` — what an operation makes of a state if it succeeds, and what if it is refused, with one
  lemma for each combinator.
-/

namespace GpuQuota

variable {ε τ α β : Type}

namespace Run

/-! ## Results and operations that may be refused -/

/-- A result in two steps is a success if both steps are. -/
theorem bind_eq_ok {x : Except ε α} {f : α → Except ε β} {b : β} :
    (x >>= f) = .ok b ↔ ∃ a, x = .ok a ∧ f a = .ok b := by
  cases x with
  | error e => exact ⟨nofun, fun ⟨_, h, _⟩ => nomatch h⟩
  | ok a => exact ⟨fun h => ⟨a, rfl, h⟩, fun ⟨_, ha, h⟩ => Except.ok.inj ha ▸ h⟩

/-- What is made of a result is a success if the result is. -/
theorem map_eq_ok {x : Except ε α} {f : α → β} {b : β} :
    x.map f = .ok b ↔ ∃ a, x = .ok a ∧ f a = b := by
  cases x with
  | error e => exact ⟨nofun, fun ⟨_, h, _⟩ => nomatch h⟩
  | ok a =>
    exact ⟨fun h => ⟨a, rfl, Except.ok.inj h⟩, fun ⟨_, ha, h⟩ => Except.ok.inj ha ▸ congrArg _ h⟩

/-- An operation that is never refused, among those that may be. -/
theorem lift_apply (x : StateM τ α) (s : τ) :
    (liftM x : ExceptT ε (StateM τ) α) s = (.ok (x s).1, (x s).2) := rfl

/-- What comes second goes on from the state in which the first ended. -/
theorem state_bind_apply (x : StateM τ α) (f : α → StateM τ β) (s : τ) :
    (x >>= f) s = f (x s).1 (x s).2 := rfl

/-- What comes after reading the state goes on with the state that was read. -/
theorem get_bind_apply (f : τ → StateM τ β) (s : τ) : (get >>= f) s = f s s := rfl

/-- A refusal ends the run. -/
theorem bind_apply (x : ExceptT ε (StateM τ) α) (f : α → ExceptT ε (StateM τ) β) (s : τ) :
    (x >>= f) s = match x s with
      | (.ok a, t) => f a t
      | (.error e, t) => (.error e, t) := by
  show (ExceptT.bindCont f (x s).1 : StateM τ _) (x s).2 = _
  rcases x s with ⟨e | a, t⟩ <;> rfl

/-- A handler goes on from the state in which the refusal came. -/
theorem tryCatch_apply (x : ExceptT ε (StateM τ) α) (handle : ε → ExceptT ε (StateM τ) α) (s : τ) :
    (tryCatch x handle) s = match x s with
      | (.ok a, t) => (.ok a, t)
      | (.error e, t) => handle e t := by
  show (match (x s).1 with | .ok a => _ | .error e => _ : StateM τ _) (x s).2 = _
  rcases x s with ⟨e | a, t⟩ <;> rfl

end Run

/-! ## Invariance -/

/-- No run of the operation destroys the property. -/
def Keeps (P : τ → Prop) (op : StateM τ α) : Prop := ∀ s, P s → P (op s).2

section

variable {P : τ → Prop}

theorem keeps_pure (a : α) : Keeps P (pure a : StateM τ α) := fun _ h => h

theorem keeps_throw (e : ε) : Keeps P (throw e : ExceptT ε (StateM τ) α) := fun _ h => h

theorem keeps_get : Keeps P (get : StateM τ τ) := fun _ h => h

theorem keeps_modify {f : τ → τ} (hf : ∀ s, P s → P (f s)) :
    Keeps P (modify f : StateM τ PUnit) := hf

theorem Keeps.bind {x : StateM τ α} {f : α → StateM τ β} (hx : Keeps P x)
    (hf : ∀ a, Keeps P (f a)) : Keeps P (x >>= f) :=
  fun s h => hf _ _ (hx s h)

/-- What comes after a success may rely on that success. -/
theorem Keeps.bind_except_ok {x : ExceptT ε (StateM τ) α} {f : α → ExceptT ε (StateM τ) β}
    (hx : Keeps P x) (hf : ∀ a, (∃ s, (x s).1 = .ok a) → Keeps P (f a)) :
    Keeps P (x >>= f : ExceptT ε (StateM τ) β) := by
  intro s h
  have hs := hx s h
  rw [Run.bind_apply]
  -- Only a result that did come out is passed on.
  rcases hr : x s with ⟨e | a, t⟩
  · rw [hr] at hs
    exact hs
  · rw [hr] at hs
    exact hf a ⟨s, by rw [hr]⟩ _ hs

/-- What comes after a refusal is not run. -/
theorem Keeps.bind_except {x : ExceptT ε (StateM τ) α} {f : α → ExceptT ε (StateM τ) β}
    (hx : Keeps P x) (hf : ∀ a, Keeps P (f a)) :
    Keeps P (x >>= f : ExceptT ε (StateM τ) β) :=
  hx.bind_except_ok fun a _ => hf a

theorem Keeps.tryCatch {x : ExceptT ε (StateM τ) α} {handle : ε → ExceptT ε (StateM τ) α}
    (hx : Keeps P x) (hhandle : ∀ e, Keeps P (handle e)) :
    Keeps P (tryCatchThe ε x handle : ExceptT ε (StateM τ) α) := by
  intro s h
  have hs := hx s h
  show P ((MonadExcept.tryCatch x handle : ExceptT ε (StateM τ) α) s).2
  rw [Run.tryCatch_apply]
  rcases hr : x s with ⟨e | a, t⟩
  · rw [hr] at hs
    exact hhandle e t hs
  · rw [hr] at hs
    exact hs

theorem Keeps.lift {x : StateM τ α} (hx : Keeps P x) :
    Keeps P (liftM x : ExceptT ε (StateM τ) α) := hx

end

/-! ## Outcomes -/

/-- From states with `P` the operation leads to `Q` if it succeeds, and to `E` if it is refused. -/
def Triple (P : τ → Prop) (op : ExceptT ε (StateM τ) α) (Q : α → τ → Prop) (E : τ → Prop) : Prop :=
  ∀ s, P s → match op s with
    | (.ok a, t) => Q a t
    | (.error _, t) => E t

namespace Triple

variable {P E : τ → Prop} {Q : α → τ → Prop} {R : β → τ → Prop}

theorem pure {a : α} (h : ∀ s, P s → Q a s) :
    Triple P (Pure.pure a : ExceptT ε (StateM τ) α) Q E := h

theorem throw {e : ε} (h : ∀ s, P s → E s) :
    Triple P (MonadExcept.throw e : ExceptT ε (StateM τ) α) Q E := h

theorem modify {f : τ → τ} {Q : PUnit → τ → Prop} (h : ∀ s, P s → Q ⟨⟩ (f s)) :
    Triple P (modifyThe τ f : ExceptT ε (StateM τ) PUnit) Q E := h

/-- What holds in every state is known of the state that is read. -/
theorem get_bind {f : τ → ExceptT ε (StateM τ) β}
    (h : ∀ s, P s → Triple (· = s) (f s) R E) :
    Triple P (MonadState.get >>= f) R E :=
  fun s hs => h s hs s rfl

/-- What comes after a refusal is not run. -/
theorem bind {x : ExceptT ε (StateM τ) α} {f : α → ExceptT ε (StateM τ) β}
    (hx : Triple P x Q E) (hf : ∀ a, Triple (Q a) (f a) R E) : Triple P (x >>= f) R E := by
  intro s hs
  have hrun := hx s hs
  rw [Run.bind_apply]
  -- A refusal ends the run; a result is passed on.
  rcases hr : x s with ⟨e | a, t⟩
  · rw [hr] at hrun
    exact hrun
  · rw [hr] at hrun
    exact hf a t hrun

/-- A handler runs only after a refusal. -/
theorem tryCatch {x : ExceptT ε (StateM τ) α} {handle : ε → ExceptT ε (StateM τ) α}
    {E' : τ → Prop} (hx : Triple P x Q E') (hhandle : ∀ e, Triple E' (handle e) Q E) :
    Triple P (tryCatchThe ε x handle) Q E := by
  intro s hs
  have hrun := hx s hs
  show match (MonadExcept.tryCatch x handle) s with
    | (.ok a, t) => Q a t
    | (.error _, t) => E t
  rw [Run.tryCatch_apply]
  -- Only a refusal reaches the handler.
  rcases hr : x s with ⟨e | a, t⟩
  · rw [hr] at hrun
    exact hhandle e t hrun
  · rw [hr] at hrun
    exact hrun

/-- What is said of the outcomes may be weakened. -/
theorem mono {op : ExceptT ε (StateM τ) α} {Q' : α → τ → Prop} {E' : τ → Prop}
    (h : Triple P op Q E) (hQ : ∀ a s, Q a s → Q' a s) (hE : ∀ s, E s → E' s) :
    Triple P op Q' E' := by
  intro s hs
  have hrun := h s hs
  rcases hr : op s with ⟨e | a, t⟩
  · rw [hr] at hrun
    exact hE t hrun
  · rw [hr] at hrun
    exact hQ a t hrun

/-- What is said of both outcomes holds in the state after the run. -/
theorem snd {op : ExceptT ε (StateM τ) α} (h : Triple P op (fun _ => E) E) {s : τ} (hs : P s) :
    E (op s).2 := by
  have hrun := h s hs
  rcases hr : op s with ⟨e | a, t⟩
  · rw [hr] at hrun
    exact hrun
  · rw [hr] at hrun
    exact hrun

/-- What is said of refusals holds after one. -/
theorem of_refusal {op : ExceptT ε (StateM τ) α} (h : Triple P op Q E) {s : τ} (hs : P s)
    (hrefused : (op s).1.isOk = false) : E (op s).2 := by
  have hrun := h s hs
  rcases hr : op s with ⟨e | a, t⟩
  · rw [hr] at hrun
    exact hrun
  · rw [hr] at hrefused
    cases hrefused

/-- A property that holds of both outcomes is kept. -/
theorem keeps {op : ExceptT ε (StateM τ) α} (h : Triple P op (fun _ => P) P) : Keeps P op :=
  fun _ hs => h.snd hs

/-- A property that is kept holds of both outcomes. -/
theorem of_keeps {op : ExceptT ε (StateM τ) α} (h : Keeps P op) : Triple P op (fun _ => P) P := by
  intro s hs
  have hrun := h s hs
  rcases hr : op s with ⟨e | a, t⟩
  · rw [hr] at hrun
    exact hrun
  · rw [hr] at hrun
    exact hrun

/-- What does not depend on the state may be taken for granted. -/
theorem of_fact {op : ExceptT ε (StateM τ) α} {p : Prop} (h : p → Triple P op Q E) :
    Triple (fun s => p ∧ P s) op Q E :=
  fun s hs => h hs.1 s hs.2

/-- What is demanded of the state may be strengthened. -/
theorem pre {op : ExceptT ε (StateM τ) α} {P' : τ → Prop} (h : Triple P op Q E)
    (hP : ∀ s, P' s → P s) : Triple P' op Q E :=
  fun s hs => h s (hP s hs)

end Triple

end GpuQuota
