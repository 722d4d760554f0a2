import Mathlib.Data.UInt

/-!
# Calls on a mutable receiver

Every method of `conn.rs` that the model covers takes `&mut self` and returns an `IoResult` or a
`MyResult`. Its `try!`/`try_io!` returns early, but the writes it made before that stay: a failed
`read_packet` has still advanced `seq_id` and consumed bytes of the stream. `Act σ ε α` is that
shape — the returned `Ok` or `Err` together with the receiver left behind.

The same monad serves the `BufReader` cursor (`σ` the unread bytes) and the connection
(`σ = MyConn`). It is a plain function type with its own `@[simp]` equations, so that a run on a
concrete state unfolds by `simp` without going through the `StateT`/`ExceptT` stack.
-/

namespace MysqlSimple

instance instDecidableEqExcept {ε α : Type} [DecidableEq ε] [DecidableEq α] :
    DecidableEq (Except ε α)
  | .ok a, .ok b => decidable_of_iff (a = b) (by simp)
  | .error a, .error b => decidable_of_iff (a = b) (by simp)
  | .ok _, .error _ => isFalse (by simp)
  | .error _, .ok _ => isFalse (by simp)

/-- A call with receiver `σ`, error type `ε` and result `α`. -/
def Act (σ ε α : Type) : Type := σ → Except ε α × σ

namespace Act

variable {σ ε α β : Type}

instance : Monad (Act σ ε) where
  pure a := fun s => (.ok a, s)
  bind x f := fun s =>
    match x s with
    | (.ok a, s') => f a s'
    | (.error e, s') => (.error e, s')

instance : MonadStateOf σ (Act σ ε) where
  get := fun s => (.ok s, s)
  set s := fun _ => (.ok (), s)
  modifyGet f := fun s => ((.ok (f s).1), (f s).2)

instance : MonadExceptOf ε (Act σ ε) where
  throw e := fun s => (.error e, s)
  tryCatch x h := fun s =>
    match x s with
    | (.error e, s') => h e s'
    | r => r

@[simp] theorem pure_apply (a : α) (s : σ) : (pure a : Act σ ε α) s = (.ok a, s) := rfl

@[simp] theorem bind_apply (x : Act σ ε α) (f : α → Act σ ε β) (s : σ) :
    (x >>= f) s = match x s with
      | (.ok a, s') => f a s'
      | (.error e, s') => (.error e, s') := rfl

@[simp] theorem map_apply (f : α → β) (x : Act σ ε α) (s : σ) :
    (f <$> x) s = match x s with
      | (.ok a, s') => (.ok (f a), s')
      | (.error e, s') => (.error e, s') := by
  show (x >>= fun a => pure (f a)) s = _
  simp only [bind_apply, pure_apply]

/-- Mapping the result leaves the state as the mapped call left it. -/
@[simp] theorem map_snd (f : α → β) (x : Act σ ε α) (s : σ) : ((f <$> x) s).2 = (x s).2 := by
  simp only [map_apply]; split <;> simp_all

@[simp] theorem throw_apply (e : ε) (s : σ) : (throw e : Act σ ε α) s = (.error e, s) := rfl

@[simp] theorem get_apply (s : σ) : (get : Act σ ε σ) s = (.ok s, s) := rfl

@[simp] theorem set_apply (s s₀ : σ) : (set s : Act σ ε PUnit) s₀ = (.ok (), s) := rfl

@[simp] theorem modify_apply (f : σ → σ) (s : σ) :
    (modify f : Act σ ε PUnit) s = (.ok (), f s) := rfl

@[simp] theorem modifyGet_apply (f : σ → α × σ) (s : σ) :
    (modifyGet f : Act σ ε α) s = (.ok (f s).1, (f s).2) := rfl

/-- A successful first step hands its result and state to the continuation. -/
theorem bind_of_ok {x : Act σ ε α} {f : α → Act σ ε β} {s s' : σ} {a : α}
    (h : x s = (.ok a, s')) : (x >>= f) s = f a s' := by
  simp only [bind_apply, h]

/-- A failing first step is the failure of the whole bind. -/
theorem bind_of_error {x : Act σ ε α} {f : α → Act σ ε β} {s s' : σ} {e : ε}
    (h : x s = (.error e, s')) : (x >>= f) s = (.error e, s') := by
  simp only [bind_apply, h]

/-- A `pure` first step hands its value on, state unchanged. -/
theorem pure_bind_apply (a : α) (f : α → Act σ ε β) (s : σ) : (pure a >>= f) s = f a s := rfl

/-- The state goes to the branch the condition picks. -/
theorem ite_apply {c : Prop} [Decidable c] (x y : Act σ ε α) (s : σ) :
    (if c then x else y) s = if c then x s else y s := by
  split <;> rfl

/-- A bind that returned went through a first step that returned. -/
theorem bind_eq_ok {x : Act σ ε α} {f : α → Act σ ε β} {s s' : σ} {b : β}
    (h : (x >>= f) s = (.ok b, s')) : ∃ a s₁, x s = (.ok a, s₁) ∧ f a s₁ = (.ok b, s') := by
  simp only [bind_apply] at h
  split at h
  · exact ⟨_, _, ‹_›, h⟩
  · cases h

/-- A mapped call that returned is the call returning, with the map applied to its result. -/
theorem map_eq_ok {f : α → β} {x : Act σ ε α} {s s' : σ} {b : β}
    (h : (f <$> x) s = (.ok b, s')) : ∃ a, x s = (.ok a, s') ∧ f a = b := by
  simp only [map_apply] at h
  split at h
  · cases h; exact ⟨_, ‹_›, rfl⟩
  · cases h

/-- Map the error of a call, as `try_io!` wraps an `IoError` into `MyIoError`. -/
def mapError {ε' : Type} (f : ε → ε') (x : Act σ ε α) : Act σ ε' α :=
  fun s => match x s with
    | (.ok a, s') => (.ok a, s')
    | (.error e, s') => (.error (f e), s')

@[simp] theorem mapError_apply {ε' : Type} (f : ε → ε') (x : Act σ ε α) (s : σ) :
    mapError f x s = match x s with
      | (.ok a, s') => (.ok a, s')
      | (.error e, s') => (.error (f e), s') := rfl

/-- Run a call for its effect on the state and drop its result, as `let _ = reader.read_..();`
does: the bytes a failed read consumed stay consumed. -/
def discard (x : Act σ ε α) : Act σ ε Unit := fun s => (.ok (), (x s).2)

@[simp] theorem discard_apply (x : Act σ ε α) (s : σ) : discard x s = (.ok (), (x s).2) := rfl

/-- A pure `Result` inside a call, as `try!` on a value that needs no receiver. -/
def ofExcept (r : Except ε α) : Act σ ε α := fun s => (r, s)

@[simp] theorem ofExcept_apply (r : Except ε α) (s : σ) : (ofExcept r : Act σ ε α) s = (r, s) := rfl

/-! ## Invariants of calls

`Preserves P x`: every run of `x` from a state satisfying `P` ends in a state satisfying `P`,
whether it returns, fails or panics. The lemmas below follow the monad's constructors, so that a
method's invariant is proved along the shape of its body. A fact about how one field moves (the
unread input never grows, a field is never written) is `Preserves` of `fun s => f s ≤ n` or
`fun s => f s = v` for every `n` or `v`. -/

/-- Every run of `x` from a state satisfying `P` ends in a state satisfying `P`. A structure
rather than a definition, so that a proof of it goes through the lemmas below and not through
the state. -/
structure Preserves (P : σ → Prop) (x : Act σ ε α) : Prop where
  run : ∀ s, P s → P (x s).2

variable {P : σ → Prop}

theorem Preserves.bind {x : Act σ ε α} {f : α → Act σ ε β} (hx : Preserves P x)
    (hf : ∀ a, Preserves P (f a)) : Preserves P (x >>= f) := ⟨fun s hs => by
  have h := hx.run s hs
  simp only [bind_apply]
  split <;> rename_i heq <;> rw [heq] at h
  · exact (hf _).run _ h
  · exact h⟩

theorem preserves_pure (a : α) : Preserves P (pure a : Act σ ε α) := ⟨fun _ h => h⟩

theorem preserves_throw (e : ε) : Preserves P (throw e : Act σ ε α) := ⟨fun _ h => h⟩

theorem preserves_get : Preserves P (get : Act σ ε σ) := ⟨fun _ h => h⟩

theorem preserves_ofExcept (r : Except ε α) : Preserves P (ofExcept r : Act σ ε α) :=
  ⟨fun _ h => h⟩

theorem preserves_modify {f : σ → σ} (hf : ∀ s, P s → P (f s)) :
    Preserves P (modify f : Act σ ε PUnit) := ⟨hf⟩

theorem Preserves.map {x : Act σ ε α} (f : α → β) (hx : Preserves P x) :
    Preserves P (f <$> x) := ⟨fun s hs => by rw [map_snd]; exact hx.run s hs⟩

theorem Preserves.ite {c : Prop} [Decidable c] {x y : Act σ ε α} (hx : Preserves P x)
    (hy : Preserves P y) : Preserves P (if c then x else y) := by
  split <;> assumption

/-- The state a run of `x` ends in satisfies `P` when the state it started from does. -/
theorem Preserves.of_eq {x : Act σ ε α} (hx : Preserves P x) {s s' : σ} {r : Except ε α}
    (hs : P s) (h : x s = (r, s')) : P s' := by
  have := hx.run s hs
  rwa [h] at this

theorem Preserves.mapError {ε' : Type} {x : Act σ ε α} (f : ε → ε') (hx : Preserves P x) :
    Preserves P (mapError f x) := ⟨fun s hs => by
  have h := hx.run s hs
  simp only [mapError_apply]; split <;> rename_i heq <;> rw [heq] at h <;> exact h⟩

end Act

/-- How a call can end other than by returning a value: with the error it returns (`Err`), or
with a panic — `fail!`, `unwrap` of `None`, an index out of range — which unwinds through every
caller. -/
inductive Fault (ε : Type)
  | err (e : ε)
  | panic (msg : String)
  deriving DecidableEq, Repr

/-- Lift a call that cannot panic into one whose failures are `Fault`s. -/
def Act.lift {σ ε α : Type} (x : Act σ ε α) : Act σ (Fault ε) α := Act.mapError .err x

end MysqlSimple
