import TensorExchange.Error

/-!
Results: taking a chain of steps apart, whether it succeeded or failed.

An operation that may fail is written as a chain of steps.  The first lemmas say what
a successful chain says about its steps, so that no proof has to unfold the chain.

A chain that changes something fails with the state it leaves.  `Fails P` says that this
state has a property, `Leaves s` that it is the state `s` the chain began with.  Both are
shown along the chain: a check leaves the state it is made in, a step that cannot fail
leaves anything, and for `Leaves` nothing may fail any more after the first step that
changed the state.  So there is one lemma on each way to make a chain, and an operation
that leaves its state on failure is proved by them in the order of its own steps.
-/

namespace TensorExchange

variable {ε α β : Type}

theorem bind_eq_ok {x : Except ε α} {f : α → Except ε β} {b : β} :
    x >>= f = .ok b ↔ ∃ a, x = .ok a ∧ f a = .ok b := by
  cases x with
  | error e => exact ⟨(nomatch ·), fun ⟨_, h, _⟩ => nomatch h⟩
  | ok a => exact ⟨fun h => ⟨a, rfl, h⟩, fun ⟨_, h, hb⟩ => Except.ok.inj h ▸ hb⟩

theorem bind_eq_error {x : Except ε α} {f : α → Except ε β} {e : ε} :
    x >>= f = .error e ↔ x = .error e ∨ ∃ a, x = .ok a ∧ f a = .error e := by
  cases x with
  | error e' =>
    constructor
    · rintro ⟨⟩
      exact .inl rfl
    · rintro (⟨⟨⟩⟩ | ⟨a, h, _⟩)
      · rfl
      · cases h
  | ok a =>
    constructor
    · exact fun h => .inr ⟨a, rfl, h⟩
    · rintro (h | ⟨a', h, hf⟩)
      · cases h
      · exact Except.ok.inj h ▸ hf

theorem pure_eq_ok {a b : α} : (pure a : Except ε α) = .ok b ↔ a = b :=
  ⟨fun h => Except.ok.inj h, fun h => congrArg Except.ok h⟩

/-- Two chains with the same first step agree if their rests do wherever the step succeeds. -/
theorem bind_congr_ok {x : Except ε α} {f g : α → Except ε β} (h : ∀ a, x = .ok a → f a = g a) :
    x >>= f = x >>= g := by
  cases x with
  | error e => rfl
  | ok a => exact h a rfl

theorem guard_eq_ok {c : Prop} [Decidable c] {e : ε} {f : PUnit → Except ε α} {x : Except ε α}
    {a : α} : (if c then throw e >>= f else x) = .ok a ↔ ¬ c ∧ x = .ok a := by
  split
  case isTrue h => exact ⟨(nomatch ·), fun hx => absurd h hx.1⟩
  case isFalse h => exact ⟨fun hx => ⟨h, hx⟩, fun hx => hx.2⟩

theorem mapError_eq_ok {ε' : Type} {x : Except ε α} {f : ε → ε'} {a : α} :
    x.mapError f = .ok a ↔ x = .ok a := by
  cases x with
  | ok b =>
    -- the same value as a result with other errors
    exact ⟨fun h => congrArg _ (Except.ok.inj h), fun h => congrArg _ (Except.ok.inj h)⟩
  | error e => exact ⟨(nomatch ·), (nomatch ·)⟩

theorem mapError_eq_error {ε' : Type} {x : Except ε α} {f : ε → ε'} {e' : ε'} :
    x.mapError f = .error e' ↔ ∃ e, x = .error e ∧ f e = e' := by
  cases x with
  | ok b => exact ⟨(nomatch ·), fun ⟨_, h, _⟩ => nomatch h⟩
  | error e =>
    refine ⟨fun h => ⟨e, rfl, Except.error.inj h⟩, ?_⟩
    rintro ⟨_, ⟨⟩, rfl⟩
    rfl

theorem leaving_ok {σ : Type} (s : σ) (a : α) : leaving s (.ok a : Except ε α) = .ok a := rfl

theorem leaving_error {σ : Type} (s : σ) (e : ε) :
    leaving s (.error e : Except ε α) = .error ⟨e, s⟩ := rfl

theorem leaving_eq_ok {σ : Type} {s : σ} {x : Except ε α} {a : α} :
    leaving s x = .ok a ↔ x = .ok a :=
  mapError_eq_ok

theorem orShapeError_eq_ok {x : Except LayoutError α} {a : α} :
    orShapeError x = .ok a ↔ x = .ok a := by
  cases x <;> simp [orShapeError]

theorem orInvalidTensor_eq_ok {x : Except LayoutError α} {a : α} :
    orInvalidTensor x = .ok a ↔ x = .ok a := by
  cases x <;> simp [orInvalidTensor]

theorem orLayoutError_eq_ok {x : Except LayoutError α} {a : α} :
    orLayoutError x = .ok a ↔ x = .ok a := by
  cases x <;> simp [orLayoutError]

/-! ## Failures that leave the state -/

section Leaves

variable {σ τ : Type} {s : σ}

/-- Where the chain fails it leaves such a state. -/
def Fails (P : σ → Prop) (x : Except (Failure ε σ) α) : Prop := ∀ f, x = .error f → P f.state

/-- Where the chain fails it leaves this state. -/
def Leaves (s : σ) (x : Except (Failure ε σ) α) : Prop := Fails (· = s) x

section Fails

variable {P : σ → Prop}

theorem Fails.ok {a : α} : Fails P (.ok a : Except (Failure ε σ) α) := nofun

theorem Fails.error {e : ε} (h : P s) : Fails P (.error ⟨e, s⟩ : Except (Failure ε σ) α) := by
  rintro _ ⟨⟩
  exact h

theorem fails_leaving (h : P s) {x : Except ε α} : Fails P (leaving s x) := by
  cases x with
  | ok a => exact .ok
  | error e => exact .error h

theorem Fails.bind {x : Except (Failure ε σ) α} {k : α → Except (Failure ε σ) β}
    (first : Fails P x) (rest : ∀ a, x = .ok a → Fails P (k a)) : Fails P (x >>= k) := by
  cases x with
  | ok a => exact rest a rfl
  | error g =>
    rintro f hf
    obtain rfl := Except.error.inj hf
    exact first g rfl

theorem Fails.guard {c : Prop} [Decidable c] {e : Failure ε σ}
    {k : PUnit → Except (Failure ε σ) α} {x : Except (Failure ε σ) α} (h : P e.state)
    (rest : ¬ c → Fails P x) : Fails P (if c then throw e >>= k else x) := by
  split
  case isTrue =>
    rintro _ ⟨⟩
    exact h
  case isFalse hc => exact rest hc

/-- A part of a state fails within the whole. -/
theorem Fails.mapError {ε' : Type} {Q : τ → Prop} {x : Except (Failure ε σ) α}
    {g : Failure ε σ → Failure ε' τ} (part : Fails P x) (whole : ∀ f, P f.state → Q (g f).state) :
    Fails Q (x.mapError g) := by
  intro f' hf'
  obtain ⟨f, hx, rfl⟩ := mapError_eq_error.mp hf'
  exact whole f (part f hx)

end Fails

theorem Leaves.error {e : ε} : Leaves s (.error ⟨e, s⟩ : Except (Failure ε σ) α) := Fails.error rfl

theorem leaves_leaving {x : Except ε α} : Leaves s (leaving s x) :=
  fails_leaving (P := (· = s)) rfl

/-- A chain that cannot fail leaves whatever one likes. -/
theorem Leaves.of_ok {x : Except (Failure ε σ) α} {a : α} (h : x = .ok a) : Leaves s x := by
  rw [h]
  exact .ok

/-- The state around a part is as it was if the part is, and if putting that back changes
nothing. -/
theorem Leaves.mapError {ε' : Type} {t : τ} {x : Except (Failure ε σ) α}
    {g : Failure ε σ → Failure ε' τ} (part : Leaves s x) (back : ∀ e, (g ⟨e, s⟩).state = t) :
    Leaves t (x.mapError g) := by
  refine Fails.mapError part fun ⟨e, _⟩ same => ?_
  obtain rfl := same
  exact back e

/-- The state after a failure is the one it leaves. -/
theorem Leaves.settle {x : Except (Failure ε σ) (σ × α)} {e : ε} (leaves : Leaves s x)
    (failed : (settle x).2 = .error e) : (settle x).1 = s := by
  cases x with
  | ok a => cases failed
  | error f => exact leaves f rfl

/-- What was found by looking at a state, together with that state. -/
def unchanged (s : σ) (result : Except ε α) : Except (Failure ε σ) (σ × α) :=
  match result with
  | .ok a => .ok (s, a)
  | .error e => .error ⟨e, s⟩

theorem unchanged_eq_ok_iff {s' : σ} {result : Except ε α} {a : α} :
    unchanged s result = .ok (s', a) ↔ s' = s ∧ result = .ok a := by
  cases result <;> simp [unchanged, eq_comm]

theorem leaves_unchanged {result : Except ε α} : Leaves s (unchanged s result) := by
  cases result with
  | ok a => exact .ok
  | error e => exact .error

/-- The chain finds the same in every state, and leaves it. -/
def Finds (chain : σ → Except (Failure ε σ) (σ × α)) (result : Except ε α) : Prop :=
  ∀ s, chain s = unchanged s result

theorem exists_finds_pure (a : α) :
    ∃ result, Finds (fun s : σ => (pure (s, a) : Except (Failure ε σ) (σ × α))) result :=
  ⟨.ok a, fun _ => rfl⟩

/-- A chain of checks only looks at the state if what comes after each check does. -/
theorem exists_finds_bind (check : Except ε α) {rest : α → σ → Except (Failure ε σ) (σ × β)}
    (finds : ∀ a, ∃ result, Finds (rest a) result) :
    ∃ result, Finds (fun s => leaving s check >>= fun a => rest a s) result := by
  obtain ⟨result, hresult⟩ := Classical.skolem.mp finds
  refine ⟨check >>= result, fun s => ?_⟩
  cases check with
  | ok a => exact hresult a s
  | error e => rfl

end Leaves

end TensorExchange
