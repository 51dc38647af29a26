import SiteRuntime.FileTree.Basic
import SiteRuntime.ProcessEnv

/-!
# What the process works on

A `Machine μ` is everything that operations here read and change: the process environment, the
files, the working directory, and a store of type `μ` for module systems that keep their own state.
An `Action` changes the machine and either returns a value or fails; a failure keeps what was
changed before it.
-/

namespace SiteRuntime

/-- The state that operations of the process work on. -/
structure Machine (μ : Type) where
  /-- The process environment. -/
  env : ProcessEnv
  /-- The files. -/
  files : FileTree
  /-- The working directory. -/
  cwd : Position
  /-- State of module systems that is kept outside the environment. -/
  store : μ

namespace Machine

variable {μ : Type}

/-- The machine after writes to its environment. -/
def write (m : Machine μ) (ws : List Write) : Machine μ := { m with env := m.env.applyAll ws }

/-- The machine with another environment. -/
def withEnv (m : Machine μ) (e : ProcessEnv) : Machine μ := { m with env := e }

@[simp] theorem env_write (m : Machine μ) (ws : List Write) :
    (m.write ws).env = m.env.applyAll ws := rfl

@[simp] theorem files_write (m : Machine μ) (ws : List Write) : (m.write ws).files = m.files := rfl

@[simp] theorem store_write (m : Machine μ) (ws : List Write) : (m.write ws).store = m.store := rfl

@[simp] theorem env_withEnv (m : Machine μ) (e : ProcessEnv) : (m.withEnv e).env = e := rfl

@[simp] theorem withEnv_self (m : Machine μ) : m.withEnv m.env = m := rfl

end Machine

/-- A change of the machine that may fail. -/
abbrev Action (μ ε α : Type) := EStateM ε (Machine μ) α

/-! ### Operations in sequence -/

namespace Stateful

variable {ε σ α β : Type} {x : EStateM ε σ α} {f : α → EStateM ε σ β} {s s' : σ}

/-- The second operation starts where the first one ended. -/
theorem bind_of_ok {a : α} (h : x s = .ok a s') : (x >>= f) s = f a s' := by
  simp only [bind, EStateM.bind, h]

/-- What fails first ends the sequence. -/
theorem bind_of_error {e : ε} (h : x s = .error e s') : (x >>= f) s = .error e s' := by
  simp only [bind, EStateM.bind, h]

theorem get_bind {f : σ → EStateM ε σ β} : (get >>= f) s = f s s := rfl

theorem modify_bind {g : σ → σ} {f : PUnit → EStateM ε σ β} :
    (modify g >>= f) s = f ⟨⟩ (g s) := rfl

/-- A sequence succeeds if both operations do. -/
theorem bind_eq_ok_iff {b : β} :
    (x >>= f) s = .ok b s' ↔ ∃ a t, x s = .ok a t ∧ f a t = .ok b s' := by
  cases h : x s with
  | ok a t =>
    rw [bind_of_ok h]
    constructor
    · exact fun hf => ⟨a, t, rfl, hf⟩
    · rintro ⟨a', t', hat, hf⟩
      cases hat
      exact hf
  | error e t =>
    rw [bind_of_error h]
    simp

/-- A sequence fails where one of the operations does. -/
theorem bind_eq_error_iff {e : ε} :
    (x >>= f) s = .error e s' ↔
      x s = .error e s' ∨ ∃ a t, x s = .ok a t ∧ f a t = .error e s' := by
  cases h : x s with
  | ok a t =>
    rw [bind_of_ok h]
    constructor
    · exact fun hf => .inr ⟨a, t, rfl, hf⟩
    · rintro (hfirst | ⟨a', t', hat, hf⟩)
      · cases hfirst
      · cases hat
        exact hf
  | error e' t =>
    rw [bind_of_error h]
    simp

/-- Two operations of which both results are put together. -/
theorem bind_bind_pure_eq_ok_iff {γ : Type} {y : α → EStateM ε σ β} {g : α → β → γ} {c : γ} :
    (x >>= fun a => y a >>= fun b => pure (g a b)) s = .ok c s' ↔
      ∃ a t b, x s = .ok a t ∧ y a t = .ok b s' ∧ c = g a b := by
  simp only [bind_eq_ok_iff]
  constructor
  · rintro ⟨a, t, hx, b, t', hy, hc⟩
    cases hc
    exact ⟨a, t, b, hx, hy, rfl⟩
  · rintro ⟨a, t, b, hx, hy, rfl⟩
    exact ⟨a, t, hx, b, s', hy, rfl⟩

/-- Where two results would be put together, only the operations can fail. -/
theorem bind_bind_pure_eq_error_iff {γ : Type} {y : α → EStateM ε σ β} {g : α → β → γ} {e : ε} :
    (x >>= fun a => y a >>= fun b => pure (g a b)) s = .error e s' ↔
      x s = .error e s' ∨ ∃ a t, x s = .ok a t ∧ y a t = .error e s' := by
  simp only [bind_eq_error_iff]
  constructor
  · rintro (h | ⟨a, t, hx, h | ⟨_, _, _, hpure⟩⟩)
    · exact .inl h
    · exact .inr ⟨a, t, hx, h⟩
    · cases hpure
  · rintro (h | ⟨a, t, hx, h⟩)
    · exact .inl h
    · exact .inr ⟨a, t, hx, .inl h⟩

/-! ### Answers and what is left -/

/-- What an operation answers. -/
def answer : EStateM.Result ε σ α → Except ε α
  | .ok a _ => .ok a
  | .error e _ => .error e

/-- The state that an operation leaves. -/
def left : EStateM.Result ε σ α → σ
  | .ok _ s => s
  | .error _ s => s

theorem eq_ok_of_answer {r : EStateM.Result ε σ α} {a : α} (h : answer r = .ok a) :
    r = .ok a (left r) := by
  cases r with
  | ok b s =>
    cases h
    rfl
  | error e s => cases h

/-! ### What operations keep -/

/-- An operation that keeps a property of the state, whether it fails or not. -/
def Maintains (P : σ → Prop) (x : EStateM ε σ α) : Prop := ∀ s, P s → P (left (x s))

section Maintains

variable {P : σ → Prop}

theorem maintains_pure (a : α) : Maintains P (pure a : EStateM ε σ α) := fun _ h => h

/-- A sequence keeps what its operations keep. -/
theorem Maintains.bind (hx : Maintains P x) (hf : ∀ a, Maintains P (f a)) :
    Maintains P (x >>= f) := by
  intro s hs
  have ht : P (left (x s)) := hx s hs
  cases h : x s with
  | ok a t =>
    rw [h] at ht
    rw [bind_of_ok h]
    exact hf a t ht
  | error e t =>
    rw [h] at ht
    rw [bind_of_error h]
    exact ht

end Maintains

/-- An operation that leaves a part of the state as it is, whether it fails or not. -/
def Fixes {τ : Type} (part : σ → τ) (x : EStateM ε σ α) : Prop := ∀ s, part (left (x s)) = part s

section Fixes

variable {τ : Type} {part : σ → τ}

theorem fixes_pure (a : α) : Fixes part (pure a : EStateM ε σ α) := fun _ => rfl

theorem fixes_throw (e : ε) : Fixes part (throw e : EStateM ε σ α) := fun _ => rfl

/-- What is left as it is has every property that it had. -/
theorem Fixes.maintains {P : τ → Prop} (hx : Fixes part x) : Maintains (fun s => P (part s)) x := by
  intro s hs
  rwa [hx s]

/-- In a sequence a part is left as it is if no operation changes it. -/
theorem Fixes.bind (hx : Fixes part x) (hf : ∀ a, Fixes part (f a)) : Fixes part (x >>= f) := by
  intro s
  have hfirst : Maintains (fun t => part t = part s) x := hx.maintains (P := (· = part s))
  have hnext : ∀ a, Maintains (fun t => part t = part s) (f a) :=
    fun a => (hf a).maintains (P := (· = part s))
  exact hfirst.bind hnext s rfl

theorem Fixes.mapM {γ : Type} {g : γ → EStateM ε σ α} (hg : ∀ c, Fixes part (g c))
    (cs : List γ) : Fixes part (cs.mapM g) := by
  induction cs with
  | nil => exact fixes_pure []
  | cons c cs ih =>
    rw [List.mapM_cons]
    exact (hg c).bind fun _ => ih.bind fun _ => fixes_pure _

theorem Fixes.forM {γ : Type} {g : γ → EStateM ε σ PUnit} (hg : ∀ c, Fixes part (g c))
    (cs : List γ) : Fixes part (cs.forM g) := by
  induction cs with
  | nil => exact fixes_pure PUnit.unit
  | cons c cs ih => exact (hg c).bind fun _ => ih

end Fixes

end Stateful

end SiteRuntime
