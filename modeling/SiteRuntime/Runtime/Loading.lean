import SiteRuntime.Activation
import SiteRuntime.Runtime.Basic

/-!
# Environments in the runtime

Environments are activated with a module system that is given, or else with the one of the current
context, which then has to be there.
-/

namespace SiteRuntime.Runtime

variable {μ : Type}

/-- The given module system, or else that of the current context. -/
def backend : Option (Backend μ) → Op μ (Backend μ)
  | some b => return b
  | none => return (← running).context.backend

theorem backend_none (rt : Runtime μ) :
    backend none rt =
      match rt.current? with
      | some r => .ok r.context.backend rt
      | none => .error .notConfigured rt := by
  rcases running_cases rt with ⟨r, hr, h⟩ | ⟨hr, h⟩
  · rw [hr]
    exact Stateful.bind_of_ok h
  · rw [hr]
    exact Stateful.bind_of_error h

/-- Looking a module system up changes nothing. -/
theorem backend_cases (b : Option (Backend μ)) (rt : Runtime μ) :
    (∃ found, backend b rt = .ok found rt) ∨ backend b rt = .error .notConfigured rt := by
  cases b with
  | some b => exact .inl ⟨b, rfl⟩
  | none =>
    rw [backend_none]
    cases rt.current? with
    | some r => exact .inl ⟨r.context.backend, rfl⟩
    | none => exact .inr rfl

/-- Which module system is meant does not depend on the machine. -/
theorem backend_withMachine {b : Option (Backend μ)} {found : Backend μ} {rt : Runtime μ}
    (h : backend b rt = .ok found rt) (m : Machine μ) :
    backend b { rt with machine := m } = .ok found { rt with machine := m } := by
  cases b with
  | some b =>
    cases h
    rfl
  | none =>
    have hcurrent : { rt with machine := m }.current? = rt.current? := rfl
    rw [backend_none] at h ⊢
    rw [hcurrent]
    cases hr : rt.current? with
    | some r =>
      rw [hr] at h
      cases h
      rfl
    | none =>
      rw [hr] at h
      cases h

variable [Account]

/-- Activates environments in order. -/
def load (b : Option (Backend μ)) (es : List Environment) : Op μ Activation.Loaded := do
  onto (Activation.load (← backend b) es)

theorem load_eq_ok_iff {b : Option (Backend μ)} {es : List Environment}
    {loaded : Activation.Loaded} {rt rt' : Runtime μ} :
    load b es rt = .ok loaded rt' ↔
      ∃ found m, backend b rt = .ok found rt ∧
        Activation.load found es rt.machine = .ok loaded m ∧ rt' = { rt with machine := m } := by
  rcases backend_cases b rt with ⟨found, hb⟩ | hb
  · rw [load, Stateful.bind_of_ok hb, onto_eq_ok_iff, hb]
    constructor
    · rintro ⟨m, h⟩
      exact ⟨found, m, rfl, h⟩
    · rintro ⟨_, m, hfound, h⟩
      cases hfound
      exact ⟨m, h⟩
  · rw [load, Stateful.bind_of_error hb, hb]
    simp

/-- The commands that activate environments. The process environment is left as it was. -/
def emit (b : Option (Backend μ)) (es : List Environment) : Op μ (List String) := do
  onto (Activation.emit (← backend b) es)

/-- Whether all of an environment is in effect. -/
def isLoaded (b : Option (Backend μ)) (e : Environment) : Op μ Bool := do
  let b ← backend b
  return Activation.isLoaded b (← get).machine e

end SiteRuntime.Runtime
