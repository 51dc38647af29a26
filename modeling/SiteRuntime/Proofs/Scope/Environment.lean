import SiteRuntime.Proofs.Scope.Flow

/-!
# The process environment around a scope

Activating modules and variables for a scope is the one way to change the process environment that
promises to undo itself. The promise holds byte for byte, and for any body: whatever the flow in the
scope does, with guards of its own and however it ends, dropping the guard gives the environment
from before the scope (`env_drop_exec`). An activation that fails on its way gives it back at once.

Nothing is asked of the module system. It may be any record of operations on the machine, because
the guard restores an image and never runs the activation backwards; what the writes of the
restoration amount to is `Snapshot.restore_eq`.
-/

namespace SiteRuntime.Scopes

section Environments

variable {μ : Type} [Account]

/-- Entering the scope of an environment either gives a guard that holds an image of the process
environment, or leaves that environment as it was. -/
theorem enter_environment_cases (b : Option (Backend μ)) (modules : List String)
    (assignments : List (String × String)) (rt : Runtime μ) :
    (∃ m, (Scope.environment b modules assignments).enter rt =
        .ok (.environment (.capture rt.machine.env)) { rt with machine := m }) ∨
      ∃ e m, (Scope.environment b modules assignments).enter rt =
        .error e { rt with machine := m } ∧ m.env = rt.machine.env := by
  rcases Runtime.backend_cases b rt with ⟨found, hb⟩ | hb
  · rcases Guard.activate_cases found modules assignments rt with
      ⟨commands, m, ha⟩ | ⟨e, m, ha, hm⟩
    · exact .inl ⟨m, by simp only [Scope.enter, bind, EStateM.bind, hb, ha]; rfl⟩
    · exact .inr ⟨e, m, by simp only [Scope.enter, bind, EStateM.bind, hb, ha], hm⟩
  · exact .inr ⟨.notConfigured, rt.machine, by simp only [Scope.enter, bind, EStateM.bind, hb], rfl⟩

/-- **The process environment comes back.** If the modules and variables of a scope can be
activated, then right after the guard is dropped the process environment is the one from before the
activation, whatever flow has run in between; if they cannot, it is that one right away. -/
theorem env_drop_exec (b : Option (Backend μ)) (modules : List String)
    (assignments : List (String × String)) (rt : Runtime μ) :
    match (Scope.environment b modules assignments).enter rt with
    | .ok guard inside =>
      ∀ body : Flow μ, (guard.drop (body.exec inside).2).machine.env = rt.machine.env
    | .error _ after => after.machine.env = rt.machine.env := by
  rcases enter_environment_cases b modules assignments rt with ⟨m, h⟩ | ⟨e, m, h, hm⟩
  · -- the guard restores its image, so nothing has to be known of the body
    simp only [h]
    intro body
    rw [Guard.env_drop_environment, Snapshot.image_capture]
  · simp only [h]
    exact hm

end Environments

/-- A runtime of which the process has one variable. -/
def onlyPath : Runtime Unit :=
  .onMachine ⟨.ofList [(Bytes.ofText "PATH", Bytes.ofText "/bin")], .empty, [], ()⟩

/-- A scope that puts a directory in front of a search path. -/
def prepended : Scope Unit := .environment (some .noModules) [] [("PATH", "/opt/bin:$PATH")]

/-- Removes the variable, activates another one in a scope of its own and unwinds through both. -/
def unsetAndUnwind : Flow Unit :=
  .act (.write (.unset (Bytes.ofText "PATH"))) fun _ =>
    .scope (.environment (some .noModules) [] [("CC", "gcc")]) (.stop .unwound) .stop

attribute [local instance] Account.unlisted

theorem env_drop_exec_prepended :
    ∃ guard inside, prepended.enter onlyPath = .ok guard inside ∧
      inside.machine.env ≠ onlyPath.machine.env ∧
      (guard.drop (unsetAndUnwind.exec inside).2).machine.env = onlyPath.machine.env := by
  have hback := env_drop_exec (some .noModules) [] [("PATH", "/opt/bin:$PATH")] onlyPath
  have hchanged : (match prepended.enter onlyPath with
      | .ok _ inside => decide (inside.machine.env ≠ onlyPath.machine.env)
      | .error _ _ => false) = true := by decide +kernel
  rw [show Scope.environment (some Backend.noModules) [] [("PATH", "/opt/bin:$PATH")] = prepended
    from rfl] at hback
  cases h : prepended.enter onlyPath with
  | ok guard inside =>
    rw [h] at hback hchanged
    exact ⟨guard, inside, rfl, of_decide_eq_true hchanged, hback unsetAndUnwind⟩
  | error e after =>
    rw [h] at hchanged
    cases hchanged

end SiteRuntime.Scopes
