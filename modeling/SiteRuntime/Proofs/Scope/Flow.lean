import SiteRuntime.Runtime.Guard

/-!
# Flows through nested scopes

A `Flow` is what a program does with a runtime, as a tree: an operation and what follows it, or a
body in the scope of a guard and what follows that. What follows may depend on the answer of the
operation or on how the body ended, so a flow covers errors that are passed on, errors that are
dealt with, and unwinding that is stopped on its way. Because a body is a subtree of its scope,
guards are dropped newest first and in no other order.

`Flow.exec` runs a flow. Operations and guards are those of the runtime; the only thing added is a
log of the contexts on which runs were counted up, kept in the `Outcome` beside the way the flow
ended. The log is written from the target of each call and never from a counter, so what it says
about counters is worth saying.

What the surroundings provide is an argument of each operation that asks for it: the clock, the
name of the host and the module command may differ from one operation to the next.
-/

namespace SiteRuntime.Scopes

variable {μ : Type}

/-! ### Operations -/

/-- How a body ends. -/
inductive Ending where
  | returned
  | failed (cause : RuntimeError)
  /-- Abruptly, without a result. -/
  | unwound

/-- What an operation answers. -/
inductive Reply (μ : Type) where
  | nothing
  | flag (b : Bool)
  | commands (texts : List String)
  | loaded (l : Activation.Loaded)
  | place (i : Nat)
  | context (r : Running μ)

/-- The place in an answer. -/
def Reply.place? : Reply μ → Option Nat
  | .place i => some i
  | _ => none

/-- An operation that opens no scope. A module system that is not given is that of the current
context, and so is a context whose place is not given. -/
inductive Act (μ : Type) where
  /-- Sets or removes a variable. -/
  | write (w : Write)
  /-- Anything else done to the machine, such as what an operation had done before it unwound. -/
  | work (f : Machine μ → Machine μ)
  | load (b : Option (Backend μ)) (es : List Environment)
  | emit (b : Option (Backend μ)) (es : List Environment)
  | isLoaded (b : Option (Backend μ)) (e : Environment)
  | init (host : Host μ) (c : SiteConfig)
  /-- Builds a context that is not current. -/
  | construct (host : Host μ) (start : Moment) (c : SiteConfig)
  | nextRun (place : Option Nat)

namespace Act

variable [Account]

/-- What an operation does. A write that the platform does not take changes nothing. -/
def op : Act μ → Runtime.Op μ (Reply μ)
  | .write w => do
    modify fun rt => if w.Valid then { rt with machine := rt.machine.write [w] } else rt
    return .nothing
  | .work f => do
    modify fun rt => { rt with machine := f rt.machine }
    return .nothing
  | .load b es => return .loaded (← Runtime.load b es)
  | .emit b es => return .commands (← Runtime.emit b es)
  | .isLoaded b e => return .flag (← Runtime.isLoaded b e)
  | .init host c => return .context (← Runtime.init host c)
  | .construct host start c => return .place (← Runtime.construct host start c)
  | .nextRun none => do
    let _ ← Runtime.nextRuns 1
    return .nothing
  | .nextRun (some i) => do
    modify (Runtime.countRuns i 1)
    return .nothing

/-- The place of the context that an operation names. -/
def place? : Act μ → Option Nat
  | .nextRun place => place
  | _ => none

/-- The place of the context on which an operation counts a run up, if there is such a context. -/
def calls (rt : Runtime μ) : Act μ → List Nat
  | .nextRun place => (place <|> rt.current).toList.filter (· < rt.contexts.length)
  | _ => []

end Act

/-! ### Scopes -/

/-- A scope, by what its guard does on entering. -/
inductive Scope (μ : Type) where
  /-- Another context is current, or none. Running a body with a configuration opens this scope, and
  so does each call of a function that switches the runtime. -/
  | context (host : Host μ) (start : Moment) (c : Option SiteConfig)
  /-- A context is current that was built before. -/
  | built (place : Nat)
  /-- The context of a configuration file is current, or none. -/
  | file (host : Host μ) (path : Option Path) (system : Option String)
      (options : List (String × Json))
  /-- Modules and variables are activated. -/
  | environment (b : Option (Backend μ)) (modules : List String)
      (assignments : List (String × String))
  /-- Directories are searched for modules. -/
  | paths (added : List String)

namespace Scope

variable [Account]

/-- Enters a scope. -/
def enter : Scope μ → Runtime.Op μ (Guard μ)
  | .context host start c => Guard.switchTo host start c
  | .built place => Guard.enterAt place
  | .file host path system options => Guard.switchToFile host path system options
  | .environment b modules assignments => do
    return (← Guard.activate (← Runtime.backend b) modules assignments).guard
  | .paths added => Guard.usePaths added

/-- Whether a scope switches the current context. -/
def switches : Scope μ → Bool
  | .context .. | .built _ | .file .. => true
  | .environment .. | .paths _ => false

/-- The place of the context that a scope names. -/
def place? : Scope μ → Option Nat
  | .built place => some place
  | _ => none

end Scope

/-! ### Flows -/

/-- What a program does with a runtime. -/
inductive Flow (μ : Type) where
  /-- The end of a body. -/
  | stop (ending : Ending)
  /-- An operation and what follows its answer. -/
  | act (a : Act μ) (next : Except RuntimeError (Reply μ) → Flow μ)
  /-- A body in a scope and what follows its end. -/
  | scope (s : Scope μ) (body : Flow μ) (next : Ending → Flow μ)

/-- What a flow leaves behind beside the runtime. -/
structure Outcome where
  /-- How the flow ended. -/
  ending : Ending
  /-- The places of the contexts on which runs were counted up, in order. -/
  calls : List Nat

/-- The outcome of a body that was never run, because its scope could not be entered. -/
def Outcome.refused (e : RuntimeError) : Outcome := ⟨.failed e, []⟩

namespace Flow

variable [Account]

/-- Runs a flow. -/
def exec : Flow μ → StateM (Runtime μ) Outcome
  | .stop ending => return ⟨ending, []⟩
  | .act a next => do
    let calls := a.calls (← get)
    let rest ← (next (← Runtime.attempt a.op)).exec
    return ⟨rest.ending, calls ++ rest.calls⟩
  | .scope s body next => do
    let inner ← Guard.during s.enter .refused body.exec
    let rest ← (next inner.ending).exec
    return ⟨rest.ending, inner.calls ++ rest.calls⟩

@[simp] theorem exec_stop (ending : Ending) (rt : Runtime μ) :
    (stop ending).exec rt = (⟨ending, []⟩, rt) := rfl

/-- The state that an operation leaves is the one that the rest of the flow starts from. -/
theorem exec_act (a : Act μ) (next : Except RuntimeError (Reply μ) → Flow μ) (rt : Runtime μ) :
    (act a next).exec rt =
      let after := Runtime.attempt a.op rt
      let rest := (next after.1).exec after.2
      (⟨rest.1.ending, a.calls rt ++ rest.1.calls⟩, rest.2) := rfl

/-- The state that a scope leaves is the one that the rest of the flow starts from. -/
theorem exec_scope (s : Scope μ) (body : Flow μ) (next : Ending → Flow μ) (rt : Runtime μ) :
    (scope s body next).exec rt =
      let inner := Guard.during s.enter .refused body.exec rt
      let rest := (next inner.1.ending).exec inner.2
      (⟨rest.1.ending, inner.1.calls ++ rest.1.calls⟩, rest.2) := rfl

end Flow

end SiteRuntime.Scopes
