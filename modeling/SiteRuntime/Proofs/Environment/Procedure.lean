import SiteRuntime.Machine

/-!
# Calls to the platform

An action says what it leaves of the machine and nothing of how it came there. The platform sees
more: variables are set and removed one call at a time, and a call with a name or a value that it
does not take ends the process. A `Procedure` is an action with its calls. It looks at the machine,
makes one call, or ends, so the calls are all that it does, and what it leaves is what its calls
make of the machine (`left_exec`).

`SafeAt` says that from a machine on all calls of a procedure are taken. It is put together along a
sequence (`SafeAt.bind`), because calls that are taken keep the process environment valid
(`valid_applyAll`), which is all that the next part can rely on.
-/

namespace SiteRuntime

open Stateful (left)

/-! ### Valid environments -/

namespace ProcessEnv

theorem valid_iff {e : ProcessEnv} :
    e.Valid ↔ ∀ x ∈ e.toList, Write.ValidName x.1 ∧ Write.ValidValue x.2 := by
  constructor
  · exact fun h x hx => h x.1 x.2 (mem_toList_iff.1 hx)
  · exact fun h n v hv => h (n, v) (mem_toList_iff.2 hv)

instance : DecidablePred Valid := fun _ => decidable_of_iff _ valid_iff.symm

/-- Writes that the platform takes keep the environment valid. -/
theorem valid_applyAll {e : ProcessEnv} (he : e.Valid) {ws : List Write}
    (hws : ∀ w ∈ ws, w.Valid) : (e.applyAll ws).Valid := by
  induction ws generalizing e with
  | nil => exact he
  | cons w ws ih =>
    obtain ⟨hw, hrest⟩ := List.forall_mem_cons.1 hws
    exact ih (he.apply hw) hrest

end ProcessEnv

/-! ### Procedures -/

/-- **A procedure of the process**, by what it asks of the platform. -/
inductive Procedure (μ ε α : Type) where
  /-- It ends with a value or a failure. -/
  | stop (result : Except ε α)
  /-- It looks at the machine as it is. -/
  | look (next : Machine μ → Procedure μ ε α)
  /-- It sets or removes one variable. -/
  | call (w : Write) (rest : Procedure μ ε α)

namespace Procedure

variable {μ ε ε' α β : Type}

/-- What a procedure does. -/
def exec : Procedure μ ε α → Action μ ε α
  | stop (.ok a), m => .ok a m
  | stop (.error e), m => .error e m
  | look next, m => (next m).exec m
  | call w rest, m => rest.exec (m.write [w])

/-- The calls that a procedure makes, in order. -/
def calls : Procedure μ ε α → Machine μ → List Write
  | stop _, _ => []
  | look next, m => (next m).calls m
  | call w rest, m => w :: rest.calls (m.write [w])

/-- A procedure and then another one, unless the first fails. -/
def bind : Procedure μ ε α → (α → Procedure μ ε β) → Procedure μ ε β
  | stop (.ok a), f => f a
  | stop (.error e), _ => stop (.error e)
  | look next, f => look fun m => (next m).bind f
  | call w rest, f => call w (rest.bind f)

instance : Monad (Procedure μ ε) where
  pure a := stop (.ok a)
  bind := bind

/-- The procedure with its failures given in another form. -/
def mapError (g : ε → ε') : Procedure μ ε α → Procedure μ ε' α
  | stop result => stop (result.mapError g)
  | look next => look fun m => (next m).mapError g
  | call w rest => call w (rest.mapError g)

/-- The procedure with its failure as a part of the result. -/
def attempt : Procedure μ ε α → Procedure μ ε' (Except ε α)
  | stop result => stop (.ok result)
  | look next => look fun m => (next m).attempt
  | call w rest => call w rest.attempt

/-- Calls one after the other. -/
def callAll : List Write → Procedure μ ε Unit
  | [] => pure ()
  | w :: ws => call w (callAll ws)

/-! ### What a procedure does -/

/-- **The calls are all that is done.** -/
theorem left_exec (p : Procedure μ ε α) (m : Machine μ) :
    left (p.exec m) = m.write (p.calls m) := by
  induction p generalizing m with
  | stop result => cases result <;> rfl
  | look next ih => exact ih m m
  | call w rest ih => exact ih (m.write [w])

theorem exec_look (next : Machine μ → Procedure μ ε α) :
    (look next).exec = get >>= fun m => (next m).exec := rfl

theorem exec_bind (p : Procedure μ ε α) (f : α → Procedure μ ε β) :
    (p >>= f).exec = p.exec >>= fun a => (f a).exec := by
  funext m
  change (p.bind f).exec m = (p.exec >>= fun a => (f a).exec) m
  induction p generalizing m with
  | stop result => cases result <;> rfl
  | look next ih => exact ih m m
  | call w rest ih => exact ih (m.write [w])

theorem exec_mapError (g : ε → ε') (p : Procedure μ ε α) :
    (p.mapError g).exec = EStateM.adaptExcept g p.exec := by
  funext m
  induction p generalizing m with
  | stop result => cases result <;> rfl
  | look next ih => exact ih m m
  | call w rest ih => exact ih (m.write [w])

theorem exec_attempt (p : Procedure μ ε α) (m : Machine μ) :
    (p.attempt : Procedure μ ε' (Except ε α)).exec m =
      .ok (Stateful.answer (p.exec m)) (left (p.exec m)) := by
  induction p generalizing m with
  | stop result => cases result <;> rfl
  | look next ih => exact ih m m
  | call w rest ih => exact ih (m.write [w])

theorem exec_callAll (ws : List Write) (m : Machine μ) :
    (callAll ws : Procedure μ ε Unit).exec m = .ok () (m.write ws) := by
  induction ws generalizing m with
  | nil => rfl
  | cons w ws ih => exact ih (m.write [w])

/-! ### Which calls it makes -/

/-- The second procedure makes its calls on the machine that the first one left. -/
theorem calls_bind_of_ok {p : Procedure μ ε α} {f : α → Procedure μ ε β} {a : α}
    {m m' : Machine μ} (h : p.exec m = .ok a m') :
    (p >>= f).calls m = p.calls m ++ (f a).calls m' := by
  change (p.bind f).calls m = _
  induction p generalizing m with
  | stop result =>
    cases result with
    | ok b =>
      cases h
      rfl
    | error e => cases h
  | look next ih => exact ih m h
  | call w rest ih => exact congrArg (w :: ·) (ih h)

/-- Where the first procedure fails, the second one makes no call. -/
theorem calls_bind_of_error {p : Procedure μ ε α} {f : α → Procedure μ ε β} {e : ε}
    {m m' : Machine μ} (h : p.exec m = .error e m') : (p >>= f).calls m = p.calls m := by
  change (p.bind f).calls m = _
  induction p generalizing m with
  | stop result =>
    cases result with
    | ok b => cases h
    | error e => rfl
  | look next ih => exact ih m h
  | call w rest ih => exact congrArg (w :: ·) (ih h)

theorem calls_mapError (g : ε → ε') (p : Procedure μ ε α) (m : Machine μ) :
    (p.mapError g).calls m = p.calls m := by
  induction p generalizing m with
  | stop result => rfl
  | look next ih => exact ih m m
  | call w rest ih => exact congrArg (w :: ·) (ih (m.write [w]))

theorem calls_attempt (p : Procedure μ ε α) (m : Machine μ) :
    (p.attempt : Procedure μ ε' (Except ε α)).calls m = p.calls m := by
  induction p generalizing m with
  | stop result => rfl
  | look next ih => exact ih m m
  | call w rest ih => exact congrArg (w :: ·) (ih (m.write [w]))

@[simp] theorem calls_callAll (ws : List Write) (m : Machine μ) :
    (callAll ws : Procedure μ ε Unit).calls m = ws := by
  induction ws generalizing m with
  | nil => rfl
  | cons w ws ih => exact congrArg (w :: ·) (ih (m.write [w]))

/-! ### Calls that the platform takes -/

/-- **Safe calls**: from a machine on the platform takes every call of a procedure. -/
def SafeAt (m : Machine μ) (p : Procedure μ ε α) : Prop := ∀ w ∈ p.calls m, w.Valid

/-- **A safe procedure** makes safe calls in every valid process environment. -/
def Safe (p : Procedure μ ε α) : Prop := ∀ m, m.env.Valid → p.SafeAt m

theorem safe_stop (result : Except ε α) : Safe (stop result : Procedure μ ε α) :=
  fun _ _ => List.forall_mem_nil _

theorem safe_pure (a : α) : Safe (pure a : Procedure μ ε α) := safe_stop (.ok a)

/-- After safe calls the process environment is still valid. -/
theorem SafeAt.valid_left {m : Machine μ} {p : Procedure μ ε α} (h : p.SafeAt m)
    (hm : m.env.Valid) : (left (p.exec m)).env.Valid := by
  rw [left_exec]
  exact ProcessEnv.valid_applyAll hm h

/-- In a sequence the second procedure may rely on a valid environment. -/
theorem SafeAt.bind {m : Machine μ} {p : Procedure μ ε α} {f : α → Procedure μ ε β}
    (hm : m.env.Valid) (hp : p.SafeAt m)
    (hf : ∀ a m', m'.env.Valid → (f a).SafeAt m') : (p >>= f).SafeAt m := by
  have hvalid := hp.valid_left hm
  unfold SafeAt
  cases h : p.exec m with
  | ok a m' =>
    rw [h] at hvalid
    rw [calls_bind_of_ok h, List.forall_mem_append]
    exact ⟨hp, hf a m' hvalid⟩
  | error e m' =>
    rw [calls_bind_of_error h]
    exact hp

theorem Safe.bind {p : Procedure μ ε α} {f : α → Procedure μ ε β} (hp : p.Safe)
    (hf : ∀ a, (f a).Safe) : (p >>= f).Safe :=
  fun m hm => SafeAt.bind hm (hp m hm) hf

/-- A look is safe if what follows is safe on the machine that it sees. -/
theorem safe_look {next : Machine μ → Procedure μ ε α}
    (h : ∀ m, m.env.Valid → (next m).SafeAt m) : Safe (look next) := h

theorem Safe.mapError {p : Procedure μ ε α} (hp : p.Safe) (g : ε → ε') : (p.mapError g).Safe := by
  intro m hm
  rw [SafeAt, calls_mapError]
  exact hp m hm

theorem Safe.attempt {p : Procedure μ ε α} (hp : p.Safe) :
    (p.attempt : Procedure μ ε' (Except ε α)).Safe := by
  intro m hm
  rw [SafeAt, calls_attempt]
  exact hp m hm

theorem safe_callAll {ws : List Write} (hws : ∀ w ∈ ws, w.Valid) :
    Safe (callAll ws : Procedure μ ε Unit) := by
  intro m _
  rw [SafeAt, calls_callAll]
  exact hws

end Procedure

end SiteRuntime
