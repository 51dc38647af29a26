import SiteRuntime.Proofs.Scope.Contexts
import SiteRuntime.Proofs.Scope.Flow

/-!
# The current context and its runs

Two things are said of every flow. The first is about the *current* context: a scope that switches
it gives it back, whatever ran inside, and a flow that starts with a context current ends with the
same one current, so making a context current for good is only ever done where there was none. The
second is about the *counts of runs*: a flow adds to the count of each context exactly the calls it
made on it, and to no other (`exec_grows`).

Both are proved along the flow. `Act.op_cases` and `during_cases` say once what one operation and
one scope can do to the contexts, and `exec_grows` and `current_exec` carry it through a whole flow.

That an inner scope leaves the counts of outer contexts alone needs one more thing, namely that the
flow in it does not name such a context (`Flow.Leaves`). Then the context can neither be current in
it nor be called by its place (`exec_leaves`).
-/

namespace SiteRuntime.Scopes

open SiteRuntime.Runtime

variable {μ : Type}

/-! ### Contexts that are built -/

/-- What cannot be built leaves the runtime as it was. -/
theorem construct_eq_error {host : Host μ} {start : Moment} {c : SiteConfig} {rt rt' : Runtime μ}
    {e : RuntimeError} (h : Runtime.construct host start c rt = .error e rt') : rt' = rt := by
  rcases construct_cases host start c rt with ⟨context, h'⟩ | ⟨e', h'⟩ <;> rw [h'] at h <;> cases h
  rfl

theorem init_eq_error {host : Host μ} {c : SiteConfig} {rt rt' : Runtime μ} {e : RuntimeError}
    (h : Runtime.init host c rt = .error e rt') : rt' = rt := by
  rcases init_cases host c rt with ⟨r, -, h'⟩ | ⟨context, -, h'⟩ | ⟨e', -, h'⟩ <;>
    rw [h'] at h <;> cases h
  rfl

/-- A context that is current is not replaced. -/
theorem init_eq_ok_of_current {host : Host μ} {c : SiteConfig} {rt : Runtime μ} {r : Running μ}
    (h : rt.current? = some r) : Runtime.init host c rt = .ok r rt := by
  rcases init_cases host c rt with ⟨r', hr, h'⟩ | ⟨context, hr, -⟩ | ⟨e', hr, -⟩
  · rw [h', Option.some.inj (hr.symm.trans h)]
  · exact absurd (hr.symm.trans h) nofun
  · exact absurd (hr.symm.trans h) nofun

/-- What is entered with another context, or none, keeps the place of the one that was current. -/
theorem grows_enter (context : Option (Context μ)) (rt : Runtime μ) :
    (Guard.enter context rt).1 = .runtime rt.current ∧
      Grows [] rt (Guard.enter context rt).2 ∧
      ∀ i, (Guard.enter context rt).2.current = some i → rt.contexts.length ≤ i := by
  cases context with
  | none => exact ⟨rfl, (SameContexts.refl rt).grows.withCurrent none, fun i h => nomatch h⟩
  | some context =>
    refine ⟨rfl, (grows_withContext context rt).withCurrent _, fun i h => ?_⟩
    exact Nat.le_of_eq (Option.some.inj h)

/-- The runtime in which the context of a configuration has been made current, in its first run, or
none without a configuration. -/
def Opened (host : Host μ) (start : Moment) (rt inside : Runtime μ) : Option SiteConfig → Prop
  | none => inside = { rt with current := none }
  | some c => ∃ context, buildContext host start c rt.machine = .ok context ∧
      inside = rt.install context

theorem opened_of_switchTo {host : Host μ} {start : Moment} {c : Option SiteConfig}
    {rt inside : Runtime μ} {guard : Guard μ}
    (h : Guard.switchTo host start c rt = .ok guard inside) : Opened host start rt inside c := by
  cases c with
  | none =>
    cases h
    rfl
  | some c =>
    have hswitch : Guard.switchTo host start (some c) =
        (build host start c >>= fun context => modifyGet (Guard.enter (some context))) := by
      simp [Guard.switchTo, Option.mapM_some]
    rw [hswitch] at h
    obtain ⟨context, rt₁, hbuild, henter⟩ := Stateful.bind_eq_ok_iff.1 h
    cases hcontext : buildContext host start c rt.machine with
    | error e =>
      rw [build, hcontext] at hbuild
      cases hbuild
    | ok built =>
      rw [build, hcontext] at hbuild
      cases hbuild
      cases henter
      exact ⟨_, hcontext, rfl⟩

/-! ### One operation -/

/-- There is nothing to count where no context is current. -/
theorem filter_current_eq_nil {rt : Runtime μ} (h : rt.current? = none) :
    rt.current.toList.filter (· < rt.contexts.length) = [] := by
  cases hi : rt.current with
  | none => rfl
  | some i =>
    rw [current?, hi, Option.bind_some, List.getElem?_eq_none_iff] at h
    rw [Option.toList_some, List.filter_cons_of_neg (by simpa using h), List.filter_nil]

/-- Runs are counted up on the context that is named, or else on the current one. -/
theorem Act.notMem_calls {a : Act μ} {rt : Runtime μ} {i : Nat} (ha : a.place? ≠ some i)
    (hc : rt.current ≠ some i) : i ∉ a.calls rt := by
  cases a with
  | nextRun place =>
    -- the one operation that counts, on the named context before the current one
    intro h
    have hm := Option.mem_toList.1 (List.mem_filter.1 h).1
    cases place with
    | none => exact hc hm
    | some j => exact ha hm
  | _ => exact List.not_mem_nil

section Flows

variable [Account]

/-- **One operation**, by what it does to the contexts: nothing, or it builds one, or it makes a new
one current where none was, or it counts a run up. -/
theorem Act.op_cases (a : Act μ) (rt : Runtime μ) :
    (SameContexts rt (attempt a.op rt).2 ∧ a.calls rt = []) ∨
      (∃ context, (attempt a.op rt).2 = rt.withContext context ∧ a.calls rt = []) ∨
      (∃ context, rt.current? = none ∧ (attempt a.op rt).2 = rt.install context ∧
        a.calls rt = []) ∨
      ∃ i, (attempt a.op rt).2 = rt.countRuns i 1 ∧
        a.calls rt = [i].filter (· < rt.contexts.length) := by
  cases a with
  | write w =>
    refine .inl ⟨?_, rfl⟩
    change SameContexts rt (if w.Valid then { rt with machine := rt.machine.write [w] } else rt)
    split <;> exact ⟨rfl, rfl⟩
  | work f => exact .inl ⟨⟨rfl, rfl⟩, rfl⟩
  | load b es => exact .inl ⟨(keeps_load b es).map Reply.loaded rt, rfl⟩
  | emit b es => exact .inl ⟨(keeps_emit b es).map Reply.commands rt, rfl⟩
  | isLoaded b e => exact .inl ⟨(keeps_isLoaded b e).map Reply.flag rt, rfl⟩
  | init host c =>
    have hs : (attempt (Act.init host c).op rt).2 = (attempt (Runtime.init host c) rt).2 :=
      congrArg Prod.snd (attempt_bind_pure _ Reply.context rt)
    rw [hs]
    rcases init_cases host c rt with ⟨r, -, h⟩ | ⟨context, hc, h⟩ | ⟨e, -, h⟩
    · exact .inl ⟨attempt_of_ok h ▸ .refl rt, rfl⟩
    · exact .inr (.inr (.inl ⟨context, hc, by rw [attempt_of_ok h], rfl⟩))
    · exact .inl ⟨attempt_of_error h ▸ .refl rt, rfl⟩
  | construct host start c =>
    have hs : (attempt (Act.construct host start c).op rt).2 =
        (attempt (Runtime.construct host start c) rt).2 :=
      congrArg Prod.snd (attempt_bind_pure _ Reply.place rt)
    rw [hs]
    rcases construct_cases host start c rt with ⟨context, h⟩ | ⟨e, h⟩
    · exact .inr (.inl ⟨context, by rw [attempt_of_ok h], rfl⟩)
    · exact .inl ⟨attempt_of_error h ▸ .refl rt, rfl⟩
  | nextRun place =>
    cases place with
    | some i => exact .inr (.inr (.inr ⟨i, rfl, rfl⟩))
    | none =>
      have hs : (attempt (Act.nextRun (μ := μ) none).op rt).2 =
          (attempt (nextRuns 1 : Op μ Nat) rt).2 :=
        congrArg Prod.snd (attempt_bind_pure _ (fun _ => Reply.nothing) rt)
      rw [hs]
      rcases nextRuns_cases 1 rt with ⟨i, r, hi, -, h⟩ | ⟨hc, h⟩
      · refine .inr (.inr (.inr ⟨i, by rw [attempt_of_ok h], ?_⟩))
        rw [Act.calls, hi]
        rfl
      · exact .inl ⟨attempt_of_error h ▸ .refl rt, filter_current_eq_nil hc⟩

/-- An operation counts runs up on the contexts that it calls and on no other. -/
theorem Act.grows (a : Act μ) (rt : Runtime μ) :
    Grows (a.calls rt) rt (attempt a.op rt).2 := by
  rcases a.op_cases rt with ⟨h, hcalls⟩ | ⟨context, h, hcalls⟩ | ⟨context, -, h, hcalls⟩ |
    ⟨i, h, hcalls⟩
  · exact hcalls ▸ h.grows
  · rw [h, hcalls]
    exact grows_withContext context rt
  · rw [h, hcalls]
    exact (grows_withContext context rt).withCurrent _
  · rw [h, hcalls]
    exact grows_countRuns i rt

/-- An operation leaves the current context current, unless there is none. Then it may make a new
one current. -/
theorem Act.current_cases (a : Act μ) (rt : Runtime μ) :
    (attempt a.op rt).2.current = rt.current ∨
      rt.current? = none ∧ (attempt a.op rt).2.current = some rt.contexts.length := by
  rcases a.op_cases rt with ⟨h, -⟩ | ⟨context, h, -⟩ | ⟨context, hc, h, -⟩ | ⟨i, h, -⟩
  · exact .inl h.current
  · exact .inl (h ▸ rfl)
  · exact .inr ⟨hc, h ▸ rfl⟩
  · exact .inl (h ▸ rfl)

/-! ### One scope -/

/-- **Entering a scope that switches the context.** Either nothing happens, or the guard keeps the
place of the context that was current, and the one that is current now is new or was named. -/
theorem enter_cases {s : Scope μ} (hs : s.switches) (rt : Runtime μ) :
    (∃ e, s.enter rt = .error e rt) ∨
      ∃ rt', s.enter rt = .ok (.runtime rt.current) rt' ∧ Grows [] rt rt' ∧
        ∀ i, rt'.current = some i → rt.contexts.length ≤ i ∨ s.place? = some i := by
  cases s with
  | context host start c =>
    rcases Guard.switchTo_cases host start c rt with ⟨context, h⟩ | ⟨e, h⟩
    · obtain ⟨hg, hgrows, hnew⟩ := grows_enter context rt
      exact .inr ⟨_, hg ▸ h, hgrows, fun i hi => .inl (hnew i hi)⟩
    · exact .inl ⟨e, h⟩
  | file host path system options =>
    rcases Guard.switchToFile_cases host path system options rt with ⟨context, h⟩ | ⟨e, h⟩
    · obtain ⟨hg, hgrows, hnew⟩ := grows_enter context rt
      exact .inr ⟨_, hg ▸ h, hgrows, fun i hi => .inl (hnew i hi)⟩
    · exact .inl ⟨e, h⟩
  | built place =>
    by_cases hp : place < rt.contexts.length
    · refine .inr ⟨{ rt with current := some place }, if_pos hp, ?_, fun i hi => .inr hi⟩
      exact (SameContexts.refl rt).grows.withCurrent _
    · exact .inl ⟨.notConfigured, if_neg hp⟩
  | environment b modules assignments => cases hs
  | paths added => cases hs

/-- **What is current in a scope** that has been entered: the context that was built for it, the one
that it names, or none. A scope that switches no context leaves the contexts as they are. -/
def Scope.Opens (rt inside : Runtime μ) : Scope μ → Prop
  | .context host start c => Opened host start rt inside c
  | .built place => place < rt.contexts.length ∧ inside = { rt with current := some place }
  | .file host none _ _ => Opened host host.now rt inside none
  | .file host (some path) system options => ∃ c,
      Guard.configOfFile host rt path system options = .ok c ∧
        Opened host host.now rt inside (some c)
  | .environment .. | .paths _ => SameContexts rt inside

/-- A scope that switches no context leaves the contexts alone when it is entered and when it is
left. -/
theorem enter_keeps {s : Scope μ} (hs : s.switches = false) :
    Keeps s.enter ∧
      ∀ rt guard inside, s.enter rt = .ok guard inside → ∀ rt, SameContexts rt (guard.drop rt) := by
  cases s with
  | context host start c => cases hs
  | file host path system options => cases hs
  | built place => cases hs
  | environment b modules assignments =>
    refine ⟨(keeps_backend b).bind fun found =>
      (keeps_activate found modules assignments).bind fun _ => keeps_pure _, ?_⟩
    intro rt guard inside h
    obtain ⟨found, rt₁, -, h⟩ := Stateful.bind_eq_ok_iff.1 h
    obtain ⟨entered, rt₂, h, hguard⟩ := Stateful.bind_eq_ok_iff.1 h
    rcases Guard.activate_cases found modules assignments rt₁ with ⟨_, _, ha⟩ | ⟨_, _, ha, -⟩
    · rw [ha] at h
      cases h
      cases hguard
      exact fun rt => ⟨rfl, rfl⟩
    · rw [ha] at h
      cases h
  | paths added =>
    refine ⟨keeps_usePaths added, ?_⟩
    intro rt guard inside h
    obtain ⟨r, rt₁, -, h⟩ := Stateful.bind_eq_ok_iff.1 h
    obtain ⟨_, rt₂, -, hguard⟩ := Stateful.bind_eq_ok_iff.1 h
    cases hguard
    intro rt
    simp only [Guard.drop]
    cases r.context.backend.removePaths added rt.machine <;> exact ⟨rfl, rfl⟩

/-- A scope that can be entered makes current what it is for. -/
theorem opens_of_enter {s : Scope μ} {rt inside : Runtime μ} {guard : Guard μ}
    (h : s.enter rt = .ok guard inside) : s.Opens rt inside := by
  have hkeeps : s.switches = false → SameContexts rt inside := by
    intro hs
    have hrt := (enter_keeps hs).1 rt
    rwa [attempt_of_ok h] at hrt
  cases s with
  | context host start c => exact opened_of_switchTo h
  | built place =>
    by_cases hplace : place < rt.contexts.length
    · rw [Scope.enter, Guard.enterAt, if_pos hplace] at h
      cases h
      exact ⟨hplace, rfl⟩
    · rw [Scope.enter, Guard.enterAt, if_neg hplace] at h
      cases h
  | file host path system options =>
    cases path with
    | none => exact opened_of_switchTo h
    | some path =>
      cases hc : Guard.configOfFile host rt path system options with
      | ok c =>
        rw [Scope.enter, Guard.switchToFile, Stateful.get_bind, hc] at h
        exact ⟨c, hc, opened_of_switchTo h⟩
      | error e =>
        rw [Scope.enter, Guard.switchToFile, Stateful.get_bind, hc] at h
        cases h
  | environment b modules assignments => exact hkeeps rfl
  | paths added => exact hkeeps rfl

/-- A scope that can be entered runs its body there, and is left afterwards. -/
theorem during_of_enter {s : Scope μ} {rt inside : Runtime μ} {guard : Guard μ}
    (h : s.enter rt = .ok guard inside) (body : StateM (Runtime μ) Outcome) :
    Guard.during s.enter .refused body rt = ((body inside).1, guard.drop (body inside).2) := by
  rw [Guard.during, h]
  rfl

/-- **One scope**, by what it does to the contexts. Its body is not run at all; or it is run with a
context current that is new or named, and the one from before is current again after it; or it is
run with the contexts as they are. -/
theorem during_cases (s : Scope μ) (body : StateM (Runtime μ) Outcome) (rt : Runtime μ) :
    (∃ e after, Guard.during s.enter .refused body rt = (.refused e, after) ∧
        SameContexts rt after) ∨
      (∃ inside, Guard.during s.enter .refused body rt =
          ((body inside).1, { (body inside).2 with current := rt.current }) ∧ Grows [] rt inside ∧
        ∀ i, inside.current = some i → rt.contexts.length ≤ i ∨ s.place? = some i) ∨
      (s.switches = false ∧ ∃ inside after,
        Guard.during s.enter .refused body rt = ((body inside).1, after) ∧
          SameContexts rt inside ∧ SameContexts (body inside).2 after) := by
  cases hs : s.switches with
  | true =>
    rcases enter_cases hs rt with ⟨e, h⟩ | ⟨inside, h, hgrows, hnew⟩
    · exact .inl ⟨e, rt, by simp only [Guard.during, h], .refl rt⟩
    · exact .inr (.inl ⟨inside, by simp only [Guard.during, h]; rfl, hgrows, hnew⟩)
  | false =>
    -- neither the guard on entering nor dropping it touches a context
    obtain ⟨henter, hdrop⟩ := enter_keeps hs
    have hrt := henter rt
    cases h : s.enter rt with
    | error e after =>
      rw [attempt_of_error h] at hrt
      exact .inl ⟨e, after, by simp only [Guard.during, h], hrt⟩
    | ok guard inside =>
      rw [attempt_of_ok h] at hrt
      refine .inr (.inr ⟨rfl, inside, guard.drop (body inside).2, ?_, hrt, ?_⟩)
      · simp only [Guard.during, h]
        rfl
      · exact hdrop rt guard inside h _

/-- A body that adds to the counts what it logs still does so in a scope. -/
theorem grows_during (s : Scope μ) {body : StateM (Runtime μ) Outcome}
    (hbody : ∀ rt, Grows (body rt).1.calls rt (body rt).2) (rt : Runtime μ) :
    Grows (Guard.during s.enter .refused body rt).1.calls rt
      (Guard.during s.enter .refused body rt).2 := by
  rcases during_cases s body rt with ⟨e, after, h, hsame⟩ | ⟨inside, h, hgrows, -⟩ |
    ⟨-, inside, after, h, hin, hout⟩ <;> rw [h]
  · exact hsame.grows
  · have hinside := hgrows.trans (hbody inside)
    exact hinside.withCurrent rt.current
  · have hinside := hin.grows.trans (hbody inside)
    have hafter := hinside.trans hout.grows
    rwa [List.nil_append, List.append_nil] at hafter

/-- A scope that switches the context gives the current one back. -/
theorem current_during {s : Scope μ} (hs : s.switches) (body : StateM (Runtime μ) Outcome)
    (rt : Runtime μ) : (Guard.during s.enter .refused body rt).2.current = rt.current := by
  rcases during_cases s body rt with ⟨e, after, h, hsame⟩ | ⟨inside, h, -, -⟩ | ⟨hno, -⟩
  · rw [h, hsame.current]
  · rw [h]
  · rw [hs] at hno
    cases hno

/-- A body that leaves a current context current still does so in a scope. -/
theorem current_during_of_some (s : Scope μ) {body : StateM (Runtime μ) Outcome} {i : Nat}
    (hbody : ∀ rt, rt.current = some i → i < rt.contexts.length → (body rt).2.current = some i)
    {rt : Runtime μ} (hc : rt.current = some i) (hi : i < rt.contexts.length) :
    (Guard.during s.enter .refused body rt).2.current = some i := by
  rcases during_cases s body rt with ⟨e, after, h, hsame⟩ | ⟨inside, h, -, -⟩ |
    ⟨-, inside, after, h, hin, hout⟩ <;> rw [h]
  · exact hsame.current.trans hc
  · exact hc
  · -- the body started with the same context current, so it ended with it
    exact hout.current.trans (hbody inside (hin.current.trans hc) (hin.contexts.symm ▸ hi))

/-! ### Whole flows -/

/-- **Counts along a flow.** A flow adds to each count the calls it logs, and nothing else. -/
theorem exec_grows (p : Flow μ) (rt : Runtime μ) :
    Grows (p.exec rt).1.calls rt (p.exec rt).2 := by
  -- each part of a flow starts from the runtime that the part before it left
  induction p generalizing rt with
  | stop ending => exact (SameContexts.refl rt).grows
  | act a next ih =>
    rw [Flow.exec_act]
    exact (a.grows rt).trans (ih _ _)
  | scope s body next ihbody ihnext =>
    rw [Flow.exec_scope]
    exact (grows_during s ihbody rt).trans (ihnext _ _)

/-- **The current context along a flow.** A flow that starts with a context current ends with the
same one current. -/
theorem current_exec (p : Flow μ) {rt : Runtime μ} {i : Nat} (hc : rt.current = some i)
    (hi : i < rt.contexts.length) : (p.exec rt).2.current = some i := by
  induction p generalizing rt with
  | stop ending => exact hc
  | act a next ih =>
    rw [Flow.exec_act]
    refine ih _ ?_ (Nat.lt_of_lt_of_le hi (a.grows rt).length_le)
    rcases a.current_cases rt with h | ⟨h, -⟩
    · exact h.trans hc
    · -- a context is only made current where there is none
      rw [current?, hc, Option.bind_some, List.getElem?_eq_none_iff] at h
      omega
  | scope s body next ihbody ihnext =>
    rw [Flow.exec_scope]
    refine ihnext _ (current_during_of_some s (fun rt => ihbody) hc hi) ?_
    exact Nat.lt_of_lt_of_le hi (grows_during s (exec_grows body) rt).length_le

/-! ### Flows that leave a context alone -/

/-- A flow that does not name the context at a place, neither to count a run up nor to make it
current. It may name what an operation answers, unless that is the place. -/
def Flow.Leaves (i : Nat) : Flow μ → Prop
  | .stop _ => True
  | .act a next =>
    a.place? ≠ some i ∧
      ∀ reply : Except RuntimeError (Reply μ), reply.toOption.bind Reply.place? ≠ some i →
        (next reply).Leaves i
  | .scope s body next => s.place? ≠ some i ∧ body.Leaves i ∧ ∀ ending, (next ending).Leaves i

/-- A place that is answered is new. -/
theorem Act.place?_reply_ne (a : Act μ) {rt : Runtime μ} {i : Nat} (hi : i < rt.contexts.length) :
    (attempt a.op rt).1.toOption.bind Reply.place? ≠ some i := by
  have hmap : ∀ {α : Type} (x : Op μ α) (g : α → Reply μ), (∀ a, (g a).place? = none) →
      (attempt (x >>= fun a => pure (g a)) rt).1.toOption.bind Reply.place? ≠ some i := by
    intro α x g hg
    rw [attempt_bind_pure]
    cases (attempt x rt).1 with
    | error e => exact nofun
    | ok a => exact fun h => nomatch (hg a).symm.trans h
  cases a with
  | write w => exact nofun
  | work f => exact nofun
  | load b es => exact hmap _ Reply.loaded fun _ => rfl
  | emit b es => exact hmap _ Reply.commands fun _ => rfl
  | isLoaded b e => exact hmap _ Reply.flag fun _ => rfl
  | init host c => exact hmap _ Reply.context fun _ => rfl
  | construct host start c =>
    have hs : (attempt (Act.construct host start c).op rt).1 =
        (attempt (Runtime.construct host start c) rt).1.map Reply.place :=
      congrArg Prod.fst (attempt_bind_pure _ Reply.place rt)
    rw [hs]
    rcases construct_cases host start c rt with ⟨context, h⟩ | ⟨e, h⟩
    · rw [attempt_of_ok h]
      exact fun hplace => absurd (Option.some.inj hplace) (by omega)
    · rw [attempt_of_error h]
      exact nofun
  | nextRun place =>
    cases place with
    | some i => exact nofun
    | none => exact hmap _ (fun _ => Reply.nothing) fun _ => rfl

/-- A context that is not named and not current does not become current. -/
theorem Act.current_ne (a : Act μ) {rt : Runtime μ} {i : Nat} (hc : rt.current ≠ some i)
    (hi : i < rt.contexts.length) : (attempt a.op rt).2.current ≠ some i := by
  rcases a.current_cases rt with h | ⟨-, h⟩ <;> rw [h]
  · exact hc
  · intro hlen
    exact absurd (Option.some.inj hlen) (by omega)

/-- A body that neither calls a context nor makes it current still does not in a scope that does
not name it. -/
theorem leaves_during {s : Scope μ} {i : Nat} (hs : s.place? ≠ some i)
    {body : StateM (Runtime μ) Outcome}
    (hbody : ∀ rt, rt.current ≠ some i → i < rt.contexts.length →
      i ∉ (body rt).1.calls ∧ (body rt).2.current ≠ some i)
    {rt : Runtime μ} (hi : i < rt.contexts.length) (hc : rt.current ≠ some i ∨ s.switches) :
    i ∉ (Guard.during s.enter .refused body rt).1.calls ∧
      (rt.current ≠ some i →
        (Guard.during s.enter .refused body rt).2.current ≠ some i) := by
  rcases during_cases s body rt with ⟨e, after, h, hsame⟩ | ⟨inside, h, hgrows, hnew⟩ |
    ⟨hno, inside, after, h, hin, hout⟩ <;> rw [h]
  · exact ⟨List.not_mem_nil, fun hne => hsame.current.symm ▸ hne⟩
  · -- what is current inside is new or was named, so it is not the context at the place
    have hne : inside.current ≠ some i := by
      intro hcur
      rcases hnew i hcur with hlen | hplace
      · omega
      · exact hs hplace
    exact ⟨(hbody inside hne (Nat.lt_of_lt_of_le hi hgrows.length_le)).1, id⟩
  · have hne : rt.current ≠ some i := hc.resolve_right (by simp [hno])
    obtain ⟨hcalls, hcur⟩ := hbody inside (hin.current.symm ▸ hne) (hin.contexts.symm ▸ hi)
    exact ⟨hcalls, fun _ => hout.current.symm ▸ hcur⟩

/-- **What a flow does not name.** A flow that does not name a context, started where that context
is not current, never counts a run up on it and never makes it current. -/
theorem exec_leaves {i : Nat} {p : Flow μ} (hp : p.Leaves i) {rt : Runtime μ}
    (hc : rt.current ≠ some i) (hi : i < rt.contexts.length) :
    i ∉ (p.exec rt).1.calls ∧ (p.exec rt).2.current ≠ some i := by
  induction p generalizing rt with
  | stop ending => exact ⟨List.not_mem_nil, hc⟩
  | act a next ih =>
    obtain ⟨ha, hnext⟩ := hp
    have hlen := Nat.lt_of_lt_of_le hi (a.grows rt).length_le
    obtain ⟨hcalls, hcur⟩ := ih _ (hnext _ (a.place?_reply_ne hi)) (a.current_ne hc hi) hlen
    rw [Flow.exec_act]
    refine ⟨fun h => ?_, hcur⟩
    rcases List.mem_append.1 h with h | h
    · exact Act.notMem_calls ha hc h
    · exact hcalls h
  | scope s body next ihbody ihnext =>
    obtain ⟨hs, hbody, hnext⟩ := hp
    have hlen := Nat.lt_of_lt_of_le hi (grows_during s (exec_grows body) rt).length_le
    obtain ⟨hin, hmid⟩ := leaves_during hs (fun rt => ihbody hbody) hi (.inl hc)
    obtain ⟨hcalls, hcur⟩ := ihnext _ (hnext _) (hmid hc) hlen
    rw [Flow.exec_scope]
    refine ⟨fun h => ?_, hcur⟩
    rcases List.mem_append.1 h with h | h
    · exact hin h
    · exact hcalls h

/-- Counts of contexts that a scope with another context current does not name. -/
theorem runOf_during {s : Scope μ} (hs : s.switches) {body : Flow μ} {i : Nat}
    (hplace : s.place? ≠ some i) (hbody : body.Leaves i) {rt : Runtime μ}
    (hi : i < rt.contexts.length) :
    (Guard.during s.enter .refused body.exec rt).2.runOf i = rt.runOf i := by
  have hcalls := (leaves_during hplace (fun _ => exec_leaves hbody) hi (.inr hs)).1
  rw [(grows_during s (exec_grows body) rt).counted, List.count_eq_zero.2 hcalls, Nat.add_zero]

/-- Running a body with a configuration is one of the scopes. -/
theorem within_eq_during (host : Host μ) (c : Option SiteConfig)
    (body : StateM (Runtime μ) Outcome) :
    Runtime.within host c .refused body =
      Guard.during (Scope.context host host.now c).enter .refused body := rfl

/-- A scope that cannot be entered runs no body. -/
theorem during_eq_refused {s : Scope μ} (hs : s.switches) {rt rt' : Runtime μ} {e : RuntimeError}
    (h : s.enter rt = .error e rt') (body : StateM (Runtime μ) Outcome) :
    rt' = rt ∧ Guard.during s.enter .refused body rt = (.refused e, rt) := by
  rcases enter_cases hs rt with ⟨e', h'⟩ | ⟨rt'', h', -, -⟩ <;> rw [h'] at h <;> cases h
  simp only [Guard.during, h', and_self]

/-- **Contexts in scopes.** Said of any runtime, with places for contexts:

* A scope that switches the context ends with the current context, or the absence of one, that it
  started with; running a body with a configuration is such a scope.
* A scope that can be entered runs its body with the context current that was built for it or that
  it names, or with none.
* A context that cannot be built changes nothing, and no body is run in its scope.
* A context that is current is not replaced by initialising, and no flow ends with another one.
* Every context keeps its place along a flow, and its count of runs goes up by the calls made on
  it; a context that is built on the way starts at zero.
* In a scope that switches the context, the counts of the contexts from before it stay as they are,
  unless the scope or a flow in it names one. -/
theorem current_and_counts_exec (rt : Runtime μ) :
    (∀ (s : Scope μ) (body : Flow μ), s.switches →
        (Guard.during s.enter .refused body.exec rt).2.current = rt.current) ∧
      (∀ (host : Host μ) (c : Option SiteConfig) (body : Flow μ),
        (Runtime.within host c .refused body.exec rt).2.current = rt.current) ∧
      (∀ (s : Scope μ) (body : Flow μ) (guard : Guard μ) (inside : Runtime μ),
        s.enter rt = .ok guard inside →
          s.Opens rt inside ∧ Guard.during s.enter .refused body.exec rt =
            ((body.exec inside).1, guard.drop (body.exec inside).2)) ∧
      (∀ (s : Scope μ) (body : Flow μ) (e : RuntimeError) (rt' : Runtime μ), s.switches →
        s.enter rt = .error e rt' →
          rt' = rt ∧ Guard.during s.enter .refused body.exec rt = (.refused e, rt)) ∧
      (∀ (host : Host μ) (start : Moment) (c : SiteConfig) (e : RuntimeError) (rt' : Runtime μ),
        Runtime.construct host start c rt = .error e rt' ∨ Runtime.init host c rt = .error e rt' →
          rt' = rt) ∧
      (∀ (host : Host μ) (c : SiteConfig) (r : Running μ), rt.current? = some r →
        Runtime.init host c rt = .ok r rt) ∧
      (∀ (p : Flow μ) (i : Nat), rt.current = some i → i < rt.contexts.length →
        (p.exec rt).2.current = some i) ∧
      (∀ p : Flow μ,
        rt.contexts.map (·.context) <+: (p.exec rt).2.contexts.map (·.context) ∧
          (∀ i, (p.exec rt).2.runOf i = rt.runOf i + (p.exec rt).1.calls.count i) ∧
          ∀ i, rt.contexts.length ≤ i →
            (p.exec rt).2.runOf i = (p.exec rt).1.calls.count i) ∧
      ∀ (s : Scope μ) (body : Flow μ) (i : Nat), s.switches → s.place? ≠ some i →
        body.Leaves i → i < rt.contexts.length →
          (Guard.during s.enter .refused body.exec rt).2.runOf i = rt.runOf i := by
  refine ⟨fun s body hs => current_during hs _ rt, fun host c body => ?_,
    fun s body guard inside h => ⟨opens_of_enter h, during_of_enter h _⟩,
    fun s body e rt' hs h => during_eq_refused hs h _, fun host start c e rt' h => ?_,
    fun host c r hr => init_eq_ok_of_current hr, fun p i hc hi => current_exec p hc hi,
    fun p => ?_, fun s body i hs hp hb hi => runOf_during hs hp hb hi⟩
  · rw [within_eq_during]
    exact current_during rfl _ rt
  · exact h.elim construct_eq_error init_eq_error
  · have hp := exec_grows p rt
    refine ⟨hp.kept, hp.counted, fun i hi => ?_⟩
    have hnew : rt.runOf i = 0 := by rw [runOf, List.getElem?_eq_none hi]; rfl
    rw [hp.counted, hnew, Nat.zero_add]

end Flows

/-- A runtime with one context, which is current and in its run 3. -/
def inRunThree : Runtime Unit where
  machine := ⟨.empty, .empty, [], ()⟩
  contexts := [⟨⟨.generic, ⟨"login", "", [], [], ⟨"", [], []⟩, .noModules⟩, ⟨0, 0, 0⟩⟩, 3⟩]
  current := some 0

/-- A host without a module command. -/
def bareHost : Host Unit where
  name := "login"
  now := ⟨0, 0, 0⟩
  lmodAt _ _ _ := .error .notFound

/-- Makes a context current, counts a run up and comes to an abrupt end. -/
def initAndUnwind : Flow Unit :=
  .act (.init bareHost .generic) fun _ => .act (.nextRun none) fun _ => .stop .unwound

attribute [local instance] Account.unlisted

/-- In a cleared scope the flow makes a context of its own current and counts a run on that one; the
outer context is current again after it and still in its run 3. -/
theorem current_and_counts_exec_inRunThree :
    (Guard.during (Scope.context bareHost bareHost.now none).enter .refused initAndUnwind.exec
        inRunThree).2.current = some 0 ∧
      (Guard.during (Scope.context bareHost bareHost.now none).enter .refused initAndUnwind.exec
        inRunThree).1 = (initAndUnwind.exec { inRunThree with current := none }).1 ∧
      initAndUnwind.Leaves 0 ∧
      (Guard.during (Scope.context bareHost bareHost.now none).enter .refused initAndUnwind.exec
        inRunThree).2.runOf 0 = 3 ∧
      Guard.during (Scope.built 1).enter .refused initAndUnwind.exec inRunThree =
        (.refused .notConfigured, inRunThree) ∧
      (∃ e, Runtime.construct bareHost bareHost.now (.unchecked .null) inRunThree =
        .error e inRunThree) ∧
      (∃ r, Runtime.init bareHost .generic inRunThree = .ok r inRunThree) ∧
      (initAndUnwind.exec inRunThree).2.current = some 0 := by
  obtain ⟨hscope, -, hopens, hfails, hbuild, hinit, hcurrent, -, hleaves⟩ :=
    current_and_counts_exec inRunThree
  have hbody : initAndUnwind.Leaves 0 := ⟨nofun, fun _ _ => ⟨nofun, fun _ _ => trivial⟩⟩
  have hnull : ∃ e rt', Runtime.construct bareHost bareHost.now (.unchecked .null) inRunThree =
      .error e rt' := ⟨_, _, rfl⟩
  have hcleared : (Scope.context bareHost bareHost.now none).enter inRunThree =
      .ok (.runtime (some 0)) { inRunThree with current := none } := rfl
  have hinside := congrArg Prod.fst (hopens _ initAndUnwind _ _ hcleared).2
  refine ⟨hscope _ _ rfl, hinside, hbody, hleaves _ _ 0 rfl nofun hbody (by decide), ?_, ?_, ?_, ?_⟩
  · exact (hfails _ _ .notConfigured inRunThree rfl rfl).2
  · obtain ⟨e, rt', h⟩ := hnull
    exact ⟨e, h.trans (hbuild _ _ _ e rt' (.inl h) ▸ rfl)⟩
  · exact ⟨_, hinit _ _ _ rfl⟩
  · exact hcurrent _ 0 rfl (by decide)

end SiteRuntime.Scopes
