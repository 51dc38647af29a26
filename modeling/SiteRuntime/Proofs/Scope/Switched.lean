import SiteRuntime.Proofs.Runtime.WorkDirectory
import SiteRuntime.Session.Run

/-!
# Calls of a function that switches the runtime

Each call of such a function builds a context of its own, counts runs up on it and asks it one
question. The answer is a function of the configuration, the machine and the call (`answerOf`), and
all that is left of the call is its context behind the others (`exists_switchedCall_eq`). Since the
machine stays the same, calls that follow each other do not get to know of each other.

What a call could still depend on is when it is made, because a stage directory is named for the
start of the work. It does not if that name is the same at all times (`SiteConfig.Timeless`), which
is so for a format without fields (`Timestamp.Fieldless.text?_eq`).
-/

namespace SiteRuntime

/-! ### Names without the time -/

namespace Timestamp

/-- A format without fields. What is no format at all has none either. -/
def Fieldless (format : String) : Prop :=
  ∀ items, TimestampFormat.read? format = some items → ∀ item ∈ items, ∃ c, item = .literal c

/-- A format without fields gives the same text at all times. -/
theorem Fieldless.text?_eq {format : String} (h : Fieldless format) (m m' : Moment) :
    text? format m = text? format m' := by
  rw [text?, text?]
  cases hread : TimestampFormat.read? format with
  | none => rfl
  | some items =>
    have hitems : ∀ item ∈ items, item.text m = item.text m' := by
      intro item hitem
      obtain ⟨c, rfl⟩ := h items hread item hitem
      rfl
    rw [Option.map_some, Option.map_some, List.flatMap_def, List.flatMap_def,
      List.map_congr_left hitems]

end Timestamp

namespace SiteConfig

/-- Whenever the work starts, it is named the same. Nothing else is asked of how a format is
read. -/
def Timeless (c : SiteConfig) : Prop :=
  ∀ format, c.getText "general/0/timestamp" = .ok (some format) →
    ∀ m m', Timestamp.text? format m = Timestamp.text? format m'

end SiteConfig

namespace Context

variable {μ : Type}

/-- The same context for work that starts at another time. -/
def startedAt (context : Context μ) (start : Moment) : Context μ := { context with start }

theorem timestamp_startedAt {context : Context μ} (h : context.config.Timeless) (start : Moment) :
    (context.startedAt start).timestamp = context.timestamp := by
  have hconfig : (context.startedAt start).config = context.config := rfl
  rw [timestamp, timestamp, hconfig]
  cases hformat : context.config.getText "general/0/timestamp" with
  | error e => rfl
  | ok format =>
    cases format with
    | none => rfl
    | some format =>
      dsimp only [bind, Except.bind, Option.getD_some]
      rw [h format hformat (context.startedAt start).start context.start]

theorem stagePath_startedAt [Account] {context : Context μ} (h : context.config.Timeless)
    (start : Moment) (e : ProcessEnv) (run : Nat) (segments : List String) :
    (context.startedAt start).stagePath e run segments = context.stagePath e run segments := by
  have hbase : (context.startedAt start).baseDirectory e = context.baseDirectory e := rfl
  rw [stagePath, stagePath, stagePrefix, stagePrefix, timedDirectory, timedDirectory, hbase,
    timestamp_startedAt h]

end Context

/-- The same surroundings at another time. -/
def Host.atTime {μ : Type} (host : Host μ) (now : Moment) : Host μ := { host with now }

/-! ### A context that is built for a call -/

namespace Runtime

variable {μ α : Type} {host : Host μ} {c : SiteConfig} {context : Context μ} {rt : Runtime μ}

theorem buildContext_startedAt (host : Host μ) (start start' : Moment) (c : SiteConfig)
    (m : Machine μ) : buildContext host start' c m =
      (buildContext host start c m).map fun context => context.startedAt start' := by
  rw [buildContext, buildContext, Context.ofConfig, Context.ofConfig]
  cases System.ofConfig (fun name => Backend.ofName host.lmodAt name m) c <;> rfl

theorem config_of_buildContext {start : Moment} {m : Machine μ}
    (h : buildContext host start c m = .ok context) : context.config = c := by
  rw [buildContext, Context.ofConfig] at h
  cases hs : System.ofConfig (fun name => Backend.ofName host.lmodAt name m) c with
  | error e => rw [hs] at h; cases h
  | ok system =>
    rw [hs] at h
    cases h
    rfl

/-- A runtime with a new context, which is current and in a run. -/
def inRun (context : Context μ) (run : Nat) (rt : Runtime μ) : Runtime μ :=
  { rt with contexts := rt.contexts ++ [⟨context, run⟩], current := some rt.contexts.length }

theorem running_inRun (context : Context μ) (run : Nat) (rt : Runtime μ) :
    running (rt.inRun context run) = .ok ⟨context, run⟩ (rt.inRun context run) := by
  have hcurrent : (rt.inRun context run).current? = some ⟨context, run⟩ := by
    simp [current?, inRun]
  rw [running, hcurrent]

theorem nextRuns_of_current {i : Nat} {r : Running μ} (hi : rt.current = some i)
    (hr : rt.contexts[i]? = some r) (n : Nat) :
    nextRuns n rt = .ok (r.run + n) (rt.countRuns i n) := by
  rcases nextRuns_cases n rt with ⟨j, s, hj, hs, h⟩ | ⟨hnone, -⟩
  · obtain rfl : i = j := Option.some.inj (hi.symm.trans hj)
    obtain rfl : r = s := Option.some.inj (hr.symm.trans hs)
    exact h
  · rw [current?, hi, Option.bind_some, hr] at hnone
    cases hnone

/-- The runs of a new context are counted from zero. -/
theorem nextRuns_install (context : Context μ) (n : Nat) (rt : Runtime μ) :
    nextRuns n (rt.install context) = .ok n (rt.inRun context n) := by
  have hnew : (rt.install context).contexts[rt.contexts.length]? = some ⟨context, 0⟩ := by
    simp [install, withContext]
  have hcount : (rt.install context).countRuns rt.contexts.length n = rt.inRun context n := by
    simp [countRuns, install, withContext, inRun, List.modify_eq_take_cons_drop]
  rw [nextRuns_of_current rfl hnew, hcount, Nat.zero_add]

theorem within_of_built (h : buildContext host host.now c rt.machine = .ok context)
    (refused : RuntimeError → α) (body : StateM (Runtime μ) α) :
    within host (some c) refused body rt =
      ((body (rt.install context)).1,
        { (body (rt.install context)).2 with current := rt.current }) := by
  have hbuild : build host host.now c rt = .ok context rt := by rw [build, h]
  have hmap : (some c).mapM (build host host.now) rt = .ok (some context) rt := by
    rw [Option.mapM_some, map_eq_pure_bind, Stateful.bind_of_ok hbuild]
    rfl
  have henter : Guard.switchTo host host.now (some c) rt =
      .ok (.runtime rt.current) (rt.install context) := Stateful.bind_of_ok hmap
  rw [within, Guard.during, henter]
  rfl

theorem within_of_error {e : RuntimeError} (h : buildContext host host.now c rt.machine = .error e)
    (refused : RuntimeError → α) (body : StateM (Runtime μ) α) :
    within host (some c) refused body rt = (refused e, rt) := by
  have hbuild : build host host.now c rt = .error e rt := by rw [build, h]
  have hmap : (some c).mapM (build host host.now) rt = .error e rt := by
    rw [Option.mapM_some, map_eq_pure_bind, Stateful.bind_of_error hbuild]
  have henter : Guard.switchTo host host.now (some c) rt = .error e rt :=
    Stateful.bind_of_error hmap
  rw [within, Guard.during, henter]

end Runtime

/-! ### Calls -/

namespace Session

variable {host : Host Store} {c : Option SiteConfig} {context : Context Store} {rt : Runtime Store}

/-- What was current stays current where contexts are only added. -/
theorem current?_append {r : Running Store} (h : rt.current? = some r)
    (new : List (Running Store)) :
    { rt with contexts := rt.contexts ++ new }.current? = some r := by
  obtain ⟨i, hi, hr⟩ := Option.bind_eq_some_iff.1 h
  have hlength := (List.getElem?_eq_some_iff.1 hr).1
  rw [Runtime.current?]
  dsimp only
  rw [hi, Option.bind_some, List.getElem?_append_left hlength, hr]

section Answers

variable [Account]

/-- What a context answers to a call. -/
def replyOf (context : Context Store) (e : ProcessEnv) (call : SwitchedCall) :
    Except RuntimeError Json :=
  match call.option with
  | some path => context.option path
  | none =>
    ((context.stagePath e call.runs call.segments).mapError .config).map fun p => .string p.text

/-- What a call is answered on a machine. Without a configuration no context is current for it. -/
def answerOf (host : Host Store) (c : Option SiteConfig) (m : Machine Store) (call : SwitchedCall) :
    Except RuntimeError Json :=
  match c with
  | some c =>
    (Runtime.buildContext host host.now c m).bind fun context => replyOf context m.env call
  | none => .error .notConfigured

/-- In a new context the runs are those of the call. -/
theorem attempt_switchedBody_install (context : Context Store) (call : SwitchedCall)
    (rt : Runtime Store) :
    Runtime.attempt (switchedBody call) (rt.install context) =
      (replyOf context rt.machine.env call, rt.inRun context call.runs) := by
  have hrun := Runtime.running_inRun context call.runs rt
  rw [Runtime.attempt, switchedBody, Stateful.bind_of_ok (Runtime.nextRuns_install context _ rt),
    replyOf]
  cases call.option with
  | some path =>
    dsimp only
    rw [Stateful.bind_of_ok hrun, Context.option]
    cases context.config.get path <;> rfl
  | none =>
    dsimp only
    rw [Runtime.stagePath, bind_assoc, Stateful.bind_of_ok hrun]
    have hmachine : (rt.inRun context call.runs).machine = rt.machine := rfl
    rw [bind_assoc, Stateful.get_bind, hmachine]
    cases context.stagePath rt.machine.env call.runs call.segments <;> rfl

/-- Without a context there is nothing to ask. -/
theorem switchedCall_none (host : Host Store) (call : SwitchedCall) (rt : Runtime Store) :
    switchedCall host none call rt = (.error .notConfigured, rt) := rfl

/-- **One call.** What it answers does not depend on the contexts, and nothing is left of it but
perhaps a context behind them. -/
theorem exists_switchedCall_eq (host : Host Store) (c : Option SiteConfig) (call : SwitchedCall)
    (rt : Runtime Store) : ∃ new, switchedCall host c call rt =
      (answerOf host c rt.machine call, { rt with contexts := rt.contexts ++ new }) := by
  cases c with
  | none => exact ⟨[], by rw [switchedCall_none, List.append_nil]; rfl⟩
  | some c =>
    rw [switchedCall, answerOf]
    cases h : Runtime.buildContext host host.now c rt.machine with
    | error e => exact ⟨[], by rw [Runtime.within_of_error h, List.append_nil]; rfl⟩
    | ok context =>
      refine ⟨[⟨context, call.runs⟩], ?_⟩
      rw [Runtime.within_of_built h, attempt_switchedBody_install]
      rfl

/-! ### Calls at different times -/

theorem replyOf_startedAt (h : context.config.Timeless) (start : Moment) (e : ProcessEnv)
    (call : SwitchedCall) : replyOf (context.startedAt start) e call = replyOf context e call := by
  rw [replyOf, replyOf]
  cases call.option with
  | some path => rfl
  | none =>
    dsimp only
    rw [Context.stagePath_startedAt h]

/-- At another time a call is answered the same. -/
theorem answerOf_atTime (hc : ∀ c', c = some c' → c'.Timeless) (host : Host Store) (now : Moment)
    (m : Machine Store) (call : SwitchedCall) :
    answerOf (host.atTime now) c m call = answerOf host c m call := by
  cases c with
  | none => rfl
  | some c =>
    have hbuild : Runtime.buildContext (host.atTime now) (host.atTime now).now c m =
        (Runtime.buildContext host host.now c m).map fun context => context.startedAt now :=
      Runtime.buildContext_startedAt host host.now now c m
    rw [answerOf, answerOf, hbuild]
    cases h : Runtime.buildContext host host.now c m with
    | error e => rfl
    | ok context =>
      have hconfig : context.config.Timeless := Runtime.config_of_buildContext h ▸ hc c rfl
      exact replyOf_startedAt hconfig now m.env call

/-- The answers to calls that are made one after the other, each at a time of its own. -/
def switchedCallsAt (host : Host Store) (c : Option SiteConfig)
    (calls : List (Moment × SwitchedCall)) :
    StateM (Runtime Store) (List (Except RuntimeError Json)) :=
  calls.mapM fun x => switchedCall (host.atTime x.1) c x.2

/-- Calls in a session are all made at the same time. -/
theorem switchedCalls_eq (host : Host Store) (c : Option SiteConfig) (calls : List SwitchedCall) :
    switchedCalls host c calls =
      switchedCallsAt host c (calls.map fun call => (host.now, call)) := by
  rw [switchedCalls, switchedCallsAt, List.mapM_map]
  rfl

/-- **Calls one after the other.** Each is answered on the machine that the first one found. -/
theorem exists_switchedCallsAt_eq (hc : ∀ c', c = some c' → c'.Timeless) (host : Host Store)
    (calls : List (Moment × SwitchedCall)) (rt : Runtime Store) :
    ∃ new, switchedCallsAt host c calls rt =
      (calls.map fun x => answerOf host c rt.machine x.2,
        { rt with contexts := rt.contexts ++ new }) := by
  -- each call starts from the contexts that the calls before it left
  induction calls generalizing rt with
  | nil => exact ⟨[], by rw [List.append_nil]; rfl⟩
  | cons x calls ih =>
    obtain ⟨new, hcall⟩ := exists_switchedCall_eq (host.atTime x.1) c x.2 rt
    obtain ⟨more, hcalls⟩ := ih { rt with contexts := rt.contexts ++ new }
    refine ⟨new ++ more, ?_⟩
    rw [answerOf_atTime hc] at hcall
    have hcons : switchedCallsAt host c (x :: calls) rt =
        ((switchedCall (host.atTime x.1) c x.2 rt).1 ::
            (switchedCallsAt host c calls (switchedCall (host.atTime x.1) c x.2 rt).2).1,
          (switchedCallsAt host c calls (switchedCall (host.atTime x.1) c x.2 rt).2).2) := by
      rw [switchedCallsAt, List.mapM_cons]
      rfl
    rw [hcons, hcall, hcalls, List.map_cons, List.append_assoc]

/-- **Calls do not know of each other.** If the start of the work is named without the time, calls
of a function that switches the runtime are answered as each of them would be if it were the only
one, at any time; so calls in another order, and at other times, have the same answers in that
order. If no context can be built, that is what every call is answered. In the end the machine is
the same, the same context is current in the same run, and contexts have only been added. -/
theorem switchedCallsAt_independent (hc : ∀ c', c = some c' → c'.Timeless) (host : Host Store)
    (calls : List (Moment × SwitchedCall)) (rt : Runtime Store) :
    (∀ now, (switchedCallsAt host c calls rt).1 =
        calls.map fun x => (switchedCall (host.atTime now) c x.2 rt).1) ∧
      (∀ calls' : List (Moment × SwitchedCall),
        (calls'.map Prod.snd).Perm (calls.map Prod.snd) →
          ((calls'.map Prod.snd).zip (switchedCallsAt host c calls' rt).1).Perm
            ((calls.map Prod.snd).zip (switchedCallsAt host c calls rt).1)) ∧
      (∀ c' e, c = some c' → Runtime.buildContext host host.now c' rt.machine = .error e →
        (switchedCallsAt host c calls rt).1 = calls.map fun _ => .error e) ∧
      (switchedCallsAt host c calls rt).2.machine = rt.machine ∧
      (switchedCallsAt host c calls rt).2.current = rt.current ∧
      rt.contexts <+: (switchedCallsAt host c calls rt).2.contexts ∧
      ∀ r, rt.current? = some r → (switchedCallsAt host c calls rt).2.current? = some r := by
  obtain ⟨new, h⟩ := exists_switchedCallsAt_eq hc host calls rt
  rw [h]
  refine ⟨fun now => ?_, fun calls' hperm => ?_, fun c' e hc' hbuild => ?_, rfl, rfl,
    List.prefix_append _ _, fun r hr => current?_append hr new⟩
  · refine List.map_congr_left fun x _ => ?_
    obtain ⟨_, hcall⟩ := exists_switchedCall_eq (host.atTime now) c x.2 rt
    rw [hcall, answerOf_atTime hc]
  · obtain ⟨_, h'⟩ := exists_switchedCallsAt_eq hc host calls' rt
    rw [h']
    have hzip : ∀ l : List (Moment × SwitchedCall),
        (l.map Prod.snd).zip (l.map fun x => answerOf host c rt.machine x.2) =
          (l.map Prod.snd).map fun call => (call, answerOf host c rt.machine call) := by
      intro l
      rw [List.zip_map', List.map_map]
      rfl
    dsimp only
    rw [hzip, hzip]
    exact hperm.map _
  · refine List.map_congr_left fun x _ => ?_
    rw [hc', answerOf, hbuild]
    rfl

end Answers

attribute [local instance] Account.unlisted

/-- A site below `/site`, with a fixed text for the start of the work. -/
def fixedSite : SiteConfig :=
  (SiteConfig.generic.addSticky "systems/prefix" (.string "/site")).addSticky
    "general/timestamp" (.string "ts%%")

/-- A host without a module command. -/
def quietHost : Host Store where
  name := "login"
  now := ⟨0, 0, 0⟩
  lmodAt _ _ _ := .error .notFound

/-- A runtime whose current context is in its run 3. -/
def outerRuntime : Runtime Store where
  machine := ⟨.empty, .empty, [], ∅⟩
  contexts := [⟨⟨.generic, ⟨"login", "", [], [], ⟨"", [], []⟩, .noModules⟩, ⟨0, 0, 0⟩⟩, 3⟩]
  current := some 0

/-- Calls that count runs up, a second apart. -/
def countingCalls : List (Moment × SwitchedCall) :=
  [(⟨1, 0, 0⟩, ⟨2, none, ["job"]⟩), (⟨2, 0, 0⟩, ⟨1, some "general/timestamp", []⟩),
    (⟨3, 0, 0⟩, ⟨0, none, ["job"]⟩)]

theorem timeless_fixedSite : fixedSite.Timeless := by
  intro format hformat
  have htext : fixedSite.getText "general/0/timestamp" = .ok (some "ts%%") :=
    Runtime.eq_ok_of_toOption (by decide +kernel)
  obtain rfl := Option.some.inj (Except.ok.inj (htext.symm.trans hformat))
  refine Timestamp.Fieldless.text?_eq fun items hitems => ?_
  have hread : TimestampFormat.read? "ts%%" =
      some [.literal 't', .literal 's', .literal '%'] := by decide +kernel
  obtain rfl := Option.some.inj (hread.symm.trans hitems)
  simp

theorem switchedCallsAt_independent_counting :
    fixedSite.Timeless ∧
      (switchedCallsAt quietHost (some fixedSite) countingCalls outerRuntime).1.map
          (fun answer => answer.toOption.bind Json.text?) =
        [some "/site/stage/ts%/job_retry2", some "ts%%", some "/site/stage/ts%/job"] ∧
      ((countingCalls.reverse.map Prod.snd).zip
          (switchedCallsAt quietHost (some fixedSite) countingCalls.reverse outerRuntime).1).Perm
        ((countingCalls.map Prod.snd).zip
          (switchedCallsAt quietHost (some fixedSite) countingCalls outerRuntime).1) ∧
      (switchedCallsAt quietHost (some fixedSite) countingCalls outerRuntime).2.current =
        some 0 := by
  have hc : ∀ c', some fixedSite = some c' → c'.Timeless := by
    rintro c' hc'
    obtain rfl := Option.some.inj hc'
    exact timeless_fixedSite
  obtain ⟨-, hperm, -, -, hcurrent, -⟩ :=
    switchedCallsAt_independent hc quietHost countingCalls outerRuntime
  exact ⟨timeless_fixedSite, by decide +kernel,
    hperm _ ((List.reverse_perm countingCalls).map Prod.snd), hcurrent⟩

end Session

end SiteRuntime
