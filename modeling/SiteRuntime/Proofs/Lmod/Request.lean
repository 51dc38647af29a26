import SiteRuntime.Proofs.Environment.Text
import SiteRuntime.Proofs.Lmod.Report
import SiteRuntime.Snapshot

/-!
# Requests to Lmod

Loading and unloading a module and changing the search path are one thing for Lmod: a call of the
command, whose output is read as statements. What the statements do is told here without carrying
them out. `Updated` looks for the last statement that sets or removes a variable and ignores the
others, among them those that the platform would refuse; `updated_iff` says that this is what comes
out when they are carried out one by one.

A call is all or nothing. `Outcome` has one constructor for each way in which it ends: either the
machine is as it was, whatever had been printed, or all of the statements count
(`outcome_perform`).
-/

namespace SiteRuntime.Lmod

open Stateful (left)

/-! ### The last statement about a variable -/

namespace Statement

/-- An assignment of a value to a variable, as far as the platform takes it. -/
inductive Assigns : Statement → Bytes → Bytes → Prop
  | set {name value} : Write.ValidName (Bytes.ofText name) → Write.ValidValue (Bytes.ofText value) →
    Assigns (.set name value) (Bytes.ofText name) (Bytes.ofText value)

/-- The removal of a variable, perhaps with others. Names that the platform does not take are passed
over. -/
inductive Removes : Statement → Bytes → Prop
  | unset {names name} : name ∈ names → Write.ValidName (Bytes.ofText name) →
    Removes (.unset names) (Bytes.ofText name)

/-- Whether a statement is about a variable, in a way that the platform takes. -/
def Concerns (s : Statement) (n : Bytes) : Prop := (∃ v, s.Assigns n v) ∨ s.Removes n

section Writes

variable {s : Statement} {n v : Bytes}

theorem value?_of_assigns (h : s.Assigns n v) (e : ProcessEnv) :
    (e.applyAll s.writes).value? n = some v := by
  cases h with
  | set hname hvalue =>
    have htaken : (isVariableName _ && isVariableValue _) = true :=
      Bool.and_eq_true_iff.2 ⟨isVariableName_iff.2 hname, isVariableValue_iff.2 hvalue⟩
    rw [writes, if_pos htaken, ProcessEnv.applyAll_cons, ProcessEnv.applyAll_nil,
      ProcessEnv.apply_set, ProcessEnv.value?_set_self]

/-- The names that pass the check are those that are removed. -/
theorem mem_filter_iff_removes {names : List String} :
    n ∈ (names.filter isVariableName).map Bytes.ofText ↔ (unset names).Removes n := by
  rw [List.mem_map]
  constructor
  · rintro ⟨name, hname, rfl⟩
    obtain ⟨hmem, htaken⟩ := List.mem_filter.1 hname
    exact .unset hmem (isVariableName_iff.1 htaken)
  · intro h
    cases h with
    | @unset _ name hmem hname =>
      exact ⟨name, List.mem_filter.2 ⟨hmem, isVariableName_iff.2 hname⟩, rfl⟩

theorem writes_unset (names : List String) :
    (unset names).writes = ((names.filter isVariableName).map Bytes.ofText).map .unset := by
  rw [writes, List.map_map]
  rfl

theorem value?_of_removes (h : s.Removes n) (e : ProcessEnv) :
    (e.applyAll s.writes).value? n = none := by
  have hremoves := h
  cases h with
  | unset hmem hname =>
    rw [writes_unset, Snapshot.value?_applyAll_unset, if_pos (mem_filter_iff_removes.2 hremoves)]

theorem value?_of_not_concerns (h : ¬ s.Concerns n) (e : ProcessEnv) :
    (e.applyAll s.writes).value? n = e.value? n := by
  cases s with
  | set name value =>
    rw [writes]
    split
    next htaken =>
      obtain ⟨hname, hvalue⟩ := Bool.and_eq_true_iff.1 htaken
      have hassigns := Assigns.set (isVariableName_iff.1 hname) (isVariableValue_iff.1 hvalue)
      have hother : n ≠ Bytes.ofText name := by
        rintro rfl
        exact h (.inl ⟨_, hassigns⟩)
      rw [ProcessEnv.applyAll_cons, ProcessEnv.applyAll_nil, ProcessEnv.apply_set,
        ProcessEnv.value?_set, if_neg hother]
    next => rfl
  | unset names =>
    rw [writes_unset, Snapshot.value?_applyAll_unset, if_neg]
    exact fun hmem => h (.inr (mem_filter_iff_removes.1 hmem))

end Writes

end Statement

/-- **An environment after statements**, told by the last statement about each variable. -/
structure Updated (statements : List Statement) (e e' : ProcessEnv) : Prop where
  /-- A variable that was last assigned has its value. -/
  assigned {before s after n v} : statements = before ++ s :: after → s.Assigns n v →
    (∀ t ∈ after, ¬ t.Concerns n) → e'.value? n = some v
  /-- A variable that was last removed is not there. -/
  removed {before s after n} : statements = before ++ s :: after → s.Removes n →
    (∀ t ∈ after, ¬ t.Concerns n) → e'.value? n = none
  /-- Every other variable is as it was. -/
  kept {n} : (∀ t ∈ statements, ¬ t.Concerns n) → e'.value? n = e.value? n

section Updated

variable {statements : List Statement} {e e' e'' : ProcessEnv}

theorem value?_of_forall_not_concerns {n : Bytes} (h : ∀ t ∈ statements, ¬ t.Concerns n) :
    (e.applyAll (statements.flatMap Statement.writes)).value? n = e.value? n := by
  induction statements generalizing e with
  | nil => rfl
  | cons s rest ih =>
    obtain ⟨hs, hrest⟩ := List.forall_mem_cons.1 h
    rw [List.flatMap_cons, ProcessEnv.applyAll_append, ih hrest,
      Statement.value?_of_not_concerns hs]

/-- The last statement about a variable leaves the value that is found in the end. -/
theorem value?_of_last (e : ProcessEnv) (before : List Statement) (s : Statement)
    {after : List Statement} {n : Bytes} (h : ∀ t ∈ after, ¬ t.Concerns n) :
    (e.applyAll ((before ++ s :: after).flatMap Statement.writes)).value? n =
      ((e.applyAll (before.flatMap Statement.writes)).applyAll s.writes).value? n := by
  rw [List.flatMap_append, List.flatMap_cons, ProcessEnv.applyAll_append,
    ProcessEnv.applyAll_append, value?_of_forall_not_concerns h]

theorem updated_applyAll (statements : List Statement) (e : ProcessEnv) :
    Updated statements e (e.applyAll (statements.flatMap Statement.writes)) where
  assigned := by
    rintro before s after n v rfl hassigns hafter
    rw [value?_of_last e before s hafter, Statement.value?_of_assigns hassigns]
  removed := by
    rintro before s after n rfl hremoves hafter
    rw [value?_of_last e before s hafter, Statement.value?_of_removes hremoves]
  kept := value?_of_forall_not_concerns

/-- If statements are about a variable, one of them is the last. -/
theorem forall_not_concerns_or_exists_last (statements : List Statement) (n : Bytes) :
    (∀ t ∈ statements, ¬ t.Concerns n) ∨
      ∃ before s after, statements = before ++ s :: after ∧ s.Concerns n ∧
        ∀ t ∈ after, ¬ t.Concerns n := by
  induction statements with
  | nil => exact .inl (List.forall_mem_nil _)
  | cons s rest ih =>
    rcases ih with hrest | ⟨before, t, after, rfl, ht, hafter⟩
    · by_cases hs : s.Concerns n
      · exact .inr ⟨[], s, rest, rfl, hs, hrest⟩
      · exact .inl (List.forall_mem_cons.2 ⟨hs, hrest⟩)
    · exact .inr ⟨s :: before, t, after, rfl, ht, hafter⟩

/-- The statements leave no variable open. -/
theorem Updated.unique (h : Updated statements e e') (h' : Updated statements e e'') :
    e' = e'' := by
  apply ProcessEnv.ext_value?
  intro n
  -- whatever was last said about the variable decides it in both
  rcases forall_not_concerns_or_exists_last statements n with
    hnone | ⟨before, s, after, heq, ⟨v, hassigns⟩ | hremoves, hafter⟩
  · rw [h.kept hnone, h'.kept hnone]
  · rw [h.assigned heq hassigns hafter, h'.assigned heq hassigns hafter]
  · rw [h.removed heq hremoves hafter, h'.removed heq hremoves hafter]

/-- **Carrying out statements.** One after the other, they come to what the last one about each
variable says. -/
theorem updated_iff :
    Updated statements e e' ↔ e' = e.applyAll (statements.flatMap Statement.writes) := by
  constructor
  · exact fun h => h.unique (updated_applyAll statements e)
  · rintro rfl
    exact updated_applyAll statements e

instance : Decidable (Updated statements e e') := decidable_of_iff _ updated_iff.symm

end Updated

/-- A variable that is set twice, one that is removed beside what is no name, and a value that the
platform does not take. -/
example :
    Updated [.set "A" "1", .unset ["B", "C="], .set "A" "2", .set "D" "\x00"]
      (.ofList [(Bytes.ofText "B", Bytes.ofText "b"), (Bytes.ofText "D", Bytes.ofText "d")])
      (.ofList [(Bytes.ofText "A", Bytes.ofText "2"), (Bytes.ofText "D", Bytes.ofText "d")]) := by
  decide +kernel

/-! ### Requests -/

/-- What Lmod can be asked to change. -/
inductive Request where
  | load (module : String)
  | unload (module : String)
  /-- Directories to put in front of the search path, at least one. -/
  | use (path : String) (more : List String)
  /-- Directories to take out of the search path, at least one. -/
  | unuse (path : String) (more : List String)

namespace Request

/-- What the command is called with. -/
def arguments : Request → List String
  | load module => ["load", module]
  | unload module => ["unload", module]
  | use path more => "use" :: path :: more
  | unuse path more => "unuse" :: path :: more

variable {μ : Type}

/-- What a module system does when it is asked. -/
def perform (b : Backend μ) : Request → Action μ ModuleError Unit
  | load module => b.load module
  | unload module => b.unload module
  | use path more => b.addPaths (path :: more)
  | unuse path more => b.removePaths (path :: more)

/-- Whatever Lmod is asked, it calls the command once. -/
theorem perform_backend (request : Request) (l : Lmod μ) :
    request.perform l.backend = l.execute request.arguments := by
  cases request <;> rfl

end Request

section Outcome

variable {μ : Type} {l : Lmod μ} {arguments : List String} {m : Machine μ}

/-- **How a call of the command ends**, with what it answers and the machine that it leaves. -/
inductive Outcome (l : Lmod μ) (arguments : List String) (m : Machine μ) :
    EStateM.Result ModuleError (Machine μ) Unit → Prop
  /-- The command could not be started. Nothing has changed. -/
  | notStarted {cause} : l.program m ("sh" :: arguments) = .error cause →
    Outcome l arguments m (.error (.spawn (l.commandLine arguments) cause) m)
  /-- The command failed, or said so. Nothing has changed, whatever it printed. -/
  | failed {out} : l.program m ("sh" :: arguments) = .ok out →
    out.succeeded = false ∨ SaysError (Bytes.lossy out.stderr).toList →
    Outcome l arguments m (.error (.command (l.commandLine arguments)
      (String.ofList (Text.trim (Bytes.lossy out.stderr).toList))) m)
  /-- The command succeeded. The environment follows its statements, and nothing else has
  changed. -/
  | done {out e'} : l.program m ("sh" :: arguments) = .ok out →
    out.succeeded = true → ¬ SaysError (Bytes.lossy out.stderr).toList →
    Updated (Statement.readAll (Bytes.lossy out.stdout).toList) m.env e' →
    Outcome l arguments m (.ok () (m.withEnv e'))

theorem outcome_execute (l : Lmod μ) (arguments : List String) (m : Machine μ) :
    Outcome l arguments m (l.execute arguments m) := by
  unfold execute
  cases hprogram : l.program m ("sh" :: arguments) with
  | error cause =>
    have hcall : l.call arguments m = .error (.spawn (l.commandLine arguments) cause) := by
      unfold call
      rw [hprogram]
    rw [hcall]
    exact .notStarted hprogram
  | ok out =>
    by_cases hfails : out.succeeded = false ∨ SaysError (Bytes.lossy out.stderr).toList
    · rw [call_of_failed hprogram hfails]
      exact .failed hprogram hfails
    · obtain ⟨hsucceeded, hmention⟩ := not_or.1 hfails
      rw [Bool.not_eq_false] at hsucceeded
      rw [call_of_done hprogram hsucceeded hmention]
      exact .done hprogram hsucceeded hmention (updated_applyAll _ m.env)

theorem left_conflictsOf (l : Lmod μ) (name : String) (m : Machine μ) :
    left (l.conflictsOf name m) = m := by
  unfold conflictsOf
  cases l.call ["show", name] m <;> rfl

/-- **All or nothing.** A request to Lmod either fails and changes nothing, or the environment
follows all statements that the command printed. Looking up conflicts never changes anything. -/
theorem outcome_perform (l : Lmod μ) (m : Machine μ) :
    (∀ request : Request,
      Outcome l request.arguments m (request.perform l.backend m)) ∧
    ∀ name, left (l.backend.conflicts name m) = m := by
  constructor
  · intro request
    rw [request.perform_backend l]
    exact outcome_execute l request.arguments m
  · intro name
    exact left_conflictsOf l name m

end Outcome

end SiteRuntime.Lmod
