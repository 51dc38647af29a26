import SiteRuntime.Activation
import SiteRuntime.Proofs.Expansion.References

/-!
# Assignments in order

Without a module system an activation does nothing but assign variables, in the order in which the
environments name them, and `ProcessEnv.assigned` is the process environment that this comes to: a
fold over names and values, each value expanded where its turn comes. The activation succeeds if the
platform takes all of them (`ProcessEnv.Assignable`), and `activateAll_noModules_iff` says both at
once, so that what holds of long sequences of environments can be proved along one list of
assignments.

Later assignments leave alone what they do not name (`value?_assigned`), and what is expanded after
them comes out as before if it reads none of their names (`expand_assigned`).
-/

namespace SiteRuntime

namespace ProcessEnv

variable [Account]

/-- The environment after assignments in order, each value expanded where its turn comes. -/
def assigned (e : ProcessEnv) (assignments : List (String × String)) : ProcessEnv :=
  assignments.foldl (fun e a => e.set (Bytes.ofText a.1) (Bytes.ofText (e.expand a.2))) e

@[simp] theorem assigned_nil (e : ProcessEnv) : e.assigned [] = e := rfl

@[simp] theorem assigned_cons (e : ProcessEnv) (a : String × String)
    (rest : List (String × String)) :
    e.assigned (a :: rest) =
      (e.set (Bytes.ofText a.1) (Bytes.ofText (e.expand a.2))).assigned rest := rfl

theorem assigned_append (e : ProcessEnv) (first rest : List (String × String)) :
    e.assigned (first ++ rest) = (e.assigned first).assigned rest := List.foldl_append ..

/-- Whether assignments can be made in order: the platform takes each name, and each value as it is
expanded where its turn comes. -/
def Assignable : ProcessEnv → List (String × String) → Prop
  | _, [] => True
  | e, a :: rest =>
    isVariableName a.1 ∧ isVariableValue (e.expand a.2) ∧
      (e.set (Bytes.ofText a.1) (Bytes.ofText (e.expand a.2))).Assignable rest

theorem assignable_append {e : ProcessEnv} {first rest : List (String × String)} :
    e.Assignable (first ++ rest) ↔ e.Assignable first ∧ (e.assigned first).Assignable rest := by
  induction first generalizing e with
  | nil => exact ⟨fun h => ⟨trivial, h⟩, fun h => h.2⟩
  | cons a first ih =>
    rw [List.cons_append, Assignable, Assignable, assigned_cons, ih]
    simp only [and_assoc]

theorem Assignable.isVariableName {e : ProcessEnv} {assignments : List (String × String)}
    (h : e.Assignable assignments) : ∀ a ∈ assignments, isVariableName a.1 := by
  induction assignments generalizing e with
  | nil => exact fun a ha => nomatch ha
  | cons a rest ih => exact List.forall_mem_cons.2 ⟨h.1, ih h.2.2⟩

/-- A variable that is not assigned keeps its value. -/
theorem value?_assigned {e : ProcessEnv} {assignments : List (String × String)} {n : Bytes}
    (h : ∀ a ∈ assignments, Bytes.ofText a.1 ≠ n) :
    (e.assigned assignments).value? n = e.value? n := by
  induction assignments generalizing e with
  | nil => rfl
  | cons a rest ih =>
    rw [assigned_cons, ih fun x hx => h x (List.mem_cons_of_mem _ hx), value?_set,
      if_neg (h a List.mem_cons_self).symm]

/-- A text that reads none of the assigned variables expands as before. -/
theorem expand_assigned {e : ProcessEnv} {assignments : List (String × String)} {s : String}
    (h : ∀ a ∈ assignments, Bytes.ofText a.1 ∉ reads s) :
    (e.assigned assignments).expand s = e.expand s := by
  refine expand_congr fun n hn => value?_assigned fun a ha => ?_
  rintro rfl
  exact h a ha hn

end ProcessEnv

namespace Activation

variable {μ : Type}

/-- Without a module system loading modules does nothing, and it never fails. -/
theorem loadModules_noModules_iff {environment : String} {modules commands : List String}
    {m m' : Machine μ} :
    loadModules .noModules environment modules m = .ok commands m' ↔ commands = [] ∧ m' = m := by
  induction modules generalizing commands with
  | nil =>
    constructor
    · intro h
      cases h
      exact ⟨rfl, rfl⟩
    · rintro ⟨rfl, rfl⟩
      rfl
  | cons module rest ih =>
    have hload : Backend.loadModule .noModules module true m = .ok [] m := rfl
    rw [loadModules_cons_eq_ok_iff]
    constructor
    · rintro ⟨unloaded, m₁, more, h, hmore, rfl⟩
      cases hload.symm.trans h
      obtain ⟨rfl, rfl⟩ := ih.1 hmore
      exact ⟨rfl, rfl⟩
    · rintro ⟨rfl, rfl⟩
      exact ⟨[], m', [], hload, ih.2 ⟨rfl, rfl⟩, rfl⟩

/-- The assignments of environments, in the order in which they are made. -/
def assignmentsOf (es : List Environment) : List (String × String) := es.flatMap (·.assignments)

theorem assignmentsOf_cons (e : Environment) (rest : List Environment) :
    assignmentsOf (e :: rest) = e.assignments ++ assignmentsOf rest := List.flatMap_cons

theorem assignmentsOf_append (es es' : List Environment) :
    assignmentsOf (es ++ es') = assignmentsOf es ++ assignmentsOf es' := List.flatMap_append

variable [Account]

/-- An assignment still holds after others if these leave its variable alone and what its value
reads. -/
theorem holds_assigned {e : ProcessEnv} {a : String × String} {rest : List (String × String)}
    (hname : isVariableName a.1) (hagain : ∀ x ∈ rest, x.1 ≠ a.1)
    (hself : Bytes.ofText a.1 ∉ ProcessEnv.reads a.2)
    (hreads : ∀ x ∈ rest, Bytes.ofText x.1 ∉ ProcessEnv.reads a.2) :
    holds (e.assigned (a :: rest)) a.1 a.2 := by
  have hvalue : (e.assigned (a :: rest)).value? (Bytes.ofText a.1) =
      some (Bytes.ofText (e.expand a.2)) := by
    rw [ProcessEnv.assigned_cons,
      ProcessEnv.value?_assigned fun x hx => mt Bytes.ofText_inj.1 (hagain x hx)]
    exact ProcessEnv.value?_set_self ..
  have hexpand : (e.assigned (a :: rest)).expand a.2 = e.expand a.2 :=
    ProcessEnv.expand_assigned (List.forall_mem_cons.2 ⟨hself, hreads⟩)
  rw [holds, hexpand, ProcessEnv.text?_of_value? hname hvalue]
  exact decide_eq_true rfl

/-! ### What an activation assigns -/

/-- **Variables set in order.** They can be set if they can be assigned, and then the environment is
that of the assignments and the commands are their texts. -/
theorem setVariables_eq_ok_iff {environment : String} {assignments : List (String × String)}
    {commands : List String} {m m' : Machine μ} :
    setVariables environment assignments m = .ok commands m' ↔
      m.env.Assignable assignments ∧ m' = m.withEnv (m.env.assigned assignments) ∧
        commands = assignments.map (fun a => exportCommand a.1 a.2) := by
  induction assignments generalizing m commands with
  | nil =>
    constructor
    · intro h
      cases h
      exact ⟨trivial, rfl, rfl⟩
    · rintro ⟨-, rfl, rfl⟩
      rfl
  | cons a rest ih =>
    rw [setVariables_cons_eq_ok_iff]
    constructor
    · rintro ⟨m₁, more, hset, hmore, rfl⟩
      obtain ⟨hname, hvalue, rfl⟩ := setVariable_eq_ok_iff.1 hset
      obtain ⟨hrest, rfl, rfl⟩ := ih.1 hmore
      exact ⟨⟨hname, hvalue, hrest⟩, rfl, rfl⟩
    · rintro ⟨⟨hname, hvalue, hrest⟩, rfl, rfl⟩
      exact ⟨_, _, setVariable_eq_ok_iff.2 ⟨hname, hvalue, rfl⟩, ih.2 ⟨hrest, rfl, rfl⟩, rfl⟩

/-- **An activation without a module system** succeeds if all the assignments can be made. It makes
them and records them. -/
theorem activateAll_noModules_iff {es : List Environment} {commands : List String}
    {m m' : Machine μ} :
    activateAll .noModules es m = .ok commands m' ↔
      m.env.Assignable (assignmentsOf es) ∧ m' = m.withEnv (m.env.assigned (assignmentsOf es)) ∧
        commands = (assignmentsOf es).map (fun a => exportCommand a.1 a.2) := by
  induction es generalizing m commands with
  | nil =>
    constructor
    · intro h
      cases h
      exact ⟨trivial, rfl, rfl⟩
    · rintro ⟨-, rfl, rfl⟩
      rfl
  | cons e rest ih =>
    rw [activateAll_cons_eq_ok_iff, assignmentsOf_cons, ProcessEnv.assignable_append,
      ProcessEnv.assigned_append, List.map_append]
    constructor
    · rintro ⟨first, m₁, more, hfirst, hmore, rfl⟩
      obtain ⟨modules, m₂, assignments, hload, hset, rfl⟩ := activate_eq_ok_iff.1 hfirst
      obtain ⟨rfl, rfl⟩ := loadModules_noModules_iff.1 hload
      obtain ⟨hhead, rfl, rfl⟩ := setVariables_eq_ok_iff.1 hset
      obtain ⟨htail, rfl, rfl⟩ := ih.1 hmore
      exact ⟨⟨hhead, htail⟩, rfl, rfl⟩
    · rintro ⟨⟨hhead, htail⟩, rfl, rfl⟩
      have hload : loadModules .noModules e.name e.modules m = .ok [] m :=
        loadModules_noModules_iff.2 ⟨rfl, rfl⟩
      have hset : setVariables e.name e.assignments m =
          .ok (e.assignments.map fun a => exportCommand a.1 a.2)
            (m.withEnv (m.env.assigned e.assignments)) :=
        setVariables_eq_ok_iff.2 ⟨hhead, rfl, rfl⟩
      have hfirst := activate_eq_ok_iff.2 ⟨_, _, _, hload, hset, rfl⟩
      exact ⟨_, _, _, hfirst, ih.2 ⟨htail, rfl, rfl⟩, rfl⟩

/-- What a successful activation leaves and records; all the names are good. -/
theorem activateAll_noModules {es : List Environment} {commands : List String} {m m' : Machine μ}
    (h : activateAll .noModules es m = .ok commands m') :
    m' = m.withEnv (m.env.assigned (assignmentsOf es)) ∧
      commands = (assignmentsOf es).map (fun a => exportCommand a.1 a.2) ∧
      ∀ a ∈ assignmentsOf es, isVariableName a.1 := by
  obtain ⟨hassignable, hm, hcommands⟩ := activateAll_noModules_iff.1 h
  exact ⟨hm, hcommands, hassignable.isVariableName⟩

end Activation

end SiteRuntime
