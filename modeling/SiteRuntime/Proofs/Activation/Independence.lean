import SiteRuntime.Proofs.Activation.Lasting

/-!
# Environments that can change places

Without a module system an activation assigns variables one after the other, and each value is
expanded in the very environment that is being changed. Two lists of environments may still be
activated in either order if neither assigns what the other assigns or refers to
(`load_append_comm`). This holds of failures too: if one order can be carried out, so can the other.

What carries the argument is `AgreeBeside`: two process environments that differ at most in the
variables of some assignments. What does not refer to these variables is expanded alike in both, so
other assignments can be made in both or in neither, and afterwards the two still differ in these
variables only (`AgreeBeside.assigned`). The environment from before the first list and the one
after it are such a pair, and so the second list is indifferent to whether the first has come.
-/

namespace SiteRuntime

namespace ProcessEnv

/-! ### Assignments that leave each other alone -/

/-- **Assignments that leave others alone**: they assign no variable that the others assign, and
none that a value of the others refers to. -/
def Leaves (assignments others : List (String × String)) : Prop :=
  ∀ a ∈ assignments, ∀ b ∈ others, a.1 ≠ b.1 ∧ a.1 ∉ referredNames b.2

instance (assignments others : List (String × String)) : Decidable (Leaves assignments others) :=
  inferInstanceAs (Decidable (∀ a ∈ assignments, ∀ b ∈ others, _))

/-- **Independent assignments.** Both leave the other ones alone, and no name that a value refers to
has an `=` in it, so that each name is that of the variable which is read. -/
structure Independent (as bs : List (String × String)) : Prop where
  leaves : Leaves as bs
  leaves_symm : Leaves bs as
  noEquals : ∀ a ∈ as ++ bs, ∀ name ∈ referredNames a.2, '=' ∉ name.toList

theorem Independent.symm {as bs : List (String × String)} (h : Independent as bs) :
    Independent bs as where
  leaves := h.leaves_symm
  leaves_symm := h.leaves
  noEquals a ha := h.noEquals a (List.mem_append.2 (List.mem_append.1 ha).symm)

/-- What is assigned is not read. -/
theorem Independent.notMem_reads {as bs : List (String × String)} (h : Independent as bs) :
    ∀ b ∈ bs, ∀ a ∈ as, Bytes.ofText a.1 ∉ reads b.2 := by
  intro b hb a ha hread
  have hequals := h.noEquals b (List.mem_append_right _ hb)
  exact (h.leaves a ha b hb).2 (mem_referredNames_of_mem_reads hequals hread)

/-- A variable that is assigned first is not assigned again. -/
theorem Independent.ofText_ne {as bs : List (String × String)} (h : Independent as bs)
    {a : String × String} (ha : a ∈ as) : ∀ b ∈ bs, Bytes.ofText b.1 ≠ Bytes.ofText a.1 := by
  intro b hb heq
  exact (h.leaves a ha b hb).1 (Bytes.ofText_inj.1 heq).symm

/-! ### Environments that differ in given variables -/

/-- Environments that differ at most in the variables that are assigned. -/
def AgreeBeside (assignments : List (String × String)) (e e' : ProcessEnv) : Prop :=
  ∀ n, (∀ a ∈ assignments, Bytes.ofText a.1 ≠ n) → e.value? n = e'.value? n

namespace AgreeBeside

variable {assignments : List (String × String)} {e e' : ProcessEnv}

/-- Another variable may be set to the same value in both. -/
theorem set (h : AgreeBeside assignments e e') (n v : Bytes) :
    AgreeBeside assignments (e.set n v) (e'.set n v) := by
  intro x hx
  rw [value?_set, value?_set, h x hx]

variable [Account]

/-- A text that reads none of the variables is expanded alike. -/
theorem expand_eq (h : AgreeBeside assignments e e') {s : String}
    (hs : ∀ a ∈ assignments, Bytes.ofText a.1 ∉ reads s) : e.expand s = e'.expand s := by
  refine expand_congr fun n hn => h n fun a ha => ?_
  rintro rfl
  exact hs a ha hn

/-- **Assignments that read none of the variables.** They can be made in both environments or in
neither, and afterwards the two differ in these variables only. -/
theorem assigned (h : AgreeBeside assignments e e') {others : List (String × String)}
    (hreads : ∀ b ∈ others, ∀ a ∈ assignments, Bytes.ofText a.1 ∉ reads b.2) :
    (e.Assignable others ↔ e'.Assignable others) ∧
      AgreeBeside assignments (e.assigned others) (e'.assigned others) := by
  -- from the front: the first value is the same in both, so the two go on as such a pair
  induction others generalizing e e' with
  | nil => exact ⟨Iff.rfl, h⟩
  | cons b rest ih =>
    obtain ⟨hb, hrest⟩ := List.forall_mem_cons.1 hreads
    have hvalue : e.expand b.2 = e'.expand b.2 := h.expand_eq hb
    have hset := h.set (Bytes.ofText b.1) (Bytes.ofText (e'.expand b.2))
    obtain ⟨hiff, hagree⟩ := ih hset hrest
    rw [Assignable, Assignable, assigned_cons, assigned_cons, hvalue]
    exact ⟨and_congr_right fun _ => and_congr_right fun _ => hiff, hagree⟩

end AgreeBeside

/-! ### Independent assignments -/

variable [Account]

/-- Assignments change nothing beside their variables. -/
theorem agreeBeside_assigned (e : ProcessEnv) (assignments : List (String × String)) :
    AgreeBeside assignments (e.assigned assignments) e :=
  fun _ hn => value?_assigned hn

/-- Whether assignments can be made does not depend on independent ones before them. -/
theorem Independent.assignable_iff {as bs : List (String × String)} (h : Independent as bs)
    (e : ProcessEnv) : (e.assigned as).Assignable bs ↔ e.Assignable bs :=
  ((agreeBeside_assigned e as).assigned h.notMem_reads).1

/-- What the first of two independent lists assigned is still there after the second, and it is what
the list assigns after the other one. -/
theorem Independent.value?_assigned_append {as bs : List (String × String)} (h : Independent as bs)
    (e : ProcessEnv) {n : Bytes} (hn : ∀ b ∈ bs, Bytes.ofText b.1 ≠ n) :
    (e.assigned (as ++ bs)).value? n = (e.assigned (bs ++ as)).value? n := by
  have hagree := ((agreeBeside_assigned e bs).assigned h.symm.notMem_reads).2
  calc (e.assigned (as ++ bs)).value? n
      = ((e.assigned as).assigned bs).value? n := by rw [assigned_append]
    _ = (e.assigned as).value? n := value?_assigned hn
    _ = ((e.assigned bs).assigned as).value? n := (hagree n hn).symm
    _ = (e.assigned (bs ++ as)).value? n := by rw [assigned_append]

/-- **Independent assignments commute.** -/
theorem Independent.assigned_comm {as bs : List (String × String)} (h : Independent as bs)
    (e : ProcessEnv) : e.assigned (as ++ bs) = e.assigned (bs ++ as) := by
  ext n
  -- no variable is assigned by both lists, so one of them does not assign this one
  by_cases hn : ∀ b ∈ bs, Bytes.ofText b.1 ≠ n
  · rw [h.value?_assigned_append e hn]
  · have has : ∀ a ∈ as, Bytes.ofText a.1 ≠ n := by
      intro a ha han
      exact hn fun b hb => han ▸ h.ofText_ne ha b hb
    rw [h.symm.value?_assigned_append e has]

/-- Independent assignments can be made in either order or in none. -/
theorem Independent.assignable_comm {as bs : List (String × String)} (h : Independent as bs)
    (e : ProcessEnv) : e.Assignable (as ++ bs) ↔ e.Assignable (bs ++ as) := by
  rw [assignable_append, assignable_append, h.assignable_iff, h.symm.assignable_iff]
  exact and_comm

end ProcessEnv

namespace Activation

variable {μ : Type}

open ProcessEnv

variable [Account] in
/-- **Independent environments commute.** If neither of two lists of environments assigns what the
other assigns or refers to, then on every machine activating the first and then the second succeeds
if and only if activating the second and then the first does, and both leave the same machine. -/
theorem load_append_comm {as bs : List Environment}
    (h : Independent (assignmentsOf as) (assignmentsOf bs)) (m m' : Machine μ) :
    (∃ loaded, load .noModules (as ++ bs) m = .ok loaded m') ↔
      ∃ loaded, load .noModules (bs ++ as) m = .ok loaded m' := by
  have hload : ∀ es : List Environment, (∃ loaded, load .noModules es m = .ok loaded m') ↔
      m.env.Assignable (assignmentsOf es) ∧
        m' = m.withEnv (m.env.assigned (assignmentsOf es)) := by
    intro es
    constructor
    · rintro ⟨loaded, hl⟩
      obtain ⟨hassignable, hm, -⟩ := activateAll_noModules_iff.1 (load_eq_ok_iff.1 hl).2
      exact ⟨hassignable, hm⟩
    · rintro ⟨hassignable, hm⟩
      have hall := activateAll_noModules_iff.2 ⟨hassignable, hm, rfl⟩
      exact ⟨⟨_, _⟩, load_eq_ok_iff.2 ⟨rfl, hall⟩⟩
  rw [hload, hload, assignmentsOf_append, assignmentsOf_append, h.assignable_comm,
    h.assigned_comm]

/-- Environments that refer to the home directory, to a variable of the first and to one that nobody
assigns. -/
def editorTools : List Environment :=
  [⟨"editor", [], [("EDITOR", "$ROOT/bin/vi"), ("VISUAL", "$EDITOR")]⟩,
    ⟨"pager", ["less/6"], [("PAGER", "~/bin/less")]⟩]

section

attribute [local instance] Account.listed

theorem load_append_comm_editorTools :
    Independent (assignmentsOf [compiler]) (assignmentsOf editorTools) ∧
      ∃ m', (∃ loaded, load .noModules ([compiler] ++ editorTools) withoutHome = .ok loaded m') ∧
        ∃ loaded, load .noModules (editorTools ++ [compiler]) withoutHome = .ok loaded m' := by
  have hindependent : Independent (assignmentsOf [compiler]) (assignmentsOf editorTools) :=
    ⟨by decide +kernel, by decide +kernel, by decide +kernel⟩
  have hok : (match load .noModules ([compiler] ++ editorTools) withoutHome with
      | .ok _ _ => true
      | .error _ _ => false) = true := by decide +kernel
  cases hl : load .noModules ([compiler] ++ editorTools) withoutHome with
  | ok loaded m' =>
    have hfirst : ∃ loaded,
        load .noModules ([compiler] ++ editorTools) withoutHome = .ok loaded m' :=
      ⟨loaded, hl⟩
    exact ⟨hindependent, m', ⟨loaded, rfl⟩, (load_append_comm hindependent withoutHome m').1 hfirst⟩
  | error e m' =>
    rw [hl] at hok
    cases hok

end

end Activation

end SiteRuntime
