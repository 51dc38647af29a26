import SiteRuntime.Job.Retry

/-!
# The course of attempts

Trying again is a loop over a state that each attempt changes. A `Course` lists the attempts that
are made, each as a `Trial` with the states in which it starts and ends, so that what holds of a
single attempt can be said of each one with its number. Every run of the loop has a course
(`exists_course`): the attempts go on until one is good, one fails, or none are left.

What is true of the state in the attempt of a number is a family of invariants `P`, kept by an
attempt and carried to the next number between two of them.
-/

namespace SiteRuntime.Retry

open Stateful (answer left)

/-- One attempt. -/
structure Trial (ε σ α : Type) where
  /-- The state in which it starts. -/
  start : σ
  /-- What it comes to. -/
  came : Except ε α
  /-- The state in which it ends. -/
  finish : σ

variable {ε σ α : Type}

/-- The attempt made in a state. -/
def Trial.make (attempt : EStateM ε σ α) (s : σ) : Trial ε σ α :=
  ⟨s, answer (attempt s), left (attempt s)⟩

/-- What the attempts that did not fail came to. -/
def answers (trials : List (Trial ε σ α)) : List α := trials.filterMap fun t => t.came.toOption

/-- **A course of attempts** from a state, numbered from `number`: those that were not good, and the
one after which no other is made. -/
structure Course (attempt : EStateM ε σ α) (again : Nat → EStateM ε σ Unit) (isGood : α → Bool)
    (number retries : Nat) (s : σ) (bad : List (Trial ε σ α)) (last : Trial ε σ α) : Prop where
  /-- Nothing but attempts is made. -/
  made : ∀ t ∈ bad ++ [last], t = .make attempt t.start
  /-- The first attempt is made right away. -/
  begun : ∀ t, (bad ++ [last])[0]? = some t → t.start = s
  /-- Every other one is made after going on to its number. -/
  next : ∀ i t t', (bad ++ [last])[i]? = some t → (bad ++ [last])[i + 1]? = some t' →
    again (number + (i + 1)) t.finish = .ok () t'.start
  /-- Those before the last one did not fail, and were not good. -/
  notGood : ∀ t ∈ bad, ∃ a, t.came = .ok a ∧ isGood a = false
  /-- There are no more than were asked for. -/
  atMost : bad.length ≤ retries
  /-- The last one failed, was good, or was the last one asked for. -/
  ended : ∀ a, last.came = .ok a → isGood a ∨ bad.length = retries

variable {attempt : EStateM ε σ α} {again : Nat → EStateM ε σ Unit} {isGood : α → Bool}

/-- One attempt is a course if it fails, is good, or is the only one asked for. -/
theorem Course.single {number retries : Nat} {s : σ}
    (h : ∀ a, answer (attempt s) = .ok a → isGood a ∨ retries = 0) :
    Course attempt again isGood number retries s [] (.make attempt s) where
  made t ht := by
    obtain rfl := List.mem_singleton.1 ht
    rfl
  begun t ht := by
    obtain rfl : Trial.make attempt s = t := Option.some.inj ht
    rfl
  next i t t' _ ht' := by simp at ht'
  notGood t ht := by simp at ht
  atMost := Nat.zero_le retries
  ended a ha := (h a ha).imp_right Eq.symm

/-- An attempt that is not good comes before the course from the next number. -/
theorem Course.cons {number retries : Nat} {s s' s'' : σ} {a : α} {bad : List (Trial ε σ α)}
    {last : Trial ε σ α} (ha : attempt s = .ok a s') (hbad : isGood a = false)
    (hagain : again (number + 1) s' = .ok () s'')
    (h : Course attempt again isGood (number + 1) retries s'' bad last) :
    Course attempt again isGood number (retries + 1) s (.make attempt s :: bad) last where
  made t ht := by
    rcases List.mem_cons.1 ht with rfl | ht
    · rfl
    · exact h.made t ht
  begun t ht := by
    obtain rfl : Trial.make attempt s = t := Option.some.inj ht
    rfl
  next i t t' ht ht' := by
    cases i with
    | zero =>
      obtain rfl : Trial.make attempt s = t := Option.some.inj ht
      have hfinish : (Trial.make attempt s).finish = s' := by rw [Trial.make, ha, left]
      rw [hfinish, h.begun t' ht', hagain]
    | succ i =>
      have hnext := h.next i t t' ht ht'
      rwa [Nat.add_assoc, Nat.add_comm 1] at hnext
  notGood t ht := by
    rcases List.mem_cons.1 ht with rfl | ht
    · exact ⟨a, by rw [Trial.make, ha, answer], hbad⟩
    · exact h.notGood t ht
  atMost := Nat.succ_le_succ h.atMost
  ended b hb := (h.ended b hb).imp_right (congrArg Nat.succ)

/-- **An invariant for each number**: what an attempt keeps, and what going on carries to the next
number, is true where the attempt of that number starts and where it ends. -/
theorem Course.invariant {P : Nat → σ → Prop} (hattempt : ∀ n s, P n s → P n (left (attempt s)))
    (hagain : ∀ n s s', P n s → again (n + 1) s = .ok () s' → P (n + 1) s') {number retries : Nat}
    {s : σ} {bad : List (Trial ε σ α)} {last : Trial ε σ α}
    (h : Course attempt again isGood number retries s bad last) (hs : P number s) {i : Nat}
    {t : Trial ε σ α} (ht : (bad ++ [last])[i]? = some t) :
    P (number + i) t.start ∧ P (number + i) t.finish := by
  have hfinish : ∀ n, ∀ t ∈ bad ++ [last], P n t.start → P n t.finish := by
    intro n t ht hn
    rw [h.made t ht]
    exact hattempt n t.start hn
  suffices hstart : P (number + i) t.start from
    ⟨hstart, hfinish _ t (List.mem_of_getElem? ht) hstart⟩
  -- from one attempt to the next, by what is done between the two
  induction i generalizing t with
  | zero => exact h.begun t ht ▸ hs
  | succ i ih =>
    obtain ⟨before, hbefore⟩ : ∃ before, (bad ++ [last])[i]? = some before := by
      obtain ⟨hi, -⟩ := List.getElem?_eq_some_iff.1 ht
      exact ⟨_, List.getElem?_eq_getElem (Nat.lt_of_succ_lt hi)⟩
    exact hagain _ before.finish t.start
      (hfinish _ before (List.mem_of_getElem? hbefore) (ih hbefore)) (h.next i before t hbefore ht)

theorem answers_append_singleton {last : Trial ε σ α} {a : α} (ha : last.came = .ok a)
    (trials : List (Trial ε σ α)) : answers (trials ++ [last]) = answers trials ++ [a] := by
  rw [answers, List.filterMap_append, List.filterMap_cons_some (by rw [ha]; rfl)]
  rfl

/-- Where no attempt failed, the answers are what the attempts came to. -/
theorem map_ok_answers {trials : List (Trial ε σ α)} (h : ∀ t ∈ trials, ∃ a, t.came = .ok a) :
    (answers trials).map .ok = trials.map (·.came) := by
  induction trials with
  | nil => rfl
  | cons t trials ih =>
    obtain ⟨a, ha⟩ := h t List.mem_cons_self
    rw [List.map_cons, ← ih fun t ht => h t (List.mem_cons_of_mem _ ht), answers, answers,
      List.filterMap_cons_some (by rw [ha]; rfl), List.map_cons, ha]

/-- If the last attempt did not fail, none did. -/
theorem Course.came_ok {number retries : Nat} {s : σ} {bad : List (Trial ε σ α)}
    {last : Trial ε σ α} (h : Course attempt again isGood number retries s bad last) {a : α}
    (ha : last.came = .ok a) : ∀ t ∈ bad ++ [last], ∃ b, t.came = .ok b := by
  intro t ht
  rcases List.mem_append.1 ht with ht | ht
  · obtain ⟨b, hb, -⟩ := h.notGood t ht
    exact ⟨b, hb⟩
  · obtain rfl := List.mem_singleton.1 ht
    exact ⟨a, ha⟩

/-! ### Runs -/

/-- How attempts come out, told by the last one. -/
def outcome (bad : List (Trial ε σ α)) (last : Trial ε σ α) : EStateM.Result ε σ (List α) :=
  match last.came with
  | .ok _ => .ok (answers (bad ++ [last])) last.finish
  | .error e => .error e last.finish

/-- An attempt after which no other is made comes out by itself. -/
theorem outcome_single (s : σ) :
    outcome [] (Trial.make attempt s) = (attempt >>= fun a => pure [a]) s := by
  cases h : attempt s with
  | ok a s' =>
    rw [Stateful.bind_of_ok h, outcome, answers, Trial.make, h]
    rfl
  | error e s' =>
    rw [Stateful.bind_of_error h, outcome, Trial.make, h]
    rfl

/-- What an attempt came to stands before what the others come to. -/
theorem outcome_cons {s s' s'' : σ} {a : α} (ha : attempt s = .ok a s')
    {rest : EStateM ε σ (List α)} {bad : List (Trial ε σ α)} {last : Trial ε σ α}
    (hrest : rest s'' = outcome bad last) :
    outcome (Trial.make attempt s :: bad) last = (rest >>= fun more => pure (a :: more)) s'' := by
  cases h : last.came with
  | ok b =>
    have hout : rest s'' = .ok (answers (bad ++ [last])) last.finish := by rw [hrest, outcome, h]
    rw [Stateful.bind_of_ok hout, outcome, h, Trial.make, ha]
    rfl
  | error e =>
    have hout : rest s'' = .error e last.finish := by rw [hrest, outcome, h]
    rw [Stateful.bind_of_error hout, outcome, h]

variable (isGood) in
/-- **Every run has a course**, if going on to the next number succeeds wherever it is done. -/
theorem exists_course {P : Nat → σ → Prop} (hattempt : ∀ n s, P n s → P n (left (attempt s)))
    (hagain : ∀ n s, P n s → ∃ s', again (n + 1) s = .ok () s' ∧ P (n + 1) s')
    (retries : Nat) {number : Nat} {s : σ} (hs : P number s) :
    ∃ bad last, Course attempt again isGood number retries s bad last ∧
      attempts attempt again isGood number retries s = outcome bad last := by
  -- an attempt that is not good takes one of those left; the rest is a course from the next number
  induction retries generalizing number s with
  | zero => exact ⟨[], _, .single fun _ _ => .inr rfl, (outcome_single s).symm⟩
  | succ retries ih =>
    cases ha : attempt s with
    | error e s' =>
      refine ⟨[], _, .single fun a h => ?_, ?_⟩
      · rw [ha] at h
        cases h
      · rw [outcome_single, attempts, Stateful.bind_of_error ha, Stateful.bind_of_error ha]
    | ok a s' =>
      rw [attempts, Stateful.bind_of_ok ha]
      cases hgood : isGood a with
      | true =>
        refine ⟨[], _, .single fun b h => .inl ?_, ?_⟩
        · rw [ha] at h
          cases h
          exact hgood
        · rw [outcome_single, Stateful.bind_of_ok ha]
          rfl
      | false =>
        have hs' := hattempt number s hs
        rw [ha, left] at hs'
        obtain ⟨s'', hnext, hs''⟩ := hagain number s' hs'
        obtain ⟨bad, last, hcourse, hout⟩ := ih hs''
        refine ⟨_, last, hcourse.cons ha hgood hnext, ?_⟩
        rw [if_neg Bool.false_ne_true, Stateful.bind_of_ok hnext, outcome_cons ha hout]

end SiteRuntime.Retry
