import SiteRuntime.Runtime.Guard

/-!
# How contexts come and are counted

Contexts are known by their places, which only works because places are never given away twice: a
later runtime has all contexts of an earlier one in the same places, and more after them. With that
a count of runs belongs to a place. `Grows` puts both together: from one runtime to a later one
contexts are only added, and each count goes up by the calls that were made on its place. It
composes along a run (`Grows.trans`).

Most operations touch nothing but the machine. `Keeps` says so of an operation whether it fails or
not, and is put together along a sequence (`Keeps.bind`).
-/

namespace SiteRuntime.Runtime

variable {μ α β : Type}

/-! ### Operations that touch only the machine -/

/-- The same contexts, of which the same one is current. -/
structure SameContexts (rt rt' : Runtime μ) : Prop where
  contexts : rt'.contexts = rt.contexts
  current : rt'.current = rt.current

theorem SameContexts.refl (rt : Runtime μ) : SameContexts rt rt := ⟨rfl, rfl⟩

theorem SameContexts.trans {rt₁ rt₂ rt₃ : Runtime μ} (h : SameContexts rt₁ rt₂)
    (h' : SameContexts rt₂ rt₃) : SameContexts rt₁ rt₃ :=
  ⟨h'.contexts.trans h.contexts, h'.current.trans h.current⟩

/-- An operation that leaves the contexts alone, whether it fails or not. -/
def Keeps (op : Op μ α) : Prop := ∀ rt, SameContexts rt (attempt op rt).2

theorem keeps_pure (x : α) : Keeps (pure x : Op μ α) := fun rt => .refl rt

theorem keeps_running : Keeps (running : Op μ (Running μ)) := by
  intro rt
  rcases running_cases rt with ⟨r, -, h⟩ | ⟨-, h⟩
  · rw [attempt_of_ok h]
    exact .refl rt
  · rw [attempt_of_error h]
    exact .refl rt

theorem keeps_onto (a : Action μ RuntimeError α) : Keeps (onto a) := by
  intro rt
  simp only [attempt, onto]
  cases a rt.machine <;> exact ⟨rfl, rfl⟩

/-- The second operation starts where the first one ended, if it starts at all. -/
theorem Keeps.bind {x : Op μ α} {f : α → Op μ β} (hx : Keeps x) (hf : ∀ a, Keeps (f a)) :
    Keeps (x >>= f) := by
  intro rt
  have hrt := hx rt
  cases h : x rt with
  | ok a rt' =>
    rw [attempt_of_ok h] at hrt
    rw [attempt, Stateful.bind_of_ok h]
    exact hrt.trans (hf a rt')
  | error e rt' =>
    rw [attempt_of_error h] at hrt
    rw [attempt_of_error (Stateful.bind_of_error h)]
    exact hrt

/-- An answer may be given in another form. -/
theorem attempt_bind_pure (x : Op μ α) (g : α → β) (rt : Runtime μ) :
    attempt (x >>= fun a => pure (g a)) rt =
      ((attempt x rt).1.map g, (attempt x rt).2) := by
  cases h : x rt with
  | ok a rt' =>
    rw [attempt_of_ok h, attempt, Stateful.bind_of_ok h]
    rfl
  | error e rt' =>
    rw [attempt_of_error h, attempt_of_error (Stateful.bind_of_error h)]
    rfl

theorem Keeps.map {x : Op μ α} (hx : Keeps x) (g : α → β) : Keeps (x >>= fun a => pure (g a)) :=
  hx.bind fun _ => keeps_pure _

theorem keeps_backend (b : Option (Backend μ)) : Keeps (backend b) := by
  intro rt
  rcases backend_cases b rt with ⟨found, h⟩ | h
  · rw [attempt_of_ok h]
    exact .refl rt
  · rw [attempt_of_error h]
    exact .refl rt

section Environments

variable [Account]

theorem keeps_load (b : Option (Backend μ)) (es : List Environment) : Keeps (load b es) :=
  (keeps_backend b).bind fun _ => keeps_onto _

theorem keeps_emit (b : Option (Backend μ)) (es : List Environment) : Keeps (emit b es) :=
  (keeps_backend b).bind fun _ => keeps_onto _

theorem keeps_isLoaded (b : Option (Backend μ)) (e : Environment) : Keeps (isLoaded b e) :=
  (keeps_backend b).bind fun _ rt => .refl rt

theorem keeps_activate (b : Backend μ) (modules : List String)
    (assignments : List (String × String)) : Keeps (Guard.activate b modules assignments) := by
  intro rt
  rcases Guard.activate_cases b modules assignments rt with ⟨commands, m, h⟩ | ⟨e, m, h, -⟩
  · rw [attempt_of_ok h]
    exact ⟨rfl, rfl⟩
  · rw [attempt_of_error h]
    exact ⟨rfl, rfl⟩

end Environments

theorem keeps_usePaths (added : List String) : Keeps (Guard.usePaths added : Op μ (Guard μ)) :=
  keeps_running.bind fun _ => (keeps_onto _).bind fun _ => keeps_pure _

/-! ### Counts of runs -/

/-- The count of runs of the context at a place; where there is none, no run was counted. -/
def runOf (rt : Runtime μ) (i : Nat) : Nat := (rt.contexts[i]?.map (·.run)).getD 0

/-- **How a runtime grows.** From one runtime to a later one, `calls` being the places of the
contexts on which runs were counted up in between. -/
structure Grows (calls : List Nat) (rt rt' : Runtime μ) : Prop where
  /-- Contexts stay in their places. -/
  kept : rt.contexts.map (·.context) <+: rt'.contexts.map (·.context)
  /-- A count goes up by the calls that were made on its context. -/
  counted : ∀ i, rt'.runOf i = rt.runOf i + calls.count i

theorem SameContexts.grows {rt rt' : Runtime μ} (h : SameContexts rt rt') : Grows [] rt rt' where
  kept := h.contexts ▸ List.prefix_refl _
  counted i := by rw [runOf, runOf, h.contexts, List.count_nil, Nat.add_zero]

theorem Grows.trans {calls calls' : List Nat} {rt₁ rt₂ rt₃ : Runtime μ} (h : Grows calls rt₁ rt₂)
    (h' : Grows calls' rt₂ rt₃) : Grows (calls ++ calls') rt₁ rt₃ where
  kept := h.kept.trans h'.kept
  counted i := by rw [h'.counted, h.counted, List.count_append, Nat.add_assoc]

/-- Later runtimes have no fewer contexts. -/
theorem Grows.length_le {calls : List Nat} {rt rt' : Runtime μ} (h : Grows calls rt rt') :
    rt.contexts.length ≤ rt'.contexts.length := by
  simpa using h.kept.length_le

/-- A new context starts with no run counted. -/
theorem grows_withContext (context : Context μ) (rt : Runtime μ) :
    Grows [] rt (rt.withContext context) where
  kept := by simp [withContext]
  counted i := by
    rw [List.count_nil, Nat.add_zero, runOf, runOf, withContext]
    rcases Nat.lt_trichotomy i rt.contexts.length with h | rfl | h
    · rw [List.getElem?_append_left h]
    · simp
    · rw [List.getElem?_eq_none (by simp; omega), List.getElem?_eq_none (by omega)]

/-- What makes another context current does not touch the counts. -/
theorem Grows.withCurrent {calls : List Nat} {rt rt' : Runtime μ} (h : Grows calls rt rt')
    (current : Option Nat) : Grows calls rt { rt' with current } :=
  ⟨h.kept, h.counted⟩

/-- Counting runs up changes no context. -/
theorem map_context_countRuns (i n : Nat) (rt : Runtime μ) :
    (rt.countRuns i n).contexts.map (·.context) = rt.contexts.map (·.context) := by
  -- place by place, since only the number at one of them differs
  apply List.ext_getElem?
  intro j
  simp only [countRuns, List.getElem?_map, List.getElem?_modify]
  cases rt.contexts[j]? with
  | none => rfl
  | some r => by_cases h : i = j <;> simp [h]

theorem grows_countRuns (i : Nat) (rt : Runtime μ) :
    Grows ([i].filter (· < rt.contexts.length)) rt (rt.countRuns i 1) where
  kept := map_context_countRuns i 1 rt ▸ List.prefix_refl _
  counted j := by
    simp only [runOf, countRuns, List.getElem?_modify]
    by_cases hi : i < rt.contexts.length
    · rw [List.filter_cons_of_pos (by simpa using hi), List.filter_nil, List.count_singleton]
      by_cases h : i = j
      · subst h
        simp [hi]
      · simp [h]
    · rw [List.filter_cons_of_neg (by simpa using hi), List.filter_nil, List.count_nil]
      by_cases h : i = j
      · subst h
        rw [List.getElem?_eq_none (by omega)]
        rfl
      · simp [h]

end SiteRuntime.Runtime
