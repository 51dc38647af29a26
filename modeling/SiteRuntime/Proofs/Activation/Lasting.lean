import SiteRuntime.Proofs.Activation.Assignments

/-!
# What stays in effect

Several environments may be activated one after the other, and of each of them one can ask at the
end whether it is in effect. Without a module system it is unless later assignments spoil it
(`isLoaded_of_lasting`): those that assign one of its variables again, and those that assign what
one of its values refers to, the later ones of the environment itself among them.

A name that a value refers to is looked up as it stands, and `${A=B}` so reads the variable `A`.
This is why the names referred to must be without `=` for the condition to speak of them.
-/

namespace SiteRuntime

namespace ProcessEnv

open Expansion

/-- The names that a value refers to: those that are looked up while it is expanded, and `HOME` if
it begins with a `~` of its own. -/
def referredNames (value : String) : List String :=
  (references value.toList).map String.ofList ++
    if value = "~" ∨ "~/".toList <+: value.toList then ["HOME"] else []

theorem eq_or_prefix_of_homeRest? {value : String} (h : (homeRest? value.toList).isSome) :
    value = "~" ∨ "~/".toList <+: value.toList := by
  unfold homeRest? at h
  split at h
  next hv => exact .inl (String.toList_inj.1 hv)
  next rest hv => exact .inr (hv ▸ ⟨rest, rfl⟩)
  next => cases h

/-- A variable that is read is referred to by its name, unless a name with `=` is. -/
theorem mem_referredNames_of_mem_reads {value name : String}
    (hequals : ∀ x ∈ referredNames value, '=' ∉ x.toList)
    (h : Bytes.ofText name ∈ reads value) : name ∈ referredNames value := by
  rcases List.mem_append.1 h with h | h
  · split at h
    next hhome =>
      obtain rfl : name = "HOME" := Bytes.ofText_inj.1 (List.mem_singleton.1 h)
      refine List.mem_append_right _ ?_
      rw [if_pos (eq_or_prefix_of_homeRest? hhome)]
      exact List.mem_singleton.2 rfl
    next => cases h
  · obtain ⟨r, hr, hname⟩ := List.mem_map.1 h
    have hmem : String.ofList r ∈ referredNames value :=
      List.mem_append_left _ (List.mem_map_of_mem hr)
    rw [readName_eq_self (mt equals_mem_ofText_iff.1 (hequals _ hmem))] at hname
    exact Bytes.ofText_inj.1 hname ▸ hmem

end ProcessEnv

namespace Activation

variable {μ : Type}

open ProcessEnv

/-- **Assignments that last** when `later` follow them: none of the variables is assigned again, and
no value refers to its own variable or to one that is assigned after it. -/
def Lasting : List (String × String) → List (String × String) → Prop
  | [], _ => True
  | a :: rest, later =>
    (∀ x ∈ rest ++ later, x.1 ≠ a.1) ∧ (∀ x ∈ a :: rest ++ later, x.1 ∉ referredNames a.2) ∧
      Lasting rest later

instance Lasting.decidable : ∀ assignments later, Decidable (Lasting assignments later)
  | [], _ => isTrue trivial
  | _ :: rest, later =>
    have := Lasting.decidable rest later
    inferInstanceAs (Decidable (_ ∧ _ ∧ _))

theorem Lasting.of_append {first rest later : List (String × String)}
    (h : Lasting (first ++ rest) later) : Lasting rest later := by
  induction first with
  | nil => exact h
  | cons a first ih => exact ih h.2.2

variable [Account] in
/-- **An environment stays in effect.** If environments are activated in order without a module
system, then at the end each of them is in effect whose assignments last. -/
theorem isLoaded_of_lasting {before after : List Environment} {e : Environment} {loaded : Loaded}
    {m m' : Machine μ}
    (hequals : ∀ a ∈ e.assignments, ∀ name ∈ referredNames a.2, '=' ∉ name.toList)
    (hlasting : Lasting e.assignments (assignmentsOf after))
    (h : load .noModules (before ++ e :: after) m = .ok loaded m') :
    isLoaded .noModules m' e := by
  obtain ⟨rfl, -, hnames⟩ := activateAll_noModules (load_eq_ok_iff.1 h).2
  rw [isLoaded, Bool.and_eq_true, List.all_eq_true, List.all_eq_true]
  refine ⟨fun x hx => rfl, fun a ha => ?_⟩
  -- what was assigned before does not matter, so look from the assignment on
  obtain ⟨first, rest, hsplit⟩ := List.append_of_mem ha
  have hassignments : assignmentsOf (before ++ e :: after) =
      (assignmentsOf before ++ first) ++ a :: (rest ++ assignmentsOf after) := by
    rw [assignmentsOf_append, assignmentsOf_cons, hsplit, List.append_assoc, List.append_assoc,
      List.cons_append]
  obtain ⟨hagain, hrefers, -⟩ := (hsplit ▸ hlasting).of_append
  have hreads : ∀ x ∈ a :: (rest ++ assignmentsOf after), Bytes.ofText x.1 ∉ reads a.2 :=
    fun x hx hread => hrefers x hx (mem_referredNames_of_mem_reads (hequals a ha) hread)
  obtain ⟨hself, hlater⟩ := List.forall_mem_cons.1 hreads
  rw [hassignments] at hnames ⊢
  rw [Machine.env_withEnv, assigned_append]
  exact holds_assigned (hnames a (List.mem_append_right _ List.mem_cons_self)) hagain hself hlater

/-- An environment that refers to the home directory, to a variable assigned before it, and to one
of its own. -/
def compiler : Environment :=
  ⟨"gnu", ["gcc"], [("CACHE", "~/cache"), ("GCC", "$ROOT/gcc"), ("CC", "${GCC}/bin/gcc")]⟩

/-- One that comes before it and of which a variable is assigned again. -/
def site : Environment := ⟨"site", ["site/1"], [("ROOT", "/opt"), ("CC", "cc")]⟩

/-- One that comes after it and refers to the same variables. -/
def flags : Environment := ⟨"flags", [], [("CFLAGS", "-I$ROOT/include"), ("CXX", "$GCC/bin/g++")]⟩

/-- A machine on which nothing names a home directory but the user database. -/
def withoutHome : Machine Unit := ⟨.ofList [(Bytes.ofText "HOME", [])], .empty, [], ()⟩

section

attribute [local instance] Account.listed

theorem isLoaded_of_lasting_compiler :
    ∃ loaded m', load .noModules [site, compiler, flags] withoutHome = .ok loaded m' ∧
      (∀ a ∈ compiler.assignments, ∀ name ∈ referredNames a.2, '=' ∉ name.toList) ∧
      Lasting compiler.assignments (assignmentsOf [flags]) ∧
      isLoaded .noModules m' compiler ∧ isLoaded .noModules m' site = false ∧
      m'.env.text? "CACHE" = some "/home/me/cache" := by
  have hlasting : Lasting compiler.assignments (assignmentsOf [flags]) := by decide +kernel
  have hequals : ∀ a ∈ compiler.assignments, ∀ name ∈ referredNames a.2, '=' ∉ name.toList := by
    decide +kernel
  have hsite : (match load .noModules [site, compiler, flags] withoutHome with
      | .ok _ m' =>
        !isLoaded .noModules m' site && m'.env.text? "CACHE" = some "/home/me/cache"
      | .error _ _ => false) = true := by decide +kernel
  cases h : load .noModules [site, compiler, flags] withoutHome with
  | ok loaded m' =>
    rw [h] at hsite
    have hsplit : load .noModules ([site] ++ compiler :: [flags]) withoutHome = .ok loaded m' := h
    exact ⟨loaded, m', rfl, hequals, hlasting, isLoaded_of_lasting hequals hlasting hsplit,
      by simpa using hsite⟩
  | error e m' =>
    rw [h] at hsite
    cases hsite

end

end Activation

end SiteRuntime
