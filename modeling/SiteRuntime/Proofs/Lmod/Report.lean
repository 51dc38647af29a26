import SiteRuntime.Lmod.Backend

/-!
# Reports of the module command

What the module command reports is searched for two things, and both are told here from the text
without the search. `SaysError` is the word `error` standing somewhere in the text, and
`mentionsError_iff` says that this is what is found. `Declares` is a grammar of texts with conflicts
in them: any text, then `conflict(`, arguments between commas and `)`, and so on, up to a rest in
which no call is closed. Every text has exactly one reading in this grammar (`declares_iff`), the
one that the search gives, from left to right and without overlap.

When a module is shown, both searches read the same text. It is the file that describes the module,
but the word `error` in it counts as a failure. So the conflicts of a module that can be shown are
found just if its description does not have that word (`conflicts_of_shown`).
-/

namespace SiteRuntime.Lmod

/-! ### Errors -/

/-- **The word `error` in a text**, in either case: no word character stands next to it. -/
def SaysError (s : List Char) : Prop :=
  ∃ before word after, s = before ++ (word ++ after) ∧ word.map Char.toLower = "error".toList ∧
    (∀ c ∈ before.getLast?, Text.isWord c = false) ∧ ∀ c ∈ after.head?, Text.isWord c = false

/-- Whether a text begins with the word. -/
theorem beginsWithError_iff {s : List Char} :
    beginsWithError s = true ↔ ∃ word after, s = word ++ after ∧
      word.map Char.toLower = "error".toList ∧ ∀ c ∈ after.head?, Text.isWord c = false := by
  unfold beginsWithError
  rw [Bool.and_eq_true, decide_eq_true_eq, Bool.not_eq_true', ← List.head?_drop]
  have hnext : ((s.drop 5).head?.any Text.isWord) = false ↔
      ∀ c ∈ (s.drop 5).head?, Text.isWord c = false := by
    cases (s.drop 5).head? <;> simp
  rw [hnext]
  constructor
  · rintro ⟨hword, hafter⟩
    exact ⟨s.take 5, s.drop 5, (List.take_append_drop 5 s).symm, hword, hafter⟩
  · rintro ⟨word, after, rfl, hword, hafter⟩
    have hlength : word.length = 5 := by
      have h := congrArg List.length hword
      rwa [List.length_map] at h
    rw [List.take_left' hlength, List.drop_left' hlength]
    exact ⟨hword, hafter⟩

/-- The word is found behind what is no word character; in front of the text stands one or not. -/
theorem mentionsErrorFrom_iff {inWord : Bool} {s : List Char} :
    mentionsErrorFrom inWord s = true ↔ ∃ before rest, s = before ++ rest ∧
      beginsWithError rest = true ∧ (before.getLast?.map Text.isWord).getD inWord = false := by
  induction s generalizing inWord with
  | nil =>
    refine ⟨fun h => (nomatch h), ?_⟩
    rintro ⟨before, rest, hs, hrest, -⟩
    obtain ⟨-, rfl⟩ := List.append_eq_nil_iff.1 hs.symm
    exact absurd hrest (by decide)
  | cons c s ih =>
    rw [mentionsErrorFrom, Bool.or_eq_true, Bool.and_eq_true, Bool.not_eq_true', ih]
    have hbehind : ∀ before : List Char,
        (((c :: before).getLast?).map Text.isWord).getD inWord =
          (before.getLast?.map Text.isWord).getD (Text.isWord c) := by
      intro before
      rw [List.getLast?_cons]
      cases before.getLast? <;> rfl
    constructor
    · rintro (⟨hinWord, hbegins⟩ | ⟨before, rest, rfl, hbegins, hbefore⟩)
      · exact ⟨[], c :: s, rfl, hbegins, hinWord⟩
      · exact ⟨c :: before, rest, rfl, hbegins, (hbehind before).trans hbefore⟩
    · rintro ⟨before, rest, hs, hbegins, hbefore⟩
      cases before with
      | nil => exact .inl ⟨hbefore, by rwa [hs]⟩
      | cons d before =>
        obtain ⟨rfl, rfl⟩ := List.cons.inj hs
        exact .inr ⟨before, rest, rfl, hbegins, (hbehind before).symm.trans hbefore⟩

/-- **Errors are found.** The search finds the word wherever it stands, and nothing else. -/
theorem mentionsError_iff {s : List Char} : mentionsError s = true ↔ SaysError s := by
  have hfirst : ∀ before : List Char, (before.getLast?.map Text.isWord).getD false = false ↔
      ∀ c ∈ before.getLast?, Text.isWord c = false := by
    intro before
    cases before.getLast? <;> simp
  unfold mentionsError SaysError
  rw [mentionsErrorFrom_iff]
  constructor
  · rintro ⟨before, rest, hs, hbegins, hbefore⟩
    obtain ⟨word, after, rfl, hword, hafter⟩ := beginsWithError_iff.1 hbegins
    exact ⟨before, word, after, hs, hword, (hfirst before).1 hbefore, hafter⟩
  · rintro ⟨before, word, after, hs, hword, hbefore, hafter⟩
    exact ⟨before, word ++ after, hs, beginsWithError_iff.2 ⟨word, after, rfl, hword, hafter⟩,
      (hfirst before).2 hbefore⟩

/-! ### Conflicts -/

/-- What the declaration of conflicts begins with. -/
def opening : List Char := ['c', 'o', 'n', 'f', 'l', 'i', 'c', 't', '(']

/-- **The conflicts that a text declares**: the arguments of its calls `conflict(...)`, in order. -/
inductive Declares : List Char → List (List Char) → Prop
  /-- Nothing is declared if no call is closed. -/
  | none {text} : (∀ before after, text = before ++ opening ++ after → ')' ∉ after) →
    Declares text []
  /-- The first call goes up to the first `)` and has its arguments between commas. -/
  | call {before arguments rest more} : ¬ opening <:+: before → arguments ≠ [] →
    (∀ a ∈ arguments, ',' ∉ a ∧ ')' ∉ a) → Declares rest more →
    Declares (before ++ opening ++ ([','].intercalate arguments ++ ')' :: rest)) (arguments ++ more)

/-- The call at the front of a text, if there is one: its arguments, and what comes behind it. -/
def call? (s : List Char) : Option (List Char × List Char) :=
  (Text.dropStart? opening s).bind (Text.splitOnce? ')')

theorem call?_eq_some_iff {s arguments rest : List Char} :
    call? s = some (arguments, rest) ↔
      s = opening ++ (arguments ++ ')' :: rest) ∧ ')' ∉ arguments := by
  unfold call?
  rw [Option.bind_eq_some_iff]
  constructor
  · rintro ⟨behind, hbehind, hsplit⟩
    obtain ⟨rfl, hclosed⟩ := Text.splitOnce?_eq_some_iff.1 hsplit
    exact ⟨Text.dropStart?_eq_some_iff.1 hbehind, hclosed⟩
  · rintro ⟨hs, hclosed⟩
    exact ⟨_, Text.dropStart?_eq_some_iff.2 hs, Text.splitOnce?_eq_some_iff.2 ⟨rfl, hclosed⟩⟩

theorem call?_eq_none_iff {s : List Char} :
    call? s = none ↔ ∀ after, s = opening ++ after → ')' ∉ after := by
  unfold call?
  cases hdrop : Text.dropStart? opening s with
  | none =>
    refine iff_of_true rfl fun after hs => ?_
    rw [Text.dropStart?_eq_some_iff.2 hs] at hdrop
    cases hdrop
  | some behind =>
    obtain rfl := Text.dropStart?_eq_some_iff.1 hdrop
    rw [Option.bind_some, Text.splitOnce?_eq_none_iff]
    constructor
    · intro h after hs
      rwa [← List.append_cancel_left hs]
    · exact fun h => h behind rfl

theorem conflictCalls_cons (fuel : Nat) (c : Char) (rest : List Char) :
    conflictCalls (fuel + 1) (c :: rest) =
      match call? (c :: rest) with
      | some (arguments, rest) => arguments :: conflictCalls fuel rest
      | none => conflictCalls fuel rest := rfl

/-- Two openings do not overlap: one that begins in front of another lies in front of it. -/
theorem eq_nil_of_append_opening {before s t : List Char} (h : ¬ opening <:+: before)
    (heq : before ++ opening ++ s = opening ++ t) : before = [] := by
  -- an opening ends with its only parenthesis, so the first one in the text tells where it ends
  have hfirst : Text.splitOnce? '(' (before ++ opening ++ s) = some ("conflict".toList, t) :=
    Text.splitOnce?_eq_some_iff.2 ⟨heq, by decide⟩
  cases hsplit : Text.splitOnce? '(' before with
  | none =>
    have hmem : '(' ∉ before ++ "conflict".toList := by
      rw [List.mem_append]
      exact not_or.2 ⟨Text.splitOnce?_eq_none_iff.1 hsplit, by decide⟩
    have hsame : before ++ opening ++ s = (before ++ "conflict".toList) ++ '(' :: s := by
      simp [opening]
    rw [Text.splitOnce?_eq_some_iff.2 ⟨hsame, hmem⟩, Option.some.injEq, Prod.mk.injEq] at hfirst
    exact List.append_left_eq_self.1 hfirst.1
  | some parts =>
    obtain ⟨a, b⟩ := parts
    obtain ⟨rfl, ha⟩ := Text.splitOnce?_eq_some_iff.1 hsplit
    have hsame : a ++ '(' :: b ++ opening ++ s = a ++ '(' :: (b ++ opening ++ s) := by simp
    rw [Text.splitOnce?_eq_some_iff.2 ⟨hsame, ha⟩, Option.some.injEq, Prod.mk.injEq] at hfirst
    obtain rfl := hfirst.1
    exact absurd ⟨[], b, rfl⟩ h

/-- A character where no call begins belongs to the text in front of what is declared. -/
theorem Declares.cons {c : Char} {rest : List Char} {arguments : List (List Char)}
    (hfirst : call? (c :: rest) = Option.none) (h : Declares rest arguments) :
    Declares (c :: rest) arguments := by
  have hopen := call?_eq_none_iff.1 hfirst
  cases h with
  | none h =>
    refine .none fun before after hs => ?_
    cases before with
    | nil => exact hopen after hs
    | cons d before =>
      obtain ⟨-, hrest⟩ := List.cons.inj hs
      exact h before after hrest
  | @call before arguments rest more hbefore hne harguments hrest =>
    have hlonger : ¬ opening <:+: c :: before := by
      rw [List.infix_cons_iff]
      rintro (⟨after, hprefix⟩ | hinfix)
      · refine hopen (after ++ opening ++ ([','].intercalate arguments ++ ')' :: rest)) ?_ (by simp)
        rw [← List.cons_append, ← List.cons_append, ← hprefix]
        simp only [List.append_assoc]
      · exact hbefore hinfix
    exact .call hlonger hne harguments hrest

/-- **The search finds what is declared.** -/
theorem declares_conflictCalls {fuel : Nat} {s : List Char} (h : s.length ≤ fuel) :
    Declares s ((conflictCalls fuel s).flatMap (Text.splitOn ',')) := by
  induction fuel generalizing s with
  | zero =>
    obtain rfl := List.length_eq_zero_iff.1 (Nat.le_zero.1 h)
    exact .none fun before after hs => by simp [opening] at hs
  | succ fuel ih =>
    cases s with
    | nil => exact .none fun before after hs => by simp [opening] at hs
    | cons c rest =>
      rw [conflictCalls_cons]
      cases hcall : call? (c :: rest) with
      | none => exact (ih (Nat.le_of_succ_le_succ h)).cons hcall
      | some parts =>
        obtain ⟨arguments, more⟩ := parts
        obtain ⟨hs, hclosed⟩ := call?_eq_some_iff.1 hcall
        have hlength : more.length ≤ fuel := by
          have hall := congrArg List.length hs
          simp only [List.length_cons, List.length_append] at hall h
          omega
        have hparts : ∀ a ∈ Text.splitOn ',' arguments, ',' ∉ a ∧ ')' ∉ a := by
          intro a ha
          refine ⟨Text.notMem_of_mem_splitOn ha, fun hparen => hclosed ?_⟩
          rw [← Text.intercalate_splitOn ',' arguments, Text.mem_intercalate_iff (by decide)]
          exact ⟨a, ha, hparen⟩
        have hnone : ¬ opening <:+: [] := by decide
        have hne := Text.splitOn_ne_nil ',' arguments
        have hdeclares := Declares.call hnone hne hparts (ih hlength)
        rw [Text.intercalate_splitOn] at hdeclares
        rw [hs]
        exact hdeclares

/-- Where no call is closed, none is found. -/
theorem conflictCalls_of_open {fuel : Nat} {s : List Char}
    (h : ∀ before after, s = before ++ opening ++ after → ')' ∉ after) :
    conflictCalls fuel s = [] := by
  induction fuel generalizing s with
  | zero => rfl
  | succ fuel ih =>
    cases s with
    | nil => rfl
    | cons c rest =>
      have hfirst := call?_eq_none_iff.2 fun after hs => h [] after hs
      rw [conflictCalls_cons, hfirst]
      exact ih fun before after hrest => h (c :: before) after (congrArg (c :: ·) hrest)

/-- The first call is found, and the search goes on behind it. -/
theorem exists_conflictCalls_eq {fuel : Nat} {before arguments rest : List Char}
    (hbefore : ¬ opening <:+: before) (hclosed : ')' ∉ arguments)
    (hfuel : (before ++ opening ++ (arguments ++ ')' :: rest)).length ≤ fuel) :
    ∃ fuel', rest.length ≤ fuel' ∧
      conflictCalls fuel (before ++ opening ++ (arguments ++ ')' :: rest)) =
        arguments :: conflictCalls fuel' rest := by
  induction before generalizing fuel with
  | nil =>
    cases fuel with
    | zero => simp at hfuel
    | succ fuel =>
      have hcall : call? (opening ++ (arguments ++ ')' :: rest)) = some (arguments, rest) :=
        call?_eq_some_iff.2 ⟨rfl, hclosed⟩
      have hsearch := conflictCalls_cons fuel 'c' (opening.tail ++ (arguments ++ ')' :: rest))
      have hs : 'c' :: (opening.tail ++ (arguments ++ ')' :: rest)) =
        opening ++ (arguments ++ ')' :: rest) := rfl
      rw [hs, hcall] at hsearch
      refine ⟨fuel, ?_, hsearch⟩
      simp only [List.length_append, List.length_cons] at hfuel
      omega
  | cons c before ih =>
    cases fuel with
    | zero => simp at hfuel
    | succ fuel =>
      have hnone : call? (c :: (before ++ opening ++ (arguments ++ ')' :: rest))) = none := by
        refine call?_eq_none_iff.2 fun after hs => ?_
        exact absurd (eq_nil_of_append_opening hbefore hs) (List.cons_ne_nil c before)
      rw [List.cons_append, List.cons_append, conflictCalls_cons, hnone]
      refine ih (fun h => hbefore (List.infix_cons h)) ?_
      exact Nat.le_of_succ_le_succ hfuel

/-- What is declared is what the search finds. -/
theorem Declares.eq_conflictCalls {s : List Char} {arguments : List (List Char)}
    (h : Declares s arguments) {fuel : Nat} (hfuel : s.length ≤ fuel) :
    (conflictCalls fuel s).flatMap (Text.splitOn ',') = arguments := by
  induction h generalizing fuel with
  | none h => rw [conflictCalls_of_open h, List.flatMap_nil]
  | @call before arguments rest more hbefore hne harguments hrest ih =>
    have hclosed : ')' ∉ [','].intercalate arguments := by
      rw [Text.mem_intercalate_iff (by decide)]
      rintro ⟨a, ha, hparen⟩
      exact (harguments a ha).2 hparen
    obtain ⟨fuel', hfuel', hcalls⟩ := exists_conflictCalls_eq hbefore hclosed hfuel
    rw [hcalls, List.flatMap_cons, ih hfuel',
      Text.splitOn_intercalate hne fun a ha => (harguments a ha).1]

/-- **One reading.** A text declares what the search finds, and nothing else. -/
theorem declares_iff {s : List Char} {arguments : List (List Char)} :
    Declares s arguments ↔ arguments = (conflictCalls s.length s).flatMap (Text.splitOn ',') := by
  constructor
  · exact fun h => (h.eq_conflictCalls (Nat.le_refl _)).symm
  · rintro rfl
    exact declares_conflictCalls (Nat.le_refl _)

/-- The modules that arguments name, without white space and quotes around them. -/
def namesOf (arguments : List (List Char)) : List String :=
  ((arguments.map bareArgument).filter fun a => !a.isEmpty).map String.ofList

/-- The conflicts in a text are the modules that its declarations name. -/
theorem conflictsIn_eq_namesOf {s : List Char} {arguments : List (List Char)}
    (h : Declares s arguments) : conflictsIn s = namesOf arguments := by
  rw [declares_iff.1 h, conflictsIn, namesOf, List.map_flatMap, List.filter_flatMap,
    List.map_flatMap]

/-! ### Calls -/

section Calls

variable {μ : Type} {l : Lmod μ} {arguments : List String} {m : Machine μ} {out : Output}

/-- A command that fails or says so makes the call fail, with its messages. -/
theorem call_of_failed (hprogram : l.program m ("sh" :: arguments) = .ok out)
    (h : out.succeeded = false ∨ SaysError (Bytes.lossy out.stderr).toList) :
    l.call arguments m = .error (.command (l.commandLine arguments)
      (String.ofList (Text.trim (Bytes.lossy out.stderr).toList))) := by
  have hfails : (!out.succeeded || mentionsError (Bytes.lossy out.stderr).toList) = true := by
    rwa [Bool.or_eq_true, Bool.not_eq_true', mentionsError_iff]
  unfold call
  rw [hprogram]
  exact if_pos hfails

/-- Otherwise the call answers with what the command printed. -/
theorem call_of_done (hprogram : l.program m ("sh" :: arguments) = .ok out)
    (hsucceeded : out.succeeded = true) (hmention : ¬ SaysError (Bytes.lossy out.stderr).toList) :
    l.call arguments m = .ok (Bytes.lossy out.stdout, Bytes.lossy out.stderr) := by
  have hfails : ¬(!out.succeeded || mentionsError (Bytes.lossy out.stderr).toList) = true := by
    rw [Bool.or_eq_true, Bool.not_eq_true', mentionsError_iff, not_or, Bool.not_eq_false]
    exact ⟨hsucceeded, hmention⟩
  unfold call
  rw [hprogram]
  exact if_neg hfails

end Calls

/-! ### Modules that are shown -/

section Shown

variable {μ : Type} {l : Lmod μ} {name : String} {m : Machine μ} {stdout : Bytes} {text : String}

instance : DecidablePred SaysError := fun _ => decidable_of_iff _ mentionsError_iff

/-- A module whose description does not have the word `error` can be looked up. -/
theorem conflictsOf_of_shown
    (hshown : l.program m ["sh", "show", name] = .ok ⟨true, stdout, Bytes.ofText text⟩)
    (hmention : ¬ SaysError text.toList) :
    l.conflictsOf name m = .ok (conflictsIn text.toList) m := by
  have hcall := call_of_done hshown rfl (by rwa [Bytes.lossy_ofText])
  rw [Bytes.lossy_ofText] at hcall
  unfold conflictsOf
  rw [hcall]

/-- The word `error` in the description of a module makes the lookup fail, with the description for
a message. -/
theorem conflictsOf_of_saysError
    (hshown : l.program m ["sh", "show", name] = .ok ⟨true, stdout, Bytes.ofText text⟩)
    (hmention : SaysError text.toList) :
    l.conflictsOf name m = .error (.command (l.commandLine ["show", name])
      (String.ofList (Text.trim text.toList))) m := by
  have hcall := call_of_failed hshown (.inr (by rwa [Bytes.lossy_ofText]))
  rw [Bytes.lossy_ofText] at hcall
  unfold conflictsOf
  rw [hcall]

/-- **Conflicts of a module that can be shown.** If the word `error` does not stand in the
description, the conflicts are what the description declares, and a forced load goes on to unload
what they designate. If it does, the lookup fails, and a forced load with it, before anything is
done. -/
theorem conflicts_of_shown
    (hshown : l.program m ["sh", "show", name] = .ok ⟨true, stdout, Bytes.ofText text⟩) :
    (¬ SaysError text.toList →
      ∃ arguments, (∀ others, Declares text.toList others ↔ others = arguments) ∧
        l.backend.conflicts name m = .ok (namesOf arguments) m ∧
        (l.backend.isLoaded m name = false →
          l.backend.loadModule name true m =
            (do
              let unloaded ←
                l.backend.unloadConflicts (namesOf arguments) (l.backend.loaded m) []
              l.backend.load name
              return unloaded) m)) ∧
    (SaysError text.toList →
      ∃ e, e = .command (l.commandLine ["show", name]) (String.ofList (Text.trim text.toList)) ∧
        l.backend.conflicts name m = .error e m ∧
        (l.backend.isLoaded m name = false → l.backend.loadModule name true m = .error e m)) := by
  constructor
  · intro hmention
    have hdeclares := declares_conflictCalls (Nat.le_refl text.toList.length)
    have hlookup : l.backend.conflicts name m = .ok (conflictsIn text.toList) m :=
      conflictsOf_of_shown hshown hmention
    rw [conflictsIn_eq_namesOf hdeclares] at hlookup
    refine ⟨_, fun _ => declares_iff, hlookup, fun hmissing => ?_⟩
    -- the lookup changes nothing, so the walk starts from the modules that were loaded before it
    rw [Backend.loadModule, Stateful.get_bind, hmissing, if_neg Bool.false_ne_true, if_pos rfl,
      Stateful.bind_of_ok hlookup, Stateful.get_bind]
  · intro hmention
    have hlookup := conflictsOf_of_saysError hshown hmention
    refine ⟨_, rfl, hlookup, fun hmissing => ?_⟩
    exact Backend.loadModule_eq_error_iff.2 ⟨hmissing, .inl hlookup⟩

end Shown

/-- A module command that prints a text as the description of every module. -/
def describing (text : String) : Lmod Unit :=
  ⟨Bytes.ofText "/opt/lmod", "8.7.32", fun _ arguments =>
    match arguments with
    | ["sh", "show", _] => .ok ⟨true, [], Bytes.ofText text⟩
    | _ => .ok ⟨true, [], []⟩⟩

/-- A machine where no module is loaded. -/
def bareMachine : Machine Unit := ⟨.empty, .empty, [], ()⟩

/-- A description with two declarations of conflicts. -/
def rivalry : String :=
  "whatis(\"no errors known\")\nconflict(\"PrgEnv-cray\", 'PrgEnv-intel' ,)\n-- conflict( gcc/12)\n"

theorem conflicts_of_shown_rivalry :
    (describing rivalry).program bareMachine ["sh", "show", "PrgEnv-gnu"] =
        .ok ⟨true, [], Bytes.ofText rivalry⟩ ∧
      ¬ SaysError rivalry.toList ∧
      (describing rivalry).backend.conflicts "PrgEnv-gnu" bareMachine =
        .ok ["PrgEnv-cray", "PrgEnv-intel", "gcc/12"] bareMachine := by
  have hshown : (describing rivalry).program bareMachine ["sh", "show", "PrgEnv-gnu"] =
      .ok ⟨true, [], Bytes.ofText rivalry⟩ := rfl
  have hmention : ¬ SaysError rivalry.toList := by decide +kernel
  obtain ⟨arguments, hdeclares, hconflicts, -⟩ := (conflicts_of_shown hshown).1 hmention
  have hnames : namesOf arguments = ["PrgEnv-cray", "PrgEnv-intel", "gcc/12"] := by
    rw [declares_iff.1 ((hdeclares arguments).2 rfl)]
    decide +kernel
  exact ⟨hshown, hmention, by rw [hconflicts, hnames]⟩

/-- A description that speaks of an error. -/
def troubleshooting : String := "help([[In case of an error, reload.]])\nconflict(\"gcc\")\n"

/-- **A description taken for a failure.** The module can be shown, and a conflict is declared for
it, but neither can its conflicts be looked up nor can it be loaded by force. -/
theorem not_conflicts_of_shown :
    (describing troubleshooting).program bareMachine ["sh", "show", "intel"] =
        .ok ⟨true, [], Bytes.ofText troubleshooting⟩ ∧
      Declares troubleshooting.toList ["\"gcc\"".toList] ∧
      ∃ e, (describing troubleshooting).backend.conflicts "intel" bareMachine =
          .error e bareMachine ∧
        (describing troubleshooting).backend.loadModule "intel" true bareMachine =
          .error e bareMachine := by
  have hshown : (describing troubleshooting).program bareMachine ["sh", "show", "intel"] =
      .ok ⟨true, [], Bytes.ofText troubleshooting⟩ := rfl
  have hmention : SaysError troubleshooting.toList := by decide +kernel
  have hlookup := conflictsOf_of_saysError hshown hmention
  have hmissing : (describing troubleshooting).backend.isLoaded bareMachine "intel" = false := by
    decide +kernel
  exact ⟨hshown, declares_iff.2 (by decide +kernel), _, hlookup,
    Backend.loadModule_eq_error_iff.2 ⟨hmissing, .inl hlookup⟩⟩

end SiteRuntime.Lmod
