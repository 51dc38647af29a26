import SiteRuntime.Expansion

/-!
# The grammar of expanded texts

A text that is expanded is a sequence of tokens: names in braces, names without, dollars that begin
neither, and other characters. `Leads` says which token a text begins with, and every text is cut
into tokens in exactly one way (`existsUnique_isCut`).

The expansion goes by these tokens. Each stands for itself, except that a name stands for its value
if it has one (`Token.value`), and what stands for a token is put in its place and not read again. A
`~` of its own before them stands for the home directory (`Opens`). The scan looks for dollars,
braces and the ends of names by offsets in bytes and knows nothing of tokens: for every text its
offsets lie between characters, and what it puts together is what the tokens stand for
(`expandWith_grammar`).
-/

namespace SiteRuntime.Expansion

/-! ### Tokens -/

/-- A token of a text. -/
inductive Token where
  /-- A name in braces. -/
  | braced (name : List Char)
  /-- A name without braces. -/
  | bare (name : List Char)
  /-- A dollar that begins no reference. -/
  | dollar
  /-- Any other character. -/
  | other (c : Char)
  deriving DecidableEq

namespace Token

/-- A token as written. -/
def written : Token → List Char
  | braced name => '$' :: '{' :: (name ++ ['}'])
  | bare name => '$' :: name
  | dollar => ['$']
  | other c => [c]

/-- The name that a token refers to. -/
def name? : Token → Option (List Char)
  | braced name | bare name => some name
  | dollar | other _ => none

/-- What a token stands for: the value of the name that it refers to, or else itself. -/
def value (lookup : List Char → Option (List Char)) (t : Token) : List Char :=
  (t.name?.bind lookup).getD t.written

end Token

/-- **The first token** of a text and what follows it. -/
inductive Leads : Token → List Char → List Char → Prop
  /-- The name is not empty and goes up to the next closing brace. -/
  | braced {name rest} : name ≠ [] → '}' ∉ name →
    Leads (.braced name) ('$' :: '{' :: (name ++ '}' :: rest)) rest
  /-- The name is not empty and goes up to where no name character follows. -/
  | bare {name rest} : name ≠ [] → (∀ c ∈ name, isNameChar c) →
    (∀ c ∈ rest.head?, isNameChar c = false) → Leads (.bare name) ('$' :: (name ++ rest)) rest
  /-- Neither a name in braces follows nor a name character. -/
  | dollar {rest} :
    (∀ name behind, name ≠ [] → '}' ∉ name → rest ≠ '{' :: (name ++ '}' :: behind)) →
    (∀ c ∈ rest.head?, isNameChar c = false) → Leads .dollar ('$' :: rest) rest
  | other {c rest} : c ≠ '$' → Leads (.other c) (c :: rest) rest

/-- **A text cut into tokens** from left to right. -/
inductive IsCut : List Char → List Token → Prop
  | nil : IsCut [] []
  | cons {t s rest ts} : Leads t s rest → IsCut rest ts → IsCut s (t :: ts)

/-! ### The first token -/

/-- No reference begins where neither a name in braces begins nor a name. -/
theorem reference?_eq_none_iff {s : List Char} :
    reference? s = none ↔
      (∀ name behind, name ≠ [] → '}' ∉ name → s ≠ '{' :: (name ++ '}' :: behind)) ∧
        ∀ c ∈ s.head?, isNameChar c = false := by
  rw [Option.eq_none_iff_forall_not_mem]
  simp only [Option.mem_def, reference?_eq_some_iff]
  constructor
  · intro h
    refine ⟨fun name behind hne hname hs => ?_, fun c hc => ?_⟩
    · subst hs
      exact h _ (.braced hne hname)
    · -- a name character begins a run of them, and that is a name
      rw [Bool.eq_false_iff]
      intro hchar
      obtain ⟨rest, rfl⟩ := List.head?_eq_some_iff.1 hc
      have hname : ∀ x ∈ c :: rest.takeWhile isNameChar, isNameChar x :=
        List.forall_mem_cons.2 ⟨hchar, List.all_eq_true.1 List.all_takeWhile⟩
      have hbegins :=
        Reference.Begins.bare (List.cons_ne_nil _ _) hname (dropWhile_isNameChar_head? rest)
      rw [List.cons_append, List.takeWhile_append_dropWhile] at hbegins
      exact h _ hbegins
  · rintro ⟨hbraced, hbare⟩ r hbegins
    cases hbegins with
    | braced hne hname => exact hbraced _ _ hne hname rfl
    | bare hne hname hrest =>
      obtain ⟨c, more, rfl⟩ := List.exists_cons_of_ne_nil hne
      exact Bool.false_ne_true ((hbare c rfl).symm.trans (hname c List.mem_cons_self))

/-- The first token of a text, if it is not empty, and what follows it. -/
def token? : List Char → Option (Token × List Char)
  | [] => none
  | c :: rest =>
    if c = '$' then
      match reference? rest with
      | some r => some (if r.written = r.name then .bare r.name else .braced r.name, r.rest)
      | none => some (.dollar, rest)
    else some (.other c, rest)

theorem Leads.token?_eq {t : Token} {s rest : List Char} (h : Leads t s rest) :
    token? s = some (t, rest) := by
  cases h with
  | @braced name rest hne hname =>
    -- it is as written that a name in braces differs from one without
    have hlonger : '{' :: (name ++ ['}']) ≠ name := fun heq => by
      have := congrArg List.length heq
      simp only [List.length_cons, List.length_append, List.length_nil] at this
      omega
    rw [token?, if_pos rfl, (Reference.Begins.braced hne hname).reference?_eq]
    simp only [if_neg hlonger]
  | bare hne hname hrest =>
    rw [token?, if_pos rfl, (Reference.Begins.bare hne hname hrest).reference?_eq]
    simp only [if_true]
  | dollar hbraced hbare =>
    rw [token?, if_pos rfl, reference?_eq_none_iff.2 ⟨hbraced, hbare⟩]
  | other hc => rw [token?, if_neg hc]

theorem exists_leads (c : Char) (s : List Char) : ∃ t rest, Leads t (c :: s) rest := by
  by_cases hc : c = '$'
  · subst hc
    cases href : reference? s with
    | none =>
      obtain ⟨hbraced, hbare⟩ := reference?_eq_none_iff.1 href
      exact ⟨.dollar, s, .dollar hbraced hbare⟩
    | some r =>
      cases begins_of_reference? href with
      | braced hne hname => exact ⟨_, _, .braced hne hname⟩
      | bare hne hname hrest => exact ⟨_, _, .bare hne hname hrest⟩
  · exact ⟨.other c, s, .other hc⟩

section Leads

variable {t : Token} {s rest : List Char}

theorem Leads.written_append (h : Leads t s rest) : t.written ++ rest = s := by
  cases h <;> simp [Token.written]

theorem Leads.length_lt (h : Leads t s rest) : rest.length < s.length := by
  have hwritten : 0 < t.written.length := by
    cases h <;> exact Nat.succ_pos _
  rw [← h.written_append, List.length_append]
  omega

/-- **What stands for the first token** comes first, and the rest is resolved. -/
theorem Leads.resolve_eq (h : Leads t s rest) (lookup : List Char → Option (List Char)) :
    resolve lookup s = t.value lookup ++ resolve lookup rest := by
  cases h with
  | braced hne hname =>
    rw [resolve_of_reference (Reference.Begins.braced hne hname).reference?_eq]
    rfl
  | bare hne hname hrest =>
    rw [resolve_of_reference (Reference.Begins.bare hne hname hrest).reference?_eq]
    rfl
  | dollar hbraced hbare =>
    rw [resolve_of_no_reference (reference?_eq_none_iff.2 ⟨hbraced, hbare⟩)]
    rfl
  | other hc =>
    rw [resolve_cons_of_ne hc]
    rfl

end Leads

/-! ### All tokens -/

/-- **Every text has its tokens**, and no others. -/
theorem existsUnique_isCut (s : List Char) : ∃ ts, IsCut s ts ∧ ∀ ts', IsCut s ts' → ts' = ts := by
  -- by the length of the text: what follows its first token is shorter
  match s with
  | [] =>
    refine ⟨[], .nil, fun ts' h => ?_⟩
    cases h with
    | nil => rfl
    | cons hfirst => cases hfirst
  | c :: s =>
    obtain ⟨t, rest, hfirst⟩ := exists_leads c s
    obtain ⟨ts, hcut, hunique⟩ := existsUnique_isCut rest
    refine ⟨t :: ts, .cons hfirst hcut, fun ts' h => ?_⟩
    cases h with
    | cons hfirst' hcut' =>
      cases hfirst.token?_eq.symm.trans hfirst'.token?_eq
      rw [hunique _ hcut']
termination_by s.length
decreasing_by exact hfirst.length_lt

theorem IsCut.flatMap_written {s : List Char} {ts : List Token} (h : IsCut s ts) :
    ts.flatMap Token.written = s := by
  induction h with
  | nil => rfl
  | cons hfirst _ ih => rw [List.flatMap_cons, ih, hfirst.written_append]

theorem IsCut.resolve_eq {s : List Char} {ts : List Token} (h : IsCut s ts)
    (lookup : List Char → Option (List Char)) :
    resolve lookup s = ts.flatMap (Token.value lookup) := by
  induction h with
  | nil => exact resolve_nil lookup
  | cons hfirst _ ih => rw [List.flatMap_cons, hfirst.resolve_eq, ih]

/-! ### The home directory -/

/-- **How an expansion opens**: what is put before the rest of a text, which is cut into tokens. -/
inductive Opens (home : Option (List Char)) : List Char → List Char → List Char → Prop
  /-- A `~` that is the whole text, or is followed by a separator, stands for the home directory. -/
  | tilde {dir rest} : home = some dir → (rest = [] ∨ rest.head? = some '/') →
    Opens home ('~' :: rest) dir rest
  /-- Without a home directory, or without such a `~`, nothing is put before the text. -/
  | nothing {s} : (∀ rest, s = '~' :: rest → home ≠ none → rest ≠ [] ∧ rest.head? ≠ some '/') →
    Opens home s [] s

theorem homeRest?_eq_some_iff {s rest : List Char} :
    homeRest? s = some rest ↔ s = '~' :: rest ∧ (rest = [] ∨ rest.head? = some '/') := by
  constructor
  · intro h
    unfold homeRest? at h
    split at h
    next =>
      obtain rfl := Option.some.inj h
      exact ⟨rfl, .inl rfl⟩
    next =>
      obtain rfl := Option.some.inj h
      exact ⟨rfl, .inr rfl⟩
    next => cases h
  · rintro ⟨rfl, rfl | hhead⟩
    · rfl
    · obtain ⟨behind, rfl⟩ := List.head?_eq_some_iff.1 hhead
      rfl

/-- An expansion is what it opens with and then the rest, with its references resolved. -/
theorem Opens.expandChars_eq {home : Option (List Char)} {s lead rest : List Char}
    (h : Opens home s lead rest) (lookup : List Char → Option (List Char)) :
    expandChars home lookup s = lead ++ resolve lookup rest := by
  unfold expandChars
  cases h with
  | tilde hhome hrest =>
    rw [homeRest?_eq_some_iff.2 ⟨rfl, hrest⟩, hhome]
  | nothing hnone =>
    cases hs : homeRest? s with
    | none => rfl
    | some rest =>
      obtain ⟨rfl, hrest⟩ := homeRest?_eq_some_iff.1 hs
      cases home with
      | none => rfl
      | some h =>
        obtain ⟨hne, hhead⟩ := hnone rest rfl (Option.some_ne_none h)
        exact absurd hrest (not_or.2 ⟨hne, hhead⟩)

/-- Without a home directory nothing is put before a text. -/
theorem Opens.eq_of_none {s lead rest : List Char} (h : Opens none s lead rest) :
    lead = [] ∧ rest = s := by
  cases h with
  | tilde hhome => cases hhome
  | nothing => exact ⟨rfl, rfl⟩

theorem exists_opens (home : Option (List Char)) (s : List Char) :
    ∃ lead rest, Opens home s lead rest := by
  by_cases h : ∃ rest, homeRest? s = some rest ∧ home ≠ none
  · obtain ⟨rest, hs, hhome⟩ := h
    obtain ⟨rfl, hrest⟩ := homeRest?_eq_some_iff.1 hs
    obtain ⟨dir, rfl⟩ := Option.ne_none_iff_exists'.1 hhome
    exact ⟨dir, rest, .tilde rfl hrest⟩
  · refine ⟨[], s, .nothing fun rest hs hhome => not_or.1 fun hrest => h ?_⟩
    exact ⟨rest, homeRest?_eq_some_iff.2 ⟨hs, hrest⟩, hhome⟩

/-! ### Expanded texts -/

/-- Tokens of which no name has a value stand for themselves. -/
theorem flatMap_value_of_none {lookup : List Char → Option (List Char)} {ts : List Token}
    (h : ∀ t ∈ ts, ∀ name ∈ t.name?, lookup name = none) :
    ts.flatMap (Token.value lookup) = ts.flatMap Token.written := by
  rw [List.flatMap_def, List.flatMap_def]
  refine congrArg List.flatten (List.map_congr_left fun t ht => ?_)
  have hnone : t.name?.bind lookup = none := Option.bind_eq_none_iff.2 (h t ht)
  rw [Token.value, hnone, Option.getD_none]

/-- **Texts are expanded by their tokens.** For every text, home directory and look-up of names the
scan by offsets has a result, so all its offsets lie between characters. The result is what the text
opens with, followed by what stands for its tokens; and these are the only tokens of the text. A
text is left as it is if there is no home directory and none of its names has a value. -/
theorem expandWith_grammar (home : Option String) (lookup : String → Option String) (s : String) :
    ∃ lead rest ts, Opens (home.map String.toList) s.toList lead rest ∧
      IsCut rest ts ∧ (∀ ts', IsCut rest ts' → ts' = ts) ∧ ts.flatMap Token.written = rest ∧
      expandAt? (home.map String.toList) (charsOf lookup) s.toList =
        some (lead ++ ts.flatMap (Token.value (charsOf lookup))) ∧
      (expandWith home lookup s).toList = lead ++ ts.flatMap (Token.value (charsOf lookup)) ∧
      (home = none → (∀ t ∈ ts, ∀ name ∈ t.name?, lookup (String.ofList name) = none) →
        expandWith home lookup s = s) := by
  obtain ⟨lead, rest, hopens⟩ := exists_opens (home.map String.toList) s.toList
  obtain ⟨ts, hcut, hunique⟩ := existsUnique_isCut rest
  have hchars : expandChars (home.map String.toList) (charsOf lookup) s.toList =
      lead ++ ts.flatMap (Token.value (charsOf lookup)) := by
    rw [hopens.expandChars_eq, hcut.resolve_eq]
  have hresult : (expandWith home lookup s).toList =
      lead ++ ts.flatMap (Token.value (charsOf lookup)) := by
    rw [expandWith_eq, String.toList_ofList, hchars]
  refine ⟨lead, rest, ts, hopens, hcut, hunique, hcut.flatMap_written, ?_, hresult, ?_⟩
  · rw [expandAt?_eq, hchars]
  · rintro rfl hnone
    have hvalues : ts.flatMap (Token.value (charsOf lookup)) = ts.flatMap Token.written :=
      flatMap_value_of_none fun t ht name hname => by rw [charsOf, hnone t ht name hname]; rfl
    rw [← String.toList_inj, hresult, hvalues, hcut.flatMap_written]
    obtain ⟨rfl, rfl⟩ := hopens.eq_of_none
    exact List.nil_append _

/-- A value is not read again, and characters of several bytes may stand beside a reference. -/
example :
    expandWith (some "/home/é") (fun name => if name = "WÜST" then some "$B" else none)
      "~/é$\x7bWÜST\x7d$B€" = "/home/é/é$B$B€" := by decide +kernel

end SiteRuntime.Expansion
