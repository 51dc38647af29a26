import SiteRuntime.Text.Blank

/-!
# References in a text

A text refers to variables as `$NAME` or `${NAME}`, and it may begin with `~` for the home
directory. This module says, in characters, what a reference is and what a text comes to when its
references are resolved. Everything else is copied: a reference that does not resolve, a `$` that
begins none, a `~` that is not alone in its segment. Inserted text is never looked at again, which
is what makes the expansion of a value depend only on the variables it names.

`reference?` cuts one reference off a text and always leaves a shorter one (`length_of_reference?`),
so `resolve` ends.
-/

namespace SiteRuntime.Expansion

/-- The characters of a name without braces. -/
def isNameChar (c : Char) : Bool := c.isAlphanum || c = '_'

/-- A reference cut off the text after a `$`. -/
structure Reference where
  /-- The name referred to. -/
  name : List Char
  /-- The reference as written, without the `$`. -/
  written : List Char
  /-- What follows the reference. -/
  rest : List Char
  deriving DecidableEq, Repr

/-- The reference that the text after a `$` begins with: a name in braces, which is not empty and
goes up to the next closing brace, or the longest run of name characters. -/
def reference? (s : List Char) : Option Reference :=
  match s with
  | '{' :: body =>
    match Text.splitOnce? '}' body with
    | some (c :: name, rest) => some ⟨c :: name, '{' :: c :: name ++ ['}'], rest⟩
    | _ => none
  | _ =>
    match s.takeWhile isNameChar with
    | [] => none
    | c :: name => some ⟨c :: name, c :: name, s.dropWhile isNameChar⟩

/-- **What references look like.** A name in braces ends at the next closing brace, and one without
braces where no name character follows. -/
inductive Reference.Begins : Reference → List Char → Prop
  | braced {name rest} : name ≠ [] → '}' ∉ name →
    Begins ⟨name, '{' :: (name ++ ['}']), rest⟩ ('{' :: (name ++ '}' :: rest))
  | bare {name rest} : name ≠ [] → (∀ c ∈ name, isNameChar c) →
    (∀ c ∈ rest.head?, isNameChar c = false) → Begins ⟨name, name, rest⟩ (name ++ rest)

theorem takeWhile_isNameChar {name rest : List Char} (hname : ∀ c ∈ name, isNameChar c)
    (hrest : ∀ c ∈ rest.head?, isNameChar c = false) :
    (name ++ rest).takeWhile isNameChar = name ∧ (name ++ rest).dropWhile isNameChar = rest := by
  rw [List.takeWhile_append_of_pos hname, List.dropWhile_append_of_pos hname]
  cases rest with
  | nil => simp
  | cons c rest => simp [hrest c rfl]

theorem dropWhile_isNameChar_head? (s : List Char) :
    ∀ c ∈ (s.dropWhile isNameChar).head?, isNameChar c = false := by
  intro c hc
  have hnot := List.head?_dropWhile_not isNameChar s
  rwa [hc] at hnot

/-- The reference is found that a text begins with. -/
theorem Reference.Begins.reference?_eq {s : List Char} {r : Reference} (h : r.Begins s) :
    reference? s = some r := by
  cases h with
  | @braced name rest hne hname =>
    have hsplit : Text.splitOnce? '}' (name ++ '}' :: rest) = some (name, rest) :=
      Text.splitOnce?_eq_some_iff.2 ⟨rfl, hname⟩
    obtain ⟨c, more, rfl⟩ := List.exists_cons_of_ne_nil hne
    rw [reference?, hsplit]
    rfl
  | @bare name rest hne hname hrest =>
    obtain ⟨htake, hdrop⟩ := takeWhile_isNameChar hname hrest
    obtain ⟨c, more, rfl⟩ := List.exists_cons_of_ne_nil hne
    have hbrace : ∀ body, c :: more ++ rest = '{' :: body → False := by
      rintro body heq
      obtain rfl : c = '{' := (List.cons.inj heq).1
      exact absurd (hname '{' List.mem_cons_self) (by decide)
    rw [reference?.eq_2 _ hbrace, htake, hdrop]

/-- What is found is a reference that the text begins with. -/
theorem begins_of_reference? {s : List Char} {r : Reference} (h : reference? s = some r) :
    r.Begins s := by
  unfold reference? at h
  split at h
  next body =>
    split at h
    next c name rest hsplit =>
      obtain ⟨rfl, hname⟩ := Text.splitOnce?_eq_some_iff.1 hsplit
      obtain rfl := Option.some.inj h
      exact .braced (List.cons_ne_nil c name) hname
    next => cases h
  next =>
    split at h
    next => cases h
    next c name hname =>
      obtain rfl := Option.some.inj h
      have hrun : ∀ x ∈ s.takeWhile isNameChar, isNameChar x :=
        List.all_eq_true.1 List.all_takeWhile
      have hbegins := Reference.Begins.bare (hname ▸ List.cons_ne_nil c name) hrun
        (dropWhile_isNameChar_head? s)
      rwa [List.takeWhile_append_dropWhile, hname] at hbegins

theorem reference?_eq_some_iff {s : List Char} {r : Reference} :
    reference? s = some r ↔ r.Begins s := ⟨begins_of_reference?, Reference.Begins.reference?_eq⟩

/-- A reference and its rest are the text they were cut from. -/
theorem written_append_rest {s : List Char} {r : Reference} (h : reference? s = some r) :
    r.written ++ r.rest = s := by
  cases begins_of_reference? h with
  | braced => simp
  | bare => rfl

theorem length_of_reference? {s : List Char} {r : Reference} (h : reference? s = some r) :
    r.rest.length < s.length := by
  have hwritten : 0 < r.written.length := by
    cases begins_of_reference? h with
    | braced => exact Nat.succ_pos _
    | bare hne => exact List.length_pos_iff.2 hne
  rw [← written_append_rest h, List.length_append]
  omega

/-- A text with its references resolved from left to right. -/
def resolve (lookup : List Char → Option (List Char)) : List Char → List Char
  | [] => []
  | c :: rest =>
    if c = '$' then
      match h : reference? rest with
      | some r =>
        have : r.rest.length < rest.length + 1 := Nat.lt_succ_of_lt (length_of_reference? h)
        ((lookup r.name).getD ('$' :: r.written)) ++ resolve lookup r.rest
      | none => '$' :: resolve lookup rest
    else c :: resolve lookup rest
termination_by s => s.length

@[simp] theorem resolve_nil (lookup : List Char → Option (List Char)) :
    resolve lookup [] = [] := by rw [resolve]

theorem resolve_cons_of_ne {lookup : List Char → Option (List Char)} {c : Char} (h : c ≠ '$')
    (rest : List Char) : resolve lookup (c :: rest) = c :: resolve lookup rest := by
  rw [resolve, if_neg h]

/-- A reference is replaced by what it resolves to, or else by itself. -/
theorem resolve_of_reference {lookup : List Char → Option (List Char)} {rest : List Char}
    {r : Reference} (h : reference? rest = some r) :
    resolve lookup ('$' :: rest) =
      (lookup r.name).getD ('$' :: r.written) ++ resolve lookup r.rest := by
  rw [resolve, if_pos rfl]
  split
  next r' h' => rw [Option.some.inj (h.symm.trans h')]
  next h' => cases h.symm.trans h'

theorem resolve_of_no_reference {lookup : List Char → Option (List Char)} {rest : List Char}
    (h : reference? rest = none) :
    resolve lookup ('$' :: rest) = '$' :: resolve lookup rest := by
  rw [resolve, if_pos rfl]
  split
  next r' h' => cases h.symm.trans h'
  next => rfl

/-- Up to a `$` there is nothing to resolve. -/
theorem resolve_append_of_notMem {lookup : List Char → Option (List Char)} {before : List Char}
    (h : '$' ∉ before) (rest : List Char) :
    resolve lookup (before ++ rest) = before ++ resolve lookup rest := by
  induction before with
  | nil => rfl
  | cons c before ih =>
    obtain ⟨hc, hbefore⟩ := not_or.1 (mt List.mem_cons.2 h)
    rw [List.cons_append, resolve_cons_of_ne (Ne.symm hc), ih hbefore, List.cons_append]

theorem resolve_of_notMem {lookup : List Char → Option (List Char)} {s : List Char}
    (h : '$' ∉ s) : resolve lookup s = s := by
  have hall : resolve lookup (s ++ []) = s ++ resolve lookup [] := resolve_append_of_notMem h []
  rwa [resolve_nil, List.append_nil] at hall

/-- Whether a text begins with a `~` of its own: alone, or before a separator. -/
def homeRest? : List Char → Option (List Char)
  | '~' :: [] => some []
  | '~' :: '/' :: rest => some ('/' :: rest)
  | _ => none

/-- A text with a leading `~` replaced by the home directory, if there is one, and with its
references resolved. -/
def expandChars (home : Option (List Char)) (lookup : List Char → Option (List Char))
    (s : List Char) : List Char :=
  match homeRest? s, home with
  | some rest, some home => home ++ resolve lookup rest
  | _, _ => resolve lookup s

end SiteRuntime.Expansion
