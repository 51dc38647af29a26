import SiteRuntime.Expansion.Reference
import SiteRuntime.ProcessEnv
import SiteRuntime.Text.Offset

/-!
# Expanding references to variables

Configured paths and values may refer to variables and to the home directory. `expandWith` resolves
what it can in one scan from left to right, and it cuts what it copies out of the text at offsets in
bytes: those of a `$`, of a closing brace, and of the end of a name, one byte further, or two.

An offset that fell inside a character would cut nothing, so `scan?` need not have a result. It
always has one, and it is the text with its references resolved (`scan?_eq`).
-/

namespace SiteRuntime.Expansion

/-- The reference that the text after a `$` begins with, as its name and the number of bytes that it
takes. There is no answer if this would cut a character. -/
def referenceAt? (s : List Char) : Option (Option (List Char × Nat)) :=
  match s with
  | '{' :: body =>
    match Text.find? (· = '}') body with
    | none => some none
    | some stop => do
      let name ← Text.cut? stop body
      -- the braces take one byte each
      return if name.front = [] then none else some (name.front, stop + 2)
  | _ => do
    let length := (Text.find? (!isNameChar ·) s).getD (Text.byteLength s)
    if length = 0 then return none
    let name ← Text.cut? length s
    return some (name.front, length)

/-- A text with its references resolved from left to right. What is copied is cut out by offsets,
and there is no result if this would cut a character. -/
def scan? (lookup : List Char → Option (List Char)) (s : List Char) : Option (List Char) :=
  match Text.find? (· = '$') s with
  | none => some s
  | some dollar => do
    let before ← Text.cut? dollar s
    let tail ← Text.cut? (dollar + 1) s
    match ← referenceAt? tail.back with
    | some (name, consumed) =>
      let inserted ← lookup name <|> Text.slice? dollar (dollar + 1 + consumed) s
      let next ← Text.cut? consumed tail.back
      let more ← scan? lookup next.back
      return before.front ++ inserted ++ more
    | none =>
      let more ← scan? lookup tail.back
      return before.front ++ '$' :: more
termination_by s.length
decreasing_by
  · have := tail.length_back_lt (Nat.succ_ne_zero dollar)
    have := next.length_back_le
    omega
  · exact tail.length_back_lt (Nat.succ_ne_zero dollar)

/-- **References by offsets.** No character is cut, and the reference is the one that the characters
begin with. -/
theorem referenceAt?_eq (s : List Char) :
    referenceAt? s = some ((reference? s).map fun r => (r.name, Text.byteLength r.written)) := by
  unfold referenceAt?
  split
  next body =>
    rw [reference?]
    cases hsplit : Text.splitOnce? '}' body with
    | none =>
      have hbody := Text.splitOnce?_eq_none_iff.1 hsplit
      have hfind : Text.find? (· = '}') body = none :=
        Text.find?_eq_none_iff.2 fun c hc => decide_eq_false (ne_of_mem_of_not_mem hc hbody)
      rw [hfind]
      rfl
    | some parts =>
      obtain ⟨name, rest⟩ := parts
      obtain ⟨rfl, hname⟩ := Text.splitOnce?_eq_some_iff.1 hsplit
      have hfind : Text.find? (· = '}') (name ++ '}' :: rest) = some (Text.byteLength name) :=
        Text.find?_append_cons rest
          (fun c hc => decide_eq_false (ne_of_mem_of_not_mem hc hname)) (decide_eq_true rfl)
      have hcut : Text.cut? (Text.byteLength name) (name ++ '}' :: rest) =
          some ⟨name, '}' :: rest, rfl, rfl⟩ := Text.cut?_of_append rfl rfl
      simp only [hfind, hcut]
      cases name with
      | nil => rfl
      | cons c name =>
        -- the two bytes that are added are the braces
        have hbraces : Text.byteLength ('{' :: c :: name ++ ['}']) =
            Text.byteLength (c :: name) + 2 := by
          rw [Text.byteLength_append, Text.byteLength_cons '{']
          change 1 + Text.byteLength (c :: name) + 1 = _
          omega
        simp only [Option.map_some, hbraces]
        rfl
  next hbrace =>
    have hname : s.takeWhile isNameChar ++ s.dropWhile isNameChar = s :=
      List.takeWhile_append_dropWhile
    rw [reference?.eq_2 s hbrace, Text.getD_find?_not]
    simp only [Text.cut?_of_append hname rfl, Text.byteLength_eq_zero_iff]
    split
    next hnil =>
      rw [hnil]
      rfl
    next hne =>
      obtain ⟨c, name, hcons⟩ := List.exists_cons_of_ne_nil hne
      simp [hcons]

section Scan

variable {lookup : List Char → Option (List Char)} {before tail : List Char}

theorem scan?_of_notMem {s : List Char} (h : '$' ∉ s) : scan? lookup s = some s := by
  have hnone : Text.find? (· = '$') s = none :=
    Text.find?_eq_none_iff.2 fun c hc => decide_eq_false (ne_of_mem_of_not_mem hc h)
  rw [scan?, hnone]

/-- The first `$` of a text is found, and the text can be cut at both sides of it. -/
theorem cuts_of_notMem (h : '$' ∉ before) (tail : List Char) :
    Text.find? (· = '$') (before ++ '$' :: tail) = some (Text.byteLength before) ∧
      Text.cut? (Text.byteLength before) (before ++ '$' :: tail) =
        some ⟨before, '$' :: tail, rfl, rfl⟩ ∧
      Text.cut? (Text.byteLength before + 1) (before ++ '$' :: tail) =
        some ⟨before ++ ['$'], tail, by simp, Text.byteLength_append ..⟩ := by
  refine ⟨?_, Text.cut?_of_append rfl rfl, Text.cut?_of_append _ _⟩
  exact Text.find?_append_cons tail
    (fun c hc => decide_eq_false (ne_of_mem_of_not_mem hc h)) (decide_eq_true rfl)

theorem scan?_of_no_reference (hbefore : '$' ∉ before) (href : reference? tail = none) :
    scan? lookup (before ++ '$' :: tail) = (scan? lookup tail).map (before ++ '$' :: ·) := by
  obtain ⟨hfind, hfront, hbehind⟩ := cuts_of_notMem hbefore tail
  rw [scan?, hfind]
  simp only [hfront, hbehind, referenceAt?_eq, href, Option.bind_eq_bind, Option.bind_some,
    Option.map_none]
  cases scan? lookup tail <;> rfl

theorem scan?_of_reference {r : Reference} (hbefore : '$' ∉ before)
    (href : reference? tail = some r) :
    scan? lookup (before ++ '$' :: tail) = (scan? lookup r.rest).map fun more =>
      before ++ (lookup r.name).getD ('$' :: r.written) ++ more := by
  obtain ⟨hfind, hfront, hbehind⟩ := cuts_of_notMem hbefore tail
  have hcut : Text.cut? (Text.byteLength r.written) tail =
      some ⟨r.written, r.rest, written_append_rest href, rfl⟩ := Text.cut?_of_append _ rfl
  have hslice : Text.slice? (Text.byteLength before)
      (Text.byteLength before + 1 + Text.byteLength r.written) (before ++ '$' :: tail) =
      some ('$' :: r.written) := by
    have hparts : before ++ ('$' :: r.written) ++ r.rest = before ++ '$' :: tail := by
      rw [List.append_assoc, List.cons_append, written_append_rest href]
    refine Text.slice?_of_append hparts rfl ?_
    rw [Text.byteLength_append, Text.byteLength_cons, Nat.add_assoc]
    rfl
  have hinserted : (lookup r.name <|> some ('$' :: r.written)) =
      some ((lookup r.name).getD ('$' :: r.written)) := by
    cases lookup r.name <;> rfl
  rw [scan?, hfind]
  simp only [hfront, hbehind, referenceAt?_eq, href, hslice, hinserted, hcut, Option.bind_eq_bind,
    Option.bind_some, Option.map_some]
  cases scan? lookup r.rest <;> rfl

end Scan

/-- **The scan by offsets.** No character is cut, and the references are resolved. -/
theorem scan?_eq (lookup : List Char → Option (List Char)) (s : List Char) :
    scan? lookup s = some (resolve lookup s) := by
  -- from one `$` to the next, with less of the text behind each
  by_cases hs : '$' ∈ s
  · obtain ⟨before, tail, hcut, hbefore⟩ := List.eq_append_cons_of_mem hs
    rw [hcut, resolve_append_of_notMem hbefore]
    cases href : reference? tail with
    | none =>
      rw [scan?_of_no_reference hbefore href, scan?_eq lookup tail, resolve_of_no_reference href]
      rfl
    | some r =>
      rw [scan?_of_reference hbefore href, scan?_eq lookup r.rest, resolve_of_reference href,
        ← List.append_assoc]
      rfl
  · rw [scan?_of_notMem hs, resolve_of_notMem hs]
termination_by s.length
decreasing_by
  · rw [hcut, List.length_append, List.length_cons]
    omega
  · have := length_of_reference? href
    rw [hcut, List.length_append, List.length_cons]
    omega

/-- A text expanded, with all that is copied cut out by offsets. -/
def expandAt? (home : Option (List Char)) (lookup : List Char → Option (List Char))
    (s : List Char) : Option (List Char) :=
  match homeRest? s, home with
  | some rest, some home => (scan? lookup rest).map (home ++ ·)
  | _, _ => scan? lookup s

theorem expandAt?_eq (home : Option (List Char)) (lookup : List Char → Option (List Char))
    (s : List Char) : expandAt? home lookup s = some (expandChars home lookup s) := by
  unfold expandAt? expandChars
  cases homeRest? s with
  | none => exact scan?_eq lookup s
  | some rest =>
    cases home with
    | none => exact scan?_eq lookup s
    | some home => simp [scan?_eq]

theorem expandAt?_isSome (home : Option (List Char)) (lookup : List Char → Option (List Char))
    (s : List Char) : (expandAt? home lookup s).isSome := by
  rw [expandAt?_eq]
  rfl

/-- A look-up of names, in characters. -/
def charsOf (lookup : String → Option String) (name : List Char) : Option (List Char) :=
  (lookup (String.ofList name)).map String.toList

/-- A text expanded with a home directory and a look-up of names. -/
def expandWith (home : Option String) (lookup : String → Option String) (s : String) : String :=
  String.ofList <| (expandAt? (home.map String.toList) (charsOf lookup) s.toList).get
    (expandAt?_isSome _ _ _)

theorem expandWith_eq (home : Option String) (lookup : String → Option String) (s : String) :
    expandWith home lookup s =
      String.ofList (expandChars (home.map String.toList) (charsOf lookup) s.toList) := by
  simp only [expandWith, expandAt?_eq, Option.get_some]

end SiteRuntime.Expansion

namespace SiteRuntime

/-- The user of the process, as the user database knows it. It is given from outside and nothing
changes it, so it is no part of the machine: it is inferred, and everything that expands texts
carries it along without an argument for it. -/
class Account where
  /-- The home directory. -/
  home? : Option Bytes

/-- A user whom the database does not know. -/
@[reducible] def Account.unlisted : Account := ⟨none⟩

namespace ProcessEnv

variable [Account]

/-- The home directory of the user: the one that the environment names, or else the one of the
account. An empty name is none. -/
def home? (e : ProcessEnv) : Option String :=
  let named := (e.value? (Bytes.ofText "HOME")).filter fun b => !b.isEmpty
  let known := Account.home?.filter fun b => !b.isEmpty
  (named.or known).map Bytes.lossy

/-- A text expanded against the environment. -/
def expand (e : ProcessEnv) (s : String) : String := Expansion.expandWith e.home? e.text? s

end ProcessEnv

end SiteRuntime
