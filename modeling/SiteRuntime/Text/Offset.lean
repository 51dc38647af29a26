/-!
# Offsets in a text

Where a text is cut at an offset, the offset counts the bytes of its UTF-8 form and not its
characters. An offset inside a character cuts nothing, and neither does one behind the end. So
`cut?` need not have a result, and where it has one, the `Cut` carries the proof that its parts make
up the text and that the front has as many bytes as the offset says. The offsets at which a text can
be cut are its positions as a string (`cut?_isSome_iff_isValid`).
-/

namespace SiteRuntime.Text

/-- The number of bytes of a text in UTF-8. -/
def byteLength : List Char → Nat
  | [] => 0
  | c :: rest => c.utf8Size + byteLength rest

@[simp] theorem byteLength_nil : byteLength [] = 0 := rfl

@[simp] theorem byteLength_cons (c : Char) (s : List Char) :
    byteLength (c :: s) = c.utf8Size + byteLength s := rfl

@[simp] theorem byteLength_append (s t : List Char) :
    byteLength (s ++ t) = byteLength s + byteLength t := by
  induction s with
  | nil => simp
  | cons c s ih => rw [List.cons_append, byteLength_cons, ih, byteLength_cons, Nat.add_assoc]

/-- These are the bytes of the text as a string. -/
theorem utf8ByteSize_ofList (s : List Char) : (String.ofList s).utf8ByteSize = byteLength s := by
  induction s with
  | nil => rfl
  | cons c s ih => simp [String.ofList_cons, ih]

theorem byteLength_eq_zero_iff {s : List Char} : byteLength s = 0 ↔ s = [] := by
  cases s with
  | nil => simp
  | cons c s =>
    have := c.utf8Size_pos
    simp
    omega

/-! ### Looking for a character -/

/-- The offset of the first character that passes a test. -/
def find? (p : Char → Bool) : List Char → Option Nat
  | [] => none
  | c :: rest => if p c then some 0 else (find? p rest).map (c.utf8Size + ·)

theorem find?_eq_none_iff {p : Char → Bool} {s : List Char} :
    find? p s = none ↔ ∀ c ∈ s, p c = false := by
  induction s with
  | nil => simp [find?]
  | cons c s ih => cases h : p c <;> simp [find?, h, ih]

/-- A text up to the first character that passes a test, if it has one. -/
theorem find?_append_cons {p : Char → Bool} {front : List Char} {c : Char} (back : List Char)
    (hfront : ∀ x ∈ front, p x = false) (hc : p c) :
    find? p (front ++ c :: back) = some (byteLength front) := by
  induction front with
  | nil => simp [find?, hc]
  | cons x front ih =>
    obtain ⟨hx, hfront⟩ := List.forall_mem_cons.1 hfront
    simp [find?, hx, ih hfront]

/-- The first character that fails a test, or else the end, lies behind those that pass it. -/
theorem getD_find?_not (p : Char → Bool) (s : List Char) :
    (find? (!p ·) s).getD (byteLength s) = byteLength (s.takeWhile p) := by
  induction s with
  | nil => rfl
  | cons c s ih =>
    cases hc : p c with
    | false => simp [find?, hc]
    | true =>
      rw [find?, List.takeWhile_cons_of_pos hc, byteLength_cons, byteLength_cons, ← ih]
      cases find? (!p ·) s <;> simp [hc]

/-! ### Cutting -/

/-- A text cut in two at an offset. -/
structure Cut (offset : Nat) (s : List Char) where
  /-- The text before the offset. -/
  front : List Char
  /-- The text behind it. -/
  back : List Char
  append_eq : front ++ back = s
  byteLength_eq : byteLength front = offset

/-- Behind an offset that is not 0 there is less of the text. -/
theorem Cut.length_back_lt {offset : Nat} {s : List Char} (cut : Cut offset s) (h : offset ≠ 0) :
    cut.back.length < s.length := by
  have hfront : cut.front ≠ [] := fun hnil =>
    h (cut.byteLength_eq.symm.trans (byteLength_eq_zero_iff.2 hnil))
  have := List.length_pos_iff.2 hfront
  have := congrArg List.length cut.append_eq
  rw [List.length_append] at this
  omega

theorem Cut.length_back_le {offset : Nat} {s : List Char} (cut : Cut offset s) :
    cut.back.length ≤ s.length := by
  have := congrArg List.length cut.append_eq
  rw [List.length_append] at this
  omega

/-- A text cut at an offset, unless that lies inside a character or behind the end. -/
def cut? : (offset : Nat) → (s : List Char) → Option (Cut offset s)
  | 0, s => some ⟨[], s, rfl, rfl⟩
  | _ + 1, [] => none
  | n + 1, c :: rest =>
    if h : c.utf8Size ≤ n + 1 then
      (cut? (n + 1 - c.utf8Size) rest).map fun cut =>
        ⟨c :: cut.front, cut.back, congrArg (c :: ·) cut.append_eq, by
          rw [byteLength_cons, cut.byteLength_eq]
          omega⟩
    else none

/-- A text of two parts can be cut between them. -/
theorem cut?_of_append {front back s : List Char} {offset : Nat} (hs : front ++ back = s)
    (hn : byteLength front = offset) : cut? offset s = some ⟨front, back, hs, hn⟩ := by
  induction front generalizing s offset with
  | nil =>
    subst hs hn
    simp [cut?]
  | cons c front ih =>
    -- a character takes at least one byte
    obtain ⟨n, rfl⟩ : ∃ n, offset = n + 1 := by
      have := c.utf8Size_pos
      rw [byteLength_cons] at hn
      exact ⟨offset - 1, by omega⟩
    subst hs
    have hfits : c.utf8Size ≤ n + 1 := by
      rw [← hn, byteLength_cons]
      omega
    have hrest : byteLength front = n + 1 - c.utf8Size := by
      rw [← hn, byteLength_cons]
      omega
    have hcut : cut? (n + 1 - c.utf8Size) (front ++ back) = some ⟨front, back, rfl, hrest⟩ :=
      ih rfl hrest
    change cut? (n + 1) (c :: (front ++ back)) = _
    rw [cut?, dif_pos hfits, hcut]
    rfl

/-- **Where a text can be cut**: between two characters, and at its ends. -/
theorem cut?_isSome_iff {offset : Nat} {s : List Char} :
    (cut? offset s).isSome ↔ ∃ front back, front ++ back = s ∧ byteLength front = offset := by
  constructor
  · intro h
    obtain ⟨cut, -⟩ := Option.isSome_iff_exists.1 h
    exact ⟨cut.front, cut.back, cut.append_eq, cut.byteLength_eq⟩
  · rintro ⟨front, back, hs, hn⟩
    rw [cut?_of_append hs hn]
    rfl

/-- These are the positions of the text as a string. -/
theorem cut?_isSome_iff_isValid {offset : Nat} {s : List Char} :
    (cut? offset s).isSome ↔ String.Pos.Raw.IsValid (.ofList s) ⟨offset⟩ := by
  rw [cut?_isSome_iff, String.Pos.Raw.isValid_iff_exists_append]
  constructor
  · rintro ⟨front, back, rfl, rfl⟩
    refine ⟨.ofList front, .ofList back, String.ofList_append, ?_⟩
    rw [← utf8ByteSize_ofList]
    rfl
  · rintro ⟨front, back, hs, hn⟩
    refine ⟨front.toList, back.toList, ?_, ?_⟩
    · rw [← String.toList_append, ← hs, String.toList_ofList]
    · rw [← utf8ByteSize_ofList, String.ofList_toList]
      exact (congrArg String.Pos.Raw.byteIdx hn).symm

/-- The text between two offsets. -/
def slice? (start stop : Nat) (s : List Char) : Option (List Char) := do
  let whole ← cut? stop s
  let part ← cut? start whole.front
  return part.back

theorem slice?_of_append {front part back s : List Char} {start stop : Nat}
    (hs : front ++ part ++ back = s) (hstart : byteLength front = start)
    (hstop : byteLength (front ++ part) = stop) : slice? start stop s = some part := by
  have hpart : cut? start (front ++ part) = some ⟨front, part, rfl, hstart⟩ :=
    cut?_of_append rfl hstart
  rw [slice?, cut?_of_append hs hstop, Option.bind_eq_bind, Option.bind_some, hpart]
  rfl

/-- **What lies between two offsets**: the text can be cut at both, and it is the part in
between. -/
theorem slice?_eq_some_iff {start stop : Nat} {s part : List Char} :
    slice? start stop s = some part ↔ ∃ front back, front ++ part ++ back = s ∧
      byteLength front = start ∧ byteLength (front ++ part) = stop := by
  constructor
  · intro h
    obtain ⟨whole, -, h⟩ := Option.bind_eq_some_iff.1 h
    obtain ⟨cut, -, h⟩ := Option.bind_eq_some_iff.1 h
    obtain rfl := Option.some.inj h
    refine ⟨cut.front, whole.back, ?_, cut.byteLength_eq, ?_⟩
    · rw [cut.append_eq, whole.append_eq]
    · rw [cut.append_eq, whole.byteLength_eq]
  · rintro ⟨front, back, hs, hstart, hstop⟩
    exact slice?_of_append hs hstart hstop

end SiteRuntime.Text
