/-!
# Byte strings

Names and values of process variables, file contents and program output are byte strings. Most are
text: `Bytes.ofText` writes a text in UTF-8, `Bytes.text?` reads one back, and `text?_ofText` and
`text?_eq_some_iff` say that exactly the written texts are read. Where bytes have to be shown
whatever they are, `Bytes.lossy` puts U+FFFD for each longest start of a character that is cut
short, and for each byte that starts none.
-/

namespace SiteRuntime

/-- A string of bytes. -/
abbrev Bytes := List UInt8

namespace Bytes

/-- The UTF-8 form of a text. -/
def ofText (s : String) : Bytes := s.toByteArray.data.toList

/-- The text that bytes write in UTF-8, if they write one. -/
def text? (b : Bytes) : Option String := String.fromUTF8? ⟨⟨b⟩⟩

@[simp] theorem text?_ofText (s : String) : text? (ofText s) = some s := by
  change String.fromUTF8? s.toByteArray = some s
  simp only [String.fromUTF8?, s.isValidUTF8, dite_true]
  rfl

theorem text?_eq_some_iff {b : Bytes} {s : String} : text? b = some s ↔ b = ofText s := by
  constructor
  · intro h
    simp only [text?, String.fromUTF8?] at h
    split at h
    next hv =>
      obtain rfl := Option.some.inj h
      rfl
    next => simp at h
  · rintro rfl
    simp

theorem ofText_inj {s t : String} : ofText s = ofText t ↔ s = t := by
  constructor
  · intro h
    have := congrArg text? h
    simpa using this
  · rintro rfl
    rfl

/-! ### Showing any bytes -/

/-- A character under way: how many bytes it still owes, between which bounds the next one has to
lie, and the value so far. -/
structure Pending where
  /-- Bytes still owed, at least one. -/
  owed : Nat
  /-- The least byte that may come next. -/
  least : UInt8
  /-- The greatest byte that may come next. -/
  most : UInt8
  /-- The bits collected so far. -/
  value : Nat

/-- The character that a byte starts, if it starts one that needs more bytes. The bounds on the
second byte rule out overlong forms, surrogates and values above U+10FFFF. -/
def leads? (b : UInt8) : Option Pending :=
  let n := b.toNat
  if 0xC2 ≤ n ∧ n ≤ 0xDF then some ⟨1, 0x80, 0xBF, n - 0xC0⟩
  else if n = 0xE0 then some ⟨2, 0xA0, 0xBF, 0⟩
  else if n = 0xED then some ⟨2, 0x80, 0x9F, 0xD⟩
  else if 0xE1 ≤ n ∧ n ≤ 0xEF then some ⟨2, 0x80, 0xBF, n - 0xE0⟩
  else if n = 0xF0 then some ⟨3, 0x90, 0xBF, 0⟩
  else if 0xF1 ≤ n ∧ n ≤ 0xF3 then some ⟨3, 0x80, 0xBF, n - 0xF0⟩
  else if n = 0xF4 then some ⟨3, 0x80, 0x8F, 4⟩
  else none

/-- The character shown for bytes that write none. -/
def replacement : Char := '\ufffd'

/-- What the first byte after a finished character shows and what it leaves under way. -/
def start (b : UInt8) : List Char × Option Pending :=
  if b < 0x80 then ([Char.ofNat b.toNat], none)
  else
    match leads? b with
    | some p => ([], some p)
    | none => ([replacement], none)

/-- What one more byte shows and what it leaves under way. A byte out of bounds ends the character
under way and is itself taken as a first byte. -/
def step : Option Pending → UInt8 → List Char × Option Pending
  | none, b => start b
  | some p, b =>
    if p.least ≤ b ∧ b ≤ p.most then
      let value := 64 * p.value + (b.toNat - 0x80)
      if p.owed ≤ 1 then ([Char.ofNat value], none)
      else ([], some ⟨p.owed - 1, 0x80, 0xBF, value⟩)
    else (replacement :: (start b).1, (start b).2)

/-- The characters shown for bytes, with a character under way. -/
def showFrom : Option Pending → Bytes → List Char
  | none, [] => []
  | some _, [] => [replacement]
  | p, b :: rest => (step p b).1 ++ showFrom (step p b).2 rest

/-- The text shown for bytes. -/
def lossy (b : Bytes) : String :=
  match text? b with
  | some s => s
  | none => String.ofList (showFrom none b)

@[simp] theorem lossy_ofText (s : String) : lossy (ofText s) = s := by simp [lossy]

end Bytes

end SiteRuntime
