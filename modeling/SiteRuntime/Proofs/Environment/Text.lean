import Mathlib.Data.List.TakeWhile
import SiteRuntime.ProcessEnv

/-!
# Variables that are text

Programs name variables in text, the platform keeps them in bytes. What passes between the two is
that UTF-8 leaves ASCII alone: an ASCII byte stands in a written text exactly where the character
does (`mem_ofText_iff`), so a text is a good name or value exactly if its bytes are
(`isVariableName_iff`, `isVariableValue_iff`).

A look-up reads one variable and no other (`read?_congr`). That is the variable called by the name
up to its first `=`, for the platform finds in `NAME=VALUE` also what is asked for as `NAME=VAL`.
-/

namespace SiteRuntime

/-! ### ASCII in UTF-8 -/

namespace Bytes

theorem ofText_eq_flatMap (s : String) : ofText s = s.toList.flatMap String.utf8EncodeChar := by
  rw [ofText, ← String.utf8Encode_toList, List.utf8Encode]
  simp

theorem utf8EncodeChar_of_ascii {c : Char} (hc : c.toNat < 128) :
    String.utf8EncodeChar c = [UInt8.ofNat c.toNat] :=
  if_pos (Nat.le_of_lt_succ hc)

/-- All bytes of a character that is not ASCII have their highest bit set. -/
theorem le_of_mem_utf8EncodeChar {c : Char} (hc : 128 ≤ c.toNat) {b : UInt8}
    (hb : b ∈ String.utf8EncodeChar c) : 128 ≤ b.toNat := by
  have hv : ¬ c.val.toNat ≤ 0x7f := Nat.not_le.2 hc
  have high : ∀ n, n < 128 → 128 ≤ (UInt8.ofNat (n + 128)).toNat := fun n hn => by
    rw [UInt8.toNat_ofNat']
    omega
  rw [String.utf8EncodeChar] at hb
  simp only [if_neg hv] at hb
  -- one case for each length of the encoding, two to four bytes
  split at hb
  · simp only [List.mem_cons, List.not_mem_nil, or_false] at hb
    rcases hb with rfl | rfl
    · exact high (c.val.toNat / 64 % 0x20 + 64) (by omega)
    · exact high _ (by omega)
  split at hb
  · simp only [List.mem_cons, List.not_mem_nil, or_false] at hb
    rcases hb with rfl | rfl | rfl
    · exact high (c.val.toNat / 4096 % 0x10 + 96) (by omega)
    · exact high _ (by omega)
    · exact high _ (by omega)
  · simp only [List.mem_cons, List.not_mem_nil, or_false] at hb
    rcases hb with rfl | rfl | rfl | rfl
    · exact high (c.val.toNat / 262144 % 8 + 112) (by omega)
    · exact high _ (by omega)
    · exact high _ (by omega)
    · exact high _ (by omega)

/-- An ASCII byte comes from the ASCII character only. -/
theorem mem_ofText_iff {c : Char} (hc : c.toNat < 128) {s : String} :
    UInt8.ofNat c.toNat ∈ ofText s ↔ c ∈ s.toList := by
  rw [ofText_eq_flatMap, List.mem_flatMap]
  constructor
  · rintro ⟨d, hd, hb⟩
    by_cases hd' : d.toNat < 128
    · rw [utf8EncodeChar_of_ascii hd', List.mem_singleton, ← UInt8.toNat_inj, UInt8.toNat_ofNat',
        UInt8.toNat_ofNat', Nat.mod_eq_of_lt (by omega), Nat.mod_eq_of_lt (by omega)] at hb
      exact Char.toNat_inj.1 hb ▸ hd
    · have hhigh := le_of_mem_utf8EncodeChar (by omega) hb
      rw [UInt8.toNat_ofNat', Nat.mod_eq_of_lt (by omega)] at hhigh
      omega
  · intro h
    refine ⟨c, h, ?_⟩
    rw [utf8EncodeChar_of_ascii hc]
    exact List.mem_singleton.2 rfl

@[simp] theorem ofText_eq_nil_iff {s : String} : ofText s = [] ↔ s = "" :=
  ofText_inj (t := "")

/-! ### ASCII in what is shown -/

/-- A character under way comes out beyond ASCII, with whatever bytes it is owed. -/
def Pending.Beyond (p : Pending) : Prop :=
  p.owed ≤ 3 ∧ ∀ b : UInt8, p.least ≤ b → b ≤ p.most →
    let value := 64 * p.value + (b.toNat - 0x80)
    (p.owed ≤ 1 → 0x80 ≤ value ∧ value.isValidChar) ∧
      (p.owed = 2 → 2 ≤ value ∧ (value < 0x360 ∨ 0x380 ≤ value) ∧ value < 0x4400) ∧
      (p.owed = 3 → 0x10 ≤ value ∧ value < 0x110)

theorem beyond_of_leads? {b : UInt8} {p : Pending} (h : leads? b = some p) : p.Beyond := by
  rw [leads?] at h
  repeat' split at h
  all_goals simp only [Option.some.injEq, reduceCtorEq] at h
  all_goals
    subst h
    simp only [Pending.Beyond, UInt8.le_iff_toNat_le, UInt8.reduceToNat, Nat.isValidChar]
    refine ⟨by decide, fun c _ _ => ?_⟩
    omega

/-- One of the bytes that it is owed leaves fewer to come. -/
theorem Pending.Beyond.next {p : Pending} (hp : p.Beyond) {b : UInt8} (hleast : p.least ≤ b)
    (hmost : b ≤ p.most) (howed : ¬ p.owed ≤ 1) :
    Pending.Beyond ⟨p.owed - 1, 0x80, 0xBF, 64 * p.value + (b.toNat - 0x80)⟩ := by
  obtain ⟨hle, hvalue⟩ := hp
  obtain ⟨-, htwo, hthree⟩ := hvalue b hleast hmost
  refine ⟨by dsimp only; omega, fun c hc hc' => ?_⟩
  simp only [UInt8.le_iff_toNat_le, UInt8.reduceToNat] at hc hc'
  simp only [Nat.isValidChar]
  omega

theorem toNat_ofNat {n : Nat} (h : n.isValidChar) : (Char.ofNat n).toNat = n := by
  rw [Char.ofNat, dif_pos h]
  rfl

/-- What one byte shows: a byte that is ASCII shows itself, and no other byte shows ASCII. -/
theorem eq_of_mem_step {p : Option Pending} (hp : ∀ q ∈ p, q.Beyond) {b : UInt8} :
    (∀ c ∈ (step p b).1, c.toNat < 128 → b = UInt8.ofNat c.toNat) ∧
      ∀ q ∈ (step p b).2, q.Beyond := by
  have hreplacement : ¬ replacement.toNat < 128 := by decide
  have hstart : (∀ c ∈ (start b).1, c.toNat < 128 → b = UInt8.ofNat c.toNat) ∧
      ∀ q ∈ (start b).2, q.Beyond := by
    rw [start]
    split
    next hb =>
      refine ⟨fun c hc _ => ?_, nofun⟩
      have hb' : b.toNat < 128 := hb
      rw [List.mem_singleton.1 hc, toNat_ofNat (.inl (Nat.lt_trans hb' (by decide)))]
      simp
    next =>
      split
      next p hp => exact ⟨nofun, fun q hq => by cases hq; exact beyond_of_leads? hp⟩
      next =>
        refine ⟨fun c hc hascii => ?_, nofun⟩
        rw [List.mem_singleton.1 hc] at hascii
        exact absurd hascii hreplacement
  cases p with
  | none => exact hstart
  | some p =>
    have hbeyond := hp p rfl
    rw [step]
    split
    next hbounds =>
      dsimp only
      split
      next howed =>
        obtain ⟨hvalue, hvalid⟩ := (hbeyond.2 b hbounds.1 hbounds.2).1 howed
        refine ⟨fun c hc hascii => ?_, nofun⟩
        rw [List.mem_singleton.1 hc, toNat_ofNat hvalid] at hascii
        omega
      next howed =>
        exact ⟨nofun, fun q hq => by cases hq; exact hbeyond.next hbounds.1 hbounds.2 howed⟩
    next =>
      refine ⟨fun c hc hascii => ?_, hstart.2⟩
      rcases List.mem_cons.1 hc with rfl | hc
      · exact absurd hascii hreplacement
      · exact hstart.1 c hc hascii

theorem mem_of_mem_showFrom {b : Bytes} {p : Option Pending} (hp : ∀ q ∈ p, q.Beyond) {c : Char}
    (hascii : c.toNat < 128) (h : c ∈ showFrom p b) : UInt8.ofNat c.toNat ∈ b := by
  induction b generalizing p with
  | nil =>
    cases p with
    | none => cases h
    | some p =>
      rw [showFrom, List.mem_singleton] at h
      rw [h] at hascii
      exact absurd hascii (by decide)
  | cons x rest ih =>
    rw [showFrom, List.mem_append] at h
    obtain ⟨hshown, hrest⟩ := eq_of_mem_step hp (b := x)
    rcases h with h | h
    · rw [← hshown c h hascii]
      exact List.mem_cons_self
    · exact List.mem_cons_of_mem _ (ih hrest h)

/-- Showing bytes makes up no ASCII. -/
theorem mem_of_mem_lossy {c : Char} (hascii : c.toNat < 128) {b : Bytes}
    (h : c ∈ (lossy b).toList) : UInt8.ofNat c.toNat ∈ b := by
  rw [lossy] at h
  split at h
  next s hs =>
    rw [text?_eq_some_iff.1 hs]
    exact (mem_ofText_iff hascii).2 h
  next =>
    rw [String.toList_ofList] at h
    exact mem_of_mem_showFrom (p := none) (fun _ hq => absurd hq (Option.not_mem_none _)) hascii h

theorem showFrom_some_ne_nil (p : Pending) (b : Bytes) : showFrom (some p) b ≠ [] := by
  induction b generalizing p with
  | nil =>
    rw [showFrom]
    exact List.cons_ne_nil _ _
  | cons x rest ih =>
    rw [showFrom, step]
    split
    · dsimp only
      split
      · exact List.cons_ne_nil _ _
      · exact ih _
    · exact List.cons_ne_nil _ _

/-- Where there is a byte, something is shown. -/
theorem lossy_ne_empty {b : Bytes} (h : b ≠ []) : lossy b ≠ "" := by
  rw [lossy]
  split
  next s hs =>
    rintro rfl
    exact h (text?_eq_some_iff.1 hs)
  next =>
    cases b with
    | nil => exact absurd rfl h
    | cons x rest =>
      rw [showFrom, step, start]
      split
      · simp
      · split
        · simpa using showFrom_some_ne_nil _ rest
        · simp

end Bytes

/-! ### Names and values -/

theorem equals_mem_ofText_iff {s : String} :
    ProcessEnv.equals ∈ Bytes.ofText s ↔ '=' ∈ s.toList :=
  Bytes.mem_ofText_iff (c := '=') (by decide)

theorem zero_mem_ofText_iff {s : String} : 0 ∈ Bytes.ofText s ↔ '\x00' ∈ s.toList :=
  Bytes.mem_ofText_iff (c := '\x00') (by decide)

/-- A text is checked as a name just as the platform checks its bytes. -/
theorem isVariableName_iff {name : String} :
    isVariableName name ↔ Write.ValidName (Bytes.ofText name) := by
  simp [isVariableName, Write.ValidName, equals_mem_ofText_iff, zero_mem_ofText_iff, and_assoc]

theorem isVariableValue_iff {value : String} :
    isVariableValue value ↔ Write.ValidValue (Bytes.ofText value) := by
  simp [isVariableValue, Write.ValidValue, zero_mem_ofText_iff]

/-! ### Look-ups -/

namespace ProcessEnv

/-- The name of the variable that a look-up reads. -/
def readName (name : Bytes) : Bytes := name.takeWhile (· ≠ equals)

theorem readName_eq_self {name : Bytes} (h : equals ∉ name) : readName name = name := by
  refine List.takeWhile_eq_self_iff.2 fun b hb => ?_
  simp only [ne_eq, decide_eq_true_eq]
  rintro rfl
  exact h hb

/-- A look-up depends on the variable that it reads and on no other. -/
theorem read?_congr {e e' : ProcessEnv} {name : Bytes}
    (h : e.value? (readName name) = e'.value? (readName name)) :
    e.read? name = e'.read? name := by
  by_cases heq : equals ∈ name
  · simp only [read?, if_pos heq]
    exact congrArg (Option.bind · _) h
  · rwa [read?_eq_value? heq, read?_eq_value? heq, ← readName_eq_self heq]

/-- A variable with a good name and a value that is text is found under its name. -/
theorem text?_of_value? {e : ProcessEnv} {name value : String} (hname : isVariableName name)
    (hvalue : e.value? (Bytes.ofText name) = some (Bytes.ofText value)) :
    e.text? name = some value := by
  rw [text?, read?_eq_value? (isVariableName_iff.1 hname).2.1, hvalue]
  exact Bytes.text?_ofText value

end ProcessEnv

end SiteRuntime
