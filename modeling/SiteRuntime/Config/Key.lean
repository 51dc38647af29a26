import SiteRuntime.Power
import SiteRuntime.Text.Blank

/-!
# Keys of options

An option is addressed by a path of segments between slashes, such as `systems/0/prefix`. Empty
segments do not count. The index behind the name of a section may be left out: two paths address
the same option when their segments agree without it, and `OptionKey` is what they then share.
-/

namespace SiteRuntime

/-! ### Segments -/

/-- The segments of a path of an option. -/
def pathSegments (path : String) : List String := (Text.fields '/' path.toList).map String.ofList

/-- The number that digits write in base ten. -/
def decimalValue (digits : List Char) : Nat :=
  digits.foldl (fun n c => 10 * n + (c.toNat - '0'.toNat)) 0

/-- The least number that is no index any more. -/
def indexBound : Nat := twoTo 64

/-- The index that a segment writes, perhaps after a plus sign. -/
def index? (segment : String) : Option Nat :=
  let digits := match segment.toList with
    | '+' :: rest => rest
    | s => s
  if digits.isEmpty || !digits.all Char.isDigit then none
  else if decimalValue digits < indexBound then some (decimalValue digits)
  else none

/-! ### Keys -/

/-- What the paths of one option share: the segments without the index of the section. -/
structure OptionKey where
  /-- The segments that are left. -/
  segments : List String
  deriving DecidableEq, Repr

namespace OptionKey

/-- Segments without the index of the section. -/
def dropIndex : List String → List String
  | section_ :: i :: rest =>
    if (index? i).isSome then section_ :: rest else section_ :: i :: rest
  | segments => segments

/-- The key that a path addresses. -/
def ofPath (path : String) : OptionKey := ⟨dropIndex (pathSegments path)⟩

instance : Ord OptionKey := ⟨fun a b => compare a.segments b.segments⟩

theorem compare_def (a b : OptionKey) : compare a b = compare a.segments b.segments := rfl

instance : Std.TransOrd OptionKey where
  eq_swap {a b} := by simpa [compare_def] using Std.OrientedCmp.eq_swap
  isLE_trans {a b c} := by simpa [compare_def] using Std.TransCmp.isLE_trans

instance : Std.LawfulEqOrd OptionKey where
  compare_self {a} := by simp
  eq_of_compare {a b} h := by
    cases a; cases b
    simpa [compare_def] using h

@[simp] theorem dropIndex_index {section_ i : String} {rest : List String}
    (h : (index? i).isSome) : dropIndex (section_ :: i :: rest) = section_ :: rest := by
  simp [dropIndex, h]

theorem dropIndex_of_not_index {section_ i : String} {rest : List String}
    (h : index? i = none) : dropIndex (section_ :: i :: rest) = section_ :: i :: rest := by
  simp [dropIndex, h]

end OptionKey

end SiteRuntime
