import SiteRuntime.Bytes
import SiteRuntime.SortedMap

/-!
# The process environment

The variables of the process, by name. Names and values are bytes. Every change is a `Write`, and a
write is `Valid` when the platform takes it: the name is not empty and holds neither `=` nor NUL,
the value no NUL.

The platform keeps the variables as lines `NAME=VALUE` and looks a name up by comparing the line
with `name=`. For a name with an `=` in it this finds the variable before the `=` whose value goes
on as the name does; `ProcessEnv.read?` has this rule, `ProcessEnv.value?` is the plain look-up.
-/

namespace SiteRuntime

/-- The variables of the process. -/
structure ProcessEnv where
  /-- Values by name. -/
  vars : SortedMap Bytes Bytes
  deriving DecidableEq

/-- One change of the process environment. -/
inductive Write where
  | set (name value : Bytes)
  | unset (name : Bytes)
  deriving DecidableEq, Repr

namespace ProcessEnv

/-- The environment without variables. -/
def empty : ProcessEnv := ⟨∅⟩

instance : Inhabited ProcessEnv := ⟨empty⟩

/-- The byte between a name and its value. -/
def equals : UInt8 := 61

/-- The value of a variable. -/
def value? (e : ProcessEnv) (name : Bytes) : Option Bytes := e.vars.get? name

/-- The environment with a variable set. -/
def set (e : ProcessEnv) (name value : Bytes) : ProcessEnv := ⟨e.vars.insert name value⟩

/-- The environment without a variable. -/
def unset (e : ProcessEnv) (name : Bytes) : ProcessEnv := ⟨e.vars.erase name⟩

/-- The names in byte order. -/
def names (e : ProcessEnv) : List Bytes := e.vars.keys

/-- Names with values in byte order of the names. -/
def toList (e : ProcessEnv) : List (Bytes × Bytes) := e.vars.entries

/-- The environment with the given variables; of two with one name the later counts. -/
def ofList (l : List (Bytes × Bytes)) : ProcessEnv := ⟨.ofList l⟩

/-- The environment that lines `NAME=VALUE` write, each ended by a NUL. -/
def ofBlock (b : Bytes) : ProcessEnv :=
  let lines := (b.splitOn 0).filter (!·.isEmpty)
  ofList (lines.map fun l => (l.takeWhile (· ≠ equals), (l.dropWhile (· ≠ equals)).drop 1))

/-- The bytes after a given beginning. -/
def dropStart? : Bytes → Bytes → Option Bytes
  | [], b => some b
  | _ :: _, [] => none
  | x :: xs, y :: ys => if x = y then dropStart? xs ys else none

/-- What the platform finds under a name. -/
def read? (e : ProcessEnv) (name : Bytes) : Option Bytes :=
  if equals ∈ name then
    let first := name.takeWhile (· ≠ equals)
    let more := (name.dropWhile (· ≠ equals)).drop 1
    (e.value? first).bind (dropStart? (more ++ [equals]))
  else e.value? name

/-- What the platform finds under a name, if it is text. -/
def text? (e : ProcessEnv) (name : String) : Option String :=
  (e.read? (Bytes.ofText name)).bind Bytes.text?

/-! ### Look-ups -/

@[ext] theorem ext_value? {e f : ProcessEnv} (h : ∀ n, e.value? n = f.value? n) : e = f := by
  cases e; cases f
  exact congrArg _ (SortedMap.ext_get? h)

theorem value?_set (e : ProcessEnv) (n m v : Bytes) :
    (e.set n v).value? m = if m = n then some v else e.value? m :=
  SortedMap.get?_insert ..

@[simp] theorem value?_set_self (e : ProcessEnv) (n v : Bytes) :
    (e.set n v).value? n = some v := by simp [value?_set]

theorem value?_unset (e : ProcessEnv) (n m : Bytes) :
    (e.unset n).value? m = if m = n then none else e.value? m :=
  SortedMap.get?_erase ..

@[simp] theorem value?_unset_self (e : ProcessEnv) (n : Bytes) :
    (e.unset n).value? n = none := by simp [value?_unset]

theorem mem_toList_iff {e : ProcessEnv} {n v : Bytes} :
    (n, v) ∈ e.toList ↔ e.value? n = some v := SortedMap.get?_eq_some_iff.symm

theorem mem_names_iff {e : ProcessEnv} {n : Bytes} : n ∈ e.names ↔ ∃ v, e.value? n = some v := by
  simp [names, SortedMap.keys, value?, SortedMap.get?_eq_some_iff]

theorem read?_eq_value? {e : ProcessEnv} {name : Bytes} (h : equals ∉ name) :
    e.read? name = e.value? name := by
  simp [read?, h]

end ProcessEnv

/-! ### Names, values and writes -/

/-- Whether a text can name a variable. -/
def isVariableName (name : String) : Bool :=
  !name.isEmpty && !name.toList.contains '=' && !name.toList.contains '\x00'

/-- Whether a text can be the value of a variable. -/
def isVariableValue (value : String) : Bool := !value.toList.contains '\x00'

namespace Write

/-- The name that is written. -/
def name : Write → Bytes
  | .set n _ => n
  | .unset n => n

/-- Bytes that can name a variable. -/
def ValidName (n : Bytes) : Prop := n ≠ [] ∧ ProcessEnv.equals ∉ n ∧ 0 ∉ n

/-- Bytes that can be the value of a variable. -/
def ValidValue (v : Bytes) : Prop := 0 ∉ v

/-- A write that the platform takes. -/
def Valid : Write → Prop
  | .set n v => ValidName n ∧ ValidValue v
  | .unset n => ValidName n

instance (n : Bytes) : Decidable (ValidName n) := by unfold ValidName; infer_instance

instance (v : Bytes) : Decidable (ValidValue v) := by unfold ValidValue; infer_instance

instance : DecidablePred Valid := fun w => by cases w <;> unfold Valid <;> infer_instance

end Write

namespace ProcessEnv

/-- The environment after a write. -/
def apply (e : ProcessEnv) : Write → ProcessEnv
  | .set n v => e.set n v
  | .unset n => e.unset n

/-- The environment after writes in order. -/
def applyAll (e : ProcessEnv) (ws : List Write) : ProcessEnv := ws.foldl apply e

@[simp] theorem apply_set (e : ProcessEnv) (n v : Bytes) : e.apply (.set n v) = e.set n v := rfl

@[simp] theorem apply_unset (e : ProcessEnv) (n : Bytes) : e.apply (.unset n) = e.unset n := rfl

@[simp] theorem applyAll_nil (e : ProcessEnv) : e.applyAll [] = e := rfl

@[simp] theorem applyAll_cons (e : ProcessEnv) (w : Write) (ws : List Write) :
    e.applyAll (w :: ws) = (e.apply w).applyAll ws := rfl

theorem applyAll_append (e : ProcessEnv) (ws ws' : List Write) :
    e.applyAll (ws ++ ws') = (e.applyAll ws).applyAll ws' := List.foldl_append ..

/-- Only names and values that the platform takes. -/
def Valid (e : ProcessEnv) : Prop :=
  ∀ n v, e.value? n = some v → Write.ValidName n ∧ Write.ValidValue v

theorem Valid.apply {e : ProcessEnv} (he : e.Valid) {w : Write} (hw : w.Valid) :
    (e.apply w).Valid := by
  intro n v h
  cases w with
  | set m u =>
    rw [apply_set, value?_set] at h
    split at h
    next hnm =>
      obtain rfl := Option.some.inj h
      exact hnm ▸ hw
    next => exact he n v h
  | unset m =>
    rw [apply_unset, value?_unset] at h
    split at h
    · simp at h
    · exact he n v h

end ProcessEnv

end SiteRuntime
