import SiteRuntime.Proofs.Environment.Text
import SiteRuntime.Expansion

/-!
# What an expansion reads

Expanding a text looks variables up, and the text alone says which ones: inserted text is never
looked at again. `references` lists the names that the text refers to, `reads` the variables that
are looked up for them, together with the home directory if the text begins with a `~` of its own.
Environments that agree on these variables expand the text alike (`expand_congr`), whatever the home
directory of the account is.
-/

namespace SiteRuntime

namespace Expansion

/-- The names that a text refers to, from left to right. -/
def references : List Char → List (List Char)
  | [] => []
  | c :: rest =>
    if c = '$' then
      match h : reference? rest with
      | some r =>
        have : r.rest.length < rest.length + 1 := Nat.lt_succ_of_lt (length_of_reference? h)
        r.name :: references r.rest
      | none => references rest
    else references rest
termination_by s => s.length

theorem references_cons_of_ne {c : Char} (h : c ≠ '$') (rest : List Char) :
    references (c :: rest) = references rest := by
  rw [references, if_neg h]

/-- Only the names that a text refers to are looked up. -/
theorem resolve_congr {lookup lookup' : List Char → Option (List Char)} {s : List Char}
    (h : ∀ n ∈ references s, lookup n = lookup' n) : resolve lookup s = resolve lookup' s := by
  fun_induction references s with
  | case1 => rw [resolve_nil, resolve_nil]
  | case2 rest r hr _ ih =>
    rw [resolve_of_reference hr, resolve_of_reference hr, h r.name List.mem_cons_self,
      ih fun n hn => h n (List.mem_cons_of_mem _ hn)]
  | case3 rest hr ih => rw [resolve_of_no_reference hr, resolve_of_no_reference hr, ih h]
  | case4 c rest hc ih => rw [resolve_cons_of_ne hc, resolve_cons_of_ne hc, ih h]

/-- A `~` refers to nothing. -/
theorem references_of_homeRest {s rest : List Char} (h : homeRest? s = some rest) :
    references s = references rest := by
  unfold homeRest? at h
  split at h
  · obtain rfl := Option.some.inj h
    exact references_cons_of_ne (by decide) []
  · obtain rfl := Option.some.inj h
    exact references_cons_of_ne (by decide) _
  · cases h

/-- The home directory counts only for a text that begins with a `~` of its own. -/
theorem expandChars_congr {home home' : Option (List Char)}
    {lookup lookup' : List Char → Option (List Char)} {s : List Char}
    (hhome : (homeRest? s).isSome → home = home')
    (h : ∀ n ∈ references s, lookup n = lookup' n) :
    expandChars home lookup s = expandChars home' lookup' s := by
  unfold expandChars
  cases hs : homeRest? s with
  | none => exact resolve_congr h
  | some rest =>
    obtain rfl := hhome (by rw [hs]; rfl)
    have hrest : resolve lookup rest = resolve lookup' rest :=
      resolve_congr (references_of_homeRest hs ▸ h)
    cases home with
    | none =>
      -- without a home directory the `~` is copied
      exact resolve_congr h
    | some home => exact congrArg (home ++ ·) hrest

end Expansion

namespace ProcessEnv

open Expansion

/-- The name of the variable that holds the home directory. -/
def homeName : Bytes := Bytes.ofText "HOME"

/-- The variables that are looked up when a text is expanded. -/
def reads (s : String) : List Bytes :=
  (if (homeRest? s.toList).isSome then [homeName] else []) ++
    (references s.toList).map fun name => readName (Bytes.ofText (String.ofList name))

variable [Account] in
/-- **What an expansion depends on.** Environments that agree on what a text reads expand it to the
same text. -/
theorem expand_congr {e e' : ProcessEnv} {s : String}
    (h : ∀ n ∈ reads s, e.value? n = e'.value? n) : e.expand s = e'.expand s := by
  rw [expand, expand, expandWith_eq, expandWith_eq]
  refine congrArg String.ofList (expandChars_congr (fun hs => ?_) fun name hname => ?_)
  · have hhome : homeName ∈ reads s := by
      rw [reads, if_pos hs]
      exact List.mem_append_left _ (List.mem_singleton.2 rfl)
    have hvalue : e.value? (Bytes.ofText "HOME") = e'.value? (Bytes.ofText "HOME") :=
      h homeName hhome
    rw [home?, home?, hvalue]
  · have hread : readName (Bytes.ofText (String.ofList name)) ∈ reads s :=
      List.mem_append_right _ (List.mem_map_of_mem hname)
    rw [charsOf, charsOf, text?, text?, read?_congr (h _ hread)]

end ProcessEnv

/-! ### A user with a home directory -/

/-- A user whose home directory the user database has. -/
@[reducible] def Account.listed : Account := ⟨some (Bytes.ofText "/home/me")⟩

/-- Where the environment names no home directory, a `~` is that of the user database. -/
example : @ProcessEnv.expand .listed .empty "~/stage" = "/home/me/stage" := by decide +kernel

end SiteRuntime
