/-!
# White space and cutting text

`isBlank` is the Unicode property White_Space. The functions here cut a text, given as a list of
characters, at white space or at a separator; each loses nothing but what it cuts away, which is
what the lemmas beside them say.
-/

namespace SiteRuntime.Text

/-- Unicode White_Space. -/
def isBlank (c : Char) : Bool :=
  let n := c.toNat
  (9 ≤ n && n ≤ 13) || n == 0x20 || n == 0x85 || n == 0xA0 || n == 0x1680 ||
    (0x2000 ≤ n && n ≤ 0x200A) || n == 0x2028 || n == 0x2029 || n == 0x202F || n == 0x205F ||
    n == 0x3000

/-- Without leading white space. -/
def trimLeft (s : List Char) : List Char := s.dropWhile isBlank

/-- Without trailing white space. -/
def trimRight (s : List Char) : List Char := (s.reverse.dropWhile isBlank).reverse

/-- Without white space at either end. -/
def trim (s : List Char) : List Char := trimRight (trimLeft s)

@[simp] theorem trim_nil : trim [] = [] := rfl

theorem dropWhile_isBlank_of_head? {s : List Char} (h : ∀ c ∈ s.head?, isBlank c = false) :
    s.dropWhile isBlank = s := by
  cases s with
  | nil => rfl
  | cons c rest => rw [List.dropWhile_cons, h c rfl, if_neg Bool.false_ne_true]

/-- A text that neither begins nor ends with white space is trimmed already. -/
theorem trim_eq_self {s : List Char} (hfirst : ∀ c ∈ s.head?, isBlank c = false)
    (hlast : ∀ c ∈ s.getLast?, isBlank c = false) : trim s = s := by
  have hreverse : ∀ c ∈ s.reverse.head?, isBlank c = false := by rwa [List.head?_reverse]
  rw [trim, trimLeft, dropWhile_isBlank_of_head? hfirst, trimRight,
    dropWhile_isBlank_of_head? hreverse, List.reverse_reverse]

theorem isBlank_of_mem_head?_trimLeft {s : List Char} :
    ∀ c ∈ (trimLeft s).head?, isBlank c = false := by
  intro c hc
  have h := List.head?_dropWhile_not isBlank s
  rw [trimLeft] at hc
  rwa [Option.mem_def.1 hc] at h

theorem isBlank_of_mem_getLast?_trimRight {s : List Char} :
    ∀ c ∈ (trimRight s).getLast?, isBlank c = false := by
  rw [trimRight, List.getLast?_reverse]
  exact isBlank_of_mem_head?_trimLeft

theorem trimRight_prefix (s : List Char) : trimRight s <+: s := by
  rw [trimRight, ← List.reverse_suffix, List.reverse_reverse]
  exact List.dropWhile_suffix isBlank

theorem isBlank_of_mem_head?_trimRight {s : List Char} (h : ∀ c ∈ s.head?, isBlank c = false) :
    ∀ c ∈ (trimRight s).head?, isBlank c = false := by
  intro c hc
  obtain ⟨rest, hrest⟩ := trimRight_prefix s
  refine h c ?_
  rw [← hrest, List.head?_append]
  exact Option.or_eq_some_iff.2 (.inl hc)

theorem isBlank_of_mem_head?_trim {s : List Char} : ∀ c ∈ (trim s).head?, isBlank c = false :=
  isBlank_of_mem_head?_trimRight isBlank_of_mem_head?_trimLeft

/-- What has been trimmed is trimmed. -/
theorem trim_trim (s : List Char) : trim (trim s) = trim s :=
  trim_eq_self isBlank_of_mem_head?_trim isBlank_of_mem_getLast?_trimRight

theorem trim_cons_of_isBlank {c : Char} (h : isBlank c = true) (s : List Char) :
    trim (c :: s) = trim s := by
  rw [trim, trimLeft, List.dropWhile_cons, h, if_pos rfl, trim, trimLeft]

/-- A text that begins with something visible keeps what follows it. -/
theorem trimLeft_append {a : List Char} (h : trimLeft a ≠ []) (b : List Char) :
    trimLeft (a ++ b) = trimLeft a ++ b := by
  unfold trimLeft at h ⊢
  rw [List.dropWhile_append, List.isEmpty_eq_false_iff.2 h, if_neg Bool.false_ne_true]

/-- White space behind a visible character is all that is cut away. -/
theorem trimRight_append_cons {c : Char} (h : isBlank c = false) (a b : List Char) :
    trimRight (a ++ c :: b) = a ++ c :: trimRight b := by
  have hkept : (c :: a.reverse).dropWhile isBlank = c :: a.reverse := by
    rw [List.dropWhile_cons, h, if_neg Bool.false_ne_true]
  have hreverse : (a ++ c :: b).reverse = b.reverse ++ c :: a.reverse := by simp
  unfold trimRight
  rw [hreverse, List.dropWhile_append, hkept]
  split
  next hempty => simp [List.isEmpty_iff.1 hempty]
  next => simp

/-- White space at the end is cut away. -/
theorem trimRight_concat_of_isBlank {c : Char} (h : isBlank c = true) (s : List Char) :
    trimRight (s ++ [c]) = trimRight s := by
  rw [trimRight, List.reverse_concat, List.dropWhile_cons, h, if_pos rfl, trimRight]

/-- Whether nothing but white space is there. -/
def isBlankText (s : List Char) : Bool := s.all isBlank

/-- The parts before and after the first separator. -/
def splitOnce? (sep : Char) : List Char → Option (List Char × List Char)
  | [] => none
  | c :: rest =>
    if c = sep then some ([], rest) else (splitOnce? sep rest).map fun p => (c :: p.1, p.2)

/-- The parts are what stood around a separator, and the first part holds none. -/
theorem splitOnce?_eq_some_iff {sep : Char} {s a b : List Char} :
    splitOnce? sep s = some (a, b) ↔ s = a ++ sep :: b ∧ sep ∉ a := by
  induction s generalizing a with
  | nil => simp [splitOnce?]
  | cons c rest ih =>
    unfold splitOnce?
    split
    next h => subst h; cases a <;> grind
    next h =>
      simp only [Option.map_eq_some_iff, Prod.mk.injEq, Prod.exists]
      constructor
      · rintro ⟨x, y, hxy, rfl, rfl⟩
        obtain ⟨rfl, hx⟩ := ih.1 hxy
        exact ⟨rfl, by simpa [Ne.symm h] using hx⟩
      · rintro ⟨hs, ha⟩
        cases a with
        | nil => simp at hs; exact absurd hs.1 h
        | cons x xs =>
          simp only [List.cons_append, List.cons.injEq] at hs
          obtain ⟨rfl, rfl⟩ := hs
          exact ⟨xs, b, ih.2 ⟨rfl, fun hm => ha (List.mem_cons_of_mem _ hm)⟩, rfl, rfl⟩

theorem splitOnce?_eq_none_iff {sep : Char} {s : List Char} :
    splitOnce? sep s = none ↔ sep ∉ s := by
  induction s with
  | nil => simp [splitOnce?]
  | cons c rest ih =>
    unfold splitOnce?
    split
    next h => subst h; simp
    next h => simp [ih, Ne.symm h]

/-- The parts between separators; a text without one is a single part. -/
def splitOn (sep : Char) : List Char → List (List Char)
  | [] => [[]]
  | c :: rest =>
    if c = sep then [] :: splitOn sep rest
    else
      match splitOn sep rest with
      | [] => [[c]]
      | part :: parts => (c :: part) :: parts

theorem splitOn_ne_nil (sep : Char) (s : List Char) : splitOn sep s ≠ [] := by
  cases s with
  | nil => simp [splitOn]
  | cons c rest =>
    unfold splitOn
    split
    · simp
    · split <;> simp

/-- A text without a separator is a single part. -/
theorem splitOn_of_notMem {sep : Char} {s : List Char} (h : sep ∉ s) : splitOn sep s = [s] := by
  induction s with
  | nil => rfl
  | cons c rest ih =>
    obtain ⟨hc, hrest⟩ := List.ne_and_not_mem_of_not_mem_cons h
    rw [splitOn, if_neg (Ne.symm hc), ih hrest]

/-- A separator ends the parts before it and begins those after it. -/
theorem splitOn_append_cons (sep : Char) (a b : List Char) :
    splitOn sep (a ++ sep :: b) = splitOn sep a ++ splitOn sep b := by
  induction a with
  | nil => simp [splitOn]
  | cons c rest ih =>
    rw [List.cons_append, splitOn, splitOn]
    split
    next => rw [ih, List.cons_append]
    next =>
      rw [ih]
      cases h : splitOn sep rest with
      | nil => exact absurd h (splitOn_ne_nil sep rest)
      | cons part parts => rfl

/-- No part holds a separator. -/
theorem notMem_of_mem_splitOn {sep : Char} {s part : List Char} (h : part ∈ splitOn sep s) :
    sep ∉ part := by
  induction s generalizing part with
  | nil => simp_all [splitOn]
  | cons c rest ih =>
    rw [splitOn] at h
    split at h
    next =>
      rcases List.mem_cons.1 h with rfl | h
      · exact List.not_mem_nil
      · exact ih h
    next hc =>
      cases hs : splitOn sep rest with
      | nil => exact absurd hs (splitOn_ne_nil sep rest)
      | cons first parts =>
        rw [hs] at h ih
        rcases List.mem_cons.1 h with rfl | h
        · exact List.not_mem_cons_of_ne_of_not_mem (Ne.symm hc) (ih List.mem_cons_self)
        · exact ih (List.mem_cons_of_mem _ h)

/-- Between separators stands what the parts hold. -/
theorem mem_intercalate_iff {sep c : Char} (hc : c ≠ sep) {parts : List (List Char)} :
    c ∈ [sep].intercalate parts ↔ ∃ part ∈ parts, c ∈ part := by
  induction parts with
  | nil => exact ⟨fun h => (nomatch h), fun ⟨_, h, _⟩ => (nomatch h)⟩
  | cons part rest ih =>
    cases rest with
    | nil => rw [List.intercalate_singleton]; simp
    | cons next rest =>
      rw [List.intercalate_cons_cons, List.mem_append, List.mem_append, ih]
      simp [hc]

/-- Parts are read back from where they stand between separators. -/
theorem splitOn_intercalate {sep : Char} {parts : List (List Char)} (hne : parts ≠ [])
    (h : ∀ part ∈ parts, sep ∉ part) : splitOn sep ([sep].intercalate parts) = parts := by
  induction parts with
  | nil => exact absurd rfl hne
  | cons part rest ih =>
    obtain ⟨hpart, hrest⟩ := List.forall_mem_cons.1 h
    cases rest with
    | nil =>
      rw [List.intercalate_singleton]
      exact splitOn_of_notMem hpart
    | cons next rest =>
      rw [List.intercalate_cons_cons, List.append_assoc, List.singleton_append, splitOn_append_cons,
        splitOn_of_notMem hpart, ih (List.cons_ne_nil next rest) hrest, List.singleton_append]

/-- The parts with the separators between them are the text. -/
theorem intercalate_splitOn (sep : Char) (s : List Char) :
    [sep].intercalate (splitOn sep s) = s := by
  induction s with
  | nil => rfl
  | cons c rest ih =>
    rw [splitOn]
    cases hsplit : splitOn sep rest with
    | nil => exact absurd hsplit (splitOn_ne_nil sep rest)
    | cons part parts =>
      rw [hsplit] at ih
      split
      next hc => rw [List.intercalate_cons_cons, ih, hc, List.nil_append, List.singleton_append]
      next =>
        -- the character belongs to the first part
        cases parts with
        | nil =>
          rw [List.intercalate_singleton] at ih ⊢
          rw [ih]
        | cons next parts =>
          rw [List.intercalate_cons_cons] at ih ⊢
          rw [← ih, List.cons_append, List.cons_append]

/-- The parts between separators that hold at least one character. -/
def fields (sep : Char) (s : List Char) : List (List Char) :=
  (splitOn sep s).filter fun part => !part.isEmpty

@[simp] theorem fields_nil (sep : Char) : fields sep [] = [] := rfl

theorem fields_append_cons (sep : Char) (a b : List Char) :
    fields sep (a ++ sep :: b) = fields sep a ++ fields sep b := by
  rw [fields, splitOn_append_cons, List.filter_append, fields, fields]

theorem fields_ne_nil {sep c : Char} (h : c ≠ sep) (rest : List Char) :
    fields sep (c :: rest) ≠ [] := by
  rw [fields, splitOn, if_neg h]
  cases splitOn sep rest <;> simp

theorem ne_nil_of_mem_fields {sep : Char} {s part : List Char} (h : part ∈ fields sep s) :
    part ≠ [] := by
  simpa using (List.mem_filter.1 h).2

theorem notMem_of_mem_fields {sep : Char} {s part : List Char} (h : part ∈ fields sep s) :
    sep ∉ part :=
  notMem_of_mem_splitOn (List.mem_filter.1 h).1

/-- Parts that can be told apart are read back from where they stand between separators. -/
theorem fields_intercalate {sep : Char} {parts : List (List Char)}
    (h : ∀ part ∈ parts, part ≠ [] ∧ sep ∉ part) :
    fields sep ([sep].intercalate parts) = parts := by
  by_cases hparts : parts = []
  · rw [hparts]
    rfl
  · rw [fields, splitOn_intercalate hparts fun part hpart => (h part hpart).2]
    refine List.filter_eq_self.2 fun part hpart => ?_
    rw [List.isEmpty_eq_false_iff.2 (h part hpart).1, Bool.not_false]

/-- The words between runs of white space. -/
def words : List Char → List (List Char)
  | [] => []
  | c :: rest =>
    if isBlank c then words rest
    else
      match rest with
      | [] => [[c]]
      | d :: _ =>
        if isBlank d then [c] :: words rest
        else
          match words rest with
          | [] => [[c]]
          | w :: ws => (c :: w) :: ws

theorem words_cons_of_isBlank {c : Char} (h : isBlank c = true) (s : List Char) :
    words (c :: s) = words s := by
  rw [words.eq_def]
  simp [h]

/-- A word ends where white space begins. -/
theorem words_append {w rest : List Char} (hw : w ≠ []) (h : ∀ c ∈ w, isBlank c = false)
    (hrest : ∀ c ∈ rest.head?, isBlank c = true) : words (w ++ rest) = w :: words rest := by
  induction w with
  | nil => exact absurd rfl hw
  | cons c w ih =>
    have hc := h c List.mem_cons_self
    rw [List.cons_append, words.eq_def]
    cases w with
    | nil =>
      cases rest with
      | nil =>
        have hnil : words [] = [] := rfl
        simp [hc, hnil]
      | cons d rest => simp [hc, hrest d rfl]
    | cons d w =>
      have hd := h d (List.mem_cons_of_mem _ List.mem_cons_self)
      have ih := ih (List.cons_ne_nil d w) fun x hx => h x (List.mem_cons_of_mem _ hx)
      rw [List.cons_append] at ih ⊢
      simp only [hc, hd, Bool.false_eq_true, if_false, ih]

/-- Words are read back from where they stand between spaces. -/
theorem words_intercalate {ws : List (List Char)}
    (h : ∀ w ∈ ws, w ≠ [] ∧ ∀ c ∈ w, isBlank c = false) : words ([' '].intercalate ws) = ws := by
  induction ws with
  | nil => rfl
  | cons w ws ih =>
    obtain ⟨hne, hw⟩ := h w List.mem_cons_self
    have hrest := ih fun v hv => h v (List.mem_cons_of_mem _ hv)
    cases ws with
    | nil =>
      have hword : words (w ++ []) = w :: words [] := words_append hne hw nofun
      rw [List.append_nil] at hword
      rw [List.intercalate_singleton, hword]
      rfl
    | cons v ws =>
      have hspace : isBlank ' ' = true := by decide
      rw [List.intercalate_cons_cons, List.append_assoc, List.singleton_append,
        words_append hne hw (by simpa using hspace), words_cons_of_isBlank hspace, hrest]

/-- A text without the characters at either end that satisfy a test. -/
def stripEnds (p : Char → Bool) (s : List Char) : List Char :=
  ((s.dropWhile p).reverse.dropWhile p).reverse

/-- The text after a given beginning. -/
def dropStart? : List Char → List Char → Option (List Char)
  | [], s => some s
  | _ :: _, [] => none
  | p :: ps, c :: rest => if p = c then dropStart? ps rest else none

theorem dropStart?_eq_some_iff {p s rest : List Char} :
    dropStart? p s = some rest ↔ s = p ++ rest := by
  induction p generalizing s with
  | nil => simp [dropStart?]
  | cons c ps ih =>
    cases s with
    | nil => simp [dropStart?]
    | cons d ds =>
      unfold dropStart?
      split
      next h => subst h; simp [ih]
      next h => simp [Ne.symm h]

/-- A beginning without the separator stands before the separator. -/
theorem dropStart?_append_cons {sep : Char} {p : List Char} (h : sep ∉ p) (a b : List Char) :
    dropStart? p (a ++ sep :: b) = (dropStart? p a).map (· ++ sep :: b) := by
  induction p generalizing a with
  | nil => rfl
  | cons c p ih =>
    obtain ⟨hc, hp⟩ := List.ne_and_not_mem_of_not_mem_cons h
    cases a with
    | nil => rw [List.nil_append, dropStart?, dropStart?, if_neg hc.symm, Option.map_none]
    | cons d a =>
      rw [List.cons_append, dropStart?, dropStart?]
      split
      next => exact ih hp a
      next => rfl

/-- Whether a text begins with another. -/
def startsWith (p s : List Char) : Bool := (dropStart? p s).isSome

end SiteRuntime.Text
