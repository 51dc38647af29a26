import Mathlib.Data.List.Induction
import SiteRuntime.Lmod.Statement

/-!
# Words of the shell, written and read

A word is written in segments: between single quotes, between double quotes, bare, or as one
character behind a backslash. Two scanners meet it. The one that cuts the output into statements
must come out of every segment as it went in, with no separator met on the way (`passes_written`);
the one that takes the quotes off must give back what the segment stands for and go on behind it as
from its start (`unquote_written_append`). Both are stated for whatever follows, so that a word of
any segments is a matter of induction.
-/

namespace SiteRuntime.Lmod

/-! ### The cutting scanner -/

namespace Scan

/-- Where the scanner stands after a text, if it met no separator in it. -/
def passes : Scan → List Char → Option Scan
  | s, [] => some s
  | s, c :: rest => if s.separates c then none else passes (s.next c) rest

@[simp] theorem passes_nil (s : Scan) : s.passes [] = some s := rfl

theorem passes_cons {s : Scan} {c : Char} (h : s.separates c = false) (rest : List Char) :
    s.passes (c :: rest) = (s.next c).passes rest := by
  rw [passes, h, if_neg Bool.false_ne_true]

theorem passes_append (s : Scan) (a b : List Char) :
    s.passes (a ++ b) = (s.passes a).bind fun s' => s'.passes b := by
  induction a generalizing s with
  | nil => rfl
  | cons c rest ih =>
    rw [List.cons_append, passes, passes, ih]
    split <;> rfl

theorem passes_append_of_eq_some {s s' : Scan} {a : List Char} (h : s.passes a = some s')
    (b : List Char) : s.passes (a ++ b) = s'.passes b := by
  rw [passes_append, h, Option.bind_some]

end Scan

/-- A text that the scanner passes is the first piece if a separator comes next. -/
theorem cut_of_passes {s : Scan} {text : List Char} (h : s.passes text = some .start)
    (rest : List Char) : cut s (text ++ ';' :: rest) = text :: cut .start rest := by
  induction text generalizing s with
  | nil =>
    cases h
    rfl
  | cons c text ih =>
    cases hc : s.separates c with
    | true => rw [Scan.passes, hc] at h; cases h
    | false =>
      rw [Scan.passes_cons hc] at h
      rw [List.cons_append, cut, hc, if_neg Bool.false_ne_true, ih h]

/-! ### Cutting a text and what follows it -/

/-- Where the scanner stands behind a text, separators included. -/
def Scan.after (s : Scan) (text : List Char) : Scan := text.foldl next s

theorem Scan.after_of_passes {s s' : Scan} {text : List Char} (h : s.passes text = some s') :
    s.after text = s' := by
  induction text generalizing s with
  | nil => exact Option.some.inj h
  | cons c text ih =>
    rw [passes] at h
    split at h
    · cases h
    · exact ih h

/-- A separator is met outside of quotes only, and leaves the scanner there. -/
theorem Scan.eq_start_of_separates {s : Scan} {c : Char} (h : s.separates c = true) :
    s = .start ∧ s.next c = .start := by
  obtain ⟨quotes, escaped⟩ := s
  simp only [separates, Bool.and_eq_true, Bool.not_eq_true', decide_eq_true_eq,
    Bool.or_eq_true] at h
  obtain ⟨⟨rfl, rfl⟩, rfl | rfl⟩ := h <;> exact ⟨rfl, rfl⟩

/-- White space leaves the scanner where it starts. -/
theorem Scan.next_of_isBlank {c : Char} (h : Text.isBlank c = true) : start.next c = .start := by
  have hne : c ≠ '\\' ∧ c ≠ '\'' ∧ c ≠ '"' := by
    refine ⟨?_, ?_, ?_⟩ <;> rintro rfl <;> cases h
  simp [next, start, hne]

/-- A piece of an output and the separator that ends it. -/
structure Ended where
  /-- What stands before the separator. -/
  piece : List Char
  /-- The separator. -/
  separator : Char
  /-- Statements are separated by it. -/
  separates : separator = ';' ∨ separator = '\n'

/-- A piece as it stands in the output, with its separator. -/
def Ended.written (e : Ended) : List Char := e.piece ++ [e.separator]

/-- **Cutting goes on where it stands.** A text consists of pieces that a separator ends, one after
the other, and of a last piece, and whatever comes behind the text goes on with the last piece. From
the start of each piece to its end the scanner meets no separator; it stands at its start where a
separator comes, and comes out of the last piece as it comes out of the whole text. -/
theorem exists_ended (text : List Char) :
    ∃ (ended : List Ended) (last : List Char), ended.flatMap Ended.written ++ last = text ∧
      (∀ e ∈ ended, Scan.start.passes e.piece = some .start) ∧
      Scan.start.passes last = some (Scan.start.after text) ∧
      ∀ rest, cut .start (text ++ rest) =
        ended.map Ended.piece ++ joinFirst last (cut (Scan.start.after text) rest) := by
  -- along the text from its end: one more character ends the last piece or belongs to it
  induction text using List.reverseRecOn with
  | nil =>
    exact ⟨[], [], rfl, List.forall_mem_nil _, rfl,
      fun rest => (joinFirst_nil_cut .start rest).symm⟩
  | append_singleton text c ih =>
    obtain ⟨ended, last, htext, hended, hpasses, hcut⟩ := ih
    have hafter : Scan.start.after (text ++ [c]) = (Scan.start.after text).next c :=
      List.foldl_append ..
    by_cases hc : (Scan.start.after text).separates c = true
    · obtain ⟨hstart, hnext⟩ := Scan.eq_start_of_separates hc
      have hseparator := Scan.eq_of_separates hc
      refine ⟨ended ++ [⟨last, c, hseparator⟩], [], ?_, ?_,
        by rw [hafter, hnext, Scan.passes_nil], fun rest => ?_⟩
      · rw [← htext]
        simp [Ended.written]
      · rw [List.forall_mem_append, List.forall_mem_singleton]
        exact ⟨hended, hpasses.trans (congrArg some hstart)⟩
      · rw [List.append_assoc, List.singleton_append, hcut, cut_cons, if_pos hc, hafter, hnext,
          joinFirst_nil_cut, hstart]
        simp [joinFirst]
    · refine ⟨ended, last ++ [c], by rw [← List.append_assoc, htext], hended, ?_, fun rest => ?_⟩
      · rw [Scan.passes_append_of_eq_some hpasses, hafter,
          Scan.passes_cons (Bool.eq_false_iff.2 hc), Scan.passes_nil]
      · rw [List.append_assoc, List.singleton_append, hcut, cut_cons, if_neg hc, hafter,
          joinFirst_joinFirst]

/-- A text has pieces, and whatever comes behind it goes on with the last of them. -/
theorem exists_pieces (text : List Char) :
    ∃ pieces last, Scan.start.passes last = some (Scan.start.after text) ∧
      ∀ rest, cut .start (text ++ rest) =
        pieces ++ joinFirst last (cut (Scan.start.after text) rest) := by
  obtain ⟨ended, last, -, -, hpasses, hcut⟩ := exists_ended text
  exact ⟨ended.map Ended.piece, last, hpasses, hcut⟩

/-! ### Segments -/

/-- Whether a character stands for itself without quotes: one that is no white space, no quote, no
backslash and no separator. -/
def isBare (c : Char) : Bool := !Text.isBlank c && !(['\'', '"', '\\', ';'].contains c)

example : "AZaz09_/.:+,@%-".toList.all isBare = true := by decide

/-- A part of a word. -/
inductive Segment where
  /-- Between single quotes, where every other character stands for itself. -/
  | single (text : List Char) (unquoted : '\'' ∉ text)
  /-- Between double quotes, where some characters need a backslash. -/
  | double (text : List Char)
  /-- Without quotes. -/
  | bare (text : List Char) (isBare : ∀ c ∈ text, isBare c = true)
  /-- One character behind a backslash. -/
  | escaped (c : Char) (visible : Text.isBlank c = false)

/-- A character as it stands between double quotes. -/
def doubleQuoted (c : Char) : List Char :=
  if c = '"' ∨ c = '\\' ∨ c = '$' ∨ c = '\x60' then ['\\', c] else [c]

namespace Segment

/-- What a segment stands for. -/
def value : Segment → List Char
  | single text _ | double text | bare text _ => text
  | escaped c _ => [c]

/-- A segment as it is printed. -/
def written : Segment → List Char
  | single text _ => '\'' :: text ++ ['\'']
  | double text => '"' :: text.flatMap doubleQuoted ++ ['"']
  | bare text _ => text
  | escaped c _ => ['\\', c]

end Segment

/-! ### Segments and the cutting scanner -/

theorem isBare_iff {c : Char} :
    isBare c = true ↔ Text.isBlank c = false ∧ c ≠ '\'' ∧ c ≠ '"' ∧ c ≠ '\\' ∧ c ≠ ';' := by
  simp [isBare]

/-- A bare character leaves the scanner where it starts. -/
theorem passes_of_isBare {c : Char} (h : isBare c = true) (rest : List Char) :
    Scan.start.passes (c :: rest) = Scan.start.passes rest := by
  obtain ⟨hblank, hsingle, hdouble, hbackslash, hsemicolon⟩ := isBare_iff.1 h
  -- a line end is white space
  have hnewline : c ≠ '\n' := by
    rintro rfl
    exact absurd hblank (by decide)
  have hseparates : Scan.start.separates c = false := by simp [Scan.separates, hsemicolon, hnewline]
  have hnext : Scan.start.next c = .start := by
    simp [Scan.next, Scan.start, hsingle, hdouble, hbackslash]
  rw [Scan.passes_cons hseparates, hnext]

theorem passes_of_all_isBare {text : List Char} (h : ∀ c ∈ text, isBare c = true)
    (rest : List Char) : Scan.start.passes (text ++ rest) = Scan.start.passes rest := by
  induction text with
  | nil => rfl
  | cons c text ih =>
    rw [List.cons_append, passes_of_isBare (h c List.mem_cons_self),
      ih fun d hd => h d (List.mem_cons_of_mem _ hd)]

/-- Between single quotes only a single quote matters. -/
theorem passes_single {text : List Char} (h : '\'' ∉ text) (rest : List Char) :
    Scan.passes ⟨.single, false⟩ (text ++ rest) = Scan.passes ⟨.single, false⟩ rest := by
  induction text with
  | nil => rfl
  | cons c text ih =>
    obtain ⟨hc, htext⟩ := List.ne_and_not_mem_of_not_mem_cons h
    have hnext : Scan.next ⟨.single, false⟩ c = ⟨.single, false⟩ := by
      simp [Scan.next, Ne.symm hc]
    rw [List.cons_append, Scan.passes_cons rfl, hnext, ih htext]

/-- A character as it stands between double quotes leaves the scanner between them. -/
theorem passes_doubleQuoted (c : Char) (rest : List Char) :
    Scan.passes ⟨.double, false⟩ (doubleQuoted c ++ rest) = Scan.passes ⟨.double, false⟩ rest := by
  rw [doubleQuoted]
  split
  next => rfl
  next h =>
    obtain ⟨hdouble, hbackslash, -⟩ := not_or.1 h |>.imp_right not_or.1
    have hnext : Scan.next ⟨.double, false⟩ c = ⟨.double, false⟩ := by
      simp [Scan.next, hdouble, hbackslash]
    rw [List.singleton_append, Scan.passes_cons rfl, hnext]

theorem passes_flatMap_doubleQuoted (text rest : List Char) :
    Scan.passes ⟨.double, false⟩ (text.flatMap doubleQuoted ++ rest) =
      Scan.passes ⟨.double, false⟩ rest := by
  induction text with
  | nil => rfl
  | cons c text ih => rw [List.flatMap_cons, List.append_assoc, passes_doubleQuoted, ih]

/-- The scanner comes out of a segment as it went in. -/
theorem Segment.passes_written (segment : Segment) :
    Scan.start.passes segment.written = some .start := by
  cases segment with
  | single text h =>
    rw [written, List.cons_append, Scan.passes_cons rfl]
    exact passes_single h ['\'']
  | double text =>
    rw [written, List.cons_append, Scan.passes_cons rfl]
    exact passes_flatMap_doubleQuoted text ['"']
  | bare text h =>
    rw [written, ← List.append_nil text, passes_of_all_isBare h, Scan.passes_nil]
  | escaped c h => rfl

/-! ### Segments without their quotes -/

theorem unquote_of_all_isBare {text : List Char} (h : ∀ c ∈ text, isBare c = true)
    (rest : List Char) : unquote .outside (text ++ rest) = text ++ unquote .outside rest := by
  induction text with
  | nil => rfl
  | cons c text ih =>
    obtain ⟨-, hsingle, hdouble, hbackslash, -⟩ := isBare_iff.1 (h c List.mem_cons_self)
    rw [List.cons_append, unquote_outside_of_ne hsingle hdouble hbackslash,
      ih fun d hd => h d (List.mem_cons_of_mem _ hd), List.cons_append]

theorem unquote_single {text : List Char} (h : '\'' ∉ text) (rest : List Char) :
    unquote .single (text ++ '\'' :: rest) = text ++ unquote .outside rest := by
  induction text with
  | nil => rw [List.nil_append, unquote_single_cons, if_pos rfl, List.nil_append]
  | cons c text ih =>
    obtain ⟨hc, htext⟩ := List.ne_and_not_mem_of_not_mem_cons h
    rw [List.cons_append, unquote_single_cons, if_neg (Ne.symm hc), ih htext, List.cons_append]

/-- A character that stands between double quotes is read back. -/
theorem unquote_doubleQuoted (c : Char) (rest : List Char) :
    unquote .double (doubleQuoted c ++ rest) = c :: unquote .double rest := by
  rw [doubleQuoted]
  split
  next h =>
    have hescapable : isEscapable c = true := by
      rcases h with rfl | rfl | rfl | rfl <;> rfl
    exact unquote_double_backslash hescapable rest
  next h =>
    obtain ⟨hdouble, hbackslash, -⟩ := not_or.1 h |>.imp_right not_or.1
    exact unquote_double_of_ne hdouble hbackslash rest

theorem unquote_flatMap_doubleQuoted (text rest : List Char) :
    unquote .double (text.flatMap doubleQuoted ++ '"' :: rest) =
      text ++ unquote .outside rest := by
  induction text with
  | nil => exact unquote_double_double rest
  | cons c text ih =>
    rw [List.flatMap_cons, List.append_assoc, unquote_doubleQuoted, ih, List.cons_append]

/-- A segment is read back, and what follows it is read as from the start. -/
theorem Segment.unquote_written_append (segment : Segment) (rest : List Char) :
    unquote .outside (segment.written ++ rest) = segment.value ++ unquote .outside rest := by
  cases segment with
  | single text h =>
    rw [written, List.append_assoc, List.cons_append, unquote_outside_single]
    exact unquote_single h rest
  | double text =>
    rw [written, List.append_assoc, List.cons_append, unquote_outside_double]
    exact unquote_flatMap_doubleQuoted text rest
  | bare text h => exact unquote_of_all_isBare h rest
  | escaped c h =>
    exact unquote_outside_backslash c rest

/-! ### Words -/

/-- The segments of a word, in order. -/
abbrev Word := List Segment

namespace Word

/-- What a word stands for. -/
def value (word : Word) : List Char := word.flatMap Segment.value

/-- A word as it is printed. -/
def written (word : Word) : List Char := word.flatMap Segment.written

/-- The scanner comes out of a word as it went in. -/
theorem passes_written (word : Word) : Scan.start.passes word.written = some .start := by
  induction word with
  | nil => rfl
  | cons segment rest ih =>
    exact (Scan.passes_append_of_eq_some segment.passes_written _).trans ih

/-- A word is read back. -/
theorem unquote_written (word : Word) : unquote .outside word.written = word.value := by
  induction word with
  | nil => rfl
  | cons segment rest ih =>
    rw [written, List.flatMap_cons, segment.unquote_written_append, value, List.flatMap_cons]
    exact congrArg _ ih

/-- A word does not end in white space. -/
theorem isBlank_of_mem_getLast?_written (word : Word) :
    ∀ c ∈ word.written.getLast?, Text.isBlank c = false := by
  have hsegment : ∀ segment : Segment,
      ∀ c ∈ segment.written.getLast?, Text.isBlank c = false := by
    intro segment c hc
    cases segment with
    | single text h =>
      rw [Segment.written, List.getLast?_concat] at hc
      cases hc
      decide
    | double text =>
      rw [Segment.written, List.getLast?_concat] at hc
      cases hc
      decide
    | bare text h => exact (isBare_iff.1 (h c (List.mem_of_getLast? hc))).1
    | escaped d h =>
      cases hc
      exact h
  induction word with
  | nil => nofun
  | cons segment rest ih =>
    intro c hc
    rw [written, List.flatMap_cons, List.getLast?_append] at hc
    rcases Option.or_eq_some_iff.1 hc with hc | ⟨-, hc⟩
    · exact ih c hc
    · exact hsegment segment c hc

end Word

end SiteRuntime.Lmod
