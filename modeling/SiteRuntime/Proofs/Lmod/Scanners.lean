import SiteRuntime.Proofs.Lmod.Word

/-!
# Two scanners that follow the quotes

An output is scanned for its quotes twice: as a whole, to cut it into pieces, and then value by
value, to take the quotes off. The first scanner takes one character at a time and remembers a
backslash that it has passed; the second takes a backslash together with what follows it, and has
rules of its own for what is kept of the two.

Still the two go through the same places. `Scan.unquote` takes the quotes off a text from a place of
the first scanner on, and a character that brings the first scanner from one place to another does
the same for the second one (`exists_unquote_cons`), hence a text does (`exists_unquote_append`). So
a text is `Closed` for the second scanner just if it brings the first one back to its start
(`closed_iff`).

A separator is met at that place only, and always ends a piece there (`not_closed_of_passes`). So
every piece that a separator ends is read on its own, and no piece could have been ended before; and
of the output, which is cut between characters, the separators and the blank pieces alone are left
out (`scanners_agree`).
-/

namespace SiteRuntime.Lmod

namespace Scan

/-- Whether a scanner can stand there: between single quotes no backslash is obeyed. -/
def Reachable (s : Scan) : Prop := s.escaped = true → s.quotes ≠ .single

theorem reachable_start : start.Reachable := nofun

theorem reachable_next (s : Scan) (c : Char) : (s.next c).Reachable := by
  grind [Reachable, next]

/-- What is left of a text without its quotes and backslashes if the scanner stands before it. A
backslash that has been passed counts with the text. -/
def unquote (s : Scan) (text : List Char) : List Char :=
  Lmod.unquote s.quotes (if s.escaped then '\\' :: text else text)

/-- **One character.** What is kept of it does not depend on what follows, and from behind it the
quotes are taken off as from where the cutting scanner stands there. -/
theorem exists_unquote_cons {s : Scan} (h : s.Reachable) (c : Char) :
    ∃ kept, ∀ rest, s.unquote (c :: rest) = kept ++ (s.next c).unquote rest := by
  obtain ⟨quotes, escaped⟩ := s
  cases escaped with
  | true =>
    -- the backslash goes with the character, whichever it is
    cases quotes with
    | outside => exact ⟨[c], unquote_outside_backslash c⟩
    | single => exact absurd rfl (h rfl)
    | double =>
      cases hc : isEscapable c with
      | true => exact ⟨[c], unquote_double_backslash hc⟩
      | false => exact ⟨['\\', c], unquote_double_kept hc⟩
  | false =>
    by_cases hbackslash : c = '\\'
    · -- a backslash waits for its character, but stands for itself between single quotes
      subst hbackslash
      cases quotes with
      | outside => exact ⟨[], fun _ => rfl⟩
      | single => exact ⟨['\\'], unquote_single_cons '\\'⟩
      | double => exact ⟨[], fun _ => rfl⟩
    by_cases hsingle : c = '\''
    · -- each kind of quote opens or closes, but stands for itself between the other kind
      subst hsingle
      cases quotes with
      | outside => exact ⟨[], unquote_outside_single⟩
      | single => exact ⟨[], unquote_single_cons '\''⟩
      | double => exact ⟨['\''], unquote_double_of_ne (by decide) (by decide)⟩
    by_cases hdouble : c = '"'
    · subst hdouble
      cases quotes with
      | outside => exact ⟨[], unquote_outside_double⟩
      | single => exact ⟨['"'], unquote_single_cons '"'⟩
      | double => exact ⟨[], unquote_double_double⟩
    have hnext : next ⟨quotes, false⟩ c = ⟨quotes, false⟩ := by
      simp [next, hbackslash, hsingle, hdouble]
    rw [hnext]
    refine ⟨[c], fun rest => ?_⟩
    cases quotes with
    | outside => exact unquote_outside_of_ne hsingle hdouble hbackslash rest
    | single => exact (unquote_single_cons c rest).trans (if_neg hsingle)
    | double => exact unquote_double_of_ne hdouble hbackslash rest

/-- **A text.** The scanners come out of it at the same place. -/
theorem exists_unquote_append {s : Scan} (h : s.Reachable) (text : List Char) :
    ∃ kept, ∀ rest, s.unquote (text ++ rest) = kept ++ (s.after text).unquote rest := by
  induction text generalizing s with
  | nil => exact ⟨[], fun _ => rfl⟩
  | cons c text ih =>
    obtain ⟨first, hfirst⟩ := exists_unquote_cons h c
    obtain ⟨kept, hkept⟩ := ih (reachable_next s c)
    refine ⟨first ++ kept, fun rest => ?_⟩
    rw [List.cons_append, hfirst, hkept, List.append_assoc]
    rfl

theorem reachable_after {s : Scan} (h : s.Reachable) (text : List Char) :
    (s.after text).Reachable := by
  induction text generalizing s with
  | nil => exact h
  | cons c text ih => exact ih (reachable_next s c)

/-- Between quotes or behind a backslash a text is not read as from the start: what comes next would
show it. -/
theorem exists_unquote_ne {s : Scan} (h : s.Reachable) (hs : s ≠ start) :
    ∃ rest, s.unquote rest ≠ s.unquote [] ++ start.unquote rest := by
  obtain ⟨quotes, escaped⟩ := s
  cases quotes with
  | outside =>
    cases escaped with
    | false => exact absurd rfl hs
    | true => exact ⟨['\''], by decide⟩
  | single =>
    cases escaped with
    | false => exact ⟨['\\'], by decide⟩
    | true => exact absurd rfl (h rfl)
  | double => cases escaped <;> exact ⟨['\''], by decide⟩

end Scan

/-- Whether nothing is open at the end of a text, no quotes and no backslash: what comes next is
read as if nothing stood before it. -/
def Closed (text : List Char) : Prop :=
  ∀ word, unquote .outside (text ++ word) = unquote .outside text ++ unquote .outside word

/-- **Where the scanners agree.** A text is closed just if the cutting scanner comes back to its
start. -/
theorem closed_iff {text : List Char} : Closed text ↔ Scan.start.after text = .start := by
  obtain ⟨kept, hkept⟩ := Scan.exists_unquote_append Scan.reachable_start text
  have halone := hkept []
  rw [List.append_nil] at halone
  constructor
  · intro h
    -- from any other place some word is read in another way than from the start
    by_contra hopen
    obtain ⟨word, hword⟩ :=
      Scan.exists_unquote_ne (Scan.reachable_after Scan.reachable_start text) hopen
    have hwhole : Scan.start.unquote (text ++ word) =
        Scan.start.unquote text ++ Scan.start.unquote word := h word
    rw [hkept, halone, List.append_assoc] at hwhole
    exact hword (List.append_cancel_left hwhole)
  · intro hclosed word
    have hnil : Scan.start.unquote [] = [] := rfl
    rw [hclosed, hnil, List.append_nil] at halone
    rw [hclosed, ← halone] at hkept
    exact hkept word

/-- Where a `;` or a line end was passed, something was open. -/
theorem not_closed_of_passes {s : Scan} {front back : List Char} {c : Char}
    (h : Scan.start.passes (front ++ c :: back) = some s) (hc : c = ';' ∨ c = '\n') :
    ¬Closed front := by
  intro hclosed
  rw [Scan.passes_append] at h
  obtain ⟨s', hfront, hback⟩ := Option.bind_eq_some_iff.1 h
  -- the scanner would be back at its start, where both characters separate
  obtain rfl : Scan.start = s' :=
    (closed_iff.1 hclosed).symm.trans (Scan.after_of_passes hfront)
  have hseparates : Scan.start.separates c = true := by rcases hc with rfl | rfl <;> rfl
  rw [Scan.passes, hseparates] at hback
  cases hback

/-! ### Offsets -/

/-- Where something is made of every item, something is made of each. -/
theorem exists_of_mapM {α β : Type} {f : α → Option β} {items : List α} {out : List β}
    (h : items.mapM f = some out) : ∀ a ∈ items, ∃ b, f a = some b := by
  induction items generalizing out with
  | nil => exact List.forall_mem_nil _
  | cons a items ih =>
    rw [List.mapM_cons] at h
    obtain ⟨b, hb, h⟩ := Option.bind_eq_some_iff.1 h
    obtain ⟨rest, hrest, -⟩ := Option.bind_eq_some_iff.1 h
    exact List.forall_mem_cons.2 ⟨⟨b, hb⟩, ih hrest⟩

/-- The offsets of a piece are positions of the output as a string. -/
theorem isValid_of_mem_spans {output : List Char} {span : Span}
    (h : span ∈ spans .start 0 0 output) :
    String.Pos.Raw.IsValid (.ofList output) ⟨span.start⟩ ∧
      String.Pos.Raw.IsValid (.ofList output) ⟨span.stop⟩ := by
  obtain ⟨piece, hpiece⟩ := exists_of_mapM (pieces?_eq output) span h
  obtain ⟨front, back, houtput, hstart, hstop⟩ := Text.slice?_eq_some_iff.1 hpiece
  rw [List.append_assoc] at houtput
  refine ⟨Text.cut?_isSome_iff_isValid.1 ?_, Text.cut?_isSome_iff_isValid.1 ?_⟩
  · exact Text.cut?_isSome_iff.2 ⟨front, piece ++ back, houtput, hstart⟩
  · rw [← List.append_assoc] at houtput
    exact Text.cut?_isSome_iff.2 ⟨front ++ piece, back, houtput, hstop⟩

/-! ### Pieces -/

/-- **The scanners agree on every output.** It is cut at positions of it as a string only. It
consists of pieces that a `;` or a line end ends, one after the other, and of a last piece, and all
of them are cut out and returned in order but for those that are blank. A piece that a separator
ends is closed; the last one is closed just if the cutting scanner comes back to its start. In no
piece is there a `;` or a line end where nothing is open. -/
theorem scanners_agree (output : List Char) :
    (∀ span ∈ spans .start 0 0 output, String.Pos.Raw.IsValid (.ofList output) ⟨span.start⟩ ∧
      String.Pos.Raw.IsValid (.ofList output) ⟨span.stop⟩) ∧
    ∃ (ended : List Ended) (last : List Char), ended.flatMap Ended.written ++ last = output ∧
      pieces? output = some (ended.map Ended.piece ++ [last]) ∧
      statementTexts output =
        (ended.map Ended.piece ++ [last]).filter (fun piece => !Text.isBlankText piece) ∧
      (∀ e ∈ ended, Closed e.piece) ∧ (Closed last ↔ Scan.start.after output = .start) ∧
      ∀ piece ∈ ended.map Ended.piece ++ [last], ∀ front c back, piece = front ++ c :: back →
        c = ';' ∨ c = '\n' → ¬Closed front := by
  obtain ⟨ended, last, houtput, hended, hlast, hcut⟩ := exists_ended output
  have hpieces : cut .start output = ended.map Ended.piece ++ [last] := by
    have hend := hcut []
    rwa [List.append_nil, cut, joinFirst, List.append_nil] at hend
  refine ⟨fun span => isValid_of_mem_spans, ended, last, houtput, ?_, ?_, fun e he => ?_, ?_, ?_⟩
  · rw [pieces?_eq, hpieces]
  · rw [statementTexts_eq, hpieces]
  · exact closed_iff.2 (Scan.after_of_passes (hended e he))
  · rw [closed_iff, Scan.after_of_passes hlast]
  · have hpasses : ∀ piece ∈ ended.map Ended.piece ++ [last],
        ∃ s, Scan.start.passes piece = some s := by
      rw [List.forall_mem_append, List.forall_mem_singleton, List.forall_mem_map]
      exact ⟨fun e he => ⟨_, hended e he⟩, _, hlast⟩
    rintro piece hpiece front c back rfl hc
    obtain ⟨s, hs⟩ := hpasses _ hpiece
    exact not_closed_of_passes hs hc

/-- A quoted `;` is no end of a piece, a blank piece is left out, and quotes that are not closed
leave the last piece open. -/
theorem scanners_agree_quotedSemicolon :
    statementTexts "a='x;y'; ;b=\"é".toList = ["a='x;y'".toList, "b=\"é".toList] ∧
      ∃ (ended : List Ended) (last : List Char),
        ended.flatMap Ended.written ++ last = "a='x;y'; ;b=\"é".toList ∧
        ended.map Ended.piece = ["a='x;y'".toList, " ".toList] ∧ last = "b=\"é".toList ∧
        (∀ e ∈ ended, Closed e.piece) ∧ ¬Closed last ∧ ¬Closed "a='x".toList := by
  obtain ⟨-, ended, last, houtput, hpieces, htexts, hclosed, hlast, hopen⟩ :=
    scanners_agree "a='x;y'; ;b=\"é".toList
  have hcut : pieces? "a='x;y'; ;b=\"é".toList =
      some (["a='x;y'".toList, " ".toList] ++ ["b=\"é".toList]) := by decide +kernel
  obtain ⟨hended, hsingle⟩ := List.append_inj' (Option.some.inj (hpieces.symm.trans hcut)) rfl
  obtain rfl := List.singleton_inj.1 hsingle
  refine ⟨by rw [htexts, hended]; decide +kernel, ended, _, houtput, hended, rfl, hclosed, ?_, ?_⟩
  · rw [hlast]
    decide +kernel
  · have hpiece : "a='x;y'".toList ∈ ended.map Ended.piece ++ ["b=\"é".toList] := by
      rw [hended]
      decide
    exact hopen _ hpiece "a='x".toList ';' "y'".toList rfl (.inl rfl)

/-- Separators in quotes and behind backslashes end no piece, and characters take more bytes than
one. -/
example :
    statementTexts "é='a;b'\\;\n \n;ü=\"\\\";€\";x='".toList =
      ["é='a;b'\\;".toList, "ü=\"\\\";€\"".toList, "x='".toList] := by decide +kernel

end SiteRuntime.Lmod
