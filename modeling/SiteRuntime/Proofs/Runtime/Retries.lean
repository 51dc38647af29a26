import SiteRuntime.FileTree.Change
import SiteRuntime.Proofs.FileTree.Creation
import SiteRuntime.Proofs.Path.Plain

/-!
# Directories of retries

A retry bears a mark at the end of the last segment of its directory. Where all segments are plain
names, the components of that directory are those of the prefix and then the names, so all there is
to know about it can be read off the names.

Of one piece of work all runs have directories of their own, which stand side by side: making one,
emptied or not, leaves alone what lies in the others (`retries_side_by_side`). The directories of
two pieces of work differ as well, unless one is a first run and is named as the mark makes the
other one (`same_stage_iff`). Then the retry of the one empties the directory of the other
(`stage_of_other_work_emptied`).
-/

namespace SiteRuntime

open FileTree (placeOf)

open SiteRuntime.Runtime (eq_ok_of_toOption filesAfter makeOutput makeStage siteContext)

/-! ### The mark of a retry -/

namespace Context

theorem toList_retryMark {run : Nat} (h : run ≠ 0) :
    (retryMark run).toList = '_' :: ("retry".toList ++ Nat.toDigits 10 run) := by
  rw [retryMark, if_neg h]
  simp [toString]

theorem underscore_notMem (run : Nat) : '_' ∉ "retry".toList ++ Nat.toDigits 10 run := by
  rw [List.mem_append]
  exact not_or.2 ⟨by decide, Nat.underscore_not_in_toDigits⟩

/-- What stands around the last occurrence of a character is determined. -/
theorem eq_of_append_cons_eq {c : Char} {a b a' b' : List Char}
    (h : a ++ c :: b = a' ++ c :: b') (hb : c ∉ b) (hb' : c ∉ b') : a = a' ∧ b = b' := by
  have hsplit : Text.splitOnce? c (a ++ c :: b).reverse = some (b.reverse, a.reverse) :=
    Text.splitOnce?_eq_some_iff.2 ⟨by simp, by simpa using hb⟩
  have hsplit' : Text.splitOnce? c (a ++ c :: b).reverse = some (b'.reverse, a'.reverse) :=
    Text.splitOnce?_eq_some_iff.2 ⟨by simp [h], by simpa using hb'⟩
  obtain ⟨hback, hfront⟩ := Prod.mk.inj (Option.some.inj (hsplit.symm.trans hsplit'))
  exact ⟨List.reverse_inj.1 hfront, List.reverse_inj.1 hback⟩

/-- A name and the mark of a retry can be told apart. -/
theorem append_retryMark_inj {a b : String} {run run' : Nat} (hrun : run ≠ 0) (hrun' : run' ≠ 0)
    (h : a ++ retryMark run = b ++ retryMark run') : a = b ∧ run = run' := by
  have hchars := String.toList_inj.2 h
  rw [String.toList_append, String.toList_append, toList_retryMark hrun,
    toList_retryMark hrun'] at hchars
  obtain ⟨hname, hmark⟩ :=
    eq_of_append_cons_eq hchars (underscore_notMem run) (underscore_notMem run')
  refine ⟨String.toList_inj.1 hname, ?_⟩
  rw [← Nat.ofDigitChars_ten_toDigits (n := run), List.append_cancel_left hmark,
    Nat.ofDigitChars_ten_toDigits]

theorem retryMark_ne_empty {run : Nat} (h : run ≠ 0) : retryMark run ≠ "" := by
  intro hempty
  have hchars := toList_retryMark h
  rw [hempty] at hchars
  cases hchars

/-- The marks of two runs differ. -/
theorem retryMark_injective {run run' : Nat} (h : retryMark run = retryMark run') :
    run = run' := by
  by_cases hrun : run = 0
  · by_cases hrun' : run' = 0
    · rw [hrun, hrun']
    · rw [hrun] at h
      exact absurd h.symm (retryMark_ne_empty hrun')
  · by_cases hrun' : run' = 0
    · rw [hrun'] at h
      exact absurd h (retryMark_ne_empty hrun)
    · exact (append_retryMark_inj (a := "") (b := "") hrun hrun' (by rw [h])).2

/-- A plain name stays one with the mark. -/
theorem plain_append_retryMark {s : String} (h : Path.Plain s) (run : Nat) :
    Path.Plain (s ++ retryMark run) := by
  by_cases hrun : run = 0
  · rwa [hrun, retryMark, if_pos rfl, String.append_empty]
  have hmark := toList_retryMark hrun
  have hlong : 6 ≤ (s ++ retryMark run).toList.length := by
    rw [String.toList_append, hmark]
    simp
    omega
  have hne : ∀ t : String, t.toList.length < 6 → s ++ retryMark run ≠ t := by
    rintro t ht rfl
    exact absurd hlong (Nat.not_le.2 ht)
  refine ⟨hne _ (by decide), ?_, hne _ (by decide), hne _ (by decide)⟩
  rw [String.toList_append, hmark, List.mem_append, List.mem_cons, List.mem_append]
  refine not_or.2 ⟨h.2.1, not_or.2 ⟨by decide, not_or.2 ⟨by decide, fun hdigit => ?_⟩⟩⟩
  have := Nat.isDigit_of_mem_toDigits (by decide) (by decide) hdigit
  exact absurd this (by decide)

/-- Only the last segment bears the mark. -/
theorem runSegments_concat (run : Nat) (front : List String) (last : String) :
    runSegments run (front ++ [last]) = front ++ [last ++ retryMark run] := by
  induction front with
  | nil => rfl
  | cons s front ih =>
    obtain ⟨t, more, hmore⟩ := List.exists_cons_of_ne_nil (List.concat_ne_nil last front)
    rw [List.cons_append, hmore, runSegments, ← hmore, ih, List.cons_append]
    exact List.cons_ne_nil t more

/-! ### Whose directory it is -/

theorem plain_runSegments {segments : List String} (h : ∀ s ∈ segments, Path.Plain s) (run : Nat) :
    ∀ s ∈ runSegments run segments, Path.Plain s := by
  rcases List.eq_nil_or_concat segments with rfl | ⟨front, last, rfl⟩
  · nofun
  · rw [List.concat_eq_append, List.forall_mem_append] at h
    rw [List.concat_eq_append, runSegments_concat, List.forall_mem_append]
    exact ⟨h.1, List.forall_mem_singleton.2
      (plain_append_retryMark (List.forall_mem_singleton.1 h.2) run)⟩

/-- The components of the directory of a run are those of the prefix and then the names. -/
theorem components_runPath {segments : List String} (h : ∀ s ∈ segments, Path.Plain s) (p : Path)
    (run : Nat) :
    (runPath p run segments).components = p.components ++ Path.stepsOf (runSegments run segments) :=
  Path.components_join_ofSegments (plain_runSegments h run) p

/-- Two runs have the same names just if they are the same run of the same work, or if one is a
first run and named as the mark makes the other one. -/
theorem runSegments_eq_iff {d d' : List String} (hd : d ≠ []) (hd' : d' ≠ []) {run run' : Nat} :
    runSegments run d = runSegments run' d' ↔
      d = d' ∧ run = run' ∨ run = 0 ∧ run' ≠ 0 ∧ d = runSegments run' d' ∨
        run ≠ 0 ∧ run' = 0 ∧ d' = runSegments run d := by
  by_cases hrun : run = 0
  · by_cases hrun' : run' = 0
    · simp [hrun, hrun']
    · simp [hrun, hrun', Ne.symm hrun']
  · by_cases hrun' : run' = 0
    · simp [hrun, hrun', eq_comm]
    · obtain ⟨front, last, rfl⟩ := (List.eq_nil_or_concat d).resolve_left hd
      obtain ⟨front', last', rfl⟩ := (List.eq_nil_or_concat d').resolve_left hd'
      simp only [List.concat_eq_append, runSegments_concat, hrun, hrun', false_and, and_false,
        or_false]
      constructor
      · intro h
        obtain ⟨rfl, hlast⟩ := List.append_inj' h rfl
        obtain ⟨rfl, hruns⟩ := append_retryMark_inj hrun hrun' (List.singleton_inj.1 hlast)
        exact ⟨rfl, hruns⟩
      · rintro ⟨h, rfl⟩
        obtain ⟨rfl, hlast⟩ := List.append_inj' h rfl
        rw [List.singleton_inj.1 hlast]

variable [Account] in
/-- **Stage directories.** Two runs of work with plain names have the same stage directory just if
they are the same run of the same work, or if one is a first run and named as the mark makes the
other one. -/
theorem same_stage_iff {μ : Type} (c : Context μ) (e : ProcessEnv) {d d' : List String}
    (hd : d ≠ []) (hd' : d' ≠ []) (hplain : ∀ s ∈ d, Path.Plain s)
    (hplain' : ∀ s ∈ d', Path.Plain s)
    (run run' : Nat) {q q' : Path} (hq : c.stagePath e run d = .ok q)
    (hq' : c.stagePath e run' d' = .ok q') :
    (q.components = q'.components ↔ q = q') ∧
      (q = q' ↔ d = d' ∧ run = run' ∨ run = 0 ∧ run' ≠ 0 ∧ d = runSegments run' d' ∨
        run ≠ 0 ∧ run' = 0 ∧ d' = runSegments run d) := by
  obtain ⟨p, hp, rfl⟩ := exists_prefix hq
  obtain ⟨p', hp', rfl⟩ := exists_prefix hq'
  obtain rfl := Except.ok.inj (hp.symm.trans hp')
  have hnames : (runPath p run d).components = (runPath p run' d').components →
      runSegments run d = runSegments run' d' := by
    rw [components_runPath hplain, components_runPath hplain']
    exact fun h => Path.stepsOf_injective (List.append_cancel_left h)
  have hpaths : runSegments run d = runSegments run' d' → runPath p run d = runPath p run' d' := by
    intro h
    rw [runPath, runPath, h]
  rw [← runSegments_eq_iff hd hd']
  exact ⟨⟨fun h => hpaths (hnames h), congrArg Path.components⟩,
    fun h => hnames (congrArg Path.components h), hpaths⟩

section

attribute [local instance] Account.unlisted

theorem same_stage_iff_twelfthRetry :
    siteContext.stagePath .empty 12 ["job"] = .ok (.ofText "/site/stage/ts/job_retry12") ∧
      siteContext.stagePath .empty 2 ["job_retry1"] =
        .ok (.ofText "/site/stage/ts/job_retry1_retry2") ∧
      (Path.ofText "/site/stage/ts/job_retry12").components ≠
        (Path.ofText "/site/stage/ts/job_retry1_retry2").components := by
  have hq : siteContext.stagePath .empty 12 ["job"] =
      .ok (.ofText "/site/stage/ts/job_retry12") := eq_ok_of_toOption (by decide +kernel)
  have hq' : siteContext.stagePath .empty 2 ["job_retry1"] =
      .ok (.ofText "/site/stage/ts/job_retry1_retry2") := eq_ok_of_toOption (by decide +kernel)
  obtain ⟨hcomponents, hsame⟩ := same_stage_iff siteContext .empty (by decide) (by decide)
    (by decide) (by decide) 12 2 hq hq'
  refine ⟨hq, hq', fun h => ?_⟩
  rcases hsame.1 (hcomponents.1 h) with ⟨-, hruns⟩ | ⟨hfirst, -⟩ | ⟨-, hfirst, -⟩
  · exact absurd hruns (by decide)
  · exact absurd hfirst (by decide)
  · exact absurd hfirst (by decide)

end

end Context

namespace Runtime

/-- The context in a run, on a machine with a result in the stage directory of a job. -/
def stagedRuntime (run : Nat) : Runtime Unit where
  machine := ⟨.empty, FileTree.empty.putBelow ["site", "stage", "ts", "job_retry1", "result"]
    (.file [] false), [], ()⟩
  contexts := [⟨siteContext, run⟩]
  current := some 0

attribute [local instance] Account.unlisted

/-- A job may be named as the first retry of another one is marked. That retry empties its
directory. -/
theorem stage_of_other_work_emptied :
    (∀ s ∈ ["job"], Path.Plain s) ∧ (∀ s ∈ ["job_retry1"], Path.Plain s) ∧
      siteContext.stagePath .empty 1 ["job"] = .ok (.ofText "/site/stage/ts/job_retry1") ∧
      siteContext.stagePath .empty 0 ["job_retry1"] = .ok (.ofText "/site/stage/ts/job_retry1") ∧
      ¬(["job"] = ["job_retry1"] ∧ 1 = 0) ∧
      (stagedRuntime 1).machine.files.find? ["site", "stage", "ts", "job_retry1", "result"] =
        some (.file [] false) ∧
      (filesAfter (makeStage ["job"] true) (stagedRuntime 1)).find?
        ["site", "stage", "ts", "job_retry1", "result"] = none :=
  ⟨by decide, by decide, eq_ok_of_toOption (by decide +kernel),
    eq_ok_of_toOption (by decide +kernel), by decide, by decide +kernel, by decide +kernel⟩

end Runtime

/-! ### Directories side by side -/

/-- Two paths are different directories of the same parent, which has the components of a path and
then some names; neither of them lies above the other one. -/
structure Path.Siblings (p : Path) (names : List String) (q q' : Path) : Prop where
  ne : q.components ≠ q'.components
  parent : ∃ parent, q.parent? = some parent ∧ q'.parent? = some parent ∧
    parent.components = p.components ++ stepsOf names
  not_above : ¬q.components <+: q'.components ∧ ¬q'.components <+: q.components

/-- Paths that differ in the last one of some names are siblings. -/
theorem Path.siblings_join {front : List String} {a b : String} (hfront : ∀ s ∈ front, Plain s)
    (ha : Plain a) (hb : Plain b) (hne : a ≠ b) (p : Path) :
    Siblings p front (p.join (ofSegments (front ++ [a]))) (p.join (ofSegments (front ++ [b]))) := by
  have hplain : ∀ {s}, Plain s → ∀ t ∈ front ++ [s], Plain t := forall_mem_concat_plain hfront
  have hparent : ∀ {s}, Plain s → (p.join (ofSegments (front ++ [s]))).parent? =
      some (p.withSteps (p.steps ++ stepsOf front)) := by
    intro s hs
    have hsteps : (p.join (ofSegments (front ++ [s]))).steps =
        p.steps ++ stepsOf front ++ [.name s.toList] := by
      rw [steps_join_ofSegments (hplain hs), stepsOf_append, List.append_assoc]
      rfl
    rw [parent?_eq_some hsteps, withSteps, lead_join_ofSegments (hplain hs), withSteps]
  have hsteps : ∀ c ∈ p.steps ++ stepsOf front, c.IsStep := by
    intro c hc
    refine isStep_of_mem_steps (p := p.join (ofSegments (front ++ [a]))) ?_
    rw [steps_join_ofSegments (hplain ha), stepsOf_append, ← List.append_assoc]
    exact List.mem_append_left _ hc
  have hcomponents : (p.join (ofSegments (front ++ [a]))).components ≠
      (p.join (ofSegments (front ++ [b]))).components := by
    rw [components_join_ofSegments (hplain ha), components_join_ofSegments (hplain hb)]
    intro h
    have hnames := stepsOf_injective (List.append_cancel_left h)
    exact hne (List.singleton_inj.1 (List.append_cancel_left hnames))
  have hlength : (p.join (ofSegments (front ++ [a]))).components.length =
      (p.join (ofSegments (front ++ [b]))).components.length := by
    rw [components_join_ofSegments (hplain ha), components_join_ofSegments (hplain hb)]
    simp [stepsOf]
  refine ⟨hcomponents, ⟨_, hparent ha, hparent hb, ?_⟩, fun h => ?_, fun h => ?_⟩
  · rw [components_withSteps hsteps, components_eq, List.append_assoc]
  · exact hcomponents (h.eq_of_length hlength)
  · exact hcomponents (h.eq_of_length hlength.symm).symm

namespace FileTree

variable {p : Path} {front : List String} {a b : String}

theorem originOf_join (hfront : ∀ s ∈ front, Path.Plain s) (cwd : Position) (p : Path) :
    originOf cwd (p.join (.ofSegments front)) = originOf cwd p := by
  rw [originOf, Path.isAbsolute_join, Path.isAbsolute_ofSegments hfront, Bool.or_false, originOf]

/-- The steps that names joined to a path take, by their names. -/
theorem map_text_steps_join (hfront : ∀ s ∈ front, Path.Plain s) (p : Path) :
    (p.join (.ofSegments front)).steps.map Path.Component.text =
      p.steps.map Path.Component.text ++ front := by
  rw [Path.steps_join_ofSegments hfront, List.map_append, Path.text_stepsOf]

theorem not_dots_of_plain (ha : Path.Plain a) : ¬(a = "." ∨ a = "..") := not_or.2 ha.2.2

/-- One more name leads to its position in the directory before. -/
theorem placeOf_join_concat (hfront : ∀ s ∈ front, Path.Plain s) (ha : Path.Plain a)
    (cwd : Position) (p : Path) :
    placeOf cwd (p.join (.ofSegments (front ++ [a]))) =
      placeOf cwd (p.join (.ofSegments front)) ++ [a] := by
  have hplain := Path.forall_mem_concat_plain hfront ha
  rw [placeOf_eq, placeOf_eq, map_text_steps_join hplain, map_text_steps_join hfront,
    originOf_join hplain, originOf_join hfront, ← List.append_assoc, List.foldl_append,
    List.foldl_cons, List.foldl_nil, goTo_of_name (not_dots_of_plain ha)]

/-- One more name is entered last. -/
theorem enters_join_concat (hfront : ∀ s ∈ front, Path.Plain s) (ha : Path.Plain a)
    (cwd : Position) (p : Path) :
    enters cwd (p.join (.ofSegments (front ++ [a]))) =
      enters cwd (p.join (.ofSegments front)) ++
        [placeOf cwd (p.join (.ofSegments front)) ++ [a]] := by
  have hplain := Path.forall_mem_concat_plain hfront ha
  rw [enters_eq, enters_eq, placeOf_eq, map_text_steps_join hplain, map_text_steps_join hfront,
    originOf_join hplain, originOf_join hfront, ← List.append_assoc, entered_append,
    entered_cons_of_name (not_dots_of_plain ha)]
  rfl

/-- Making a sibling changes nothing at or below the place of a directory, except that a position on
the common way may be new. -/
theorem find?_makeDirectory_sibling (hfront : ∀ s ∈ front, Path.Plain s) (ha : Path.Plain a)
    (hb : Path.Plain b) (hne : a ≠ b) (wipe : Bool) (t : FileTree) {cwd place : Position}
    (hplace : placeOf cwd (p.join (.ofSegments (front ++ [a]))) <+: place) :
    ((makeDirectory cwd (p.join (.ofSegments (front ++ [b]))) wipe).leaves t).find? place =
        t.find? place ∨
      t.find? place = none ∧ place ∈ enters cwd (p.join (.ofSegments front)) := by
  rw [placeOf_join_concat hfront ha] at hplace
  -- both names cannot come next on the way to one position
  have hother : ¬placeOf cwd (p.join (.ofSegments front)) ++ [b] <+: place := by
    intro hother
    have hnames := (List.prefix_of_prefix_length_le hplace hother (by simp)).eq_of_length (by simp)
    exact hne (List.singleton_inj.1 (List.append_cancel_left hnames))
  have hmade := find?_leaves_makeDirectory cwd (p.join (.ofSegments (front ++ [b]))) wipe t
    (q := place) (by rwa [placeOf_join_concat hfront hb])
  rw [enters_join_concat hfront hb] at hmade
  rcases hmade with hsame | ⟨hnone, hentered, -⟩
  · exact .inl hsame
  · refine .inr ⟨hnone, (List.mem_append.1 hentered).resolve_right fun hlast => hother ?_⟩
    exact List.mem_singleton.1 hlast ▸ List.prefix_refl _

theorem text_ne_up {c : Path.Component} (hstep : c.IsStep) (h : c ≠ .up) : c.text ≠ ".." := by
  intro htext
  have hchars : c.chars = ['.', '.'] := by
    rw [← String.toList_ofList (l := c.chars)]
    exact congrArg String.toList htext
  have hup := hstep.2.2
  rw [hchars] at hup
  exact h (Option.some.inj hup).symm

/-- Where the path leads somewhere, or the way to it never leads up, nothing is new there. -/
theorem notMem_enters_of_below (hfront : ∀ s ∈ front, Path.Plain s) (ha : Path.Plain a)
    {t : FileTree} {cwd place : Position}
    (hplace : placeOf cwd (p.join (.ofSegments (front ++ [a]))) <+: place)
    (h : t.leadsToDirectory cwd (p.join (.ofSegments (front ++ [a]))) = true ∨
      .up ∉ p.components) :
    ¬(t.find? place = none ∧ place ∈ enters cwd (p.join (.ofSegments front))) := by
  rintro ⟨hnone, hentered⟩
  rcases h with hleads | hup
  · rw [leadsToDirectory] at hleads
    cases hresolve : t.resolve cwd (p.join (.ofSegments (front ++ [a]))) with
    | error e => rw [hresolve] at hleads; cases hleads
    | ok found =>
      have hthere := find?_isSome_of_resolve hresolve place (by
        rw [enters_join_concat hfront ha]
        exact List.mem_append_left _ hentered)
      rw [hnone] at hthere
      cases hthere
  · rw [placeOf_join_concat hfront ha, placeOf_eq] at hplace
    rw [enters_eq] at hentered
    have hdown : ".." ∉ (p.join (.ofSegments front)).steps.map Path.Component.text := by
      rw [map_text_steps_join hfront, List.mem_append]
      refine not_or.2 ⟨fun hmem => ?_, fun hmem => (hfront _ hmem).2.2.2 rfl⟩
      obtain ⟨c, hc, htext⟩ := List.mem_map.1 hmem
      refine text_ne_up (Path.isStep_of_mem_steps hc) ?_ htext
      rintro rfl
      exact hup (Path.components_eq p ▸ List.mem_append_right _ hc)
    -- what is entered on the way lies above the directory
    have hlength := (hplace.trans (prefix_of_mem_entered hdown hentered).2).length_le
    rw [List.length_append] at hlength
    exact Nat.not_succ_le_self _ hlength

end FileTree

/-- **Side by side.** What it means that the runs of one piece of work have directories of their own
below a prefix, where `pathOf` and `make` tell and make the directory of a run. -/
structure SideBySide {μ : Type} (prefixOf : Context μ → ProcessEnv → Except ConfigError Path)
    (pathOf : Context μ → ProcessEnv → Nat → List String → Except ConfigError Path)
    (make : List String → Bool → Runtime.Op μ Path) (segments : List String) (run run' : Nat) :
    Prop where
  /-- Without segments the directory of every run is the prefix. -/
  same_of_nil : segments = [] → ∀ c e p, prefixOf c e = .ok p →
    ∃ q, pathOf c e run segments = .ok q ∧ q.components = p.components
  /-- The directories of the two runs have the same parent, the prefix followed by all segments but
  the last. -/
  siblings : segments ≠ [] → ∀ c e p, prefixOf c e = .ok p →
    ∃ q q', pathOf c e run segments = .ok q ∧ pathOf c e run' segments = .ok q' ∧
      Path.Siblings p segments.dropLast q q'
  /-- Making the directory of the one run keeps every entry at and below that of the other. Nothing
  is new there either if that directory is there, or if the prefix never leads up: what this leaves
  out is a directory that does not exist yet, below a prefix with a `..` in it. -/
  untouched : segments ≠ [] → ∀ c (rt : Runtime μ) p q, rt.current? = some ⟨c, run'⟩ →
    prefixOf c rt.machine.env = .ok p → pathOf c rt.machine.env run segments = .ok q →
    ∀ wipe place, placeOf rt.machine.cwd q <+: place →
      (∀ entry, rt.machine.files.find? place = some entry →
        (filesAfter (make segments wipe) rt).find? place = some entry) ∧
      (rt.machine.files.leadsToDirectory rt.machine.cwd q = true ∨ .up ∉ p.components →
        (filesAfter (make segments wipe) rt).find? place = rt.machine.files.find? place)

/-- Directories below any prefix lie side by side. -/
theorem sideBySide_workPath {μ : Type}
    (prefixOf : Context μ → ProcessEnv → Except ConfigError Path) {segments : List String}
    (hplain : ∀ s ∈ segments, Path.Plain s) {run run' : Nat} (hrun : run ≠ run') :
    SideBySide prefixOf
      (fun c e run segments => (prefixOf c e).map fun p => Context.runPath p run segments)
      (fun segments wipe => Runtime.workPath prefixOf segments >>= fun path =>
        Runtime.makeDirectory path wipe) segments run run' := by
  rcases List.eq_nil_or_concat segments with rfl | ⟨front, last, rfl⟩
  · refine ⟨fun _ c e p hp => ⟨Context.runPath p run [], by rw [hp]; rfl, ?_⟩,
      fun h => absurd rfl h, fun h => absurd rfl h⟩
    rw [Context.components_runPath hplain]
    exact List.append_nil _
  rw [List.concat_eq_append] at hplain ⊢
  obtain ⟨hfront, hlast⟩ := List.forall_mem_append.1 hplain
  have hmarked := fun run =>
    Context.plain_append_retryMark (List.forall_mem_singleton.1 hlast) run
  have hne : last ++ Context.retryMark run ≠ last ++ Context.retryMark run' := fun h =>
    hrun (Context.retryMark_injective ((String.append_right_inj last).1 h))
  have hpath : ∀ p run, Context.runPath p run (front ++ [last]) =
      p.join (.ofSegments (front ++ [last ++ Context.retryMark run])) := fun p run => by
    rw [Context.runPath, Context.runSegments_concat]
  refine ⟨fun h => absurd h (List.concat_ne_nil last front), fun _ c e p hp =>
    ⟨Context.runPath p run (front ++ [last]), Context.runPath p run' (front ++ [last]),
      by rw [hp]; rfl, by rw [hp]; rfl, ?_⟩, fun _ c rt p q hr hp hq wipe place hplace => ?_⟩
  · rw [hpath, hpath, List.dropLast_concat]
    exact Path.siblings_join hfront (hmarked run) (hmarked run') hne p
  · rw [hp] at hq
    obtain rfl : Context.runPath p run (front ++ [last]) = q := Except.ok.inj hq
    rw [hpath] at hplace ⊢
    rw [Runtime.filesAfter_workPath hr hp, hpath]
    rcases FileTree.find?_makeDirectory_sibling hfront (hmarked run) (hmarked run') hne wipe
      rt.machine.files hplace with hsame | hnew
    · exact ⟨fun entry hentry => hsame.trans hentry, fun _ => hsame⟩
    · refine ⟨fun entry hentry => ?_, fun h =>
        absurd hnew (FileTree.notMem_enters_of_below hfront (hmarked run) hplace h)⟩
      cases hnew.1.symm.trans hentry

variable [Account] in
/-- **Directories of retries.** The stage directories of two runs lie side by side below the stage
prefix, and their output directories below the output prefix. -/
theorem retries_side_by_side {μ : Type} (segments : List String)
    (hplain : ∀ s ∈ segments, Path.Plain s) (run run' : Nat) (hrun : run ≠ run') :
    SideBySide (μ := μ) Context.stagePrefix Context.stagePath Runtime.makeStage segments run run' ∧
      SideBySide (μ := μ) Context.outputPrefix Context.outputPath Runtime.makeOutput segments
        run run' :=
  ⟨sideBySide_workPath Context.stagePrefix hplain hrun,
    sideBySide_workPath Context.outputPrefix hplain hrun⟩

attribute [local instance] Account.unlisted

theorem retries_side_by_side_of_job :
    (∀ s ∈ ["job"], Path.Plain s) ∧ 1 ≠ 12 ∧
      siteContext.stagePath .empty 1 ["job"] = .ok (.ofText "/site/stage/ts/job_retry1") ∧
      (∃ q q', siteContext.stagePath .empty 1 ["job"] = .ok q ∧
        siteContext.stagePath .empty 12 ["job"] = .ok q' ∧
        Path.Siblings (.ofText "/site/stage/ts") [] q q') ∧
      (Runtime.stagedRuntime 12).machine.files.find?
        ["site", "stage", "ts", "job_retry1", "result"] = some (.file [] false) ∧
      (filesAfter (makeStage ["job"] true) (Runtime.stagedRuntime 12)).find?
        ["site", "stage", "ts", "job_retry1", "result"] = some (.file [] false) := by
  have hplain : ∀ s ∈ ["job"], Path.Plain s := by decide
  have hpath : siteContext.stagePath .empty 1 ["job"] =
      .ok (.ofText "/site/stage/ts/job_retry1") := eq_ok_of_toOption (by decide +kernel)
  have hresult : (Runtime.stagedRuntime 12).machine.files.find?
      ["site", "stage", "ts", "job_retry1", "result"] = some (.file [] false) := by decide +kernel
  obtain ⟨hstage, -⟩ := retries_side_by_side (μ := Unit) ["job"] hplain 1 12 (by decide)
  have hprefix := Runtime.stagePrefix_siteContext
  refine ⟨hplain, by decide, hpath, hstage.siblings (by decide) siteContext .empty _ hprefix,
    hresult, ?_⟩
  exact (hstage.untouched (by decide) siteContext (Runtime.stagedRuntime 12) _ _ rfl hprefix hpath
    true _ (by decide +kernel)).1 _ hresult

end SiteRuntime
