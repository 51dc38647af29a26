import SiteRuntime.FileTree.Change
import SiteRuntime.Proofs.CommandLine.Conclusion
import SiteRuntime.Proofs.FileTree.Copy

/-!
# What is kept of a job

After a successful attempt the output directory of its run is made and emptied, and the files of the
attempt are copied there from the stage directory. Where there is room for them
(`FileTree.RoomFor`), which asks above all that the stage directory does not lie in the output
directory, the job comes to its end, and what the files held when it ended can be read in the output
directory (`output_kept`).

The two directories are configured apart, and nothing sees to it that they differ. Where they are
the same, making the output directory removes what is to be kept (`output_lost`).
-/

namespace SiteRuntime.CommandLine

open FileTree (Deposit FileName Holds RoomFor)

open Stateful (answer left)

open Console Retry SiteRuntime.Runtime

variable {μ : Type}

theorem fileName_of_mem_keptFiles : ∀ name ∈ keptFiles, FileName name := by decide +kernel

/-! ### Keeping files -/

/-- Where a directory can be made, the runtime makes it. -/
theorem makeDirectory_of_ok {path : Path} {wipe : Bool} {rt : Runtime μ} {files : FileTree}
    (h : FileTree.makeDirectory rt.machine.cwd path wipe rt.machine.files = .ok () files) :
    Runtime.makeDirectory path wipe rt =
      .ok path { rt with machine := { rt.machine with files } } := by
  have hedit : Runtime.editing path (fun cwd => FileTree.makeDirectory cwd path wipe) rt =
      .ok () { rt with machine := { rt.machine with files } } := by rw [Runtime.editing, h]
  rw [Runtime.makeDirectory, Stateful.bind_of_ok hedit]
  rfl

theorem makeOutput_of_ok [Account] {c : Console μ} {context : Context μ} {run : Nat}
    {segments : List String} {output : Path} {files : FileTree}
    (hc : c.runtime.current? = some ⟨context, run⟩)
    (houtput : context.outputPath c.runtime.machine.env run segments = .ok output)
    (hmade : FileTree.makeDirectory c.runtime.machine.cwd output true c.runtime.machine.files =
      .ok () files) :
    onRuntime (makeOutput segments true) c = .ok output (withFiles c files) := by
  obtain ⟨p, hp, rfl⟩ := Context.exists_prefix houtput
  refine onRuntime_of_ok ?_
  rw [makeOutput, outputPath_eq, Stateful.bind_of_ok (workPath_of_current? hc hp segments)]
  exact makeDirectory_of_ok hmade

theorem copyFile_of_ok {c : Console μ} {source target : Path} {files : FileTree}
    (h : c.runtime.machine.files.copy c.runtime.machine.cwd source target = .ok files)
    (what : String) :
    during what (copyFile source target) c = .ok () (withFiles c files) := by
  refine during_eq_ok_iff.2 ?_
  rw [copyFile, Console.editing, h]
  rfl

/-- Files are copied one after the other, and all copies are there in the end. -/
theorem copies_of_deposit {all names : List String} {stage output : Path}
    {contents : String → Bytes} {c : Console μ}
    (h : Deposit c.runtime.machine.files c.runtime.machine.cwd stage output all contents)
    (hall : ∀ name ∈ all, FileName name) (hnames : ∀ name ∈ names, name ∈ all)
    (what : String → String) :
    ∃ files, (names.forM fun name => during (what name)
        (copyFile (stage.joinText name) (output.joinText name))) c = .ok () (withFiles c files) ∧
      Deposit files c.runtime.machine.cwd stage output all contents ∧
      (∀ name ∈ names, Holds files c.runtime.machine.cwd output contents name) ∧
      ∀ name, Holds c.runtime.machine.files c.runtime.machine.cwd output contents name →
        Holds files c.runtime.machine.cwd output contents name := by
  -- what is kept through a copy is `Deposit`, for all names and not only for those still to come
  induction names generalizing c with
  | nil => exact ⟨c.runtime.machine.files, rfl, h, nofun, fun _ => id⟩
  | cons name names ih =>
    obtain ⟨hname, hnames⟩ := List.forall_mem_cons.1 hnames
    obtain ⟨files₁, hcopy, hdeposit, hholds, hkept⟩ := h.copy hname hall
    obtain ⟨files, hcopies, hdeposit', hholds', hkept'⟩ :=
      ih (c := withFiles c files₁) hdeposit hnames
    refine ⟨files, ?_, hdeposit', List.forall_mem_cons.2 ⟨hkept' name hholds, hholds'⟩,
      fun other hother => hkept' other (hkept other hother)⟩
    exact (Stateful.bind_of_ok (copyFile_of_ok hcopy (what name))).trans hcopies

/-- **Keeping the files of an attempt.** Where there is room in the output directory, they are kept,
and each can be read there as it could be read in the stage directory. -/
theorem keepOutput_of_roomFor [Account] {c : Console μ} {context : Context μ} {run : Nat}
    {segments : List String} {stage output : Path} {contents : String → Bytes}
    (hc : c.runtime.current? = some ⟨context, run⟩)
    (houtput : context.outputPath c.runtime.machine.env run segments = .ok output)
    (hroom : RoomFor c.runtime.machine.files c.runtime.machine.cwd stage output keptFiles)
    (hcontents : ∀ name ∈ keptFiles, c.runtime.machine.files.content c.runtime.machine.cwd
      (stage.joinText name) = .ok (contents name)) :
    ∃ files, keepOutput segments stage c = .ok output (withFiles c files) ∧
      ∀ name ∈ keptFiles,
        files.content c.runtime.machine.cwd (output.joinText name) = .ok (contents name) := by
  obtain ⟨files₁, hmade, hdeposit⟩ := hroom.makeDirectory fileName_of_mem_keptFiles hcontents
  obtain ⟨files, hcopies, hdeposit', hholds, -⟩ := copies_of_deposit
    (c := withFiles c files₁) hdeposit fileName_of_mem_keptFiles
    (fun name (hname : name ∈ keptFiles) => hname) fun name => s!"Failed to copy {name} to {output}"
  refine ⟨files, ?_, fun name hname =>
    hdeposit'.content hname (fileName_of_mem_keptFiles name hname) (hholds name hname)⟩
  rw [keepOutput, Stateful.bind_of_ok (makeOutput_of_ok hc houtput hmade)]
  exact Stateful.bind_of_ok hcopies

/-! ### The whole job -/

section Job

variable [Account] {around : Surroundings μ} {plan : RunPlan} {json : Bool} {setting : JobSetting}
  {context : Context μ} {c c₁ : Console μ} {attempts : List Attempt} {a : Attempt}

/-- The attempts that are made are those of a course, and one that was a success is the last. -/
theorem exists_last_of_succeeded {env : ProcessEnv} {printed : String}
    (hc : InRun context env printed 0 c)
    (hrun : Retry.run (tryJob around plan json setting) (tryAgain plan json) Attempt.succeeded
      plan.retries c = .ok attempts c₁) (ha : a ∈ attempts) (hgood : a.succeeded = true) :
    ∃ bad last, Retry.run (tryJob around plan json setting) (tryAgain plan json)
        Attempt.succeeded plan.retries c = outcome bad last ∧
      last.came = .ok a ∧ last.finish = c₁ ∧
      Numbered around plan json setting context env printed a.run last := by
  obtain ⟨bad, last, hcourse, hnumbered, hout⟩ :=
    exists_course_tryJob around plan json setting hc plan.retries
  rw [hout, outcome] at hrun
  cases hlast : last.came with
  | error e => rw [hlast] at hrun; cases hrun
  | ok b =>
    rw [hlast] at hrun
    obtain ⟨rfl, rfl⟩ : answers (bad ++ [last]) = attempts ∧ last.finish = c₁ := by
      cases hrun
      exact ⟨rfl, rfl⟩
    obtain rfl : a = b := by
      obtain ⟨t, ht, hcame⟩ := List.mem_filterMap.1 ha
      rcases List.mem_append.1 ht with ht | ht
      · -- all attempts before the last one were made in vain
        obtain ⟨b', hb', hbad⟩ := hcourse.notGood t ht
        rw [hb'] at hcame
        cases hcame
        rw [hgood] at hbad
        cases hbad
      · rw [List.mem_singleton.1 ht, hlast] at hcame
        exact (Option.some.inj hcame).symm
    have hnumber := hnumbered bad.length last (by simp)
    exact ⟨bad, last, hout, hlast, rfl, (hnumber.came a hlast).1 ▸ hnumber⟩

/-- The files after an attempt are those that its job has left. -/
theorem Attempted.exists_spawn {run : Nat} {t : Trial Trouble (Console μ) Attempt}
    (h : Attempted around plan json setting run t) (ha : t.came = .ok a) :
    ∃ job m ended, around.spawn job m = .ended ended t.finish.runtime.machine.files ∧
      job.directory = a.stage ∧ plan.command = job.program :: job.arguments := by
  cases h with
  | noStage hstage => cases ha
  | aborted hstage hjob => cases ha
  | completed hstage hjob hasked hended hmade =>
    cases ha
    obtain ⟨hdirectory, hcommand⟩ := RunPlan.eq_of_job? hasked
    rw [runtime_told]
    exact ⟨_, _, _, hended, hmade ▸ hdirectory, hcommand⟩

variable (around plan json) in
/-- **The output of a job is kept.** If an attempt at a job is successful, the output directory of
its run can be told, the files that are to be kept can be read in the stage directory when the job
has ended, and there is room for them, then the job ends without a failure, and in the output
directory the files hold what they held in the stage directory. -/
theorem output_kept {output : Path} (contents : String → Bytes)
    (hc : c.runtime.current? = some ⟨context, 0⟩) (hprepare : prepareJob plan c = .ok setting c)
    (hrun : Retry.run (tryJob around plan json setting) (tryAgain plan json) Attempt.succeeded
      plan.retries c = .ok attempts c₁) (ha : a ∈ attempts) (hgood : a.succeeded = true)
    (houtput : context.outputPath c.runtime.machine.env a.run setting.segments = .ok output)
    (hcontents : ∀ name ∈ keptFiles, c₁.runtime.machine.files.content c₁.runtime.machine.cwd
      (a.stage.joinText name) = .ok (contents name))
    (hroom : RoomFor c₁.runtime.machine.files c₁.runtime.machine.cwd a.stage output keptFiles) :
    (∃ job m ended, around.spawn job m = .ended ended c₁.runtime.machine.files ∧
        job.directory = a.stage ∧ plan.command = job.program :: job.arguments) ∧
      ∃ c', runJob around plan json c = .ok () c' ∧ ∀ name ∈ keptFiles,
        c'.runtime.machine.files.content c'.runtime.machine.cwd (output.joinText name) =
          .ok (contents name) := by
  obtain ⟨bad, last, hout, hlast, rfl, -, hfinish, hattempted, -⟩ :=
    exists_last_of_succeeded ⟨hc, rfl, rfl⟩ hrun ha hgood
  obtain ⟨files, hkeep, hheld⟩ :=
    keepOutput_of_roomFor hfinish.current (hfinish.env ▸ houtput) hroom hcontents
  have hjob := runJob_of_ok hprepare hout hlast
  rw [if_pos hgood, Stateful.bind_of_ok hkeep] at hjob
  obtain ⟨c', hconcluded, hruntime, -⟩ :=
    concludeJob_some plan json (answers (bad ++ [last])) output (last.finish.withFiles files)
  refine ⟨hattempted.exists_spawn hlast, c', hjob.trans hconcluded, ?_⟩
  rw [hruntime]
  exact hheld

end Job

attribute [local instance] Account.unlisted

/-- The context of a site with one partition, where a variable is set for every job. -/
def jobContext : Context Unit :=
  { siteContext with
    system := ⟨"generic", "", [], [⟨"login", "", "local", "local", [], [], [], []⟩],
      ⟨"preload", [], [("CC", "gcc")]⟩, .noModules⟩ }

/-- A console in the first run of the context. -/
def buildConsole : Console Unit := ⟨⟨bareMachine, [⟨jobContext, 0⟩], some 0⟩, "", ""⟩

/-- What the job is run with. -/
def buildSetting : JobSetting :=
  ⟨["generic", "login", "default", "build"],
    [⟨"preload", [], [("CC", "gcc")]⟩, ⟨"_hpcrt_part_generic_login", [], []⟩]⟩

/-- A job that prints a line and fails in the first stage directory of the site only. -/
def printingJob : Spawner Unit := fun job m =>
  let first : Path := .ofText "/site/stage/ts/generic/login/default/build"
  match m.files.write m.cwd job.stdout (Bytes.ofText "done\n") with
  | .ok files => .ended ⟨some (if job.directory = first then 2 else 0), false, 5⟩ files
  | .error cause => .notStarted cause

/-- Surroundings in which all jobs are like that. -/
def printingSurroundings : Surroundings Unit := { flakySurroundings with spawn := printingJob }

/-- All attempts at this job. -/
def printingAttempts : M Unit (List Attempt) :=
  Retry.run (tryJob printingSurroundings buildPlan false buildSetting) (tryAgain buildPlan false)
    Attempt.succeeded buildPlan.retries

/-- What this job leaves in the files that are kept. -/
def printedContents (name : String) : Bytes :=
  if name = stdoutFile then Bytes.ofText "done\n"
  else if name = envFile then Bytes.ofText "export CC=gcc\n"
  else []

/-- A tree with these files in a directory. -/
def withPrinted (directory : Position) (t : FileTree) : FileTree :=
  keptFiles.foldl (fun t name => t.putBelow (directory ++ [name])
    (.file (printedContents name) false)) t

/-- What the job has printed on its first retry is kept. -/
theorem output_kept_firstRetry :
    let stage : Path := .ofText "/site/stage/ts/generic/login/default/build_retry1"
    let output : Path := .ofText "/site/output/ts/generic/login/default/build_retry1"
    ∃ attempts c₁ c', printingAttempts buildConsole = .ok attempts c₁ ∧
      ⟨1, stage, ⟨some 0, false, 5⟩⟩ ∈ attempts ∧
      RoomFor c₁.runtime.machine.files c₁.runtime.machine.cwd stage output keptFiles ∧
      (∀ name ∈ keptFiles, c₁.runtime.machine.files.content c₁.runtime.machine.cwd
        (stage.joinText name) = .ok (printedContents name)) ∧
      runJob printingSurroundings buildPlan false buildConsole = .ok () c' ∧
      ∀ name ∈ keptFiles, c'.runtime.machine.files.content c'.runtime.machine.cwd
        (output.joinText name) = .ok (printedContents name) := by
  intro stage output
  let top : Position := ["site", "stage", "ts", "generic", "login", "default"]
  let files := withPrinted (top ++ ["build_retry1"]) (withPrinted (top ++ ["build"]) .empty)
  have hafter : (answer (printingAttempts buildConsole)).toOption =
        some [⟨0, .ofText "/site/stage/ts/generic/login/default/build", ⟨some 2, false, 5⟩⟩,
          ⟨1, stage, ⟨some 0, false, 5⟩⟩] ∧
      (left (printingAttempts buildConsole)).runtime.machine.files = files ∧
      (left (printingAttempts buildConsole)).runtime.machine.cwd = [] := by decide +kernel
  obtain ⟨hanswer, hfiles, hcwd⟩ := hafter
  have hrun := Stateful.eq_ok_of_answer (eq_ok_of_toOption hanswer)
  have houtput : jobContext.outputPath .empty 1 buildSetting.segments = .ok output :=
    eq_ok_of_toOption (by decide +kernel)
  have hcontents : ∀ name ∈ keptFiles,
      (files.content [] (stage.joinText name)).toOption = some (printedContents name) := by
    decide +kernel
  have hread : ∀ name ∈ keptFiles,
      (left (printingAttempts buildConsole)).runtime.machine.files.content
        (left (printingAttempts buildConsole)).runtime.machine.cwd (stage.joinText name) =
          .ok (printedContents name) := by
    rw [hfiles, hcwd]
    exact fun name hname => eq_ok_of_toOption (hcontents name hname)
  have hroom : RoomFor (left (printingAttempts buildConsole)).runtime.machine.files
      (left (printingAttempts buildConsole)).runtime.machine.cwd stage output keptFiles := by
    rw [hfiles, hcwd]
    exact
      { plain := by decide +kernel
        short := by decide +kernel
        short_names := by decide +kernel
        origin := by decide +kernel
        free := by decide +kernel
        named := ⟨["site", "output", "ts", "generic", "login", "default"], "build_retry1",
          by decide +kernel, by decide⟩
        short_copies := by decide +kernel
        apart := by decide +kernel
        aside := by decide +kernel
        vacant := by decide +kernel
        outside := by decide +kernel }
  obtain ⟨-, c', hjob, hkept⟩ := output_kept printingSurroundings buildPlan false printedContents
    (show buildConsole.runtime.current? = some ⟨jobContext, 0⟩ from rfl) rfl hrun
    (List.mem_cons_of_mem _ List.mem_cons_self) rfl houtput hread hroom
  exact ⟨_, _, c', hrun, List.mem_cons_of_mem _ List.mem_cons_self, hroom, hread, hjob, hkept⟩

/-- The same context, with one directory for the stages of jobs and their output. -/
def sharedContext : Context Unit :=
  { jobContext with
    config := (jobContext.config.addSticky "systems/stagedir" (.string "/work")).addSticky
      "systems/outputdir" (.string "/work") }

/-- A console in the first run of this context. -/
def sharedConsole : Console Unit := ⟨⟨bareMachine, [⟨sharedContext, 0⟩], some 0⟩, "", ""⟩

/-- The trouble that an operation ends with. -/
def trouble? {α : Type} (r : EStateM.Result Trouble (Console Unit) α) : Option Trouble :=
  match r with
  | .ok _ _ => none
  | .error e _ => some e

theorem eq_error_of_trouble? {α : Type} {r : EStateM.Result Trouble (Console Unit) α} {e : Trouble}
    (h : trouble? r = some e) : r = .error e (left r) := by
  cases r with
  | ok x c => cases h
  | error e' c =>
    cases h
    rfl

/-- Where the output directory is the stage directory, what was to be kept is removed, and the job
fails after an attempt that was a success. -/
theorem output_lost :
    let stage : Path := .ofText "/work/ts/generic/login/default/build"
    sharedConsole.runtime.current? = some ⟨sharedContext, 0⟩ ∧
      prepareJob buildPlan sharedConsole = .ok buildSetting sharedConsole ∧
      ∃ c₁ c', printingAttempts sharedConsole = .ok [⟨0, stage, ⟨some 0, false, 5⟩⟩] c₁ ∧
        sharedContext.outputPath .empty 0 buildSetting.segments = .ok stage ∧
        (∀ name ∈ keptFiles, c₁.runtime.machine.files.content [] (stage.joinText name) =
          .ok (printedContents name)) ∧
        c₁.runtime.machine.files.Room [] stage ∧
        runJob printingSurroundings buildPlan false sharedConsole =
          .error ["Failed to copy job.out to /work/ts/generic/login/default/build",
            "No such file or directory (os error 2)"] c' ∧
        ∀ name ∈ keptFiles, c'.runtime.machine.files.find?
          ["work", "ts", "generic", "login", "default", "build", name] = none := by
  intro stage
  let files := withPrinted ["work", "ts", "generic", "login", "default", "build"] .empty
  have hafter : (answer (printingAttempts sharedConsole)).toOption =
        some [⟨0, stage, ⟨some 0, false, 5⟩⟩] ∧
      (left (printingAttempts sharedConsole)).runtime.machine.files = files := by decide +kernel
  obtain ⟨hanswer, hfiles⟩ := hafter
  have hcontents : ∀ name ∈ keptFiles,
      (files.content [] (stage.joinText name)).toOption = some (printedContents name) := by
    decide +kernel
  have hlost : trouble? (runJob printingSurroundings buildPlan false sharedConsole) =
        some ["Failed to copy job.out to /work/ts/generic/login/default/build",
          "No such file or directory (os error 2)"] ∧
      ∀ name ∈ keptFiles, (left (runJob printingSurroundings buildPlan false
        sharedConsole)).runtime.machine.files.find?
          ["work", "ts", "generic", "login", "default", "build", name] = none := by decide +kernel
  refine ⟨rfl, rfl, _, _, Stateful.eq_ok_of_answer (eq_ok_of_toOption hanswer),
    eq_ok_of_toOption (by decide +kernel), ?_, ?_, eq_error_of_trouble? hlost.1, hlost.2⟩
  · rw [hfiles]
    exact fun name hname => eq_ok_of_toOption (hcontents name hname)
  · rw [hfiles]
    exact
      { plain := by decide +kernel
        short := by decide +kernel
        short_names := by decide +kernel
        origin := by decide +kernel
        free := by decide +kernel }

end SiteRuntime.CommandLine
