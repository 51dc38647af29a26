import SiteRuntime.Proofs.FileTree.Creation
import SiteRuntime.Runtime.Basic

/-!
# Directories of work and their prefixes

The directory of one piece of work is its prefix with the segments joined to it. It lies below the
prefix as long as every segment leads down (`Path.Descends`): then the steps of the prefix come
first, nothing behind them leads to the root or up, and emptying the directory takes nothing away
outside of the prefix (`below_prefix`).

Segments are taken as they come, so this is not so for all of them. A segment that starts at the
root replaces the prefix, and `..` leads out of it; a directory elsewhere is emptied then
(`not_below_prefix`).
-/

namespace SiteRuntime

/-! ### Paths that lead down -/

namespace Path

/-- A path leads down if it starts where one stands and has no step up. -/
def Descends (p : Path) : Prop := p.isAbsolute = false ∧ .up ∉ p.components

instance (p : Path) : Decidable p.Descends :=
  inferInstanceAs (Decidable (p.isAbsolute = false ∧ .up ∉ p.components))

/-- A path lies below another if its steps are those of the other and then only steps down. -/
def Below (p q : Path) : Prop :=
  ∃ rest, q.components = p.components ++ rest ∧ .root ∉ rest ∧ .up ∉ rest

/-- What is left of the steps is all that can come behind the other path. -/
theorem below_iff {p q : Path} :
    p.Below q ↔ p.components <+: q.components ∧
      .root ∉ q.components.drop p.components.length ∧
      .up ∉ q.components.drop p.components.length := by
  constructor
  · rintro ⟨rest, h, hroot, hup⟩
    rw [h, List.drop_left]
    exact ⟨List.prefix_append _ rest, hroot, hup⟩
  · rintro ⟨⟨rest, h⟩, hroot, hup⟩
    rw [← h, List.drop_left] at hroot hup
    exact ⟨rest, h.symm, hroot, hup⟩

instance (p q : Path) : Decidable (p.Below q) := decidable_of_iff' _ below_iff

/-- A path that does not start at the root lies below what it is joined to just if it leads down. -/
theorem below_join_iff {p q : Path} (h : q.isAbsolute = false) :
    p.Below (p.join q) ↔ q.Descends := by
  obtain ⟨rest, hrest, hroot, hup⟩ : ∃ rest, (p.join q).components = p.components ++ rest ∧
      .root ∉ rest ∧ (.up ∈ rest ↔ .up ∈ q.components) := by
    by_cases hp : p.chars = []
    · -- the empty path has no steps, so all steps are new, a leading `.` among them
      obtain ⟨chars⟩ := p
      obtain rfl : chars = [] := hp
      refine ⟨q.components, ?_, root_notMem_components h, Iff.rfl⟩
      rw [join, h]
      rfl
    · exact ⟨_, components_join hp h, root_notMem_filterMap q.parts,
        up_mem_filterMap_iff.trans up_mem_components_iff.symm⟩
  constructor
  · rintro ⟨rest', hrest', -, hup'⟩
    obtain rfl := List.append_cancel_left (hrest.symm.trans hrest')
    exact ⟨h, fun hq => hup' (hup.2 hq)⟩
  · exact fun hq => ⟨rest, hrest, hroot, fun hr => hq.2 (hup.1 hr)⟩

theorem isAbsolute_foldl_joinText (segments : List String) (p : Path) :
    (segments.foldl joinText p).isAbsolute =
      (p.isAbsolute || segments.any fun s => (ofText s).isAbsolute) := by
  induction segments generalizing p with
  | nil => simp
  | cons s rest ih =>
    rw [List.foldl_cons, ih, joinText, isAbsolute_join, List.any_cons, Bool.or_assoc]

theorem parts_foldl_joinText {segments : List String}
    (h : ∀ s ∈ segments, (ofText s).isAbsolute = false) (p : Path) :
    (segments.foldl joinText p).parts = p.parts ++ segments.flatMap fun s => (ofText s).parts := by
  induction segments generalizing p with
  | nil => simp
  | cons s rest ih =>
    rw [List.foldl_cons, ih fun t ht => h t (List.mem_cons_of_mem _ ht), joinText,
      parts_join p (h s List.mem_cons_self), List.flatMap_cons, List.append_assoc]

/-- Segments make a path that starts at the root just if one of them does. -/
theorem isAbsolute_ofSegments_eq_false_iff {segments : List String} :
    (ofSegments segments).isAbsolute = false ↔
      ∀ s ∈ segments, (ofText s).isAbsolute = false := by
  have hempty : (⟨[]⟩ : Path).isAbsolute = false := rfl
  rw [ofSegments, isAbsolute_foldl_joinText, hempty, Bool.false_or, List.any_eq_false]
  simp

/-- Such a path has a step up just if one of the segments has. -/
theorem up_mem_components_ofSegments_iff {segments : List String}
    (h : ∀ s ∈ segments, (ofText s).isAbsolute = false) :
    .up ∈ (ofSegments segments).components ↔ ∃ s ∈ segments, .up ∈ (ofText s).components := by
  rw [up_mem_components_iff, ofSegments, parts_foldl_joinText h, parts_nil, List.nil_append]
  simp [up_mem_components_iff]

/-- Segments make a path that leads down just if all of them do. -/
theorem descends_ofSegments_iff {segments : List String} :
    (ofSegments segments).Descends ↔ ∀ s ∈ segments, (ofText s).Descends := by
  constructor
  · rintro ⟨habsolute, hup⟩ s hs
    have hsegments := isAbsolute_ofSegments_eq_false_iff.1 habsolute
    exact ⟨hsegments s hs, fun h => hup ((up_mem_components_ofSegments_iff hsegments).2 ⟨s, hs, h⟩)⟩
  · intro h
    have hsegments := fun s hs => (h s hs).1
    refine ⟨isAbsolute_ofSegments_eq_false_iff.2 hsegments, fun hup => ?_⟩
    obtain ⟨s, hs, hup⟩ := (up_mem_components_ofSegments_iff hsegments).1 hup
    exact (h s hs).2 hup

end Path

/-! ### Places that lie below -/

namespace FileTree

/-- What is joined to a path and leads down leads to a place below that of the path. -/
theorem placeOf_prefix_join {q : Path} (h : q.Descends) (cwd : Position) (p : Path) :
    placeOf cwd p <+: placeOf cwd (p.join q) := by
  have hup : ".." ∉ namesOf q := by
    intro hmem
    obtain ⟨part, hpart, hname⟩ := List.mem_map.1 hmem
    have hdots : part = ['.', '.'] := by
      rw [← String.toList_ofList (l := part), hname]
      rfl
    exact h.2 (Path.up_mem_components_iff.2 (hdots ▸ hpart))
  have hnames : namesOf (p.join q) = namesOf p ++ namesOf q := by
    rw [namesOf, Path.parts_join p h.1, List.map_append, namesOf, namesOf]
  rw [placeOf, placeOf, Path.isAbsolute_join, h.1, Bool.or_false, hnames, List.foldl_append]
  exact prefix_foldl_goTo hup _

end FileTree

/-! ### Directories of a run -/

namespace Context

/-- Where no segment starts at the root, the directory of a run lies below its prefix just if all
segments lead down. -/
theorem below_runPath_iff {p : Path} {run : Nat} {segments : List String}
    (h : ∀ s ∈ runSegments run segments, (Path.ofText s).isAbsolute = false) :
    p.Below (runPath p run segments) ↔
      ∀ s ∈ runSegments run segments, (Path.ofText s).Descends := by
  rw [runPath, Path.below_join_iff (Path.isAbsolute_ofSegments_eq_false_iff.2 h),
    Path.descends_ofSegments_iff]

/-- The directory of a run comes from its prefix. -/
theorem exists_prefix {below : Except ConfigError Path} {run : Nat} {segments : List String}
    {q : Path} (h : (below.map fun p => runPath p run segments) = .ok q) :
    ∃ p, below = .ok p ∧ q = runPath p run segments := by
  cases below with
  | error e => cases h
  | ok p =>
    cases h
    exact ⟨p, rfl, rfl⟩

end Context

namespace Runtime

variable {μ : Type}

/-- The directory of the current run below a prefix, which the context tells. -/
def workPath (below : Context μ → ProcessEnv → Except ConfigError Path) (segments : List String) :
    Op μ Path := do
  let r ← running
  asking ((below r.context (← get).machine.env).map fun p => Context.runPath p r.run segments)

/-- Asking for the directory changes nothing. -/
theorem workPath_cases (below : Context μ → ProcessEnv → Except ConfigError Path)
    (segments : List String) (rt : Runtime μ) :
    (∃ r p, rt.current? = some r ∧ below r.context rt.machine.env = .ok p ∧
        workPath below segments rt = .ok (Context.runPath p r.run segments) rt) ∨
      ∃ e, workPath below segments rt = .error e rt := by
  rcases running_cases rt with ⟨r, hr, h⟩ | ⟨-, h⟩
  · rw [workPath, Stateful.bind_of_ok h, Stateful.get_bind]
    cases hp : below r.context rt.machine.env with
    | ok p => exact .inl ⟨r, p, hr, hp, rfl⟩
    | error e => exact .inr ⟨_, rfl⟩
  · exact .inr ⟨_, Stateful.bind_of_error h⟩

/-- The files after an operation, whether it fails or not. -/
def filesAfter {α : Type} (op : Op μ α) (rt : Runtime μ) : FileTree :=
  (attempt op rt).2.machine.files

theorem filesAfter_makeDirectory (path : Path) (wipe : Bool) (rt : Runtime μ) :
    filesAfter (makeDirectory path wipe) rt =
      (FileTree.makeDirectory rt.machine.cwd path wipe).leaves rt.machine.files := by
  rw [filesAfter, attempt, makeDirectory, FileTree.Edit.leaves]
  cases h : FileTree.makeDirectory rt.machine.cwd path wipe rt.machine.files with
  | ok u files =>
    have hedit : editing path (fun cwd => FileTree.makeDirectory cwd path wipe) rt =
        .ok u { rt with machine := { rt.machine with files } } := by rw [editing, h]
    rw [Stateful.bind_of_ok hedit]
    rfl
  | error cause files =>
    have hedit : editing path (fun cwd => FileTree.makeDirectory cwd path wipe) rt =
        .error (.directory path cause) { rt with machine := { rt.machine with files } } := by
      rw [editing, h]
    rw [Stateful.bind_of_error hedit]

/-- Where the prefix is known, so is the directory of the current run. -/
theorem workPath_of_current? {below : Context μ → ProcessEnv → Except ConfigError Path}
    {rt : Runtime μ} {r : Running μ} {p : Path} (hr : rt.current? = some r)
    (hp : below r.context rt.machine.env = .ok p) (segments : List String) :
    workPath below segments rt = .ok (Context.runPath p r.run segments) rt := by
  rcases running_cases rt with ⟨r', hr', hrun⟩ | ⟨hnone, -⟩
  · obtain rfl : r = r' := Option.some.inj (hr.symm.trans hr')
    rw [workPath, Stateful.bind_of_ok hrun, Stateful.get_bind, hp]
    rfl
  · cases hnone.symm.trans hr

/-- Making the directory of the current run changes the files as making a directory does. -/
theorem filesAfter_workPath {below : Context μ → ProcessEnv → Except ConfigError Path}
    {rt : Runtime μ} {r : Running μ} {p : Path} (hr : rt.current? = some r)
    (hp : below r.context rt.machine.env = .ok p) (segments : List String) (wipe : Bool) :
    filesAfter (workPath below segments >>= fun path => makeDirectory path wipe) rt =
      (FileTree.makeDirectory rt.machine.cwd (Context.runPath p r.run segments) wipe).leaves
        rt.machine.files := by
  rw [← filesAfter_makeDirectory, filesAfter, attempt,
    Stateful.bind_of_ok (workPath_of_current? hr hp segments), filesAfter, attempt]

/-- What does not lie below the prefix is kept when a directory below it is made and emptied. -/
theorem find?_filesAfter_workPath {below : Context μ → ProcessEnv → Except ConfigError Path}
    {segments : List String} {rt : Runtime μ} {r : Running μ} (hr : rt.current? = some r)
    (h : ∀ s ∈ Context.runSegments r.run segments, (Path.ofText s).Descends) {wipe : Bool}
    {place : Position} {entry : Entry} (hentry : rt.machine.files.find? place = some entry)
    (hplace : ∀ p, below r.context rt.machine.env = .ok p →
      ¬FileTree.placeOf rt.machine.cwd p <+: place) :
    (filesAfter (workPath below segments >>= fun path => makeDirectory path wipe) rt).find? place =
      some entry := by
  rcases workPath_cases below segments rt with ⟨r', p, hr', hp, -⟩ | ⟨e, hpath⟩
  · obtain rfl : r = r' := Option.some.inj (hr.symm.trans hr')
    have hdown := Path.descends_ofSegments_iff.2 h
    rw [filesAfter_workPath hr hp]
    refine FileTree.keeps_makeDirectory _ _ wipe _ place entry (fun hbelow => ?_) hentry
    -- what lies below the directory would lie below the prefix
    exact hplace p hp ((FileTree.placeOf_prefix_join hdown _ p).trans hbelow)
  · rw [filesAfter, attempt, Stateful.bind_of_error hpath]
    exact hentry

section Prefixes

variable [Account]

theorem stagePath_eq (segments : List String) :
    stagePath (μ := μ) segments = workPath Context.stagePrefix segments := rfl

theorem outputPath_eq (segments : List String) :
    outputPath (μ := μ) segments = workPath Context.outputPrefix segments := rfl

/-- **Directories stay below their prefix.** If every segment, as it is for the run, leads down, the
stage directory and the output directory lie below their prefixes, and making them, emptied or not,
keeps everything that lies outside of the prefix. -/
theorem below_prefix (c : Context μ) (run : Nat) (segments : List String)
    (h : ∀ s ∈ Context.runSegments run segments, (Path.ofText s).Descends) :
    (∀ e q, c.stagePath e run segments = .ok q → ∃ p, c.stagePrefix e = .ok p ∧ p.Below q) ∧
      (∀ e q, c.outputPath e run segments = .ok q → ∃ p, c.outputPrefix e = .ok p ∧ p.Below q) ∧
      ∀ (rt : Runtime μ) (wipe : Bool) (place : Position) (entry : Entry),
        rt.current? = some ⟨c, run⟩ → rt.machine.files.find? place = some entry →
        ((∀ p, c.stagePrefix rt.machine.env = .ok p →
            ¬FileTree.placeOf rt.machine.cwd p <+: place) →
          (filesAfter (makeStage segments wipe) rt).find? place = some entry) ∧
        ((∀ p, c.outputPrefix rt.machine.env = .ok p →
            ¬FileTree.placeOf rt.machine.cwd p <+: place) →
          (filesAfter (makeOutput segments wipe) rt).find? place = some entry) := by
  have hbelow : ∀ p : Path, p.Below (Context.runPath p run segments) := fun p =>
    (Context.below_runPath_iff fun s hs => (h s hs).1).2 h
  refine ⟨fun e q hq => ?_, fun e q hq => ?_, fun rt wipe place entry hr hentry => ⟨fun hp => ?_,
    fun hp => ?_⟩⟩
  · obtain ⟨p, hp, rfl⟩ := Context.exists_prefix hq
    exact ⟨p, hp, hbelow p⟩
  · obtain ⟨p, hp, rfl⟩ := Context.exists_prefix hq
    exact ⟨p, hp, hbelow p⟩
  · rw [makeStage, stagePath_eq]
    exact find?_filesAfter_workPath hr h hentry hp
  · rw [makeOutput, outputPath_eq]
    exact find?_filesAfter_workPath hr h hentry hp

end Prefixes

/-- The context of a site below `/site`, with a fixed text for the start of the work. -/
def siteContext : Context Unit where
  config := (SiteConfig.generic.addSticky "systems/prefix" (.string "/site")).addSticky
    "general/timestamp" (.string "ts")
  system := ⟨"generic", "", [], [], ⟨"", [], []⟩, .noModules⟩
  start := ⟨0, 0, 0⟩

/-- The context in a run, on a machine with results outside of the site. -/
def siteRuntime (run : Nat) : Runtime Unit where
  machine := ⟨.empty, ((FileTree.empty.put ["data"] .directory).put ["data", "results"]
    (.file [] false)), [], ()⟩
  contexts := [⟨siteContext, run⟩]
  current := some 0

theorem eq_ok_of_toOption {ε α : Type} {x : Except ε α} {a : α} (h : x.toOption = some a) :
    x = .ok a := by
  cases x with
  | error e => cases h
  | ok b =>
    cases h
    rfl

attribute [local instance] Account.unlisted

theorem stagePrefix_siteContext : siteContext.stagePrefix .empty = .ok (.ofText "/site/stage/ts") :=
  eq_ok_of_toOption (by decide +kernel)

theorem below_prefix_secondRetry :
    (∀ s ∈ Context.runSegments 2 ["job", "a/./b"], (Path.ofText s).Descends) ∧
      (∃ p, siteContext.stagePrefix .empty = .ok p ∧
        p.Below (.ofText "/site/stage/ts/job/a/./b_retry2")) ∧
      (siteRuntime 2).machine.files.find? ["data", "results"] = some (.file [] false) ∧
      (filesAfter (makeStage ["job", "a/./b"] true) (siteRuntime 2)).find? ["data", "results"] =
        some (.file [] false) := by
  have hdown : ∀ s ∈ Context.runSegments 2 ["job", "a/./b"], (Path.ofText s).Descends := by
    decide +kernel
  have hpath : siteContext.stagePath .empty 2 ["job", "a/./b"] =
      .ok (.ofText "/site/stage/ts/job/a/./b_retry2") := eq_ok_of_toOption (by decide +kernel)
  have hresults : (siteRuntime 2).machine.files.find? ["data", "results"] =
      some (.file [] false) := by decide +kernel
  obtain ⟨hstage, -, hkept⟩ := below_prefix siteContext 2 ["job", "a/./b"] hdown
  refine ⟨hdown, hstage _ _ hpath, hresults, (hkept _ true _ _ rfl hresults).1 fun p hp => ?_⟩
  obtain rfl : .ofText "/site/stage/ts" = p := Except.ok.inj (stagePrefix_siteContext.symm.trans hp)
  decide +kernel

/-- A segment that starts at the root or leads up leads out of the prefix, and what lies elsewhere
is taken away. -/
theorem not_below_prefix :
    siteContext.stagePrefix .empty = .ok (.ofText "/site/stage/ts") ∧
      siteContext.stagePath .empty 0 ["/data"] = .ok (.ofText "/data") ∧
      ¬(Path.ofText "/site/stage/ts").Below (.ofText "/data") ∧
      siteContext.stagePath .empty 0 ["..", "other"] = .ok (.ofText "/site/stage/ts/../other") ∧
      ¬(Path.ofText "/site/stage/ts").Below (.ofText "/site/stage/ts/../other") ∧
      (siteRuntime 0).machine.files.find? ["data", "results"] = some (.file [] false) ∧
      ¬FileTree.placeOf [] (.ofText "/site/stage/ts") <+: ["data", "results"] ∧
      (filesAfter (makeStage ["/data"] true) (siteRuntime 0)).find? ["data", "results"] = none := by
  exact ⟨stagePrefix_siteContext, eq_ok_of_toOption (by decide +kernel), by decide +kernel,
    eq_ok_of_toOption (by decide +kernel), by decide +kernel, by decide +kernel, by decide +kernel,
    by decide +kernel⟩

end Runtime

end SiteRuntime
