/-
  GrammarBindings.Proofs.CommandLine.Generation

  What a run that generates leaves in the tree, in particular one that fails.  The
  files that it is to write are put in their places one after the other, in the order
  of their kinds, and nothing puts the old ones back.  So a failure leaves all files
  alone unless it comes from the very last phase, `generate_failed`; and it can come
  from there, as `generate_halfway` shows.
-/
import GrammarBindings.CommandLine.Run
import GrammarBindings.Proofs.Delivery.Again
import GrammarBindings.Proofs.Layout

namespace GrammarBindings.CommandLine

open FileTree Delivery

variable {t : FileTree} {cwd : Location} {filter : Option String} {arguments : List String}
  {settings : Settings} {job : Job}

/-! ## The work of a job -/

/-- The files that a job is to generate, none if it does not get that far. -/
def Job.artifacts (t : FileTree) (cwd : Location) (job : Job) : List Artifact :=
  match (job.work (t.read cwd) cwd.toPath).2 with
  | .ok (.deliver _ artifacts) => artifacts
  | .ok (.report (.planned _ artifacts)) => artifacts
  | _ => []

/-- The files that a job is to generate and that do not hold their texts yet. -/
def Job.staleFiles (t : FileTree) (cwd : Location) (job : Job) : List TextFile :=
  stale t cwd ((job.artifacts t cwd).map Artifact.toTextFile)

/-- Work that is left for the tree comes from a generation that is no dry run, and
    the files to deliver are those of a binding. -/
theorem work_deliver {read : Reader} {dir : Path} {artifacts : List Artifact} {cwd : Path}
    (h : (job.work read cwd).2 = .ok (.deliver dir artifacts)) :
    ∃ out p, job.action = .generate out false ∧ (job.prepare read cwd).2 = .ok p ∧
      dir = Path.absolute cwd out ∧ artifacts = generate p.spec p.templates ⟨dir⟩ := by
  unfold Job.work at h
  rcases hprepare : job.prepare read cwd with ⟨events, e | p⟩
  · rw [hprepare] at h
    cases h
  · simp only [hprepare, Action.work] at h
    cases haction : job.action with
    | validate =>
      simp only [haction] at h
      cases h
    | generate out dryRun =>
      simp only [haction] at h
      cases dryRun with
      | true => cases h
      | false =>
        obtain ⟨rfl, rfl⟩ := Work.deliver.inj (Except.ok.inj h)
        exact ⟨out, p, rfl, rfl, rfl, rfl⟩

/-! ## The account of a delivery of files that lie apart -/

section Apart

variable {root : Path} {files moved rest : List TextFile} {v : FileTree} {d : Delivery}

/-- What may be made to get at files that lie apart is the place of none of them. -/
theorem not_made_of_apart (hfiles : Apart root files) {f : TextFile} (hf : f ∈ files) :
    ¬ (f.path.place <+: root.place ∨ OnTheWay t cwd files f.path.place) := by
  rintro (hpre | ⟨g, hg, hpre, hne⟩)
  · exact hfiles.below f hf hpre
  · exact hne (congrArg Path.place (hfiles.apart f hf g (mem_stale.1 hg).1 hpre))

variable (h : Account (fun l => l <+: root.place ∨ OnTheWay t cwd files l) t cwd root.place files
  moved rest v d) (hfiles : Apart root files)
include h hfiles

/-- A file that was moved is read with its new text. -/
theorem read_moved {f : TextFile} (hf : f ∈ moved) :
    d.tree.read cwd f.path = .ok f.contents.toUTF8 := by
  have hmem := (h.mem_moved hf).1
  rw [← isCurrent_iff_read, isCurrent_iff (hfiles.canonical f hmem)]
  refine ⟨fun hnil => ?_, h.replaces.usable f hf, h.replaces.placed f hf⟩
  exact hfiles.below f hmem (hnil ▸ List.nil_prefix)

/-- Moving a file that did not hold its text is seen. -/
theorem files_same_iff : (∀ l, d.tree.fileAt? l = t.fileAt? l) ↔ moved = [] := by
  constructor
  · -- a file that was moved holds its text now and did not before
    intro hsame
    by_contra hmoved
    obtain ⟨f, hf⟩ := List.exists_mem_of_ne_nil moved hmoved
    obtain ⟨hmem, hstale⟩ := h.mem_moved hf
    have hplaced := fileAt?_eq_some_iff.2 (h.replaces.placed f hf)
    rw [hsame, fileAt?_eq_some_iff] at hplaced
    have hcurrent : isCurrent t cwd f = true :=
      (isCurrent_iff (hfiles.canonical f hmem)).2
        ⟨fun hnil => hfiles.below f hmem (hnil ▸ List.nil_prefix), h.replaces.usable f hf, hplaced⟩
    rw [hstale] at hcurrent
    cases hcurrent
  · rintro rfl l
    exact h.fileAt?_eq (by simp)

/-- The file that stopped the delivery has a directory in its place, which was there
    before, or a path beyond the limits. -/
theorem stopped_by {e : Delivery.Failure} (hresult : d.result = .error e) (hmoved : moved ≠ []) :
    ∃ f others cause, rest = f :: others ∧ e = ⟨f.path, .operation cause⟩ ∧
      Refused cwd d.tree f cause ∧
      (t.hasDir f.path.place = true ∨ ¬ f.path.place.Usable) := by
  obtain ⟨f, others, cause, hrest, he, hrefused, hblocked⟩ := h.stopped e hresult hmoved
  have hmem : f ∈ files := (h.mem_rest (hrest ▸ List.mem_cons_self)).1
  refine ⟨f, others, cause, hrest, he, hrefused, ?_⟩
  rcases hblocked with hpre | husable | hdir
  · exact absurd hpre (hfiles.below f hmem)
  · exact Or.inr husable
  · left
    rw [hasDir_iff, ← h.grows.entryAt?_of_not_made (not_made_of_apart hfiles hmem), hdir]

end Apart

/-! ## Runs -/

theorem run_of_job (hargs : parseArguments arguments = .ok (.job settings job)) :
    run t cwd filter arguments =
      ((job.perform t cwd).tree,
        jobOutcome settings filter (job.perform t cwd).events (job.perform t cwd).result) := by
  rw [run, hargs]

theorem exitCode_jobOutcome (events : List Event) (result : Except Failure Report) :
    (jobOutcome settings filter events result).exitCode =
      match result with
      | .ok _ => 0
      | .error _ => 1 := by
  cases result <;> rfl

theorem perform_deliver {events : List Event} {dir : Path} {artifacts : List Artifact}
    (h : job.work (t.read cwd) cwd.toPath = (events, .ok (.deliver dir artifacts))) :
    (job.perform t cwd).tree =
        (deliver t cwd dir (artifacts.map Artifact.toTextFile)).tree ∧
      (job.perform t cwd).result = deliveryReport dir artifacts
        (deliver t cwd dir (artifacts.map Artifact.toTextFile)).result := by
  unfold Job.perform
  rw [h]
  exact ⟨rfl, rfl⟩

/-- The files that are delivered lie apart in their output directory. -/
theorem apart_of_work {dir : Path} {artifacts : List Artifact}
    (h : (job.work (t.read cwd) cwd.toPath).2 = .ok (.deliver dir artifacts)) :
    dir.Canonical ∧ Apart dir (artifacts.map Artifact.toTextFile) := by
  obtain ⟨out, p, -, -, rfl, rfl⟩ := work_deliver h
  have hdir := Path.canonical_absolute (p := out) (Location.isAbsolute_toPath cwd)
  exact ⟨hdir, apart_generate p.spec p.templates hdir⟩

/-- If a run fails, the files that it has put in their places begin the list of those
    that did not hold their texts.  They hold them now and every other file is as it
    was.  There are such files only if the next one in the list was staged and then
    refused at its place, for the cause that is reported; a directory was there before,
    or its path is beyond the limits. -/
theorem generate_failed (hargs : parseArguments arguments = .ok (.job settings job))
    (hexit : (run t cwd filter arguments).2.exitCode = 1) :
    ∃ moved rest, job.staleFiles t cwd = moved ++ rest ∧
      (∀ f ∈ moved,
        (run t cwd filter arguments).1.read cwd f.path = .ok f.contents.toUTF8) ∧
      (∀ l, (∀ f ∈ moved, f.path.place ≠ l) →
        (run t cwd filter arguments).1.fileAt? l = t.fileAt? l) ∧
      ((∀ l, (run t cwd filter arguments).1.fileAt? l = t.fileAt? l) ↔ moved = []) ∧
      (moved ≠ [] → ∃ f others cause, rest = f :: others ∧
        (job.perform t cwd).result = .error (.delivery ⟨f.path, .operation cause⟩) ∧
        Refused cwd (run t cwd filter arguments).1 f cause ∧
        (t.hasDir f.path.place = true ∨ ¬ f.path.place.Usable)) := by
  rw [run_of_job hargs] at hexit ⊢
  rw [exitCode_jobOutcome] at hexit
  rcases hwork : job.work (t.read cwd) cwd.toPath with ⟨events, e | r | ⟨dir, artifacts⟩⟩
  · -- nothing was touched, and there was nothing to write yet
    have htree : (job.perform t cwd).tree = t := by
      unfold Job.perform
      rw [hwork]
    have hstale : job.staleFiles t cwd = [] := by
      unfold Job.staleFiles Job.artifacts
      rw [hwork]
      rfl
    refine ⟨[], [], hstale, ?_⟩
    simp only [htree]
    simp
  · unfold Job.perform at hexit
    rw [hwork] at hexit
    cases hexit
  · obtain ⟨htree, hresult⟩ := perform_deliver hwork
    obtain ⟨hdir, hfiles⟩ := apart_of_work (congrArg Prod.snd hwork)
    have hstale : job.staleFiles t cwd = stale t cwd (artifacts.map Artifact.toTextFile) := by
      unfold Job.staleFiles Job.artifacts
      rw [hwork]
    obtain ⟨moved, rest, v, haccount, -⟩ :=
      account_deliver t cwd hdir hfiles.canonical hfiles.distinct
    -- the rest is what the account of the delivery says, as the files lie apart
    refine ⟨moved, rest, hstale.trans haccount.split, ?_⟩
    simp only [htree]
    refine ⟨fun f => read_moved haccount hfiles, fun l => haccount.fileAt?_eq,
      files_same_iff haccount hfiles, fun hmoved => ?_⟩
    rw [hresult] at hexit ⊢
    cases hdelivery : (deliver t cwd dir (artifacts.map Artifact.toTextFile)).result with
    | ok sts =>
      rw [hdelivery] at hexit
      cases hexit
    | error e =>
      obtain ⟨f, others, cause, hrest, rfl, hrefused, hblocked⟩ :=
        stopped_by haccount hfiles hdelivery hmoved
      exact ⟨f, others, cause, hrest, rfl, hrefused, hblocked⟩

/-! ## A run that fails halfway -/

/-- A configuration with all that is required. -/
def smallConfig : String :=
  "[grammar]\nname = \"foo\"\nfiles = [\"a.c\"]\npackage_name = \"p\"\nclass_name = \"Foo\"\n"

/-- The directories of a binding, with nothing in them yet. -/
def sourceDirs : FileTree :=
  .dir (["commonMain", "nativeMain", "jvmMain", "androidMain"].map
      (fun name => (name, .dir [("kotlin", .dir [("p", .dir [])])])) ++
    [("jni", .dir []), ("nativeInterop", .dir [])])

/-- A tree with a configuration and an output directory. -/
def treeWith (out : List (String × FileTree)) : FileTree :=
  .dir [("c.toml", .file smallConfig.toUTF8), ("out", .dir (("src", sourceDirs) :: out))]

/-- A tree in which a directory has the place of the build script. -/
def blockedTree : FileTree := treeWith [("CMakeLists.txt", .dir [])]

/-- The generation of the binding into the directory `out`. -/
def smallJob : Job := ⟨⟨"/c.toml"⟩, none, .generate ⟨"/out"⟩ false⟩

/-- The arguments that ask for it. -/
def smallArguments : List String := ["generate", "/c.toml", "--out", "/out"]

theorem parseArguments_small :
    parseArguments smallArguments = .ok (.job ⟨.text, false, false⟩ smallJob) := by
  decide +kernel

/-- The place of the first class file. -/
def firstPlace : Location := ["out", "src", "commonMain", "kotlin", "p", "Foo.kt"]

theorem run_blocked :
    (run blockedTree [] none smallArguments).2.exitCode = 1 ∧
      (blockedTree.fileAt? firstPlace).isSome = false ∧
      ((run blockedTree [] none smallArguments).1.fileAt? firstPlace).isSome = true := by
  decide +kernel

/-- The build script stops the run, after the class files were put in their places. -/
theorem generate_failed_blocked :
    (run blockedTree [] none smallArguments).2.exitCode = 1 ∧
      ∃ f ∈ smallJob.staleFiles blockedTree [], ∃ cause,
        (smallJob.perform blockedTree []).result =
          .error (.delivery ⟨f.path, .operation cause⟩) ∧
        (blockedTree.hasDir f.path.place = true ∨ ¬ f.path.place.Usable) := by
  obtain ⟨hexit, hbefore, hafter⟩ := run_blocked
  obtain ⟨moved, rest, hsplit, -, -, hsame, hstopped⟩ :=
    generate_failed parseArguments_small hexit
  have hmoved : moved ≠ [] := by
    intro hnil
    rw [hsame.2 hnil firstPlace, hbefore] at hafter
    cases hafter
  obtain ⟨f, others, cause, rfl, hresult, -, hblocked⟩ := hstopped hmoved
  exact ⟨hexit, f, by simp [hsplit], cause, hresult, hblocked⟩

/-- A run that fails can have created files of the binding. -/
theorem generate_halfway :
    parseArguments smallArguments = .ok (.job ⟨.text, false, false⟩ smallJob) ∧
      firstPlace ∈ (smallJob.artifacts blockedTree []).map (fun a => a.path.place) ∧
      (run blockedTree [] none smallArguments).2.exitCode = 1 ∧
      (blockedTree.fileAt? firstPlace).isSome = false ∧
      ((run blockedTree [] none smallArguments).1.fileAt? firstPlace).isSome = true :=
  ⟨parseArguments_small, by decide +kernel, run_blocked⟩

end GrammarBindings.CommandLine
