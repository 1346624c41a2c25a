/-
  GrammarBindings.Proofs.CommandLine.Rerun

  Running the program a second time.  A delivery that succeeds keeps everything that
  was read before it, other than the files it delivers (`read_after_deliver`).  A
  template is never one of these, by its name; if the configuration is none of them
  either, a second run reads what the first one read (`read_inputs`), generates the
  same files, finds them all in their places and says so: `rerun_unchanged`.
-/
import GrammarBindings.Proofs.CommandLine.Printed
import GrammarBindings.Proofs.Result

namespace GrammarBindings.CommandLine

open FileTree Delivery

variable {t : FileTree} {cwd : Location} {filter : Option String} {arguments : List String}
  {settings : Settings} {job : Job}

/-! ## What stays readable -/

/-- What was read before a delivery is read after it, unless it was one of the files
    that are delivered. -/
theorem read_after_deliver {root : Path} {files : List TextFile} {p : Path} {bytes : ByteArray}
    (hroot : root.Canonical) (hfiles : Apart root files)
    (haway : ∀ l, t.resolve cwd p = .ok l → ∀ f ∈ files, f.path.place ≠ l)
    (h : t.read cwd p = .ok bytes) :
    (deliver t cwd root files).tree.read cwd p = .ok bytes := by
  obtain ⟨moved, rest, v, haccount, -⟩ :=
    account_deliver t cwd hroot hfiles.canonical hfiles.distinct
  -- directories stay where they are, so the path leads to the same place
  refine read_stable (fun l hdir => ?_) (fun l hresolve hfile => ?_) h
  · exact haccount.replaces.entryAt?_dir trivial (haccount.grows.entryAt?_of_some hdir)
  · have hmoved : ∀ f ∈ moved, f.path.place ≠ l := fun f hf =>
      haway l hresolve f (haccount.mem_moved hf).1
    rw [haccount.replaces.others l trivial hmoved]
    exact haccount.grows.entryAt?_of_some hfile

theorem isName_templateFile (kind : ArtifactKind) : IsName kind.templateFile := by
  have hall : ∀ kind ∈ ArtifactKind.all,
      2 < kind.templateFile.length ∧ '/' ∉ kind.templateFile.toList := by decide
  obtain ⟨hlength, hslash⟩ := hall kind (ArtifactKind.mem_all kind)
  exact isName_of_length hlength hslash

/-! ## What a successful job has read -/

theorem text_ok {read : Reader} {path : Path} {content : String}
    (h : read.text path = .ok content) : ∃ bytes, read path = .ok bytes := by
  unfold Reader.text at h
  cases hread : read path with
  | error e =>
    rw [hread] at h
    cases h
  | ok bytes => exact ⟨bytes, rfl⟩

/-- A collection is loaded only if each of its templates is. -/
theorem loadM_ok {ε : Type} {load : ArtifactKind → Except ε String} {ts : TemplateCollection}
    (h : TemplateCollection.loadM load = .ok ts) (kind : ArtifactKind) :
    ∃ content, load kind = .ok content := by
  simp only [TemplateCollection.loadM, bind_eq_ok] at h
  obtain ⟨common, hcommon, native, hnative, jvm, hjvm, android, handroid, jni, hjni, build,
    hbuild, interop, hinterop, -⟩ := h
  cases kind with
  | common => exact ⟨common, hcommon⟩
  | native => exact ⟨native, hnative⟩
  | jvm => exact ⟨jvm, hjvm⟩
  | android => exact ⟨android, handroid⟩
  | jni => exact ⟨jni, hjni⟩
  | build => exact ⟨build, hbuild⟩
  | interop => exact ⟨interop, hinterop⟩

theorem spec_reads {read : Reader} {path : Path} {s : Spec} (h : read.spec path = .ok s) :
    ∃ bytes, read path = .ok bytes := by
  unfold Reader.spec at h
  cases htext : read.text path with
  | error e =>
    rw [htext] at h
    cases h
  | ok content => exact text_ok htext

theorem templates_reads {read : Reader} {dir : Option Path} {ts : TemplateCollection}
    (h : read.templates dir = .ok ts) :
    ∀ path ∈ Reader.templatePaths dir, ∃ bytes, read path = .ok bytes := by
  cases dir with
  | none => simp [Reader.templatePaths]
  | some dir =>
    intro path hpath
    obtain ⟨kind, -, rfl⟩ := List.mem_map.1 hpath
    obtain ⟨content, hcontent⟩ := loadM_ok h kind
    unfold Reader.template at hcontent
    cases htext : read.text (Reader.templatePath dir kind) with
    | error e =>
      rw [htext] at hcontent
      cases hcontent
    | ok text => exact text_ok htext

/-- What is prepared was read from all inputs. -/
theorem prepare_reads {read : Reader} {cwd : Path} {p : Prepared}
    (h : (job.prepare read cwd).2 = .ok p) :
    ∀ path ∈ job.inputs cwd, ∃ bytes, read path = .ok bytes := by
  unfold Job.prepare at h
  cases hspec : read.spec (Path.absolute cwd job.config) with
  | error e => simp [hspec] at h
  | ok s =>
    simp only [hspec] at h
    cases hcheck : s.check with
    | error fault => simp [hcheck] at h
    | ok valid =>
      simp only [hcheck] at h
      cases htemplates : read.templates job.templates with
      | error e => simp [htemplates] at h
      | ok ts =>
        intro path hpath
        rcases List.mem_cons.1 hpath with rfl | hpath
        · exact spec_reads hspec
        · exact templates_reads htemplates path hpath

/-! ## The second run -/

/-- After a delivery the inputs of a job are read as before, if its configuration is
    none of the files that were delivered. -/
theorem read_inputs {root : Path} {files : List TextFile} {p : Prepared}
    (hroot : root.Canonical) (hfiles : Apart root files)
    (hprepare : (job.prepare (t.read cwd) cwd.toPath).2 = .ok p)
    (hconfig : ∀ f ∈ files, f.path ≠ Path.absolute cwd.toPath job.config) :
    ∀ path ∈ job.inputs cwd.toPath,
      (deliver t cwd root files).tree.read cwd path = t.read cwd path := by
  intro path hpath
  obtain ⟨bytes, hbytes⟩ := prepare_reads hprepare path hpath
  rw [hbytes]
  refine read_after_deliver hroot hfiles (fun l hresolve f hf hplace => ?_) hbytes
  rcases List.mem_cons.1 hpath with rfl | hpath
  · -- the path of the configuration is canonical, so it leads to its own place only
    have hcanonical := Path.canonical_absolute (p := job.config) (Location.isAbsolute_toPath cwd)
    rw [hcanonical.eq_toPath] at hresolve
    obtain ⟨-, rfl, -⟩ := resolve_toPath_inv (Path.proper_place _) hresolve
    exact hconfig f hf ((hfiles.canonical f hf).eq_of_place_eq hcanonical hplace)
  · -- a template has another name than every file
    cases hdir : job.templates with
    | none => simp [hdir, Reader.templatePaths] at hpath
    | some dir =>
      rw [hdir] at hpath
      obtain ⟨kind, -, rfl⟩ := List.mem_map.1 hpath
      obtain ⟨m, rfl⟩ := resolve_child (isName_templateFile kind) hresolve
      exact hfiles.no_template f hf kind (by rw [hplace, List.getLast?_concat])

/-- A generation that is no dry run leaves files to deliver. -/
theorem work_of_generate {read : Reader} {cwd out : Path} {w : Work}
    (haction : job.action = .generate out false) (h : (job.work read cwd).2 = .ok w) :
    ∃ dir artifacts, w = .deliver dir artifacts := by
  unfold Job.work at h
  rcases hprepare : job.prepare read cwd with ⟨events, e | p⟩
  · rw [hprepare] at h
    cases h
  · rw [hprepare, haction] at h
    exact ⟨_, _, (Except.ok.inj h).symm⟩

theorem length_generate (v : ValidSpec) (ts : TemplateCollection) (l : Layout) :
    (generate v ts l).length = 7 := by
  rw [generate, List.length_map]
  rfl

theorem generate_ne_nil (v : ValidSpec) (ts : TemplateCollection) (l : Layout) :
    generate v ts l ≠ [] :=
  List.ne_nil_of_length_eq_add_one (length_generate v ts l)

/-- The statuses of a delivery come with the paths of its files. -/
theorem map_fst_statuses (current : TextFile → Bool) (artifacts : List Artifact) :
    (Delivery.statuses current (artifacts.map Artifact.toTextFile)).map Prod.fst =
      artifacts.map fun a => a.path := by
  simp only [Delivery.statuses, List.map_map]
  rfl

/-- If a run generates and succeeds, and its configuration is none of the files that
    it generates, then the same run right after it succeeds as well.  It reports the
    same seven files in the same order, prints that each of them is unchanged, and leaves
    the tree exactly as it is. -/
theorem rerun_unchanged {out : Path} (hargs : parseArguments arguments = .ok (.job settings job))
    (haction : job.action = .generate out false)
    (hexit : (run t cwd filter arguments).2.exitCode = 0)
    (hconfig : ∀ a ∈ job.artifacts t cwd, a.path ≠ Path.absolute cwd.toPath job.config) :
    ∃ dir artifacts statuses,
      (job.perform t cwd).result = .ok (.delivered dir artifacts statuses) ∧
      artifacts.length = 7 ∧ statuses.map Prod.fst = artifacts.map (fun a => a.path) ∧
      (job.perform (run t cwd filter arguments).1 cwd).result =
        .ok (.delivered dir artifacts (artifacts.map fun a => (a.path, .unchanged))) ∧
      (run (run t cwd filter arguments).1 cwd filter arguments).2.exitCode = 0 ∧
      (run (run t cwd filter arguments).1 cwd filter arguments).2.stdout =
        settings.listing dir false (artifacts.map fun a => (a, "unchanged")) ∧
      (run (run t cwd filter arguments).1 cwd filter arguments).1 =
        (run t cwd filter arguments).1 := by
  rw [run_of_job hargs, run_of_job hargs]
  rw [run_of_job hargs] at hexit
  simp only [exitCode_jobOutcome] at hexit ⊢
  rcases hwork : job.work (t.read cwd) cwd.toPath with ⟨events, e | w⟩
  · unfold Job.perform at hexit
    rw [hwork] at hexit
    cases hexit
  obtain ⟨dir, artifacts, rfl⟩ :=
    work_of_generate (w := w) haction (congrArg Prod.snd hwork)
  obtain ⟨htree, hresult⟩ := perform_deliver hwork
  obtain ⟨hdir, hfiles⟩ := apart_of_work (congrArg Prod.snd hwork)
  obtain ⟨-, p, -, hprepare, -, hgenerate⟩ := work_deliver (congrArg Prod.snd hwork)
  cases hdelivery : (deliver t cwd dir (artifacts.map Artifact.toTextFile)).result with
  | error e =>
    rw [hresult, hdelivery] at hexit
    cases hexit
  | ok sts =>
    have hartifacts : job.artifacts t cwd = artifacts := by
      unfold Job.artifacts
      rw [hwork]
    have hconfigFiles : ∀ f ∈ artifacts.map Artifact.toTextFile,
        f.path ≠ Path.absolute cwd.toPath job.config := by
      intro f hf
      obtain ⟨a, ha, rfl⟩ := List.mem_map.1 hf
      exact hconfig a (hartifacts ▸ ha)
    -- the second run has the same work to do
    have hagain : job.work ((job.perform t cwd).tree.read cwd) cwd.toPath =
        (events, .ok (.deliver dir artifacts)) := by
      rw [htree, ← hwork]
      exact Job.work_congr (read_inputs hdir hfiles hprepare hconfigFiles)
    -- and delivering the same files once more changes nothing
    obtain ⟨hsame, hunchanged⟩ :=
      deliver_again hdir hfiles.canonical hfiles.distinct hdelivery
    obtain ⟨htree', hresult'⟩ := perform_deliver hagain
    rw [htree] at htree' hresult' ⊢
    rw [hsame] at htree'
    rw [hunchanged, deliveryReport, List.map_map] at hresult'
    obtain ⟨moved, rest, v, haccount, -⟩ :=
      account_deliver t cwd hdir hfiles.canonical hfiles.distinct
    obtain ⟨-, rfl⟩ := haccount.succeeded sts hdelivery
    have hne : artifacts ≠ [] := hgenerate ▸ generate_ne_nil _ _ _
    refine ⟨dir, artifacts, _, by rw [hresult, hdelivery]; rfl,
      by rw [hgenerate, length_generate], map_fst_statuses _ artifacts, hresult', ?_, ?_, htree'⟩
    · rw [hresult']
    · rw [hresult', stdout_jobOutcome]
      exact printed_delivered settings dir hne fun _ => .unchanged

/-- A tree in which nothing is in the way. -/
def smallTree : FileTree := treeWith []

theorem run_small :
    (run smallTree [] none smallArguments).2.exitCode = 0 ∧
      ∀ a ∈ smallJob.artifacts smallTree [],
        a.path ≠ Path.absolute (Location.toPath []) smallJob.config := by
  decide +kernel

theorem rerun_unchanged_small :
    (run smallTree [] none smallArguments).2.exitCode = 0 ∧
      (run (run smallTree [] none smallArguments).1 [] none smallArguments).2.exitCode = 0 ∧
      (∃ artifacts : List Artifact, artifacts.length = 7 ∧
        (run (run smallTree [] none smallArguments).1 [] none smallArguments).2.stdout =
          String.join (artifacts.map fun a => "unchanged" ++ " " ++ a.path.text ++ "\n")) ∧
      (run (run smallTree [] none smallArguments).1 [] none smallArguments).1 =
        (run smallTree [] none smallArguments).1 := by
  have haction : smallJob.action = .generate ⟨"/out"⟩ false := rfl
  obtain ⟨hexit, hconfig⟩ := run_small
  obtain ⟨dir, artifacts, -, -, hlength, -, -, hagain, hprinted, htree⟩ :=
    rerun_unchanged parseArguments_small haction hexit hconfig
  refine ⟨hexit, hagain, ⟨artifacts, hlength, ?_⟩, htree⟩
  rw [hprinted, Settings.listing, textListing, List.map_map]
  rfl

end GrammarBindings.CommandLine
