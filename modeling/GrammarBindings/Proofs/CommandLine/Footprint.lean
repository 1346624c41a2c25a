/-
  GrammarBindings.Proofs.CommandLine.Footprint

  Where a run can leave something.  Only a generation that is no dry run changes the
  tree, and it stays in its output directory:

    * `Left` — what a delivery may leave at a place, seen place by place.
    * `StaysInside` — what that comes to for the files of a binding: outside its
      directory nothing changes but that the directories above it are made, inside it
      only the files of the binding do and the directories on the way to them are made.

  Main statement: `run_staysInside`, whatever comes out of the run.
-/
import GrammarBindings.Proofs.CommandLine.Generation

namespace GrammarBindings

open FileTree Delivery

/-! ## What a delivery leaves -/

namespace Delivery

variable {t u : FileTree} {cwd home out l : Location} {files : List TextFile}

/-- What a delivery of files into a directory may leave at a place: what was there, a
    directory where nothing was, which is the directory itself or on the way to it or to a
    file, or the text of a file, where no directory was. -/
inductive Left (t u : FileTree) (out : Location) (files : List TextFile) (l : Location) : Prop
  | kept (hsame : u.entryAt? l = t.entryAt? l)
  | made (habsent : t.entryAt? l = none) (hdir : u.entryAt? l = some .dir)
      (hway : l <+: out ∨ ∃ f ∈ files, l.Above f.path.place)
  | written (f : TextFile) (hf : f ∈ files) (hplace : f.path.place = l)
      (hdir : t.entryAt? l ≠ some .dir) (htext : u.entryAt? l = some (.file f.contents.toUTF8))

theorem Account.left {moved rest : List TextFile} {v : FileTree} {d : Delivery}
    (h : Account (fun l => l <+: home ∨ OnTheWay t cwd files l) t cwd home files moved rest v d)
    (l : Location) : Left t d.tree home files l := by
  by_cases hmoved : ∃ f ∈ moved, f.path.place = l
  · obtain ⟨f, hf, rfl⟩ := hmoved
    refine .written f (h.mem_moved hf).1 rfl (fun hdir => ?_) (h.replaces.placed f hf)
    exact h.replaces.not_dir f hf (h.grows.entryAt?_of_some hdir)
  · have hother : d.tree.entryAt? l = v.entryAt? l :=
      h.replaces.others l trivial fun f hf hplace => hmoved ⟨f, hf, hplace⟩
    rcases h.grows l with hsame | ⟨habsent, hdir, hway⟩
    · exact .kept (hother.trans hsame)
    · refine .made habsent (hother.trans hdir) (hway.imp_right ?_)
      rintro ⟨f, hf, habove⟩
      exact ⟨f, (mem_stale.1 hf).1, habove⟩

end Delivery

/-! ## Binding files below a directory -/

/-- What `u` may be after files of a binding were put below the directory `out` of `t`. -/
structure StaysInside (t u : FileTree) (out : Location) (artifacts : List Artifact) : Prop where
  /-- No directory is removed or replaced. -/
  dirs : ∀ l : Location, t.entryAt? l = some .dir → u.entryAt? l = some .dir
  /-- No file is removed. -/
  files : ∀ (l : Location) bytes, t.entryAt? l = some (.file bytes) →
    ∃ bytes', u.entryAt? l = some (.file bytes')
  /-- Outside the directory there is nothing new but the directories above it. -/
  outside : ∀ l : Location, ¬ out <+: l → u.entryAt? l = t.entryAt? l ∨
    (t.entryAt? l = none ∧ u.entryAt? l = some .dir ∧ l.Above out)
  /-- In the directory, only it and the directories on the way to the files are new, and
      only the files change. -/
  inside : ∀ l : Location, out <+: l → u.entryAt? l = t.entryAt? l ∨
    (t.entryAt? l = none ∧ u.entryAt? l = some .dir ∧
      (l = out ∨ ∃ a ∈ artifacts, l.Above a.path.place)) ∨
    (t.entryAt? l ≠ some .dir ∧
      ∃ a ∈ artifacts, a.path.place = l ∧ u.entryAt? l = some (.file a.contents.toUTF8))
  /-- Nothing called like a staging directory appears or changes. -/
  staging : ∀ name rest, stagingStem.toList <+: name.toList →
    u.entryAt? (out ++ name :: rest) = t.entryAt? (out ++ name :: rest)

namespace StaysInside

variable {t u : FileTree} {out l : Location} {artifacts : List Artifact}

/-- The first names below the output directory. -/
theorem exists_belowRoot_eq_cons (s : Spec) (kind : ArtifactKind) :
    ∃ n rest, s.belowRoot kind = n :: rest ∧ n ∈ ["src", "CMakeLists.txt"] := by
  cases kind with
  | build => exact ⟨"CMakeLists.txt", [], rfl, by simp⟩
  | common | native | jvm | android | jni | interop => exact ⟨"src", _, rfl, by simp⟩

/-- No way from the output directory to a file goes through a staging directory. -/
theorem not_prefix_belowRoot_of_staging (s : Spec) (kind : ArtifactKind) {name : String}
    (hname : stagingStem.toList <+: name.toList) (rest : Location) :
    ¬ out ++ name :: rest <+: out ++ s.belowRoot kind := by
  have hall : ∀ n ∈ ["src", "CMakeLists.txt"], ¬ stagingStem.toList <+: n.toList := by decide
  obtain ⟨n, below, hbelow, hn⟩ := exists_belowRoot_eq_cons s kind
  rw [List.prefix_append_right_inj, hbelow, List.cons_prefix_cons]
  rintro ⟨rfl, -⟩
  exact hall name hn hname

/-- What is left place by place comes to what the structure says, if all files lie below
    the directory. -/
theorem of_left {s : Spec}
    (hplaces : ∀ a ∈ artifacts, ∃ kind, a.path.place = out ++ s.belowRoot kind)
    (h : ∀ l, Left t u out (artifacts.map Artifact.toTextFile) l) :
    StaysInside t u out artifacts where
  dirs := by
    intro l hdir
    rcases h l with hsame | ⟨habsent, hmade, -⟩ | ⟨f, -, -, hnot, -⟩
    · rw [hsame, hdir]
    · exact hmade
    · exact absurd hdir hnot
  files := by
    intro l bytes hfile
    rcases h l with hsame | ⟨habsent, -, -⟩ | ⟨f, -, -, -, htext⟩
    · exact ⟨bytes, by rw [hsame, hfile]⟩
    · rw [hfile] at habsent
      cases habsent
    · exact ⟨_, htext⟩
  outside := by
    intro l hl
    rcases h l with hsame | ⟨habsent, hmade, hway⟩ | ⟨f, hf, rfl, -, -⟩
    · exact Or.inl hsame
    · refine Or.inr ⟨habsent, hmade, ?_, fun heq => hl (heq ▸ List.prefix_rfl)⟩
      rcases hway with hway | ⟨f, hf, hway, -⟩
      · exact hway
      · -- the way to a file goes through the directory, which is not reached yet
        obtain ⟨a, ha, rfl⟩ := List.mem_map.1 hf
        obtain ⟨kind, hkind⟩ := hplaces a ha
        rcases List.prefix_or_prefix_of_prefix hway (hkind ▸ List.prefix_append _ _) with hin | hout
        · exact hin
        · exact absurd hout hl
    · obtain ⟨a, ha, rfl⟩ := List.mem_map.1 hf
      obtain ⟨kind, hkind⟩ := hplaces a ha
      exact absurd (hkind ▸ List.prefix_append _ _) hl
  inside := by
    intro l hl
    rcases h l with hsame | ⟨habsent, hmade, hway⟩ | ⟨f, hf, hplace, hnot, htext⟩
    · exact Or.inl hsame
    · refine Or.inr (Or.inl ⟨habsent, hmade, ?_⟩)
      rcases hway with hway | ⟨f, hf, hway⟩
      · exact Or.inl (hway.eq_of_length_le hl.length_le)
      · obtain ⟨a, ha, rfl⟩ := List.mem_map.1 hf
        exact Or.inr ⟨a, ha, hway⟩
    · obtain ⟨a, ha, rfl⟩ := List.mem_map.1 hf
      exact Or.inr (Or.inr ⟨hnot, a, ha, hplace, htext⟩)
  staging := by
    intro name rest hname
    have hnot : ∀ a ∈ artifacts, ¬ out ++ name :: rest <+: a.path.place := by
      intro a ha
      obtain ⟨kind, hkind⟩ := hplaces a ha
      rw [hkind]
      exact not_prefix_belowRoot_of_staging s kind hname rest
    rcases h (out ++ name :: rest) with hsame | ⟨-, -, hway⟩ | ⟨f, hf, hplace, -, -⟩
    · exact hsame
    · rcases hway with hway | ⟨f, hf, hway, -⟩
      · have hlength := hway.length_le
        rw [List.length_append, List.length_cons] at hlength
        omega
      · obtain ⟨a, ha, rfl⟩ := List.mem_map.1 hf
        exact absurd hway (hnot a ha)
    · obtain ⟨a, ha, rfl⟩ := List.mem_map.1 hf
      exact absurd (hplace ▸ List.prefix_rfl) (hnot a ha)

end StaysInside

/-! ## Runs -/

namespace CommandLine

variable {t : FileTree} {cwd : Location} {filter : Option String} {arguments : List String}
  {settings : Settings} {job : Job}

/-- A job that leaves no files to deliver leaves the tree as it is. -/
theorem perform_tree_of_not_deliver
    (h : ∀ dir artifacts, (job.work (t.read cwd) cwd.toPath).2 ≠ .ok (.deliver dir artifacts)) :
    (job.perform t cwd).tree = t := by
  unfold Job.perform
  rcases hwork : job.work (t.read cwd) cwd.toPath with ⟨events, e | r | ⟨dir, artifacts⟩⟩
  · rfl
  · rfl
  · exact absurd (congrArg Prod.snd hwork) (h dir artifacts)

/-- With everything loaded, what is left to do is up to the action. -/
theorem work_ok {read : Reader} {cwd : Path} {p : Prepared}
    (h : (job.prepare read cwd).2 = .ok p) :
    (job.work read cwd).2 = .ok (job.action.work cwd job.config p).2 := by
  unfold Job.work
  rcases hprepare : job.prepare read cwd with ⟨events, e | q⟩
  · rw [hprepare] at h
    cases h
  · rw [hprepare] at h
    obtain rfl : q = p := Except.ok.inj h
    rfl

/-- A generation delivers the files of the binding that was prepared. -/
theorem work_of_prepare {p : Prepared} {out : Path} (haction : job.action = .generate out false)
    (h : (job.prepare (t.read cwd) cwd.toPath).2 = .ok p) :
    (job.work (t.read cwd) cwd.toPath).2 = .ok (.deliver (Path.absolute cwd.toPath out)
      (generate p.spec p.templates ⟨Path.absolute cwd.toPath out⟩)) := by
  rw [work_ok h, haction]
  rfl

/-- The files of a generation are put below its output directory. -/
theorem perform_staysInside {p : Prepared} {out : Path}
    (haction : job.action = .generate out false)
    (h : (job.prepare (t.read cwd) cwd.toPath).2 = .ok p) :
    StaysInside t (job.perform t cwd).tree (Path.absolute cwd.toPath out).place
      (generate p.spec p.templates ⟨Path.absolute cwd.toPath out⟩) := by
  have hwork := work_of_prepare haction h
  obtain ⟨hdir, hfiles⟩ := apart_of_work hwork
  obtain ⟨moved, rest, v, haccount, -⟩ :=
    account_deliver t cwd hdir hfiles.canonical hfiles.distinct
  have hjob : job.work (t.read cwd) cwd.toPath = (_, .ok (.deliver _ _)) := Prod.ext rfl hwork
  rw [(perform_deliver hjob).1]
  refine StaysInside.of_left (s := p.spec.spec) (fun a ha => ?_) haccount.left
  obtain ⟨kind, -, rfl⟩ := List.mem_map.1 ha
  exact ⟨kind, Spec.place_artifactPath p.spec.valid _ kind⟩

/-- A run leaves the tree as it is unless it is a generation, no dry run, whose
    configuration and templates are loaded and found valid; whether that one succeeds or
    not, it stays inside its output directory, where it touches the files of the binding
    only. -/
theorem run_staysInside (t : FileTree) (cwd : Location) (filter : Option String)
    (arguments : List String) :
    ((∀ settings job out, parseArguments arguments = .ok (.job settings job) →
        job.action ≠ .generate out false) →
      (run t cwd filter arguments).1 = t) ∧
    ∀ settings job out, parseArguments arguments = .ok (.job settings job) →
      job.action = .generate out false →
      ((∀ p, (job.prepare (t.read cwd) cwd.toPath).2 ≠ .ok p) →
        (run t cwd filter arguments).1 = t) ∧
      ∀ p, (job.prepare (t.read cwd) cwd.toPath).2 = .ok p →
        StaysInside t (run t cwd filter arguments).1 (Path.absolute cwd.toPath out).place
          (generate p.spec p.templates ⟨Path.absolute cwd.toPath out⟩) := by
  constructor
  · intro hnot
    rcases hargs : parseArguments arguments with m | ⟨- | ⟨settings, job⟩⟩
    · rw [run, hargs]
    · rw [run, hargs]
    · rw [run_of_job hargs]
      refine perform_tree_of_not_deliver fun dir artifacts hwork => ?_
      obtain ⟨out, -, haction, -⟩ := work_deliver hwork
      exact hnot settings job out hargs haction
  · intro settings job out hargs haction
    rw [run_of_job hargs]
    refine ⟨fun hnot => ?_, fun p hprepare => perform_staysInside haction hprepare⟩
    refine perform_tree_of_not_deliver fun dir artifacts hwork => ?_
    obtain ⟨-, p, -, hprepare, -⟩ := work_deliver hwork
    exact hnot p hprepare

/-- The theorem at a validation, and at a generation that fails after it has put some of
    its files in their places. -/
theorem run_staysInside_blocked :
    (run blockedTree [] none ["validate", "/c.toml"]).1 = blockedTree ∧
      (run blockedTree [] none smallArguments).2.exitCode = 1 ∧
      ∃ p, (smallJob.prepare (blockedTree.read []) (Location.toPath [])).2 = .ok p ∧
        StaysInside blockedTree (run blockedTree [] none smallArguments).1 ["out"]
          (generate p.spec p.templates ⟨⟨"/out"⟩⟩) := by
  have hvalidate : parseArguments ["validate", "/c.toml"] =
      .ok (.job ⟨.text, false, false⟩ ⟨⟨"/c.toml"⟩, none, .validate⟩) := by
    decide
  have haction : smallJob.action = .generate ⟨"/out"⟩ false := rfl
  have hroot : Path.absolute (Location.toPath []) ⟨"/out"⟩ = ⟨"/out"⟩ := by decide
  have hplace : Path.place ⟨"/out"⟩ = ["out"] := by decide
  obtain ⟨hexit, hbefore, hafter⟩ := run_blocked
  refine ⟨(run_staysInside blockedTree [] none ["validate", "/c.toml"]).1 ?_, hexit, ?_⟩
  · intro settings job out hargs
    rw [hvalidate] at hargs
    cases hargs
    simp
  · obtain ⟨hunprepared, hinside⟩ := (run_staysInside blockedTree [] none smallArguments).2 _ _ _
      parseArguments_small haction
    by_cases hprepare : ∃ p, (smallJob.prepare (blockedTree.read []) (Location.toPath [])).2 = .ok p
    · obtain ⟨p, hp⟩ := hprepare
      have hstays := hinside p hp
      rw [hroot, hplace] at hstays
      exact ⟨p, hp, hstays⟩
    · -- a file was put in its place, so the configuration was valid
      rw [hunprepared fun p hp => hprepare ⟨p, hp⟩, hbefore] at hafter
      cases hafter

end CommandLine

end GrammarBindings
