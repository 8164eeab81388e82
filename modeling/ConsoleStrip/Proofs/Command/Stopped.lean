/-
What is left of a project when a run ends in error.

* `Options.Blocked`: a file that is to be written, where it or its source map cannot
  be;
* `LeftAfter`: what is left of a project of which some files were processed.
  `leftAfter_processEach`: so it is for any of its files, in any order, whatever
  writes fail and wherever they stop;
* `exists_blocked`: one after another, files are processed up to the first that is
  blocked;
* `Strip.not_kept_in_error`: a run that ends in error can have changed files;
* `Strip.left_in_error`: a run that ends in error either changed nothing or could
  not write a file, and what it left then.
-/
import ConsoleStrip.Proofs.Command.Print
import ConsoleStrip.Proofs.Command.Report

namespace ConsoleStrip

open FileSystem

section Files

variable {o : Options} {mode : WriteMode} {cwd : Place} {fs : FileSystem} {path m : String}
  {paths started : List String}

/-! ### Files that cannot be written -/

/-- A file that is to be written, where it or its source map cannot be. -/
def Options.Blocked (o : Options) (mode : WriteMode) (cwd : Place) (fs : FileSystem)
    (path : String) : Prop :=
  (o.outcomeOf cwd fs path).stripped?.isSome ∧ ∃ t ∈ mode.targets path, ¬ fs.Writable cwd t

/-- A file succeeds exactly if it is not blocked. -/
lemma succeeds_iff_not_blocked (hmode : mode.apply = true) {folder : Place} {name : String}
    (h : SourceAt fs cwd path folder name) :
    o.Succeeds mode cwd fs path ↔ ¬ o.Blocked mode cwd fs path := by
  simp [succeeds_iff hmode h, Options.Blocked]

lemma Independent.subperm (h : Independent fs cwd paths) (hstarted : started.Subperm paths) :
    Independent fs cwd started := by
  obtain ⟨chosen, hperm, hchosen⟩ := hstarted
  exact Independent.perm ⟨fun f hf => h.source f (hchosen.subset hf), h.apart.sublist hchosen⟩
    hperm.symm

/-- What is left of a project of which some files were processed, whatever came of
each. -/
structure LeftAfter (o : Options) (mode : WriteMode) (cwd : Place) (before after : FileSystem)
    (files started : List String) : Prop where
  /-- A file that can be written has become what it was to become. -/
  settled : ∀ f ∈ started, ¬ o.Blocked mode cwd before f → Settled o mode cwd before after f
  /-- One that cannot was not, or its source map was not. -/
  brokenOff : ∀ f ∈ started, o.Blocked mode cwd before f → BrokenOff o mode cwd before after f
  /-- The files that were not processed are as they were, and their source maps. -/
  kept : ∀ f ∈ files, f ∉ started → ∀ q, Footprint before cwd f q →
    after.entry? q = before.entry? q
  /-- Nothing is changed but files that are stripped and their source maps. -/
  same : ∀ q, (∀ f ∈ started, ¬ o.Touches mode cwd before f q) →
    after.entry? q = before.entry? q

/-- **So it is for any of the files of a project, in any order.** -/
lemma leftAfter_processEach (hmode : mode.apply = true) (h : Independent fs cwd paths)
    (hstarted : started.Subperm paths) :
    LeftAfter o mode cwd fs (processEach o mode cwd fs started) paths started := by
  have hindependent := h.subperm hstarted
  have hagree := agrees_processEach o mode hindependent (.refl _ fs)
  have : Std.Symm (Apart fs cwd) := ⟨fun _ _ => Apart.symm⟩
  refine ⟨fun f hf hfree => ?_, fun f hf hblocked => ?_, fun f hf hno q hq => ?_, hagree.same⟩
  · obtain ⟨folder, name, hsource⟩ := hindependent.source f hf
    exact settled_processEach hmode hindependent hf
      ((succeeds_iff_not_blocked hmode hsource).mpr hfree)
  · obtain ⟨folder, name, hsource⟩ := hindependent.source f hf
    refine brokenOff_processEach hindependent hf fun hok => ?_
    exact (succeeds_iff_not_blocked hmode hsource).mp hok hblocked
  · refine hagree.same q fun g hg htouches => ?_
    have hne : f ≠ g := by
      rintro rfl
      exact hno hg
    exact h.apart.forall hf (hstarted.subset hg) hne q hq htouches.footprint

/-- Nothing fails to be written in a run that writes nothing. -/
lemma apply_of_processFiles_error (h : (processFiles o mode cwd fs paths).outcomes = .error m) :
    mode.apply = true := by
  by_contra hdry
  rw [Bool.not_eq_true] at hdry
  simp [processFiles_of_dry o hdry] at h

/-- **One after another, files are processed up to the first that is blocked.** -/
lemma exists_blocked (h : Independent fs cwd paths)
    (herror : (processFiles o mode cwd fs paths).outcomes = .error m) :
    ∃ done file rest, paths = done ++ file :: rest
      ∧ (∀ f ∈ done, ¬ o.Blocked mode cwd fs f) ∧ o.Blocked mode cwd fs file
      ∧ (processFiles o mode cwd fs paths).files = processEach o mode cwd fs (done ++ [file]) := by
  have hmode := apply_of_processFiles_error herror
  obtain ⟨outs, houts, -⟩ | ⟨m', done, file, rest, -, rfl, ⟨outs, hdone⟩, hfile, hfiles⟩ :=
    processFiles_cases o mode cwd fs paths
  · rw [houts] at herror
    cases herror
  · have hindependent : Independent fs cwd done :=
      h.subperm (List.sublist_append_left _ _).subperm
    refine ⟨done, file, rest, rfl, fun f hf => ?_, ?_, hfiles⟩
    · obtain ⟨folder, name, hsource⟩ := hindependent.source f hf
      rw [← succeeds_iff_not_blocked hmode hsource]
      exact ((outcomes_processFiles hindependent (.refl _ fs) outs).mp hdone).1 f hf
    · obtain ⟨folder, name, hsource⟩ := h.source file (by simp)
      -- the files before leave the places of this one, so that it fails alone as well
      have hbefore := agrees_processEach o mode hindependent (.refl _ fs)
      obtain ⟨hsame, -, -⟩ := processFile_of_agrees o mode hbefore hsource fun q hq f hf htouches =>
        (List.pairwise_append.mp h.apart).2.2 f hf file List.mem_cons_self q htouches.footprint hq
      by_contra hfree
      rw [← succeeds_iff_not_blocked hmode hsource, Options.Succeeds, ← hsame, hfile] at hfree
      cases hfree

end Files

/-! ### Runs -/

/-- A run that cannot make a configuration file changes nothing else. -/
lemma Init.files_of_error {fs : FileSystem} {cwd : Place}
    (h : (Init.run fs cwd).status = .error) {q : Place}
    (hq : fs.locate cwd Config.fileName ≠ .ok q) :
    FileSystem.entry? (Init.run fs cwd).files q = fs.entry? q := by
  rw [Init.run] at h ⊢
  split_ifs at h ⊢
  have hwrite := agrees_write fs cwd Config.fileName ({} : Config).text
  rw [writeFile] at h ⊢
  cases hfault : (fs.write cwd Config.fileName ({} : Config).text).fault? with
  | none => simp [hfault] at h
  | some f => exact hwrite.same q hq

lemma ExitStatus.code_eq_two {s : ExitStatus} (h : s.code = 2) : s = .error := by
  cases s <;> simp_all [code]

namespace Strip

variable {fs : FileSystem} {cwd : Place} {args : StripArgs} {c : Config}

/-- What a run that ended in error left. All is as it was if there is no
configuration or no folder of sources. Otherwise files were written, one after
another, up to the first that cannot be. In whatever order files of the project are
processed, and also if that does not end with the first that cannot be written, the
same is true of what is left. -/
def LeftInError (fs : FileSystem) (cwd : Place) (args : StripArgs) (after : FileSystem) : Prop :=
  match (Config.load fs cwd).1 with
  | .error _ => after = fs
  | .ok ⟨c, _⟩ =>
    if fs.isFolder cwd (root args c) then
      let o := args.transform.options c
      let files := (scanned fs cwd args c).files
      args.apply = true
      ∧ (∃ done file rest, files = done ++ file :: rest
        ∧ (∀ f ∈ done, ¬ o.Blocked (mode args) cwd fs f) ∧ o.Blocked (mode args) cwd fs file
        ∧ after = processEach o (mode args) cwd fs (done ++ [file]))
      ∧ ∀ started, started.Subperm files →
        LeftAfter o (mode args) cwd fs (processEach o (mode args) cwd fs started) files started
    else after = fs

lemma leftInError_run (hfs : fs.Lawful) (herror : (run fs cwd args).status = .error) :
    LeftInError fs cwd args (run fs cwd args).files := by
  rcases hload : Config.load fs cwd with ⟨m | loaded, events⟩
  · simp [LeftInError, run, hload, CommandResult.failed]
  · rw [run_of_load hload] at herror ⊢
    rw [LeftInError, hload]
    by_cases hroot : fs.isFolder cwd (root args loaded.config)
    · rw [runWith_eq args loaded.config hroot] at herror ⊢
      simp only [if_pos hroot]
      have hindependent : Independent fs cwd (scanned fs cwd args loaded.config).files :=
        independent_scanned hfs hroot
      cases houtcomes : (processed fs cwd args loaded.config
          (scanned fs cwd args loaded.config).files).outcomes with
      | ok outs =>
          refine absurd herror ((status_conclude _ _ _ _).mpr ?_)
          exact exists_report_iff.mpr ⟨outs, houtcomes⟩
      | error m =>
          have happly : args.apply = true := apply_of_processFiles_error houtcomes
          rw [report, houtcomes]
          exact ⟨happly, exists_blocked hindependent houtcomes,
            fun started hstarted => leftAfter_processEach happly hindependent hstarted⟩
    · simp only [if_neg hroot, runWith_of_not_isFolder hroot]
      rfl

/-- **A run that ends in error could not write a file, or changes nothing.** It
changes nothing if the configuration cannot be read or the folder of sources is none.
Otherwise files are to be written, and some of them were processed, one that cannot
be written among them. Those that can be written are complete. Of each that cannot,
the source map or the file itself is as it was or holds a first part of what was to
be there; the source map is complete if the file was tried, and the file is as it was
if not. Nothing else is changed. No other run of the program that ends with 2 changes
anything but the configuration file that it was to make. -/
theorem left_in_error (hfs : fs.Lawful) (cwd : Place) :
    (∀ args, (run fs cwd args).status = .error →
      LeftInError fs cwd args (run fs cwd args).files)
    ∧ ∀ log argv, let ran := Program.run fs cwd log argv
      ran.exit = 2 → ran.files = fs
        ∨ (∃ args, Arguments.parse argv = .ok (.strip args)
          ∧ LeftInError fs cwd args ran.files)
        ∨ (Arguments.parse argv = .ok .init
          ∧ ∀ q, fs.locate cwd Config.fileName ≠ .ok q →
            ran.files.entry? q = fs.entry? q) := by
  refine ⟨fun args => leftInError_run hfs, fun log argv => ?_⟩
  intro ran hexit
  cases hparse : Arguments.parse argv with
  | error e =>
      left
      simp only [ran, Program.run, hparse]
      cases e <;> rfl
  | ok a =>
      cases hfilter : Program.logFilter log a.verbose with
      | error m =>
          left
          simp only [ran, Program.run, hparse, hfilter]
      | ok filter =>
          simp only [ran, Program.run_of_parse hparse hfilter] at hexit ⊢
          have herror := ExitStatus.code_eq_two hexit
          cases a with
          | nothing => exact .inl rfl
          | strip args => exact .inr (.inl ⟨args, rfl, leftInError_run hfs herror⟩)
          | print args => exact .inl (Print.files_run fs cwd args)
          | init => exact .inr (.inr ⟨rfl, fun q hq => Init.files_of_error herror hq⟩)

/-- The project of three files on a disk that is full by the time the second is
written. -/
def fullDisk : FileSystem :=
  { blockedFiles with
    stops := [(["src", "b.js"], ⟨.system "No space left on device" 28, some 0⟩)] }

lemma lawful_fullDisk : fullDisk.Lawful := ⟨lawful_blockedFiles.nodup, lawful_blockedFiles.isName⟩

/-- The first file is written, and the second is emptied. -/
lemma processed_fullDisk :
    let done := processed fullDisk [] { apply := true } twoFilesConfig
      ["src/a.js", "src/b.js", "src/c.js"]
    done.outcomes = .error "Failed to write src/b.js: No space left on device (os error 28)"
    ∧ done.files.readAt ["src", "a.js"] = .ok "// keep-console\nconsole.log(1);\n"
    ∧ done.files.readAt ["src", "b.js"] = .ok "" := by
  decide +kernel

lemma run_fullDisk :
    let ran := run fullDisk [] { apply := true }
    ran.status = .error
    ∧ ran.files.readAt ["src", "a.js"] = .ok "// keep-console\nconsole.log(1);\n"
    ∧ ran.files.readAt ["src", "b.js"] = .ok "" := by
  intro ran
  have hload : Config.load fullDisk []
      = (.ok ⟨twoFilesConfig, true⟩, [.configLoaded "/.keepconsolerc.json"]) := by rfl
  have hroot : fullDisk.isFolder [] (root { apply := true } twoFilesConfig) :=
    isFolder_blockedFiles
  have hscanned : scanned fullDisk [] { apply := true } twoFilesConfig
      = ⟨["src/a.js", "src/b.js", "src/c.js"], 0, []⟩ := scanned_blockedFiles
  obtain ⟨hfault, hread⟩ := processed_fullDisk
  simp only [ran, run_of_load hload, runWith_eq _ _ hroot, report, hscanned, hfault]
  exact ⟨rfl, hread⟩

/-- A run without source maps that ends in error: the first file is stripped, and
what the second held is lost. -/
theorem left_in_error_full_disk :
    let args : StripArgs := { apply := true }
    let ran := Program.run fullDisk [] none ["strip", "--apply"]
    fullDisk.Lawful ∧ (run fullDisk [] args).status = .error
    ∧ LeftInError fullDisk [] args (run fullDisk [] args).files
    ∧ (run fullDisk [] args).files.readAt ["src", "a.js"]
      = .ok "// keep-console\nconsole.log(1);\n"
    ∧ (run fullDisk [] args).files.readAt ["src", "b.js"] = .ok ""
    ∧ ran.exit = 2
    ∧ (ran.files = fullDisk
      ∨ (∃ args, Arguments.parse ["strip", "--apply"] = .ok (.strip args)
        ∧ LeftInError fullDisk [] args ran.files)
      ∨ (Arguments.parse ["strip", "--apply"] = .ok .init
        ∧ ∀ q, fullDisk.locate [] Config.fileName ≠ .ok q →
          ran.files.entry? q = fullDisk.entry? q)) := by
  intro args ran
  obtain ⟨hrun, hprogram⟩ := left_in_error lawful_fullDisk []
  obtain ⟨herror, hfirst, hsecond⟩ := run_fullDisk
  have hexit : ran.exit = 2 := by
    rw [show ran = _ from Program.run_of_parse (a := .strip args) rfl rfl]
    exact congrArg ExitStatus.code herror
  exact ⟨lawful_fullDisk, herror, hrun args herror, hfirst, hsecond, hexit, hprogram none _ hexit⟩

/-- The folder is in the way of a source map, when the first file has been
written. -/
lemma processed_blockedFiles :
    let done := processed blockedFiles [] { apply := true, sourceMap := true } twoFilesConfig
      ["src/a.js", "src/b.js", "src/c.js"]
    done.outcomes = .error "Failed to write src/b.js.map: Is a directory (os error 21)"
    ∧ done.files.readAt ["src", "a.js"]
      = .ok "// keep-console\nconsole.log(1);\n//# sourceMappingURL=a.js.map\n" := by
  decide +kernel

lemma run_blockedFiles :
    let ran := run blockedFiles [] { apply := true, sourceMap := true }
    ran.status = .error
    ∧ ran.files.readAt ["src", "a.js"]
      = .ok "// keep-console\nconsole.log(1);\n//# sourceMappingURL=a.js.map\n" := by
  intro ran
  have hroot : blockedFiles.isFolder []
      (root { apply := true, sourceMap := true } twoFilesConfig) := isFolder_blockedFiles
  have hscanned : scanned blockedFiles [] { apply := true, sourceMap := true } twoFilesConfig
      = ⟨["src/a.js", "src/b.js", "src/c.js"], 0, []⟩ := scanned_blockedFiles
  obtain ⟨hfault, hread⟩ := processed_blockedFiles
  simp only [ran, run_of_load load_blockedFiles, runWith_eq _ _ hroot, report, hscanned, hfault]
  exact ⟨rfl, hread⟩

/-- A run that ends in error can have changed a file: a folder is in the way of
what is to be written after it. -/
theorem not_kept_in_error :
    ¬ ∀ (fs : FileSystem) (cwd : Place) (args : StripArgs), fs.Lawful → args.apply = true →
      (run fs cwd args).status = .error →
      ∀ p text, fs.readAt p = .ok text → (run fs cwd args).files.readAt p = .ok text := by
  intro h
  obtain ⟨herror, hread⟩ := run_blockedFiles
  have hkept := h blockedFiles [] { apply := true, sourceMap := true } lawful_blockedFiles rfl
    herror ["src", "a.js"] _ rfl
  exact absurd (hread.symm.trans hkept) (by decide)

end Strip

end ConsoleStrip
