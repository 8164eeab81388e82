/-
What the command that rewrites a project does.

* `Strip.report`: what the command finds out about a project. `Strip.runWith_eq`:
  all that it says is made of this;
* `Strip.lawful_run`: a run leaves a lawful file system;
* `Strip.applied_in_any_order`: in whatever order the files are processed, the
  stripped ones hold what came of them, everything else is as it was, and the
  outcomes are the same;
* `Strip.dry_run_predicts`: a run that only shows what would be done changes
  nothing, and finds out what a run that does it finds out.
-/
import ConsoleStrip.Proofs.Command.Project

namespace ConsoleStrip

open FileSystem

namespace Strip

variable {fs : FileSystem} {cwd : Place} {args : StripArgs} {c : Config}

/-! ### The parts of the command -/

/-- The folder that is searched for source files. -/
def root (args : StripArgs) (c : Config) : String := args.sourceRoot.getD c.sourceRoot

/-- The source files that are found. -/
def scanned (fs : FileSystem) (cwd : Place) (args : StripArgs) (c : Config) : Scan :=
  fs.scan cwd (root args c) c.ignores

/-- What is written. -/
def mode (args : StripArgs) : WriteMode := ⟨args.apply, args.sourceMap⟩

/-- What happens to files that are processed in some order. -/
def processed (fs : FileSystem) (cwd : Place) (args : StripArgs) (c : Config)
    (order : List String) : ProcessedAll :=
  processFiles (args.transform.options c) (mode args) cwd fs order

/-- What happened to the files of a project, or what could not be written. -/
def report (fs : FileSystem) (cwd : Place) (args : StripArgs) (c : Config) :
    Except String StripReport :=
  (processed fs cwd args c (scanned fs cwd args c).files).outcomes.map fun outcomes =>
    ⟨outcomes, (scanned fs cwd args c).skipped, args.apply⟩

/-- The end of a run, given what happened to the files. -/
def conclude (verbose : Bool) (events : List Event) (files : FileSystem) :
    Except String StripReport → CommandResult
  | .error m => .failed m events files
  | .ok r =>
    { status := if r.hasFailures then .failure else .success
      out := r.out verbose
      err := r.err
      events
      files }

/-- The command processes what a scan finds, and says what happened. -/
lemma runWith_eq (args : StripArgs) (c : Config) (hroot : fs.isFolder cwd (root args c)) :
    runWith fs cwd args c = conclude args.transform.verbose
      ((scanned fs cwd args c).events
        ++ (processed fs cwd args c (scanned fs cwd args c).files).events)
      (processed fs cwd args c (scanned fs cwd args c).files).files (report fs cwd args c) := by
  rw [root] at hroot
  rw [runWith, report, processed, scanned, root, mode]
  simp only [hroot, Bool.not_true, Bool.false_eq_true, if_false]
  cases (processFiles (args.transform.options c) ⟨args.apply, args.sourceMap⟩ cwd fs
    (fs.scan cwd (args.sourceRoot.getD c.sourceRoot) c.ignores).files).outcomes <;> rfl

/-- The command refuses to act on what is no folder. -/
lemma runWith_of_not_isFolder (hroot : ¬ fs.isFolder cwd (root args c)) :
    runWith fs cwd args c
      = .failed ("Source root is not a directory: " ++ root args c) [] fs := by
  rw [root] at hroot ⊢
  rw [runWith]
  simp only [hroot, Bool.not_false, if_true]

/-- A run leaves a lawful file system, so that another run can follow. -/
theorem lawful_run (hcwd : ∀ n ∈ cwd, Path.IsName n) (hfs : fs.Lawful) (args : StripArgs) :
    (run fs cwd args).files.Lawful := by
  rw [run]
  split
  · exact hfs
  · next loaded events hload =>
    by_cases hroot : fs.isFolder cwd (root args loaded.config)
    · rw [runWith_eq args loaded.config hroot]
      cases report fs cwd args loaded.config <;> exact lawful_processFiles hcwd hfs
    · rw [runWith_of_not_isFolder hroot]
      exact hfs

/-! ### Any order -/

/-- What a scan finds is independent. -/
lemma independent_scanned (hfs : fs.Lawful) (hroot : fs.isFolder cwd (root args c)) :
    Independent fs cwd (scanned fs cwd args c).files :=
  independent_scan hfs hroot c.ignores

/-- In any order, the outcome of each file is what it is alone. -/
lemma outcomes_processed (hfs : fs.Lawful) (hroot : fs.isFolder cwd (root args c))
    {order : List String} (horder : order.Perm (scanned fs cwd args c).files)
    (outcomes : List FileOutcome) :
    (processed fs cwd args c order).outcomes = .ok outcomes
      ↔ (∀ f ∈ order, (args.transform.options c).Succeeds (mode args) cwd fs f)
        ∧ outcomes = order.map ((args.transform.options c).outcomeOf cwd fs) :=
  outcomes_processFiles ((independent_scanned hfs hroot).perm horder) (.refl _ fs) outcomes

/-- A run ends in error exactly if something could not be written. -/
lemma status_conclude (verbose : Bool) (events : List Event) (files : FileSystem)
    (r : Except String StripReport) :
    (conclude verbose events files r).status ≠ .error ↔ ∃ report, r = .ok report := by
  cases r with
  | error m => simp [conclude, CommandResult.failed]
  | ok report =>
      simp only [conclude, Except.ok.injEq, exists_eq', iff_true]
      split <;> simp

lemma exists_report_iff : (∃ r, report fs cwd args c = .ok r)
    ↔ ∃ outcomes, (processed fs cwd args c (scanned fs cwd args c).files).outcomes
      = .ok outcomes := by
  rw [report]
  cases (processed fs cwd args c (scanned fs cwd args c).files).outcomes <;> simp [Except.map]

/-- **The result of a run does not depend on the order of the files.** All goes
well, in this and in any order, exactly if the files that are stripped and their
source maps can be written as the project stands. Then the outcomes are those of
the files as they stood, the same stands at every place, the files that are
stripped hold what came of them, and nothing else is changed but their source
maps. No source map is ever taken for a source file. -/
theorem applied_in_any_order (hfs : fs.Lawful) (hroot : fs.isFolder cwd (root args c))
    (happly : args.apply = true) {order : List String}
    (horder : order.Perm (scanned fs cwd args c).files) :
    let o := args.transform.options c
    let done := processed fs cwd args c order
    let run := runWith fs cwd args c
    ((∃ outcomes, done.outcomes = .ok outcomes) ↔
      ∀ f ∈ order, (o.outcomeOf cwd fs f).stripped?.isSome →
        ∀ t ∈ (mode args).targets f, fs.Writable cwd t)
    ∧ ((∃ outcomes, done.outcomes = .ok outcomes) ↔ run.status ≠ .error)
    ∧ (∀ outcomes, done.outcomes = .ok outcomes →
        outcomes = order.map (o.outcomeOf cwd fs)
        ∧ (∀ q, run.files.entry? q = done.files.entry? q)
        ∧ (∀ q, (∀ f ∈ order, ¬ o.Touches (mode args) cwd fs f q) →
            done.files.entry? q = fs.entry? q)
        ∧ ∀ f ∈ order, Settled o (mode args) cwd fs done.files f)
    ∧ ∀ f gs place folder ignores, mapPath f ∉ (FileSystem.scan gs place folder ignores).files := by
  intro o done run
  have hsources := independent_scanned hfs hroot
  have hindependent := hsources.perm horder
  have hfiles : run.files = (processed fs cwd args c (scanned fs cwd args c).files).files := by
    rw [show run = _ from runWith_eq args c hroot]
    cases report fs cwd args c <;> rfl
  refine ⟨?_, ?_, fun outcomes houtcomes => ?_, fun f gs place folder ignores hf => ?_⟩
  · simp only [done, outcomes_processed hfs hroot horder, exists_and_left, exists_eq, and_true]
    refine forall₂_congr fun f hf => ?_
    obtain ⟨folder, name, hsource⟩ := hindependent.source f hf
    exact succeeds_iff happly hsource
  · rw [show run = _ from runWith_eq args c hroot, status_conclude, exists_report_iff]
    simp only [done, outcomes_processed hfs hroot horder, outcomes_processed hfs hroot (.refl _),
      exists_and_left, exists_eq, and_true, horder.mem_iff]
  · obtain ⟨hall, hmap⟩ := (outcomes_processed hfs hroot horder outcomes).mp houtcomes
    have hdone : done.files = _ := files_processFiles houtcomes
    have hrun : run.files = _ := hfiles.trans (files_processFiles
      ((outcomes_processed hfs hroot (.refl _) _).mpr
        ⟨fun f hf => hall f (horder.mem_iff.mpr hf), rfl⟩))
    rw [hdone, hrun]
    refine ⟨hmap, fun q => (processEach_perm hsources horder q).symm, ?_, fun f hf => ?_⟩
    · exact (agrees_processEach o (mode args) hindependent (.refl _ fs)).same
    · exact settled_processEach happly hindependent hf (hall f hf)
  · -- the path of a source map has no kind
    have hkind := isSome_ofPath?_of_mem_scan hf
    simp [ofPath?_mapPath] at hkind

/-- A project of two files, in one of which a call stands. -/
def twoFiles : FileSystem where
  entries :=
    [([".keepconsolerc.json"],
        .file (.text "\x7b\"sourceRoot\": \"src\", \"ignores\": []\x7d")),
     (["src"], .folder),
     (["src", "a.js"], .file (.text "console.log(1);\nrun();")),
     (["src", "b.js"], .file (.text "go();"))]

/-- The configuration of that project. -/
def twoFilesConfig : Config := { sourceRoot := "src", ignores := [] }

lemma load_twoFiles : (Config.load twoFiles []).1 = .ok ⟨twoFilesConfig, true⟩ := by rfl

lemma lawful_twoFiles : twoFiles.Lawful := by decide

lemma isFolder_twoFiles : twoFiles.isFolder [] "src" := by decide

/-- Both files are found, in the order of their paths. -/
lemma scanned_twoFiles :
    scanned twoFiles [] {} twoFilesConfig = ⟨["src/a.js", "src/b.js"], 0, []⟩ := by
  have hnames : twoFiles.names ["src"] = ["a.js", "b.js"] :=
    List.mergeSort_of_pairwise (by decide)
  have hwalk : twoFiles.walk {} twoFiles.depth "src" ["src"]
      = [.folder "src", .file "src/a.js", .file "src/b.js"] := by
    unfold FileSystem.depth
    rw [walk, hnames]
    decide
  have hfiles : ["src/a.js", "src/b.js"].mergeSort Path.le = ["src/a.js", "src/b.js"] :=
    List.mergeSort_of_pairwise (by decide)
  change (let visits := twoFiles.walk {} twoFiles.depth "src" ["src"]
    Scan.mk ((visits.filterMap (sourceFile? {})).mergeSort Path.le)
      (visits.filterMap unreadableEvent?).length ([] ++ visits.filterMap unreadableEvent?)) = _
  rw [hwalk]
  change Scan.mk (["src/a.js", "src/b.js"].mergeSort Path.le) 0 [] = _
  rw [hfiles]

/-- The call goes, and the second file has none. -/
lemma processed_twoFiles :
    let args : StripArgs := { apply := true, sourceMap := true }
    let done := processed twoFiles [] args twoFilesConfig ["src/b.js", "src/a.js"]
    done.outcomes = .ok [.unchanged 0, .stripped "src/a.js" ⟨1, 0, 0⟩]
    ∧ done.files.read [] "src/a.js" = .ok "run();\n//# sourceMappingURL=a.js.map\n" := by
  decide +kernel

/-- The second file is processed first: what is left is the same as in the order
of their paths, and the file that is not stripped stays. -/
theorem applied_in_any_order_two_files :
    let args : StripArgs := { apply := true, sourceMap := true }
    let order := ["src/b.js", "src/a.js"]
    let done := processed twoFiles [] args twoFilesConfig order
    let run := runWith twoFiles [] args twoFilesConfig
    twoFiles.Lawful ∧ order.Perm (scanned twoFiles [] args twoFilesConfig).files
    ∧ done.outcomes = .ok [.unchanged 0, .stripped "src/a.js" ⟨1, 0, 0⟩]
    ∧ done.files.read [] "src/a.js" = .ok "run();\n//# sourceMappingURL=a.js.map\n"
    ∧ run.status ≠ .error
    ∧ (∀ q, run.files.entry? q = done.files.entry? q)
    ∧ done.files.at? [] "src/b.js" = twoFiles.at? [] "src/b.js" := by
  intro args order done run
  have hroot : twoFiles.isFolder [] (root args twoFilesConfig) := isFolder_twoFiles
  have horder : order.Perm (scanned twoFiles [] args twoFilesConfig).files := by
    rw [show scanned twoFiles [] args twoFilesConfig = _ from scanned_twoFiles]
    exact .swap _ _ _
  obtain ⟨houtcomes, hread⟩ := processed_twoFiles
  obtain ⟨-, hstatus, hdone, -⟩ := applied_in_any_order lawful_twoFiles hroot rfl horder
  obtain ⟨hmap, hsame, -, hsettled⟩ := hdone _ houtcomes
  have hkept := hsettled "src/b.js" (by simp [order])
  have hunchanged : (args.transform.options twoFilesConfig).outcomeOf [] twoFiles "src/b.js"
      = .unchanged 0 := (List.cons.inj hmap).1.symm
  rw [Settled, hunchanged] at hkept
  exact ⟨lawful_twoFiles, horder, houtcomes, hread, hstatus.mp ⟨_, houtcomes⟩, hsame, hkept⟩

/-! ### Runs that write nothing -/

/-- What the command finds out about a project, if it gets to process the files
and can write them. -/
def report? (fs : FileSystem) (cwd : Place) (args : StripArgs) : Option StripReport :=
  match (Config.load fs cwd).1 with
  | .error _ => none
  | .ok loaded =>
    if fs.isFolder cwd (root args loaded.config) then
      (report fs cwd args loaded.config).toOption
    else none

/-- The command gets to process the files, and something cannot be written. -/
def WriteFails (fs : FileSystem) (cwd : Place) (args : StripArgs) : Prop :=
  ∃ loaded m, (Config.load fs cwd).1 = .ok loaded
    ∧ fs.isFolder cwd (root args loaded.config)
    ∧ report fs cwd args loaded.config = .error m

/-- What is to be found out about a project as it stands. -/
def forecast (fs : FileSystem) (cwd : Place) (args : StripArgs) (c : Config) : StripReport :=
  ⟨(scanned fs cwd args c).files.map ((args.transform.options c).outcomeOf cwd fs),
    (scanned fs cwd args c).skipped, args.apply⟩

/-- The events of the source files of a project as it stands. -/
def forecastEvents (fs : FileSystem) (cwd : Place) (args : StripArgs) (c : Config) : List Event :=
  (scanned fs cwd args c).files.flatMap fun f =>
    ((args.transform.options c).examine f (fs.read cwd f)).events

/-- A run that writes nothing reports the project as it stands. -/
lemma runWith_of_dry (args : StripArgs) (c : Config) (hdry : args.apply = false)
    (hroot : fs.isFolder cwd (root args c)) :
    report fs cwd args c = .ok (forecast fs cwd args c)
    ∧ runWith fs cwd args c = conclude args.transform.verbose
        ((scanned fs cwd args c).events ++ forecastEvents fs cwd args c) fs
        (.ok (forecast fs cwd args c)) := by
  have hmode : (mode args).apply = false := hdry
  have hprocessed := processFiles_of_dry (args.transform.options c) hmode cwd fs
    (scanned fs cwd args c).files
  have hreport : report fs cwd args c = .ok (forecast fs cwd args c) := by
    rw [report, processed, hprocessed]
    rfl
  refine ⟨hreport, ?_⟩
  rw [runWith_eq args c hroot, hreport, processed, hprocessed]
  rfl

/-- So does a run that writes, if nothing is in the way. -/
lemma runWith_of_report (hfs : fs.Lawful) (hroot : fs.isFolder cwd (root args c)) {r : StripReport}
    (hr : report fs cwd args c = .ok r) :
    r = forecast fs cwd args c
    ∧ ∃ files, runWith fs cwd args c = conclude args.transform.verbose
        ((scanned fs cwd args c).events ++ forecastEvents fs cwd args c) files
        (.ok (forecast fs cwd args c)) := by
  obtain ⟨outcomes, houtcomes⟩ := exists_report_iff.mp ⟨r, hr⟩
  obtain ⟨hall, rfl⟩ := (outcomes_processed hfs hroot (.refl _) outcomes).mp houtcomes
  have hevents := events_processFiles (independent_scanned hfs hroot) (.refl _ fs) hall
  have hforecast : report fs cwd args c = .ok (forecast fs cwd args c) := by
    rw [report, houtcomes]
    rfl
  refine ⟨Except.ok.inj (hr.symm.trans hforecast),
    (processed fs cwd args c (scanned fs cwd args c).files).files, ?_⟩
  rw [runWith_eq args c hroot, hforecast, forecastEvents, ← hevents, processed]

/-- **A run that writes nothing predicts a run that writes.** It changes nothing.
If nothing is in the way of writing, it reports the same outcomes and counts,
and ends in the same way. -/
theorem dry_run_predicts (fs : FileSystem) (cwd : Place) (args : StripArgs) (sourceMap : Bool) :
    let dry : StripArgs := { args with apply := false, sourceMap }
    let applied : StripArgs := { args with apply := true }
    (run fs cwd dry).files = fs
    ∧ (fs.Lawful → ¬ WriteFails fs cwd applied →
        report? fs cwd dry = (report? fs cwd applied).map (fun r => { r with applied := false })
        ∧ (run fs cwd dry).status = (run fs cwd applied).status
        ∧ (run fs cwd dry).err = (run fs cwd applied).err
        ∧ (run fs cwd dry).events = (run fs cwd applied).events
        ∧ ∀ r, report? fs cwd applied = some r →
          (run fs cwd applied).out = r.out args.transform.verbose
          ∧ (run fs cwd dry).out
            = StripReport.out { r with applied := false } args.transform.verbose) := by
  intro dry applied
  rcases hload : Config.load fs cwd with ⟨m | loaded, events⟩
  · simp [run, report?, hload, CommandResult.failed]
  · simp only [run, report?, WriteFails, hload]
    by_cases hroot : fs.isFolder cwd (root args loaded.config)
    · have hrootDry : fs.isFolder cwd (root dry loaded.config) := hroot
      have hrootApplied : fs.isFolder cwd (root applied loaded.config) := hroot
      obtain ⟨hdry, hrunDry⟩ := runWith_of_dry dry loaded.config rfl hrootDry
      simp only [hrunDry, hdry, if_pos hrootDry, if_pos hrootApplied]
      refine ⟨rfl, fun hfs hno => ?_⟩
      cases hreport : report fs cwd applied loaded.config with
      | error m => exact absurd ⟨loaded, m, rfl, hrootApplied, hreport⟩ hno
      | ok r =>
          obtain ⟨rfl, files, hrun⟩ := runWith_of_report hfs hrootApplied hreport
          rw [hrun]
          refine ⟨rfl, rfl, rfl, rfl, fun r hr => ?_⟩
          obtain rfl := Option.some.inj hr
          exact ⟨rfl, rfl⟩
    · have hrootDry : ¬ fs.isFolder cwd (root dry loaded.config) := hroot
      have hrootApplied : ¬ fs.isFolder cwd (root applied loaded.config) := hroot
      rw [if_neg hrootDry, if_neg hrootApplied, runWith_of_not_isFolder hrootDry,
        runWith_of_not_isFolder hrootApplied]
      exact ⟨rfl, fun _ _ => ⟨rfl, rfl, rfl, rfl, nofun⟩⟩

/-- Of two files, the run that writes nothing reports that the first would be
stripped. -/
theorem dry_run_predicts_two_files :
    let dry : StripArgs := {}
    let applied : StripArgs := { apply := true, sourceMap := true }
    twoFiles.Lawful ∧ ¬ WriteFails twoFiles [] applied
    ∧ (run twoFiles [] dry).files = twoFiles
    ∧ report? twoFiles [] applied
        = some ⟨[.stripped "src/a.js" ⟨1, 0, 0⟩, .unchanged 0], 0, true⟩
    ∧ report? twoFiles [] dry
        = some ⟨[.stripped "src/a.js" ⟨1, 0, 0⟩, .unchanged 0], 0, false⟩
    ∧ (run twoFiles [] dry).status = (run twoFiles [] applied).status := by
  intro dry applied
  have hroot : twoFiles.isFolder [] (root applied twoFilesConfig) := isFolder_twoFiles
  have hscanned : scanned twoFiles [] applied twoFilesConfig = ⟨["src/a.js", "src/b.js"], 0, []⟩ :=
    scanned_twoFiles
  have horder : ["src/b.js", "src/a.js"].Perm (scanned twoFiles [] applied twoFilesConfig).files :=
    hscanned ▸ .swap _ _ _
  have hreport : report twoFiles [] applied twoFilesConfig
      = .ok ⟨[.stripped "src/a.js" ⟨1, 0, 0⟩, .unchanged 0], 0, true⟩ := by
    -- what becomes of the files is known from the other order
    obtain ⟨hall, hmap⟩ :=
      (outcomes_processed lawful_twoFiles hroot horder _).mp processed_twoFiles.1
    have houtcomes := (outcomes_processed lawful_twoFiles hroot (.refl _) _).mpr
      ⟨fun f hf => hall f (horder.mem_iff.mpr hf), rfl⟩
    obtain ⟨hb, ha⟩ := List.cons.inj hmap
    rw [report, houtcomes, hscanned, List.map_cons, List.map_singleton, ← hb,
      ← (List.cons.inj ha).1]
    rfl
  have hwrites : ¬ WriteFails twoFiles [] applied := by
    rintro ⟨loaded, m, hload, -, hfails⟩
    obtain rfl := Except.ok.inj (load_twoFiles.symm.trans hload)
    exact absurd (hreport.symm.trans hfails) (by simp)
  obtain ⟨hkept, hpredicts⟩ := dry_run_predicts twoFiles [] applied false
  obtain ⟨hsame, hstatus, -⟩ := hpredicts lawful_twoFiles hwrites
  have happlied : report? twoFiles [] applied
      = some ⟨[.stripped "src/a.js" ⟨1, 0, 0⟩, .unchanged 0], 0, true⟩ := by
    rw [report?, load_twoFiles]
    simp only [show twoFiles.isFolder [] (root applied twoFilesConfig) from isFolder_twoFiles,
      if_true, hreport, Except.toOption]
  refine ⟨lawful_twoFiles, hwrites, hkept, happlied, ?_, hstatus⟩
  exact hsame.trans (by rw [happlied]; rfl)

end Strip

end ConsoleStrip
