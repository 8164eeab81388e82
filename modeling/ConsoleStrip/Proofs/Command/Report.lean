/-
What is said of a project, and what happened to it.

* `getElem?_outcomes`: there is one outcome for each file, in order, that of the
  file as the project stands when its turn comes;
* `stripped_of_examine`: a file is reported as stripped only if calls were taken
  out of it;
* `StripReport.entry`, `StripReport.lastLine`: the lines of the output, one for each
  file that is stripped and a last one. `StripReport.splitOn_out`: there are no
  others;
* `Strip.report_tells`: what a run says and its exit code agree with the outcomes
  of its files.
-/
import ConsoleStrip.Proofs.Command.Strip

namespace ConsoleStrip

open FileSystem

variable {o : Options} {mode : WriteMode} {cwd : Place} {fs gs : FileSystem} {path : String}
  {paths : List String} {outs : List FileOutcome}

/-! ### Outcomes -/

/-- What is reported as stripped is the file, and calls were taken out of it. -/
lemma stripped_of_examine {read : Except FileFault String} {p : String} {s : Summary}
    (h : (o.examine path read).outcome = .stripped p s) : p = path ∧ 0 < s.stripped := by
  unfold Options.examine at h
  split at h
  · simp at h
  · cases read with
    | error f => simp at h
    | ok code =>
        rcases htransform : o.transform code path with ⟨f | t, events⟩
        · simp [htransform] at h
        · simp only [htransform] at h
          split at h
          · simp at h
          · next hchanged =>
            obtain ⟨rfl, rfl⟩ := FileOutcome.stripped.inj h
            refine ⟨rfl, Nat.pos_of_ne_zero fun hzero => hchanged ?_⟩
            simp [Summary.isUnchanged, hzero]

/-- **There is one outcome for each file, in order.** It is what becomes of the file
as the project stands when the files before it have been processed. -/
lemma getElem?_outcomes (h : (processFiles o mode cwd fs paths).outcomes = .ok outs) :
    outs.length = paths.length
    ∧ ∀ i path, paths[i]? = some path → ∃ out, outs[i]? = some out
      ∧ (processFile o mode cwd (processFiles o mode cwd fs (paths.take i)).files path).outcome
        = .ok out := by
  induction paths generalizing fs outs with
  | nil =>
      obtain rfl := Except.ok.inj h
      simp
  | cons path paths ih =>
      cases hout : (processFile o mode cwd fs path).outcome with
      | error m => simp [processFiles_cons_error hout] at h
      | ok out =>
          rw [processFiles_cons_ok hout] at h
          cases hrest : (processFiles o mode cwd (processFile o mode cwd fs path).files
              paths).outcomes with
          | error m => simp [hrest, Except.map] at h
          | ok outs' =>
              rw [hrest] at h
              obtain rfl : out :: outs' = outs := Except.ok.inj h
              obtain ⟨hlength, hget⟩ := ih hrest
              refine ⟨by rw [List.length_cons, List.length_cons, hlength], fun i f hf => ?_⟩
              cases i with
              | zero =>
                  obtain rfl := Option.some.inj hf
                  exact ⟨out, rfl, hout⟩
              | succ i =>
                  obtain ⟨out', hout', hprocessed⟩ := hget i f hf
                  refine ⟨out', hout', ?_⟩
                  rwa [List.take_succ_cons, processFiles_cons_ok hout]

/-- A file that is reported as stripped is one of the files, and calls were taken
out of it. -/
lemma stripped_of_mem_outcomes (h : (processFiles o mode cwd fs paths).outcomes = .ok outs)
    {p : String} {s : Summary} (hmem : .stripped p s ∈ outs) : p ∈ paths ∧ 0 < s.stripped := by
  obtain ⟨hlength, hget⟩ := getElem?_outcomes h
  obtain ⟨i, hi⟩ := List.mem_iff_getElem?.mp hmem
  have hlt : i < paths.length := hlength ▸ (List.getElem?_eq_some_iff.mp hi).1
  obtain ⟨out, hout, hprocessed⟩ := hget i _ (List.getElem?_eq_getElem hlt)
  have houtcome := outcome_processFile hprocessed
  rw [← Option.some.inj (hi.symm.trans hout), Options.outcomeOf] at houtcome
  obtain ⟨hp, hpos⟩ := stripped_of_examine houtcome.symm
  exact ⟨hp ▸ List.getElem_mem hlt, hpos⟩

/-! ### What is said -/

namespace StripReport

variable {r : StripReport} {verbose : Bool}

/-- The line on a file. -/
def entry (verbose : Bool) : String × Summary → String
  | (path, s) =>
    path ++ ": " ++ plural s.stripped "console call"
      ++ (if verbose && 0 < s.retained then " (" ++ toString s.retained ++ " kept)" else "")

lemma fileLine_eq (verbose : Bool) (f : String × Summary) :
    fileLine verbose f = entry verbose f ++ "\n" := rfl

/-- The mark that the last line starts with. -/
def mark (r : StripReport) : String := if r.failures.isEmpty then successMark else failureMark

/-- The last line. -/
def lastLine (r : StripReport) : String := r.mark ++ " " ++ r.summaryText

/-- What is said of the calls that were kept, if there are any. -/
def keptText (n : Nat) : String := if n = 0 then "" else ", " ++ toString n ++ " kept"

/-- The sentence on files of which none is stripped. -/
def nothingText (scanned kept : Nat) : String :=
  "Checked " ++ plural scanned "file" ++ keptText kept ++ " - no console calls to remove"

/-- The sentence on files of which some are stripped. -/
def strippedText (applied : Bool) (calls files scanned kept : Nat) : String :=
  (if applied then "Removed " else "Would remove ") ++ plural calls "console call" ++ " from "
    ++ plural files "file" ++ " (" ++ plural scanned "file" ++ " checked" ++ keptText kept
    ++ (if applied then ")" else ", use --apply to rewrite)")

lemma removedCalls_eq (r : StripReport) :
    r.removedCalls = (r.stripped.map fun f => f.2.stripped).sum := by
  rw [removedCalls, List.sum_eq_foldl]

lemma retainedCalls_eq (r : StripReport) :
    r.retainedCalls = (r.outcomes.map FileOutcome.retained).sum := by
  rw [retainedCalls, List.sum_eq_foldl]

lemma mem_stripped_iff {f : String × Summary} :
    f ∈ r.stripped ↔ .stripped f.1 f.2 ∈ r.outcomes := by
  rw [stripped, List.mem_filterMap]
  constructor
  · rintro ⟨out, hout, h⟩
    cases out with
    | stripped path s =>
        obtain rfl := Option.some.inj h
        exact hout
    | _ => cases h
  · exact fun h => ⟨_, h, rfl⟩

lemma mem_failures_iff {m : String} :
    m ∈ r.failures ↔ ∃ path, .failed path m ∈ r.outcomes := by
  rw [failures, List.mem_filterMap]
  constructor
  · rintro ⟨out, hout, h⟩
    cases out with
    | failed path m' =>
        obtain rfl := Option.some.inj h
        exact ⟨path, hout⟩
    | _ => cases h
  · exact fun ⟨path, h⟩ => ⟨_, h, rfl⟩

/-- If calls were taken out of every file that is reported as stripped, none was
taken out exactly if no file is. -/
lemma removedCalls_eq_zero_iff (hpos : ∀ f ∈ r.stripped, 0 < f.2.stripped) :
    r.removedCalls = 0 ↔ r.stripped = [] := by
  rw [removedCalls_eq]
  constructor
  · intro hzero
    rw [List.eq_nil_iff_forall_not_mem]
    intro f hf
    have hle := List.le_sum_of_mem (List.mem_map_of_mem (f := fun f => f.2.stripped) hf)
    have := hpos f hf
    omega
  · intro h
    rw [h]
    rfl

/-- The lines of a text are those that it is made of, if none has a line break in
it. -/
lemma splitOn_join_lines {lines : List String} (h : ∀ line ∈ lines, '\n' ∉ line.toList) :
    (String.join (lines.map (· ++ "\n"))).toList.splitOn '\n'
      = lines.map String.toList ++ [[]] := by
  induction lines with
  | nil => rfl
  | cons line lines ih =>
      rw [List.forall_mem_cons] at h
      have hjoin : (String.join ((line :: lines).map (· ++ "\n"))).toList
          = line.toList ++ '\n' :: (String.join (lines.map (· ++ "\n"))).toList := by simp
      have hcut : ∀ xs ys : List Char,
          (xs ++ '\n' :: ys).splitOn '\n' = xs.splitOn '\n' ++ ys.splitOn '\n' :=
        fun xs ys => List.splitOnP_append_cons xs ys (by simp)
      rw [hjoin, hcut, List.splitOn_eq_singleton h.1, ih h.2]
      rfl

/-- A line on each file that is stripped, and the last one. -/
lemma out_eq (r : StripReport) (verbose : Bool) :
    r.out verbose
      = String.join ((r.stripped.map (entry verbose) ++ [r.lastLine]).map (· ++ "\n")) := by
  have hlines : r.stripped.map (fileLine verbose)
      = r.stripped.map fun f => entry verbose f ++ "\n" :=
    List.map_congr_left fun f _ => fileLine_eq verbose f
  rw [out, hlines, ← String.toList_inj]
  simp [lastLine, mark, Function.comp_def]

lemma summaryText_of_nil (h : r.stripped = []) :
    r.summaryText = nothingText r.outcomes.length r.retainedCalls := by
  have hzero : r.removedCalls = 0 := by rw [removedCalls, h]; rfl
  rw [summaryText, nothingText, keptText]
  simp [hzero]

lemma summaryText_of_ne_nil (hpos : ∀ f ∈ r.stripped, 0 < f.2.stripped) (h : r.stripped ≠ []) :
    r.summaryText = strippedText r.applied r.removedCalls r.stripped.length r.outcomes.length
      r.retainedCalls := by
  have hne : r.removedCalls ≠ 0 := fun hzero => h ((removedCalls_eq_zero_iff hpos).mp hzero)
  rw [summaryText, strippedText, keptText, ← String.toList_inj]
  cases r.applied <;> simp [hne]

/-- What is said of files of which some are stripped ends in a bracket. -/
lemma getLast?_strippedText (applied : Bool) (calls files scanned kept : Nat) :
    (strippedText applied calls files scanned kept).toList.getLast? = some ')' := by
  have happly : ", use --apply to rewrite)" = ", use --apply to rewrite" ++ ")" := by decide
  rw [strippedText]
  cases applied
  · rw [if_neg Bool.false_ne_true, if_neg Bool.false_ne_true, happly, ← String.append_assoc,
      String.toList_append]
    exact List.getLast?_concat
  · rw [if_pos rfl, if_pos rfl, String.toList_append]
    exact List.getLast?_concat

/-- The last line says that there is nothing to take out exactly if no file is
stripped. -/
lemma says_nothing_iff (hpos : ∀ f ∈ r.stripped, 0 < f.2.stripped) :
    "no console calls to remove".toList <:+ r.lastLine.toList ↔ r.stripped = [] := by
  constructor
  · rintro ⟨front, hfront⟩
    by_contra h
    have hlast := getLast?_strippedText r.applied r.removedCalls r.stripped.length
      r.outcomes.length r.retainedCalls
    rw [← summaryText_of_ne_nil hpos h] at hlast
    have hsame := congrArg List.getLast? hfront
    rw [lastLine, String.toList_append, List.getLast?_append, List.getLast?_append, hlast] at hsame
    simp at hsame
  · intro h
    have hend : " - no console calls to remove" = " - " ++ "no console calls to remove" := by decide
    rw [lastLine, summaryText_of_nil h, nothingText, hend, ← String.append_assoc,
      ← String.append_assoc, String.toList_append]
    exact List.suffix_append _ _

/-! ### Line breaks -/

lemma noBreak_toString (n : Nat) : '\n' ∉ (toString n).toList := by
  intro h
  have hdigits : '\n' ∈ Nat.toDigits 10 n := by simpa using h
  exact absurd (Nat.isDigit_of_mem_toDigits (by decide) (by decide) hdigits) (by decide)

lemma noBreak_plural (noun : String) (n : Nat) (h : '\n' ∉ noun.toList) :
    '\n' ∉ (plural n noun).toList := by
  have hn := noBreak_toString n
  rw [plural]
  split_ifs <;> simp_all

/-- The last line is one line. -/
lemma noBreak_lastLine (hpos : ∀ f ∈ r.stripped, 0 < f.2.stripped) :
    '\n' ∉ r.lastLine.toList := by
  have hmark : '\n' ∉ r.mark.toList := by
    rw [mark]
    split_ifs <;> decide
  have hfiles := fun n => noBreak_plural "file" n (by decide)
  have hcalls := fun n => noBreak_plural "console call" n (by decide)
  have hkept : ∀ n, '\n' ∉ (keptText n).toList := by
    intro n
    have hn := noBreak_toString n
    rw [keptText]
    split_ifs <;> simp_all
  by_cases h : r.stripped = []
  · rw [lastLine, summaryText_of_nil h, nothingText]
    simp [hmark, hfiles, hkept]
  · rw [lastLine, summaryText_of_ne_nil hpos h, strippedText]
    cases r.applied <;> simp [hmark, hfiles, hcalls, hkept]

/-- The line on a file is one line, if the path is. -/
lemma noBreak_entry {f : String × Summary} (hpath : '\n' ∉ f.1.toList) (verbose : Bool) :
    '\n' ∉ (entry verbose f).toList := by
  have hcalls := noBreak_plural "console call" f.2.stripped (by decide)
  have hkept := noBreak_toString f.2.retained
  rw [entry]
  split_ifs <;> simp_all

/-! ### Reports -/

/-- What is said, and how a run ends, tell what happened to the files. -/
structure Tells (r : StripReport) (verbose : Bool) (out err : String) (status : ExitStatus) :
    Prop where
  /-- There is a line on each file that is stripped, and then one more. -/
  out_eq : out = String.join ((r.stripped.map (entry verbose) ++ [r.lastLine]).map (· ++ "\n"))
  /-- No other lines are in the text. -/
  lines : (∀ f ∈ r.stripped, '\n' ∉ f.1.toList) →
    out.toList.splitOn '\n' = (r.stripped.map (entry verbose) ++ [r.lastLine, ""]).map String.toList
  says_nothing : "no console calls to remove".toList <:+ r.lastLine.toList ↔ r.stripped = []
  lastLine_of_nil : r.stripped = [] → r.lastLine
    = r.mark ++ " " ++ nothingText r.outcomes.length (r.outcomes.map FileOutcome.retained).sum
  /-- Otherwise the calls and the files are counted. -/
  lastLine_of_ne_nil : r.stripped ≠ [] → r.lastLine
    = r.mark ++ " " ++ strippedText r.applied (r.stripped.map fun f => f.2.stripped).sum
        r.stripped.length r.outcomes.length (r.outcomes.map FileOutcome.retained).sum
  /-- There is a message for each failure, and then what is said of all. -/
  err_eq : err = String.join (r.failures.map fun m => "error: " ++ m ++ "\n")
    ++ (if r.skipped = 0 then ""
      else "warning: " ++ plural r.skipped "path" ++ " could not be read\n")
    ++ (if r.failures = [] then ""
      else failureMark ++ " " ++ plural r.failures.length "file" ++ " could not be processed\n")
  code_eq_one_iff : status.code = 1 ↔ ∃ path m, .failed path m ∈ r.outcomes
  code_eq_zero_iff : status.code = 0 ↔ ∀ path m, .failed path m ∉ r.outcomes

/-- Some file failed exactly if there is a message. -/
lemma hasFailures_iff : r.hasFailures = true ↔ ∃ path m, .failed path m ∈ r.outcomes := by
  rw [hasFailures, Bool.not_eq_true', List.isEmpty_eq_false_iff_exists_mem]
  simp only [mem_failures_iff]
  exact exists_comm

/-- The command says what its report tells, if calls were taken out of the files
that are reported as stripped. -/
lemma tells_conclude (hpos : ∀ f ∈ r.stripped, 0 < f.2.stripped) (verbose : Bool)
    (events : List Event) (files : FileSystem) :
    r.Tells verbose (Strip.conclude verbose events files (.ok r)).out
      (Strip.conclude verbose events files (.ok r)).err
      (Strip.conclude verbose events files (.ok r)).status := by
  have hcode : (Strip.conclude verbose events files (.ok r)).status.code
      = if r.hasFailures then 1 else 0 := by
    simp only [Strip.conclude]
    split_ifs <;> rfl
  refine ⟨out_eq r verbose, fun hpaths => ?_, says_nothing_iff hpos, fun h => ?_, fun h => ?_, ?_,
    ?_, ?_⟩
  · change (r.out verbose).toList.splitOn '\n' = _
    rw [out_eq, splitOn_join_lines]
    · simp
    · simp only [List.mem_append, List.mem_map, List.mem_singleton]
      rintro line (⟨f, hf, rfl⟩ | rfl)
      · exact noBreak_entry (hpaths f hf) verbose
      · exact noBreak_lastLine hpos
  · rw [lastLine, summaryText_of_nil h, retainedCalls_eq]
  · rw [lastLine, summaryText_of_ne_nil hpos h, retainedCalls_eq, removedCalls_eq]
  · change r.err = _
    simp [err]
  · rw [hcode, ← hasFailures_iff]
    split_ifs with h <;> simp [h]
  · rw [hcode]
    simp only [← not_exists, ← hasFailures_iff]
    split_ifs with h <;> simp [h]

end StripReport

/-! ### Runs -/

/-- What the whole program does, given what its arguments ask for. -/
lemma Program.run_of_parse {argv : List String} {a : Arguments} {log : Option String}
    {filter : LogFilter} (hparse : Arguments.parse argv = .ok a)
    (hfilter : Program.logFilter log a.verbose = .ok filter) :
    Program.run fs cwd log argv =
      { exit := (Program.command fs cwd a).status.code
        out := (Program.command fs cwd a).out
        err := String.join (((Program.command fs cwd a).events.filter filter.allows).map Event.line)
          ++ (Program.command fs cwd a).err
        files := (Program.command fs cwd a).files } := by
  simp only [Program.run, hparse, hfilter]

namespace Strip

variable {args : StripArgs} {r : StripReport}

/-- A run that gets to process the files, and what it says. -/
lemma run_of_load {loaded : Config.Loaded} {events : List Event}
    (hload : Config.load fs cwd = (.ok loaded, events)) :
    run fs cwd args = { runWith fs cwd args loaded.config with
      events := events ++ [.configResolved loaded.fromFile]
        ++ (runWith fs cwd args loaded.config).events } := by
  rw [run, hload]

/-- A run finds out what happened, or ends in error. -/
lemma exists_report?_iff :
    (∃ r, report? fs cwd args = some r) ↔ (run fs cwd args).status ≠ .error := by
  rcases hload : Config.load fs cwd with ⟨m | loaded, events⟩
  · simp [run, report?, hload, CommandResult.failed]
  · rw [run_of_load hload, report?, hload]
    by_cases hroot : fs.isFolder cwd (root args loaded.config)
    · simp only [if_pos hroot, runWith_eq args loaded.config hroot]
      rw [status_conclude]
      cases report fs cwd args loaded.config <;> simp [Except.toOption]
    · simp [if_neg hroot, runWith_of_not_isFolder hroot, CommandResult.failed]

/-- What a run finds out are the outcomes of the files that it processed. -/
lemma outcomes_of_report? {loaded : Config.Loaded} {events : List Event}
    (hload : Config.load fs cwd = (.ok loaded, events)) (hr : report? fs cwd args = some r) :
    fs.isFolder cwd (root args loaded.config)
    ∧ report fs cwd args loaded.config = .ok r
    ∧ (processed fs cwd args loaded.config (scanned fs cwd args loaded.config).files).outcomes
      = .ok r.outcomes
    ∧ r.skipped = (scanned fs cwd args loaded.config).skipped ∧ r.applied = args.apply := by
  simp only [report?, hload] at hr
  split_ifs at hr with hroot
  cases hreport : report fs cwd args loaded.config with
  | error m => simp [hreport, Except.toOption] at hr
  | ok r' =>
      rw [hreport] at hr
      obtain rfl : r' = r := Option.some.inj hr
      rw [report] at hreport
      cases houtcomes : (processed fs cwd args loaded.config
          (scanned fs cwd args loaded.config).files).outcomes with
      | error m => simp [houtcomes, Except.map] at hreport
      | ok outcomes =>
          rw [houtcomes] at hreport
          obtain rfl := Except.ok.inj hreport
          exact ⟨hroot, rfl, rfl, rfl, rfl⟩

/-- **What a run says agrees with what happened.** A run reports unless it ends in
error. Then there is one outcome for each file that was found, in order: what became
of the file when its turn came, which is what becomes of it alone. Files that are
reported as stripped are files of which calls were taken out. The lines, the counts
and the exit code are those of the outcomes; what could not be listed is said, and
changes neither. The program says and ends the same. -/
theorem report_tells (fs : FileSystem) (cwd : Place) (args : StripArgs) :
    let run := Strip.run fs cwd args
    ((∃ r, report? fs cwd args = some r) ↔ run.status ≠ .error)
    ∧ (∀ loaded events r, Config.load fs cwd = (.ok loaded, events) →
      report? fs cwd args = some r →
      let o := args.transform.options loaded.config
      let files := (scanned fs cwd args loaded.config).files
      let before i := (processed fs cwd args loaded.config (files.take i)).files
      r.outcomes.length = files.length
      ∧ (∀ i f, files[i]? = some f → ∃ out, r.outcomes[i]? = some out
        ∧ (processFile o (Strip.mode args) cwd (before i) f).outcome = .ok out)
      ∧ (fs.Lawful → r.outcomes = files.map (o.outcomeOf cwd fs))
      ∧ (∀ path s, .stripped path s ∈ r.outcomes → path ∈ files ∧ 0 < s.stripped)
      ∧ r.skipped = (scanned fs cwd args loaded.config).skipped ∧ r.applied = args.apply
      ∧ r.Tells args.transform.verbose run.out run.err run.status)
    ∧ ∀ log argv filter, Arguments.parse argv = .ok (.strip args) →
      Program.logFilter log args.transform.verbose = .ok filter →
      let ran := Program.run fs cwd log argv
      ran.exit = run.status.code ∧ ran.out = run.out
      ∧ ran.err = String.join ((run.events.filter filter.allows).map Event.line) ++ run.err := by
  intro run
  refine ⟨exists_report?_iff, fun loaded events r hload hr => ?_,
    fun log argv filter hparse hfilter => ?_⟩
  · intro o files before
    obtain ⟨hroot, hreport, houtcomes, hskipped, happlied⟩ := outcomes_of_report? hload hr
    obtain ⟨hlength, hget⟩ := getElem?_outcomes houtcomes
    have hstripped : ∀ path s, .stripped path s ∈ r.outcomes → path ∈ files ∧ 0 < s.stripped :=
      fun path s h => stripped_of_mem_outcomes houtcomes h
    refine ⟨hlength, hget, fun hfs => ?_, hstripped, hskipped, happlied, ?_⟩
    · exact ((outcomes_processed hfs hroot (.refl _) r.outcomes).mp houtcomes).2
    · simp only [run, run_of_load hload, runWith_eq args loaded.config hroot, hreport]
      exact StripReport.tells_conclude
        (fun f hf => (hstripped f.1 f.2 (StripReport.mem_stripped_iff.mp hf)).2) _ _ _
  · have hverbose : Program.logFilter log (Arguments.strip args).verbose = .ok filter := hfilter
    simp only [Program.run_of_parse hparse hverbose]
    exact ⟨rfl, rfl, rfl⟩

/-- A project of three files. A folder stands where the source map of the second
would be written, and the third cannot be read. -/
def blockedFiles : FileSystem where
  entries :=
    [([".keepconsolerc.json"],
        .file (.text "\x7b\"sourceRoot\": \"src\", \"ignores\": []\x7d")),
     (["src"], .folder),
     (["src", "a.js"], .file (.text "// keep-console\nconsole.log(1);\nconsole.log(2);")),
     (["src", "b.js"], .file (.text "console.log(3);")),
     (["src", "b.js.map"], .folder),
     (["src", "c.js"], .file (.text "const = ;"))]

lemma load_blockedFiles : Config.load blockedFiles []
    = (.ok ⟨twoFilesConfig, true⟩, [.configLoaded "/.keepconsolerc.json"]) := by rfl

lemma lawful_blockedFiles : blockedFiles.Lawful := by decide

lemma isFolder_blockedFiles : blockedFiles.isFolder [] "src" := by decide

/-- The three files are found, in the order of their paths. -/
lemma scanned_blockedFiles :
    scanned blockedFiles [] {} twoFilesConfig = ⟨["src/a.js", "src/b.js", "src/c.js"], 0, []⟩ := by
  have hnames : blockedFiles.names ["src"] = ["a.js", "b.js", "b.js.map", "c.js"] :=
    List.mergeSort_of_pairwise (by decide)
  have hinner : blockedFiles.names ["src", "b.js.map"] = [] :=
    List.mergeSort_of_pairwise (by decide)
  have hfolder : blockedFiles.walk {} 2 "src/b.js.map" ["src", "b.js.map"]
      = [.folder "src/b.js.map"] := by
    rw [walk, hinner]
    decide
  have hwalk : blockedFiles.walk {} blockedFiles.depth "src" ["src"]
      = [.folder "src", .file "src/a.js", .file "src/b.js", .folder "src/b.js.map",
          .file "src/c.js"] := by
    unfold FileSystem.depth
    rw [walk, hnames]
    change .folder "src" :: ([.file "src/a.js"] ++ ([.file "src/b.js"]
      ++ (blockedFiles.walk {} 2 "src/b.js.map" ["src", "b.js.map"] ++ [.file "src/c.js"]))) = _
    rw [hfolder]
    rfl
  have hfiles : ["src/a.js", "src/b.js", "src/c.js"].mergeSort Path.le
      = ["src/a.js", "src/b.js", "src/c.js"] := List.mergeSort_of_pairwise (by decide)
  change (let visits := blockedFiles.walk {} blockedFiles.depth "src" ["src"]
    Scan.mk ((visits.filterMap (sourceFile? {})).mergeSort Path.le)
      (visits.filterMap unreadableEvent?).length ([] ++ visits.filterMap unreadableEvent?)) = _
  rw [hwalk]
  change Scan.mk (["src/a.js", "src/b.js", "src/c.js"].mergeSort Path.le) 0 [] = _
  rw [hfiles]

/-- What is found out about that project. -/
def blockedReport : StripReport where
  outcomes :=
    [.stripped "src/a.js" ⟨1, 0, 1⟩, .stripped "src/b.js" ⟨1, 0, 0⟩,
      .failed "src/c.js" ("Failed to parse src/c.js:1:7: Unexpected token `=`. "
        ++ "Expected yield, an identifier, [ or \x7b")]
  skipped := 0
  applied := false

lemma outcomeOf_blockedFiles :
    ["src/a.js", "src/b.js", "src/c.js"].map
      ((TransformArgs.options {} twoFilesConfig).outcomeOf [] blockedFiles)
      = blockedReport.outcomes := by
  decide +kernel

lemma report?_blockedFiles : report? blockedFiles [] {} = some blockedReport := by
  have hroot : blockedFiles.isFolder [] (root {} twoFilesConfig) := isFolder_blockedFiles
  rw [report?, load_blockedFiles]
  simp only [if_pos hroot, (runWith_of_dry {} twoFilesConfig rfl hroot).1, Except.toOption,
    forecast, scanned_blockedFiles, outcomeOf_blockedFiles]
  rfl

/-- Two of the files would be stripped, and one failed. -/
theorem report_tells_blocked_files :
    let run := Strip.run blockedFiles [] {}
    let ran := Program.run blockedFiles [] none ["strip"]
    Config.load blockedFiles []
        = (.ok ⟨twoFilesConfig, true⟩, [.configLoaded "/.keepconsolerc.json"])
    ∧ blockedFiles.Lawful
    ∧ report? blockedFiles [] {} = some blockedReport
    ∧ run.status ≠ .error
    ∧ blockedReport.outcomes = ["src/a.js", "src/b.js", "src/c.js"].map
        ((TransformArgs.options {} twoFilesConfig).outcomeOf [] blockedFiles)
    ∧ blockedReport.Tells false run.out run.err run.status
    ∧ ran.exit = 1
    ∧ ran.out = "src/a.js: 1 console call\nsrc/b.js: 1 console call\n"
        ++ "✘ Would remove 2 console calls from 2 files (3 files checked, 1 kept, "
        ++ "use --apply to rewrite)\n" := by
  intro run ran
  have hr := report?_blockedFiles
  obtain ⟨hreports, htells, hprogram⟩ := report_tells blockedFiles [] {}
  obtain ⟨-, -, halone, -, -, -, htells⟩ := htells _ _ _ load_blockedFiles hr
  obtain ⟨hexit, hout, -⟩ := hprogram none ["strip"] _ rfl rfl
  have hfailed : ∃ path m, .failed path m ∈ blockedReport.outcomes :=
    ⟨_, _, .tail _ (.tail _ (.head _))⟩
  have halone := halone lawful_blockedFiles
  simp only [scanned_blockedFiles] at halone
  refine ⟨load_blockedFiles, lawful_blockedFiles, hr, hreports.mp ⟨_, hr⟩, halone, htells,
    hexit.trans (htells.code_eq_one_iff.mpr hfailed), ?_⟩
  rw [hout, htells.out_eq]
  decide +kernel

end Strip

end ConsoleStrip
