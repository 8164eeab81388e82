/-
What printing a file has to do with stripping it.

* `Print.parse_print`: the path of a file, alone, asks for it to be printed;
* `Print.Mirrors`: how a file is printed, given what happens to it when it is
  stripped in place. `Print.mirrors_processFile`: every file is printed so;
* `Print.agrees_with_strip`: the program prints it so too, and changes no file.
-/
import ConsoleStrip.Proofs.Command.Strip

namespace ConsoleStrip

open FileSystem

/-- A file that is stripped is written over, and gets no source map. -/
def WriteMode.inPlace : WriteMode := ⟨true, false⟩

namespace Print

variable {fs : FileSystem} {cwd : Place} {file code : String} {o : Options} {t : Transformed}
  {events : List Event}

/-! ### Printing a file -/

/-- Printing changes no file. -/
lemma files_runWith (fs : FileSystem) (cwd : Place) (file : String) (o : Options) :
    (runWith fs cwd file o).files = fs := by
  rw [runWith]
  cases fs.read cwd file with
  | error f => rfl
  | ok code => rcases htransform : o.transform code file with ⟨f | t, events⟩ <;> simp [htransform]

/-- A file that cannot be read ends it. -/
lemma runWith_of_unread {f : FileFault} (hread : fs.read cwd file = .error f) :
    runWith fs cwd file o = .failed ("Failed to read " ++ file ++ ": " ++ f.message) [] fs := by
  rw [runWith, hread]

/-- What is wrong with a file that is no module is said. -/
lemma runWith_of_unparsed {f : ParseFailure} (hread : fs.read cwd file = .ok code)
    (htransform : o.transform code file = (.error f, events)) :
    runWith fs cwd file o
      = { status := .failure, err := "error: " ++ f.display ++ "\n", events, files := fs } := by
  simp only [runWith, hread, htransform]

/-- What came of a file is printed. -/
lemma runWith_of_transformed (hread : fs.read cwd file = .ok code)
    (htransform : o.transform code file = (.ok t, events)) :
    runWith fs cwd file o = { status := .success, out := t.code, events, files := fs } := by
  simp only [runWith, hread, htransform]

/-! ### Stripping it in place -/

/-- A file that is excluded is not even read. -/
lemma processFile_of_unhandled (mode : WriteMode) (h : o.handles file = false) :
    processFile o mode cwd fs file = { files := fs, outcome := .ok .excluded } := by
  rw [processFile, h]
  rfl

/-- What came of a file of which calls were taken out is written over it. -/
lemma processFile_of_changed (h : o.handles file = true) (hread : fs.read cwd file = .ok code)
    (htransform : o.transform code file = (.ok t, events))
    (hchanged : t.summary.isUnchanged = false) :
    processFile o .inPlace cwd fs file =
      { files := (fs.write cwd file t.code).files
        events
        outcome := match (fs.write cwd file t.code).fault? with
          | none => .ok (.stripped file t.summary)
          | some f => .error ("Failed to write " ++ file ++ ": " ++ f.message) } := by
  have hwrites : WriteMode.inPlace.writes file t = [(file, t.code)] := rfl
  simp only [processFile, h, hread, htransform, hchanged, writeTransformed_eq, hwrites,
    writeAll_singleton, writeFile, Bool.not_true, Bool.false_eq_true, if_false]
  cases (fs.write cwd file t.code).fault? <;> rfl

/-! ### The arguments -/

section Arguments

open Arguments CommandSpec

/-- A command and what was given to it say what is asked for. -/
lemma parse_of_command {args rest : List String} {name : String} {c : CommandSpec} {g : Given}
    (hprogram : programSpec.read version specs args = .ok (.command name rest))
    (hname : name ≠ "help") (hspec : specs.find? (·.lastWord == name) = some c)
    (hgiven : c.read version [] rest = .ok (.given g)) :
    Arguments.parse args = .ok (ofGiven name g) := by
  simp [Arguments.parse, hprogram, hspec, hgiven, bind, Except.bind, pure, Except.pure]

/-- What does not start with a hyphen is no option. -/
lemma long?_letters?_eq_none (hdash : file.toList.head? ≠ some '-') :
    long? file = none ∧ letters? file = none ∧ (file == "--") = false := by
  refine ⟨?_, ?_, ?_⟩
  · rw [long?]
    split
    · next h => simp [h] at hdash
    · rfl
  · rw [letters?]
    split
    · next h => simp [h] at hdash
    · rfl
  · rw [beq_eq_false_iff_ne]
    rintro rfl
    simp at hdash

/-- The path of a file is kept as the file to print. -/
lemma read_printSpec (hne : file ≠ "") (hdash : file.toList.head? ≠ some '-') :
    printSpec.read version [] [file] = .ok (.given [("file", [file])]) := by
  let slot : Slot := ⟨"file", "<FILE>", .path, false⟩
  obtain ⟨hlong, hletters, hdashes⟩ := long?_letters?_eq_none hdash
  have hcommands : printSpec.hasCommand file = false := rfl
  have hread : printSpec.read version [] [file]
      = printSpec.finish { pending := some (slot, some file), operands := 1 } := by
    simp only [CommandSpec.read, readFrom, hdashes, hlong, hletters, hcommands]
    rfl
  have hfault : Reading.valueFault? slot file = none := by
    simp [slot, Reading.valueFault?, hne]
  rw [hread, finish, Reading.settled, Reading.settle]
  simp only [Reading.store, hfault]
  rfl

/-- The path of a file, alone, asks for the file to be printed. -/
lemma parse_print (hne : file ≠ "") (hdash : file.toList.head? ≠ some '-') :
    Arguments.parse ["print", file] = .ok (.print ⟨file, {}⟩) := by
  have hcommand : programSpec.hasCommand "print" = true := by decide +kernel
  have hspec : specs.find? (·.lastWord == "print") = some printSpec := by decide +kernel
  have hprogram : programSpec.read version specs ["print", file]
      = .ok (.command "print" [file]) := by
    simp [CommandSpec.read, readFrom, hcommand, Reading.awaitsValue, pure, Except.pure]
  exact parse_of_command hprogram (by decide) hspec (read_printSpec hne hdash)

end Arguments

/-! ### Both -/

/-- How a file is printed, with an exit code, what is printed and what is said,
given what happens to it when it is stripped in place. -/
def Mirrors (fs : FileSystem) (cwd : Place) (file : String) (o : Options) (done : Processed)
    (exit : Nat) (out said : String) : Prop :=
  match done.outcome with
  | .ok (.stripped path _) =>
    -- what is printed is what the file holds then
    path = file ∧ fs.write cwd file out = ⟨done.files, none⟩
      ∧ done.files.read cwd file = .ok out ∧ exit = 0 ∧ said = ""
  | .ok .excluded =>
    done.files = fs
      ∧ match fs.read cwd file with
        | .ok code => out = code ∧ exit = 0 ∧ said = ""
        | .error f =>
          out = "" ∧ exit = 2
            ∧ said = "Error: " ++ ("Failed to read " ++ file ++ ": " ++ f.message) ++ "\n"
  | .ok (.unchanged _) => done.files = fs ∧ exit = 0 ∧ said = ""
  | .ok (.failed path m) =>
    path = file ∧ done.files = fs ∧ out = ""
      ∧ match fs.read cwd file with
        | .ok code =>
          (∃ f, (o.transform code file).1 = .error f ∧ m = f.display)
            ∧ exit = 1 ∧ said = "error: " ++ m ++ "\n"
        | .error f =>
          m = "Failed to read " ++ file ++ ": " ++ f.message
            ∧ exit = 2 ∧ said = "Error: " ++ m ++ "\n"
  | .error m =>
    -- what is printed is what could not be written
    (∃ f, fs.write cwd file out = ⟨done.files, some f⟩
        ∧ m = "Failed to write " ++ file ++ ": " ++ f.message)
      ∧ exit = 0 ∧ said = ""

/-- **A file is printed as it is stripped.** -/
lemma mirrors_processFile (fs : FileSystem) (cwd : Place) (file : String) (o : Options) :
    Mirrors fs cwd file o (processFile o .inPlace cwd fs file)
      (runWith fs cwd file o).status.code (runWith fs cwd file o).out
      (runWith fs cwd file o).err := by
  rw [Mirrors]
  cases hhandles : o.handles file with
  | false =>
      rw [processFile_of_unhandled _ hhandles]
      refine ⟨rfl, ?_⟩
      cases hread : fs.read cwd file with
      | error f =>
          rw [runWith_of_unread hread]
          exact ⟨rfl, rfl, rfl⟩
      | ok code =>
          rw [runWith_of_transformed hread
            (Prod.ext (o.transform_of_unhandled code file hhandles) rfl)]
          exact ⟨rfl, rfl, rfl⟩
  | true =>
      cases hread : fs.read cwd file with
      | error f =>
          rw [runWith_of_unread hread]
          simp [processFile, hhandles, hread, CommandResult.failed, ExitStatus.code]
      | ok code =>
          rcases htransform : o.transform code file with ⟨f | t, events⟩
          · rw [runWith_of_unparsed hread htransform]
            simp [processFile, hhandles, hread, htransform, ExitStatus.code]
          · rw [runWith_of_transformed hread htransform]
            cases hchanged : t.summary.isUnchanged with
            | true => simp [processFile, hhandles, hread, htransform, hchanged, ExitStatus.code]
            | false =>
                have hdone := processFile_of_changed hhandles hread htransform hchanged
                cases hfault : (fs.write cwd file t.code).fault? with
                | none =>
                    rw [hfault] at hdone
                    rw [hdone]
                    exact ⟨rfl, Written.ext rfl hfault, read_of_write hfault, rfl, rfl⟩
                | some f =>
                    rw [hfault] at hdone
                    rw [hdone]
                    exact ⟨⟨f, Written.ext rfl hfault, rfl⟩, rfl, rfl⟩

/-- What the command does, given the configuration that holds. -/
lemma run_of_load {a : TransformArgs} {loaded : Config.Loaded}
    (hload : Config.load fs cwd = (.ok loaded, events)) :
    run fs cwd ⟨file, a⟩ =
      { runWith fs cwd file (a.options loaded.config) with
        events := events ++ (runWith fs cwd file (a.options loaded.config)).events } := by
  rw [run, hload]

lemma files_run (fs : FileSystem) (cwd : Place) (args : PrintArgs) :
    (run fs cwd args).files = fs := by
  rcases hload : Config.load fs cwd with ⟨m | loaded, events⟩
  · simp [run, hload, CommandResult.failed]
  · rw [run_of_load hload]
    exact files_runWith ..

/-- **Printing a file agrees with stripping it in place**, for every
configuration and all arguments, whatever stands where the path leads. What is
written is what is printed, what is left alone is printed, and what fails is
said with the same message. This is so for the command and for the whole
program, which never changes a file when it prints one. -/
theorem agrees_with_strip (fs : FileSystem) (cwd : Place) (file : String) (a : TransformArgs)
    (c : Config) :
    let o := a.options c
    let done := processFile o .inPlace cwd fs file
    let printed := runWith fs cwd file o
    printed.files = fs
    ∧ Mirrors fs cwd file o done printed.status.code printed.out printed.err
    ∧ ∀ log argv, Arguments.parse argv = .ok (.print ⟨file, a⟩) →
      let ran := Program.run fs cwd log argv
      ran.files = fs
      ∧ ∀ filter loaded events, Program.logFilter log a.verbose = .ok filter →
        Config.load fs cwd = (.ok loaded, events) → loaded.config = c →
        ∃ said, Mirrors fs cwd file o done ran.exit ran.out said
          ∧ ran.err = String.join
            (((events ++ printed.events).filter filter.allows).map Event.line) ++ said := by
  intro o done printed
  refine ⟨files_runWith .., mirrors_processFile .., fun log argv hparse => ⟨?_, ?_⟩⟩
  · rw [Program.run, hparse]
    simp only
    split
    · rfl
    · exact files_run ..
  · rintro filter loaded events hfilter hload rfl
    have hverbose : Program.logFilter log (Arguments.print ⟨file, a⟩).verbose = .ok filter :=
      hfilter
    refine ⟨printed.err, ?_, ?_⟩ <;>
      simp only [Program.run, hparse, hverbose, Program.command, run_of_load hload]
    · exact mirrors_processFile ..
    · rfl

/-- The file that is stripped is printed as it would be written, and stays. -/
theorem agrees_with_strip_two_files :
    let argv := ["print", "src/a.js"]
    let o := TransformArgs.options {} Strip.twoFilesConfig
    let done := processFile o .inPlace [] Strip.twoFiles "src/a.js"
    let ran := Program.run Strip.twoFiles [] none argv
    done.outcome = .ok (.stripped "src/a.js" ⟨1, 0, 0⟩)
    ∧ done.files.read [] "src/a.js" = .ok "run();\n"
    ∧ ran.files = Strip.twoFiles
    ∧ ran.exit = 0 ∧ ran.out = "run();\n" := by
  intro argv o done ran
  have hload : Config.load Strip.twoFiles []
      = (.ok ⟨Strip.twoFilesConfig, true⟩, [.configLoaded "/.keepconsolerc.json"]) := by rfl
  have hdone : done.outcome = .ok (.stripped "src/a.js" ⟨1, 0, 0⟩)
      ∧ done.files.read [] "src/a.js" = .ok "run();\n" := by decide +kernel
  obtain ⟨houtcome, hread⟩ := hdone
  obtain ⟨-, -, hprogram⟩ :=
    agrees_with_strip Strip.twoFiles [] "src/a.js" {} Strip.twoFilesConfig
  obtain ⟨hfiles, hran⟩ := hprogram none argv (parse_print (by decide) (by decide))
  obtain ⟨said, hmirrors, -⟩ := hran _ _ _ rfl hload rfl
  rw [Mirrors, show done.outcome = _ from houtcome] at hmirrors
  obtain ⟨-, -, hout, hexit, -⟩ := hmirrors
  exact ⟨houtcome, hread, hfiles, hexit, Except.ok.inj (hout.symm.trans hread)⟩

end Print

end ConsoleStrip
