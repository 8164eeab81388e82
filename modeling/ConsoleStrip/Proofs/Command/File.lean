/-
What a run does with one file.

* `Options.examine`: what is made of a file, given what was read: the outcome,
  and what is to be written. `processFile_eq`: a file is read, then examined,
  and then what is to be written is written;
* `writeAll`: texts written one after another;
* `SourceAt`: a source file, with its source map beside it. `sourceAt_of_found`:
  the source files that a scan finds are so;
* `Footprint`: the places of a file and of its source map. `processFile_of_agrees`:
  what a run does with a file depends on its footprint alone;
  `agrees_processFile`: and it changes nothing else;
* `holdsResult_processFile`: a file that is stripped holds what came of it;
* `brokenOff_processFile`: what is left of a file that could not be written.
-/
import ConsoleStrip.Command.Run
import ConsoleStrip.Proofs.Files.Found
import ConsoleStrip.Proofs.Transform.Gate

namespace ConsoleStrip

open FileSystem

variable {o : Options} {mode : WriteMode} {cwd : Place} {fs gs : FileSystem} {path : String}

/-! ### Source maps -/

/-- The path of a source map is not that of a source file. -/
lemma ofPath?_mapPath (path : String) : FileKind.ofPath? (mapPath path) = none := by
  rw [Option.eq_none_iff_forall_ne_some]
  intro k hk
  rw [FileKind.ofPath?_eq_some, mapPath, String.toList_append, ← List.reverse_prefix] at hk
  cases k <;> simp [FileKind.extension] at hk

/-- The name of a source map. -/
lemma isName_mapPath {n : String} (hn : Path.IsName n) : Path.IsName (mapPath n) := by
  have hlong : ∀ m : String, m.toList.length < 4 → mapPath n ≠ m := by
    rintro m hm rfl
    rw [mapPath, String.toList_append, List.length_append] at hm
    exact absurd hm (Nat.not_lt.mpr (Nat.le_add_left 4 _))
  refine ⟨hlong _ (by decide), hlong _ (by decide), hlong _ (by decide), ?_⟩
  simpa [mapPath] using hn.noSlash

/-! ### Writing texts -/

/-- Writes texts one after another: the files then, and what is wrong, as a
message. What cannot be written ends it. -/
def writeAll (cwd : Place) : FileSystem → List (String × String) → FileSystem × Option String
  | fs, [] => (fs, none)
  | fs, (path, text) :: rest =>
    match writeFile fs cwd path text with
    | (fs, none) => writeAll cwd fs rest
    | (fs, some m) => (fs, some m)

/-- What is written of a file that was transformed: its source map, if there is
to be one, and then its text. -/
def WriteMode.writes (mode : WriteMode) (path : String) (t : Transformed) :
    List (String × String) :=
  if !mode.apply then []
  else
    match if mode.sourceMap then t.map? else none with
    | none => [(path, t.code)]
    | some map => [(mapPath path, map), (path, t.code ++ mapLine path)]

lemma WriteMode.writes_of_dry (hmode : mode.apply = false) (t : Transformed) :
    mode.writes path t = [] := by
  simp [writes, hmode]

lemma WriteMode.writes_of_apply (hmode : mode.apply = true) {t : Transformed} {map : String}
    (hmap : t.map? = some map) :
    mode.writes path t =
      if mode.sourceMap then [(mapPath path, map), (path, t.code ++ mapLine path)]
      else [(path, t.code)] := by
  cases hsource : mode.sourceMap <;> simp [writes, hmode, hsource, hmap]

variable {V : Place → Prop} {ws : List (String × String)} {w : String × String}

/-- What is written leaves the rest to be written. -/
lemma writeAll_cons_ok (h : (fs.write cwd w.1 w.2).fault? = none) :
    writeAll cwd fs (w :: ws) = writeAll cwd (fs.write cwd w.1 w.2).files ws := by
  simp only [writeAll, writeFile, h, Option.map_none]

/-- What cannot be written ends it. -/
lemma writeAll_cons_error {f : FileFault} (h : (fs.write cwd w.1 w.2).fault? = some f) :
    writeAll cwd fs (w :: ws)
      = ((fs.write cwd w.1 w.2).files,
          some ("Failed to write " ++ w.1 ++ ": " ++ f.message)) := by
  simp only [writeAll, writeFile, h, Option.map_some]

lemma writeAll_singleton (fs : FileSystem) (cwd : Place) (w : String × String) :
    writeAll cwd fs [w] = writeFile fs cwd w.1 w.2 := by
  rw [writeAll]
  rcases writeFile fs cwd w.1 w.2 with ⟨gs, _ | m⟩ <;> rfl

lemma writeTransformed_eq (fs : FileSystem) (cwd : Place) (mode : WriteMode) (path : String)
    (t : Transformed) :
    writeTransformed fs cwd mode path t = writeAll cwd fs (mode.writes path t) := by
  unfold writeTransformed WriteMode.writes
  split
  · rfl
  · cases if mode.sourceMap then t.map? else none with
    | none => exact (writeAll_singleton fs cwd (path, t.code)).symm
    | some map =>
        simp only [writeAll]
        rcases writeFile fs cwd (mapPath path) map with ⟨gs, _ | m⟩
        · exact (writeAll_singleton gs cwd (path, t.code ++ mapLine path)).symm
        · rfl

/-- Writing texts leaves a lawful file system. -/
lemma lawful_writeAll (hcwd : ∀ m ∈ cwd, Path.IsName m) (hfs : fs.Lawful) :
    (writeAll cwd fs ws).1.Lawful := by
  induction ws generalizing fs with
  | nil => exact hfs
  | cons w ws ih =>
      have hfirst : (fs.write cwd w.1 w.2).files.Lawful := hfs.write hcwd w.2
      cases hwrite : (fs.write cwd w.1 w.2).fault? with
      | none =>
          rw [writeAll_cons_ok hwrite]
          exact ih hfirst
      | some f => rwa [writeAll_cons_error hwrite]

/-- Writing texts changes no place but those that their paths lead to. -/
lemma agrees_writeAll (hws : ∀ w ∈ ws, fs.IsPlaced cwd w.1) :
    Agrees (fun q => ∀ w ∈ ws, fs.locate cwd w.1 ≠ .ok q) fs (writeAll cwd fs ws).1 := by
  induction ws generalizing fs with
  | nil => exact .refl _ fs
  | cons w ws ih =>
      rw [List.forall_mem_cons] at hws
      have hstep := agrees_write fs cwd w.1 w.2
      have hfirst := hstep.mono fun q (hq : ∀ v ∈ w :: ws, fs.locate cwd v.1 ≠ .ok q) =>
        hq w List.mem_cons_self
      cases hwrite : (fs.write cwd w.1 w.2).fault? with
      | none =>
          rw [writeAll_cons_ok hwrite]
          refine hfirst.trans ((ih fun v hv => hstep.isPlaced (hws.2 v hv)).mono
            fun q hq v hv => ?_)
          rw [hstep.locate_eq (hws.2 v hv)]
          exact hq v (List.mem_cons_of_mem _ hv)
      | some f => rwa [writeAll_cons_error hwrite]

/-- Texts are written if each of them can be. -/
lemma writeAll_eq_none_iff (hws : ∀ w ∈ ws, fs.IsPlaced cwd w.1) :
    (writeAll cwd fs ws).2 = none ↔ ∀ w ∈ ws, fs.Writable cwd w.1 := by
  induction ws generalizing fs with
  | nil => exact ⟨nofun, fun _ => rfl⟩
  | cons w ws ih =>
      rw [List.forall_mem_cons] at hws
      rw [List.forall_mem_cons, ← fault?_write_eq_none_iff w.2 hws.1]
      cases hwrite : (fs.write cwd w.1 w.2).fault? with
      | none =>
          have hstep := agrees_write fs cwd w.1 w.2
          rw [writeAll_cons_ok hwrite, ih fun v hv => hstep.isPlaced (hws.2 v hv)]
          simp only [true_and]
          exact forall₂_congr fun v hv => writable_of_write (hws.2 v hv)
      | some f => simp [writeAll_cons_error hwrite]

/-- Writing texts at places where two file systems agree does the same in
both. -/
lemma writeAll_of_agrees (h : Agrees V fs gs) (hws : ∀ w ∈ ws, fs.IsPlaced cwd w.1)
    (hV : ∀ w ∈ ws, ∀ q, fs.locate cwd w.1 = .ok q → V q) :
    (writeAll cwd gs ws).2 = (writeAll cwd fs ws).2
      ∧ Agrees V (writeAll cwd fs ws).1 (writeAll cwd gs ws).1 := by
  induction ws generalizing fs gs with
  | nil => exact ⟨rfl, h⟩
  | cons w ws ih =>
      rw [List.forall_mem_cons] at hws hV
      obtain ⟨hfault, hagree⟩ := h.write w.2 hws.1 hV.1
      cases hwrite : (fs.write cwd w.1 w.2).fault? with
      | none =>
          rw [writeAll_cons_ok hwrite, writeAll_cons_ok (hfault.trans hwrite)]
          have hstep := agrees_write fs cwd w.1 w.2
          refine ih hagree (fun v hv => hstep.isPlaced (hws.2 v hv)) fun v hv q hq => ?_
          rw [hstep.locate_eq (hws.2 v hv)] at hq
          exact hV.2 v hv q hq
      | some f =>
          rw [writeAll_cons_error hwrite, writeAll_cons_error (hfault.trans hwrite)]
          exact ⟨rfl, hagree⟩

/-- Texts that are written to different places are read back. -/
lemma read_writeAll (hws : ∀ w ∈ ws, fs.IsPlaced cwd w.1)
    (hne : ws.Pairwise fun w w' => ∀ q, fs.locate cwd w.1 = .ok q → fs.locate cwd w'.1 ≠ .ok q)
    (hok : (writeAll cwd fs ws).2 = none) :
    ∀ w ∈ ws, (writeAll cwd fs ws).1.read cwd w.1 = .ok w.2 := by
  induction ws generalizing fs with
  | nil => simp
  | cons w ws ih =>
      rw [List.forall_mem_cons] at hws
      rw [List.pairwise_cons] at hne
      cases hwrite : (fs.write cwd w.1 w.2).fault? with
      | some f => simp [writeAll_cons_error hwrite] at hok
      | none =>
          rw [writeAll_cons_ok hwrite] at hok ⊢
          have hstep := agrees_write fs cwd w.1 w.2
          have hplaced := fun v hv => hstep.isPlaced (hws.2 v hv)
          have hlocate := fun v hv => hstep.locate_eq (hws.2 v hv)
          rw [List.forall_mem_cons]
          constructor
          · -- what follows is written elsewhere
            refine ((agrees_writeAll hplaced).read_eq (hstep.isPlaced hws.1) ?_).trans
              (read_of_write hwrite)
            intro q hq v hv
            rw [hstep.locate_eq hws.1] at hq
            rw [hlocate v hv]
            exact hne.1 v hv q hq
          · refine ih hplaced (hne.2.imp_of_mem fun {u v} hu hv h => ?_) hok
            rwa [hlocate u hu, hlocate v hv]

/-- A text that is not written cannot be. -/
lemma broken_singleton (hw : fs.IsPlaced cwd w.1) (hfault : (writeAll cwd fs [w]).2 ≠ none) :
    ¬ fs.Writable cwd w.1
      ∧ BrokenWrite w.2 (fs.at? cwd w.1) ((writeAll cwd fs [w]).1.at? cwd w.1) := by
  rw [← fault?_write_eq_none_iff w.2 hw]
  cases hwrite : (fs.write cwd w.1 w.2).fault? with
  | none => exact absurd (by rw [writeAll_cons_ok hwrite, writeAll]) hfault
  | some f =>
      rw [writeAll_cons_error hwrite]
      exact ⟨nofun, brokenWrite_of_fault hwrite⟩

/-- Of two texts that go to different places, the first is not written and the
second is not tried, or the first is there and the second is not written. -/
lemma broken_pair {v : String × String} (hv : fs.IsPlaced cwd v.1) (hw : fs.IsPlaced cwd w.1)
    (hne : ∀ q, fs.locate cwd v.1 = .ok q → fs.locate cwd w.1 ≠ .ok q)
    (hfault : (writeAll cwd fs [v, w]).2 ≠ none) :
    let after := (writeAll cwd fs [v, w]).1
    (¬ fs.Writable cwd v.1 ∧ BrokenWrite v.2 (fs.at? cwd v.1) (after.at? cwd v.1)
        ∧ after.at? cwd w.1 = fs.at? cwd w.1)
    ∨ (fs.Writable cwd v.1 ∧ ¬ fs.Writable cwd w.1 ∧ after.read cwd v.1 = .ok v.2
        ∧ BrokenWrite w.2 (fs.at? cwd w.1) (after.at? cwd w.1)) := by
  intro after
  have hstep := agrees_write fs cwd v.1 v.2
  have hkept := hstep.at?_eq hw fun q hq hq' => hne q hq' hq
  rw [← fault?_write_eq_none_iff v.2 hv]
  cases hwrite : (fs.write cwd v.1 v.2).fault? with
  | some f =>
      left
      simp only [after, writeAll_cons_error hwrite]
      exact ⟨nofun, brokenWrite_of_fault hwrite, hkept⟩
  | none =>
      right
      simp only [after, writeAll_cons_ok hwrite] at hfault ⊢
      have hw' := hstep.isPlaced hw
      obtain ⟨hfails, hbroken⟩ := broken_singleton hw' hfault
      refine ⟨trivial, by rwa [← writable_of_write hw], ?_, by rwa [← hkept]⟩
      -- the second goes elsewhere
      refine ((agrees_writeAll (by simpa using hw')).read_eq (hstep.isPlaced hv) ?_).trans
        (read_of_write hwrite)
      intro q hq
      rw [hstep.locate_eq hv] at hq
      simpa [hstep.locate_eq hw] using hne q hq

/-! ### Examining a file -/

/-- What is made of a file: the events, the outcome, and what is to be written
if all goes on. -/
structure Examined where
  events : List Event := []
  outcome : FileOutcome
  result? : Option Transformed := none

namespace Options

/-- What is made of a file, given what was read. -/
def examine (o : Options) (path : String) (read : Except FileFault String) : Examined :=
  if !o.handles path then { outcome := .excluded }
  else
    match read with
    | .error f =>
      { outcome := .failed path ("Failed to read " ++ path ++ ": " ++ f.message) }
    | .ok code =>
      match o.transform code path with
      | (.error f, events) => { events, outcome := .failed path f.display }
      | (.ok t, events) =>
        if t.summary.isUnchanged then { events, outcome := .unchanged t.summary.retained }
        else { events, outcome := .stripped path t.summary, result? := some t }

/-- What becomes of a file of a project as it stands, if it is written without
fault. -/
def outcomeOf (o : Options) (cwd : Place) (fs : FileSystem) (path : String) : FileOutcome :=
  (o.examine path (fs.read cwd path)).outcome

/-- What is to be written of a file of a project as it stands. -/
def writesOf (o : Options) (mode : WriteMode) (cwd : Place) (fs : FileSystem) (path : String) :
    List (String × String) :=
  (o.examine path (fs.read cwd path)).result?.elim [] (mode.writes path)

end Options

/-- A file is read and examined, and what is to be written is written. -/
lemma processFile_eq (o : Options) (mode : WriteMode) (cwd : Place) (fs : FileSystem)
    (path : String) :
    processFile o mode cwd fs path =
      { files := (writeAll cwd fs (o.writesOf mode cwd fs path)).1
        events := (o.examine path (fs.read cwd path)).events
        outcome := match (writeAll cwd fs (o.writesOf mode cwd fs path)).2 with
          | none => .ok (o.outcomeOf cwd fs path)
          | some m => .error m } := by
  unfold processFile Options.writesOf Options.outcomeOf Options.examine
  split
  · rfl
  · cases fs.read cwd path with
    | error f => rfl
    | ok code =>
        simp only
        rcases o.transform code path with ⟨f | t, events⟩
        · rfl
        · simp only
          split
          · rfl
          · simp only [writeTransformed_eq, Option.elim]
            obtain ⟨gs, _ | m⟩ := writeAll cwd fs (mode.writes path t) <;> rfl

/-- What can come of a file: its calls go, and it is to be written with a source
map, or nothing is to be written. -/
lemma examine_cases (o : Options) (path : String) (read : Except FileFault String) :
    (∃ code t map, read = .ok code ∧ (o.transform code path).1 = .ok t ∧ t.map? = some map
      ∧ (o.examine path read).result? = some t
      ∧ (o.examine path read).outcome = .stripped path t.summary)
    ∨ (o.examine path read).result? = none
      ∧ (o.examine path read).outcome.stripped? = none := by
  unfold Options.examine
  split
  · exact .inr ⟨rfl, rfl⟩
  · cases read with
    | error f => exact .inr ⟨rfl, rfl⟩
    | ok code =>
        rcases htransform : o.transform code path with ⟨f | t, events⟩
        · simp [htransform, FileOutcome.stripped?]
        · cases t with
          | untouched code' =>
              right
              simp only [htransform]
              exact ⟨rfl, rfl⟩
          | rewritten r =>
              simp only [htransform]
              split
              · exact .inr ⟨rfl, rfl⟩
              · exact .inl ⟨code, _, _, rfl, by rw [htransform], rfl, rfl, rfl⟩

lemma processFile_of_dry (o : Options) (hmode : mode.apply = false) (cwd : Place)
    (fs : FileSystem) (path : String) :
    processFile o mode cwd fs path =
      { files := fs
        events := (o.examine path (fs.read cwd path)).events
        outcome := .ok (o.outcomeOf cwd fs path) } := by
  have hwrites : o.writesOf mode cwd fs path = [] := by
    rw [Options.writesOf]
    cases (o.examine path (fs.read cwd path)).result? with
    | none => rfl
    | some t => exact WriteMode.writes_of_dry hmode t
  rw [processFile_eq, hwrites]
  rfl

/-! ### The places of a file -/

/-- A source file, the name that its path leads to, and its source map beside
it. -/
structure SourceAt (fs : FileSystem) (cwd : Place) (path : String) (folder : Place)
    (name : String) : Prop where
  file : fs.Leads cwd path folder name
  map : fs.Leads cwd (mapPath path) folder (mapPath name)
  fileName : Path.fileName path = name
  fileName_map : Path.fileName (mapPath path) = mapPath name
  ne_map : ∀ m, name ≠ mapPath m

/-- A source file that is found in a folder is where its path leads. -/
lemma sourceAt_of_found {root : String} {top : Place} {ns : List String} {n : String}
    (h : fs.Found cwd root top path ns n) (hkind : (FileKind.ofPath? path).isSome) :
    SourceAt fs cwd path (top ++ ns) n := by
  have hmapName := isName_mapPath h.isName
  have hunder := h.reached.under_ne_empty
  have hmap : mapPath path = Path.join (Path.under root ns) (mapPath n) := by
    rw [h.path_eq, mapPath, mapPath, Path.join_append hunder h.isName hmapName]
  refine ⟨h.leads, ?_, ?_, ?_, ?_⟩
  · rw [hmap]
    exact leads_join hunder hmapName h.isFolder h.reached.arrives
  · rw [h.path_eq, Path.fileName_join hunder h.isName]
  · rw [hmap, Path.fileName_join hunder hmapName]
  · -- the name of a source map ends a path that is not that of a source file
    rintro m rfl
    rw [h.path_eq, Path.join_eq hunder h.isName, mapPath, ← String.append_assoc] at hkind
    have hnone := ofPath?_mapPath (Path.slashed (Path.under root ns) ++ m)
    rw [mapPath] at hnone
    rw [hnone] at hkind
    exact absurd hkind (by simp)

/-- The paths that are written to if a file is stripped. -/
def WriteMode.targets (mode : WriteMode) (path : String) : List String :=
  if mode.sourceMap then [path, mapPath path] else [path]

/-- The places of a file and of its source map. -/
def Footprint (fs : FileSystem) (cwd : Place) (path : String) (q : Place) : Prop :=
  fs.locate cwd path = .ok q ∨ fs.locate cwd (mapPath path) = .ok q

/-- A file is stripped, and then written to a place. -/
def Options.Touches (o : Options) (mode : WriteMode) (cwd : Place) (fs : FileSystem)
    (path : String) (q : Place) : Prop :=
  (o.outcomeOf cwd fs path).stripped?.isSome ∧ ∃ t ∈ mode.targets path, fs.locate cwd t = .ok q

variable {folder : Place} {name : String} {q : Place}

namespace SourceAt

lemma footprint (h : SourceAt fs cwd path folder name) (hq : Footprint fs cwd path q) :
    q = folder ++ [name] ∨ q = folder ++ [mapPath name] := by
  obtain hq | hq := hq
  · exact .inl (Arrives.eq (hq ▸ h.file.arrives))
  · exact .inr (Arrives.eq (hq ▸ h.map.arrives))

lemma of_agrees (hagree : Agrees V fs gs) (h : SourceAt fs cwd path folder name) :
    SourceAt gs cwd path folder name :=
  ⟨hagree.leads h.file, hagree.leads h.map, h.fileName, h.fileName_map, h.ne_map⟩

lemma isPlaced (h : SourceAt fs cwd path folder name) : fs.IsPlaced cwd path :=
  ⟨_, _, h.file⟩

lemma isPlaced_map (h : SourceAt fs cwd path folder name) : fs.IsPlaced cwd (mapPath path) :=
  ⟨_, _, h.map⟩

/-- The source map of a file is somewhere else. -/
lemma locate_map_ne (h : SourceAt fs cwd path folder name) (hq : fs.locate cwd path = .ok q) :
    fs.locate cwd (mapPath path) ≠ .ok q := by
  intro hmap
  have hplace : q = folder ++ [name] := Arrives.eq (hq ▸ h.file.arrives)
  have hplace' : q = folder ++ [mapPath name] := Arrives.eq (hmap ▸ h.map.arrives)
  exact h.ne_map name (List.append_singleton_inj.mp (hplace.symm.trans hplace')).2

/-- The footprint of a file is the same wherever there are the same folders. -/
lemma footprint_iff (hagree : Agrees V fs gs) (h : SourceAt fs cwd path folder name) :
    Footprint gs cwd path q ↔ Footprint fs cwd path q := by
  rw [Footprint, Footprint, hagree.locate_eq h.isPlaced, hagree.locate_eq h.isPlaced_map]

end SourceAt

/-- What is written of a file goes where the file or its source map is. -/
lemma of_mem_writesOf {w : String × String} (hw : w ∈ o.writesOf mode cwd fs path) :
    (o.outcomeOf cwd fs path).stripped?.isSome ∧ w.1 ∈ mode.targets path := by
  rw [Options.writesOf] at hw
  rw [Options.outcomeOf]
  obtain ⟨code, t, map, -, -, hmap, hresult, houtcome⟩ | ⟨hresult, -⟩ :=
    examine_cases o path (fs.read cwd path)
  · refine ⟨by rw [houtcome]; rfl, ?_⟩
    rw [hresult, Option.elim_some] at hw
    rw [WriteMode.targets]
    cases happly : mode.apply with
    | false => simp [WriteMode.writes_of_dry happly] at hw
    | true =>
        rw [WriteMode.writes_of_apply happly hmap] at hw
        split_ifs at hw ⊢
        · rw [List.mem_pair] at hw
          obtain rfl | rfl := hw <;> simp
        · simp [List.mem_singleton.mp hw]
  · simp [hresult] at hw

/-- A file is written to its own path and to that of its source map. -/
lemma eq_or_of_mem_targets {t : String} (ht : t ∈ mode.targets path) :
    t = path ∨ t = mapPath path := by
  rw [WriteMode.targets] at ht
  split_ifs at ht
  · exact List.mem_pair.mp ht
  · exact .inl (List.mem_singleton.mp ht)

lemma footprint_of_mem_targets {t : String} (ht : t ∈ mode.targets path)
    (hq : fs.locate cwd t = .ok q) : Footprint fs cwd path q := by
  obtain rfl | rfl := eq_or_of_mem_targets ht
  · exact .inl hq
  · exact .inr hq

lemma Options.Touches.footprint (h : o.Touches mode cwd fs path q) : Footprint fs cwd path q := by
  obtain ⟨-, t, ht, hq⟩ := h
  exact footprint_of_mem_targets ht hq

lemma SourceAt.isPlaced_of_mem_targets (h : SourceAt fs cwd path folder name) {t : String}
    (ht : t ∈ mode.targets path) : fs.IsPlaced cwd t := by
  obtain rfl | rfl := eq_or_of_mem_targets ht
  · exact h.isPlaced
  · exact h.isPlaced_map

lemma SourceAt.isPlaced_of_mem_writesOf (h : SourceAt fs cwd path folder name)
    {w : String × String} (hw : w ∈ o.writesOf mode cwd fs path) : fs.IsPlaced cwd w.1 :=
  h.isPlaced_of_mem_targets (of_mem_writesOf hw).2

/-! ### Processing a file -/

/-- **What is done with a file changes nothing but the file and its source map,
and these only if it is stripped.** -/
lemma agrees_processFile (o : Options) (mode : WriteMode) (h : SourceAt fs cwd path folder name) :
    Agrees (fun q => ¬ o.Touches mode cwd fs path q) fs (processFile o mode cwd fs path).files := by
  rw [processFile_eq]
  refine (agrees_writeAll fun w hw => h.isPlaced_of_mem_writesOf hw).mono ?_
  intro q hq w hw hlocate
  exact hq ⟨(of_mem_writesOf hw).1, w.1, (of_mem_writesOf hw).2, hlocate⟩

/-- **What is done with a file depends on its footprint alone.** -/
lemma processFile_of_agrees (o : Options) (mode : WriteMode) (hagree : Agrees V fs gs)
    (h : SourceAt fs cwd path folder name) (hV : ∀ q, Footprint fs cwd path q → V q) :
    (processFile o mode cwd gs path).outcome = (processFile o mode cwd fs path).outcome
      ∧ (processFile o mode cwd gs path).events = (processFile o mode cwd fs path).events
      ∧ Agrees V (processFile o mode cwd fs path).files (processFile o mode cwd gs path).files := by
  have hread := hagree.read_eq h.isPlaced fun q hq => hV q (.inl hq)
  have hwrites : o.writesOf mode cwd gs path = o.writesOf mode cwd fs path := by
    rw [Options.writesOf, Options.writesOf, hread]
  have hplaced : ∀ w ∈ o.writesOf mode cwd fs path, fs.IsPlaced cwd w.1 := fun w hw =>
    h.isPlaced_of_mem_writesOf hw
  obtain ⟨hfault, hfiles⟩ := writeAll_of_agrees hagree hplaced fun w hw q hq =>
    hV q (footprint_of_mem_targets (of_mem_writesOf hw).2 hq)
  rw [processFile_eq, processFile_eq, hwrites, Options.outcomeOf, Options.outcomeOf, hread]
  exact ⟨by rw [hfault], rfl, hfiles⟩

lemma touches_of_agrees (hagree : Agrees V fs gs) (h : SourceAt fs cwd path folder name)
    (hV : ∀ q, Footprint fs cwd path q → V q) (ht : o.Touches mode cwd gs path q) :
    o.Touches mode cwd fs path q := by
  obtain ⟨hstripped, t, ht, hq⟩ := ht
  refine ⟨?_, t, ht, ?_⟩
  · rwa [Options.outcomeOf, hagree.read_eq h.isPlaced fun q hq => hV q (.inl hq)] at hstripped
  · rwa [hagree.locate_eq (h.isPlaced_of_mem_targets ht)] at hq

/-- The line that names the source map of a file. -/
lemma SourceAt.mapLine_eq (h : SourceAt fs cwd path folder name) :
    mapLine path = "//# sourceMappingURL=" ++ Path.fileName path ++ ".map\n" := by
  have hend (start : String) : start ++ mapPath name ++ "\n" = start ++ name ++ ".map\n" := by
    have hmap : ".map\n" = ".map" ++ "\n" := by decide
    rw [mapPath, hmap, String.append_assoc, String.append_assoc, String.append_assoc]
  unfold mapLine
  rw [h.fileName_map, h.fileName]
  exact hend _

/-- A file that was stripped holds what came of it. If there are to be source
maps, a line that names its source map follows, and the source map is beside
it. -/
def HoldsResult (o : Options) (mode : WriteMode) (cwd : Place) (before after : FileSystem)
    (path : String) (s : Summary) : Prop :=
  ∃ code t map, before.read cwd path = .ok code ∧ (o.transform code path).1 = .ok t
    ∧ t.summary = s ∧ t.map? = some map
    ∧ if mode.sourceMap then
        after.read cwd path
            = .ok (t.code ++ ("//# sourceMappingURL=" ++ Path.fileName path ++ ".map\n"))
          ∧ after.read cwd (mapPath path) = .ok map
      else after.read cwd path = .ok t.code

/-- A file that is stripped holds what came of it, if nothing was in the way. -/
lemma holdsResult_processFile (hmode : mode.apply = true) (h : SourceAt fs cwd path folder name)
    {p : String} {s : Summary} (hstripped : o.outcomeOf cwd fs path = .stripped p s)
    {out : FileOutcome} (hok : (processFile o mode cwd fs path).outcome = .ok out) :
    p = path ∧ HoldsResult o mode cwd fs (processFile o mode cwd fs path).files path s := by
  obtain ⟨code, t, map, hread, htransform, hmap, hresult, houtcome⟩ | ⟨-, hno⟩ :=
    examine_cases o path (fs.read cwd path)
  · rw [Options.outcomeOf, houtcome, FileOutcome.stripped.injEq] at hstripped
    obtain ⟨rfl, hsummary⟩ := hstripped
    have hwrites : o.writesOf mode cwd fs path = mode.writes path t := by
      rw [Options.writesOf, hresult, Option.elim_some]
    have hplaced : ∀ w ∈ mode.writes path t, fs.IsPlaced cwd w.1 := by
      rw [← hwrites]
      exact fun w hw => h.isPlaced_of_mem_writesOf hw
    rw [processFile_eq, hwrites] at hok ⊢
    have hwritten : (writeAll cwd fs (mode.writes path t)).2 = none := by
      cases hfault : (writeAll cwd fs (mode.writes path t)).2 with
      | none => rfl
      | some m => simp [hfault] at hok
    have hback := read_writeAll hplaced ?_ hwritten
    · refine ⟨rfl, code, t, map, hread, htransform, hsummary, hmap, ?_⟩
      rw [WriteMode.writes_of_apply hmode hmap] at hback
      rw [← h.mapLine_eq, WriteMode.writes_of_apply hmode hmap]
      split_ifs at hback ⊢
      · simpa [and_comm] using hback
      · simpa using hback
    · -- the source map is not where the file is
      rw [WriteMode.writes_of_apply hmode hmap]
      split_ifs
      · simpa using fun q hq hq' => h.locate_map_ne hq' hq
      · exact List.pairwise_singleton _ _
  · rw [Options.outcomeOf] at hstripped
    simp [hstripped, FileOutcome.stripped?] at hno

/-- Something could not be written in a run that writes. -/
lemma apply_of_fault {m : String} (hfault : (processFile o mode cwd fs path).outcome = .error m) :
    mode.apply = true := by
  by_contra hdry
  rw [Bool.not_eq_true] at hdry
  simp [processFile_of_dry o hdry] at hfault

/-- A file that was to be written, and either its source map or the file itself was
not. In the first case the file is as it was. In the second its source map, if
there is to be one, is complete. What was not written is as it was, or holds a
first part of what was to be there. -/
def BrokenOff (o : Options) (mode : WriteMode) (cwd : Place) (before after : FileSystem)
    (path : String) : Prop :=
  ∃ code t map, before.read cwd path = .ok code ∧ (o.transform code path).1 = .ok t
    ∧ t.map? = some map
    ∧ if mode.sourceMap then
        (¬ before.Writable cwd (mapPath path)
          ∧ BrokenWrite map (before.at? cwd (mapPath path)) (after.at? cwd (mapPath path))
          ∧ after.at? cwd path = before.at? cwd path)
        ∨ (before.Writable cwd (mapPath path) ∧ ¬ before.Writable cwd path
          ∧ after.read cwd (mapPath path) = .ok map
          ∧ BrokenWrite
              (t.code ++ ("//# sourceMappingURL=" ++ Path.fileName path ++ ".map\n"))
              (before.at? cwd path) (after.at? cwd path))
      else ¬ before.Writable cwd path
        ∧ BrokenWrite t.code (before.at? cwd path) (after.at? cwd path)

/-- What was not written is as it was, or holds a first part of what was to be
there. -/
lemma brokenOff_processFile (h : SourceAt fs cwd path folder name) {m : String}
    (hfault : (processFile o mode cwd fs path).outcome = .error m) :
    BrokenOff o mode cwd fs (processFile o mode cwd fs path).files path := by
  have hmode := apply_of_fault hfault
  rw [processFile_eq] at hfault ⊢
  have hwritten : (writeAll cwd fs (o.writesOf mode cwd fs path)).2 ≠ none := by
    intro hnone
    simp [hnone] at hfault
  obtain ⟨code, t, map, hread, htransform, hmap, hresult, -⟩ | ⟨hresult, -⟩ :=
    examine_cases o path (fs.read cwd path)
  · refine ⟨code, t, map, hread, htransform, hmap, ?_⟩
    rw [Options.writesOf, hresult, Option.elim_some, WriteMode.writes_of_apply hmode hmap]
      at hwritten ⊢
    rw [← h.mapLine_eq]
    split_ifs at hwritten ⊢
    · exact broken_pair h.isPlaced_map h.isPlaced (fun q hmap hq => h.locate_map_ne hq hmap) hwritten
    · exact broken_singleton h.isPlaced hwritten
  · simp [Options.writesOf, hresult, writeAll] at hwritten

/-- What is left of a file is the same wherever there is the same in its footprint. -/
lemma BrokenOff.of_agrees {hs : FileSystem} (h : BrokenOff o mode cwd fs gs path)
    (hsource : SourceAt gs cwd path folder name) (hagree : Agrees (Footprint gs cwd path) gs hs) :
    BrokenOff o mode cwd fs hs path := by
  obtain ⟨code, t, map, hread, htransform, hmap, hleft⟩ := h
  refine ⟨code, t, map, hread, htransform, hmap, ?_⟩
  rwa [hagree.at?_eq hsource.isPlaced fun q hq => .inl hq,
    hagree.at?_eq hsource.isPlaced_map fun q hq => .inr hq,
    hagree.read_eq hsource.isPlaced_map fun q hq => .inr hq]

/-- A file holds what came of it wherever there is the same in its footprint. -/
lemma HoldsResult.of_agrees {hs : FileSystem} {s : Summary}
    (h : HoldsResult o mode cwd fs gs path s) (hsource : SourceAt gs cwd path folder name)
    (hagree : Agrees (Footprint gs cwd path) gs hs) : HoldsResult o mode cwd fs hs path s := by
  obtain ⟨code, t, map, hread, htransform, hsummary, hmap, hholds⟩ := h
  refine ⟨code, t, map, hread, htransform, hsummary, hmap, ?_⟩
  have hfile := hagree.read_eq hsource.isPlaced fun q hq => .inl hq
  have hmapFile := hagree.read_eq hsource.isPlaced_map fun q hq => .inr hq
  rwa [hfile, hmapFile]

end ConsoleStrip
