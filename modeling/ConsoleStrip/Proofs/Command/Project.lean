/-
What a run does with a project.

* `Independent`: source files that have no place in common, nor with the source
  maps of each other. `independent_scan`: what a scan finds is so;
* `outcomes_processFiles`: among independent files, the outcome of each is what
  it is alone;
* `processEach`: what is left when files are processed one after another, whatever
  comes of each. `processFiles_cases`: a run does this with all files, or up to one
  that cannot be written;
* `agrees_processEach`: nothing is changed but files that are stripped and their
  source maps, and these are as if the others were not there
  (`agrees_processEach_alone`), in any order (`processEach_perm`).
-/
import ConsoleStrip.Proofs.Command.File

namespace ConsoleStrip

open FileSystem

variable {o : Options} {mode : WriteMode} {cwd : Place} {fs gs : FileSystem} {path : String}
  {paths : List String}

/-! ### Files apart from each other -/

/-- Two files have no place in common, nor with the source maps of each other. -/
def Apart (fs : FileSystem) (cwd : Place) (f g : String) : Prop :=
  ∀ q, Footprint fs cwd f q → ¬ Footprint fs cwd g q

lemma Apart.symm {f g : String} (h : Apart fs cwd f g) : Apart fs cwd g f :=
  fun q hg hf => h q hf hg

lemma mapPath_inj {m n : String} (h : mapPath m = mapPath n) : m = n := by
  simpa [mapPath] using h

/-- Source files at different places are apart: the name of none is that of a
source map. -/
lemma SourceAt.apart {f g m n : String} {p q : Place} (hf : SourceAt fs cwd f p m)
    (hg : SourceAt fs cwd g q n) (hne : p ++ [m] ≠ q ++ [n]) : Apart fs cwd f g := by
  intro r hr hr'
  obtain rfl | rfl := hf.footprint hr <;> obtain h | h := hg.footprint hr'
  · exact hne h
  · exact hf.ne_map n (List.append_singleton_inj.mp h).2
  · exact hg.ne_map m (List.append_singleton_inj.mp h).2.symm
  · obtain ⟨hfolder, hname⟩ := List.append_singleton_inj.mp h
    exact hne (by rw [hfolder, mapPath_inj hname])

/-- Source files, none of which has to do with another. -/
structure Independent (fs : FileSystem) (cwd : Place) (paths : List String) : Prop where
  source : ∀ f ∈ paths, ∃ folder name, SourceAt fs cwd f folder name
  apart : paths.Pairwise (Apart fs cwd)

lemma Independent.perm {order : List String} (h : Independent fs cwd paths)
    (hperm : order.Perm paths) : Independent fs cwd order :=
  ⟨fun f hf => h.source f (hperm.mem_iff.mp hf), hperm.symm.pairwise h.apart Apart.symm⟩

/-- **The source files that a scan of a folder finds are independent.** -/
lemma independent_scan {root : String} (hfs : fs.Lawful) (hroot : fs.isFolder cwd root)
    (ignores : List String) : Independent fs cwd (fs.scan cwd root ignores).files := by
  obtain ⟨top, htop, hfolder⟩ := exists_of_isFolder hroot
  have hfound := fun f (hf : f ∈ (fs.scan cwd root ignores).files) =>
    found_of_mem_scan hfs htop hfolder hf
  refine ⟨fun f hf => ?_, (nodup_scan hfs htop).imp_of_mem fun {f g} hf hg hne => ?_⟩
  · obtain ⟨ns, n, h⟩ := hfound f hf
    exact ⟨_, _, sourceAt_of_found h (isSome_ofPath?_of_mem_scan hf)⟩
  · obtain ⟨ns, n, h⟩ := hfound f hf
    obtain ⟨ms, m, h'⟩ := hfound g hg
    refine (sourceAt_of_found h (isSome_ofPath?_of_mem_scan hf)).apart
      (sourceAt_of_found h' (isSome_ofPath?_of_mem_scan hg)) fun hplace => hne ?_
    -- the same place is reached by the same names, and so by the same path
    rw [List.append_assoc, List.append_assoc, List.append_cancel_left_eq] at hplace
    rw [h.path_eq_under.2, h'.path_eq_under.2, hplace]

/-! ### Processing files -/

/-- What cannot be written ends it. -/
lemma processFiles_cons_error {m : String}
    (h : (processFile o mode cwd fs path).outcome = .error m) :
    processFiles o mode cwd fs (path :: paths) =
      { files := (processFile o mode cwd fs path).files
        events := (processFile o mode cwd fs path).events
        outcomes := .error m } := by
  simp only [processFiles, h]

/-- A file that is done with leaves the others. -/
lemma processFiles_cons_ok {out : FileOutcome}
    (h : (processFile o mode cwd fs path).outcome = .ok out) :
    processFiles o mode cwd fs (path :: paths) =
      { files := (processFiles o mode cwd (processFile o mode cwd fs path).files paths).files
        events := (processFile o mode cwd fs path).events
          ++ (processFiles o mode cwd (processFile o mode cwd fs path).files paths).events
        outcomes := (processFiles o mode cwd (processFile o mode cwd fs path).files
          paths).outcomes.map (out :: ·) } := by
  simp only [processFiles, h]

/-- The files that are left when some were processed one after another, whatever
came of each. -/
def processEach (o : Options) (mode : WriteMode) (cwd : Place) :
    FileSystem → List String → FileSystem
  | fs, [] => fs
  | fs, path :: rest => processEach o mode cwd (processFile o mode cwd fs path).files rest

/-- **Files are processed up to one that cannot be written, and no further.** -/
lemma processFiles_cases (o : Options) (mode : WriteMode) (cwd : Place) (fs : FileSystem)
    (paths : List String) :
    (∃ outs, (processFiles o mode cwd fs paths).outcomes = .ok outs
      ∧ (processFiles o mode cwd fs paths).files = processEach o mode cwd fs paths)
    ∨ ∃ m done file rest, (processFiles o mode cwd fs paths).outcomes = .error m
      ∧ paths = done ++ file :: rest
      ∧ (∃ outs, (processFiles o mode cwd fs done).outcomes = .ok outs)
      ∧ (processFile o mode cwd (processEach o mode cwd fs done) file).outcome = .error m
      ∧ (processFiles o mode cwd fs paths).files
        = processEach o mode cwd fs (done ++ [file]) := by
  induction paths generalizing fs with
  | nil => exact .inl ⟨[], rfl, rfl⟩
  | cons path paths ih =>
      cases hout : (processFile o mode cwd fs path).outcome with
      | error m =>
          rw [processFiles_cons_error hout]
          exact .inr ⟨m, [], path, paths, rfl, rfl, ⟨[], rfl⟩, hout, rfl⟩
      | ok out =>
          rw [processFiles_cons_ok hout]
          obtain ⟨outs, houts, hfiles⟩ | ⟨m, done, file, rest, herror, rfl, ⟨outs, hdone⟩, hfile,
            hfiles⟩ := ih (processFile o mode cwd fs path).files
          · exact .inl ⟨out :: outs, by rw [houts]; rfl, hfiles⟩
          · refine .inr ⟨m, path :: done, file, rest, by rw [herror]; rfl, rfl, ⟨out :: outs, ?_⟩,
              hfile, hfiles⟩
            rw [processFiles_cons_ok hout, hdone]
            rfl

lemma files_processFiles {outs : List FileOutcome}
    (h : (processFiles o mode cwd fs paths).outcomes = .ok outs) :
    (processFiles o mode cwd fs paths).files = processEach o mode cwd fs paths := by
  obtain ⟨_, -, hfiles⟩ | ⟨_, _, _, _, herror, -⟩ := processFiles_cases o mode cwd fs paths
  · exact hfiles
  · rw [h] at herror
    cases herror

/-- Some file has a place. -/
def Footprints (fs : FileSystem) (cwd : Place) (paths : List String) (q : Place) : Prop :=
  ∃ f ∈ paths, Footprint fs cwd f q

/-- Processing a file leaves the places of the files to come. -/
lemma agrees_step (o : Options) (mode : WriteMode) (h : Independent fs cwd (path :: paths))
    (hagree : Agrees (Footprints fs cwd (path :: paths)) fs gs) :
    Agrees (Footprints fs cwd paths) fs (processFile o mode cwd gs path).files := by
  obtain ⟨folder, name, hsource⟩ := h.source path List.mem_cons_self
  refine (hagree.mono ?_).trans ((agrees_processFile o mode (hsource.of_agrees hagree)).mono ?_)
  · rintro q ⟨f, hf, hq⟩
    exact ⟨f, List.mem_cons_of_mem _ hf, hq⟩
  · rintro q ⟨f, hf, hq⟩ htouches
    have htouches := touches_of_agrees hagree hsource
      (fun q hq => ⟨path, List.mem_cons_self, hq⟩) htouches
    exact (List.pairwise_cons.mp h.apart).1 f hf q htouches.footprint hq

lemma Independent.of_cons (h : Independent fs cwd (path :: paths)) : Independent fs cwd paths :=
  ⟨fun f hf => h.source f (List.mem_cons_of_mem _ hf), (List.pairwise_cons.mp h.apart).2⟩

/-- What is done with a file that is written without fault. -/
lemma outcome_processFile {out : FileOutcome}
    (h : (processFile o mode cwd fs path).outcome = .ok out) : out = o.outcomeOf cwd fs path := by
  rw [processFile_eq] at h
  split at h
  · exact (Except.ok.inj h).symm
  · simp at h

/-- A file can be written as it stands, if it is to be written. -/
def Options.Succeeds (o : Options) (mode : WriteMode) (cwd : Place) (fs : FileSystem)
    (path : String) : Prop :=
  (processFile o mode cwd fs path).outcome = .ok (o.outcomeOf cwd fs path)

/-- A file succeeds exactly if it is not stripped, or the file and its source map
can be written. -/
lemma succeeds_iff (hmode : mode.apply = true) {folder : Place} {name : String}
    (h : SourceAt fs cwd path folder name) :
    o.Succeeds mode cwd fs path ↔
      ((o.outcomeOf cwd fs path).stripped?.isSome →
        ∀ t ∈ mode.targets path, fs.Writable cwd t) := by
  have hwritten : o.Succeeds mode cwd fs path
      ↔ ∀ w ∈ o.writesOf mode cwd fs path, fs.Writable cwd w.1 := by
    rw [← writeAll_eq_none_iff fun w hw => h.isPlaced_of_mem_writesOf hw, Options.Succeeds,
      processFile_eq]
    cases (writeAll cwd fs (o.writesOf mode cwd fs path)).2 <;> simp
  rw [hwritten, Options.writesOf, Options.outcomeOf]
  obtain ⟨code, t, map, -, -, hmap, hresult, houtcome⟩ | ⟨hresult, hno⟩ :=
    examine_cases o path (fs.read cwd path)
  · rw [hresult, houtcome, Option.elim_some, WriteMode.writes_of_apply hmode hmap,
      WriteMode.targets]
    split_ifs <;> simp [FileOutcome.stripped?, and_comm]
  · simp [hresult, hno]

/-- **Among independent files, the outcome of each is what it is alone.** No
fault occurs exactly if none occurs with any file alone. -/
lemma outcomes_processFiles (h : Independent fs cwd paths)
    (hagree : Agrees (Footprints fs cwd paths) fs gs) (outs : List FileOutcome) :
    (processFiles o mode cwd gs paths).outcomes = .ok outs
      ↔ (∀ f ∈ paths, o.Succeeds mode cwd fs f) ∧ outs = paths.map (o.outcomeOf cwd fs) := by
  induction paths generalizing gs outs with
  | nil => simp [processFiles, eq_comm]
  | cons path paths ih =>
      obtain ⟨folder, name, hsource⟩ := h.source path List.mem_cons_self
      obtain ⟨hsame, -, -⟩ := processFile_of_agrees o mode hagree hsource fun q hq =>
        ⟨path, List.mem_cons_self, hq⟩
      rw [List.forall_mem_cons, Options.Succeeds, ← hsame]
      cases hout : (processFile o mode cwd gs path).outcome with
      | error m => simp [processFiles_cons_error hout]
      | ok out =>
          have houtcome := outcome_processFile (hsame ▸ hout)
          have hrest := ih h.of_cons (agrees_step o mode h hagree)
          rw [processFiles_cons_ok hout]
          simp only [houtcome, List.map_cons, true_and]
          cases houts : (processFiles o mode cwd (processFile o mode cwd gs path).files
              paths).outcomes with
          | error m =>
              simp only [houts, reduceCtorEq, false_iff, not_and] at hrest
              simpa [Except.map] using fun hall _ => hrest _ hall rfl
          | ok outs' =>
              obtain ⟨hall, rfl⟩ := (hrest outs').mp houts
              simpa [Except.map, eq_comm] using fun _ => hall

/-- **Nothing is changed but the files that are stripped and their source
maps**, also if some of them cannot be written. -/
lemma agrees_processEach (o : Options) (mode : WriteMode) (h : Independent fs cwd paths)
    (hagree : Agrees (Footprints fs cwd paths) fs gs) :
    Agrees (fun q => ∀ f ∈ paths, ¬ o.Touches mode cwd fs f q) gs
      (processEach o mode cwd gs paths) := by
  induction paths generalizing gs with
  | nil => exact .refl _ gs
  | cons path paths ih =>
      obtain ⟨folder, name, hsource⟩ := h.source path List.mem_cons_self
      have hfirst := (agrees_processFile o mode (hsource.of_agrees hagree)).mono
        fun q (hq : ∀ f ∈ path :: paths, ¬ o.Touches mode cwd fs f q) htouches =>
          hq path List.mem_cons_self (touches_of_agrees hagree hsource
            (fun q hq => ⟨path, List.mem_cons_self, hq⟩) htouches)
      exact hfirst.trans ((ih h.of_cons (agrees_step o mode h hagree)).mono
        fun q hq f hf => hq f (List.mem_cons_of_mem _ hf))

/-- **Each file is left as if the others were not there.** -/
lemma agrees_processEach_alone (o : Options) (mode : WriteMode) (h : Independent fs cwd paths)
    (hagree : Agrees (Footprints fs cwd paths) fs gs) :
    ∀ f ∈ paths, Agrees (Footprint fs cwd f) (processFile o mode cwd fs f).files
      (processEach o mode cwd gs paths) := by
  induction paths generalizing gs with
  | nil => simp
  | cons path paths ih =>
      obtain ⟨folder, name, hsource⟩ := h.source path List.mem_cons_self
      obtain ⟨-, -, hfirst⟩ := processFile_of_agrees o mode
        (hagree.mono fun q hq => ⟨path, List.mem_cons_self, hq⟩) hsource fun q hq => hq
      have hstep := agrees_step o mode h hagree
      rw [List.forall_mem_cons]
      refine ⟨hfirst.trans ((agrees_processEach o mode h.of_cons hstep).mono ?_),
        ih h.of_cons hstep⟩
      intro q hq f hf htouches
      exact (List.pairwise_cons.mp h.apart).1 f hf q hq htouches.footprint

/-- Processing files leaves a lawful file system. -/
lemma lawful_processEach (hcwd : ∀ m ∈ cwd, Path.IsName m) (hfs : fs.Lawful) :
    (processEach o mode cwd fs paths).Lawful := by
  induction paths generalizing fs with
  | nil => exact hfs
  | cons path paths ih =>
      refine ih ?_
      rw [processFile_eq]
      exact lawful_writeAll hcwd hfs

lemma lawful_processFiles (hcwd : ∀ m ∈ cwd, Path.IsName m) (hfs : fs.Lawful) :
    (processFiles o mode cwd fs paths).files.Lawful := by
  obtain ⟨_, -, hfiles⟩ | ⟨_, _, _, _, -, -, -, -, hfiles⟩ :=
      processFiles_cases o mode cwd fs paths <;>
  · rw [hfiles]
    exact lawful_processEach hcwd hfs

/-- A file that is not stripped is no file or source map that is written. -/
lemma not_touches_of_unstripped (h : Independent fs cwd paths) (hpath : path ∈ paths)
    (hunstripped : (o.outcomeOf cwd fs path).stripped? = none) {q : Place}
    (hq : fs.locate cwd path = .ok q) : ∀ f ∈ paths, ¬ o.Touches mode cwd fs f q := by
  intro f hf htouches
  have : Std.Symm (Apart fs cwd) := ⟨fun _ _ => Apart.symm⟩
  by_cases hne : f = path
  · have hstripped := htouches.1
    rw [hne, hunstripped] at hstripped
    exact absurd hstripped (by simp)
  · exact h.apart.forall hf hpath hne q htouches.footprint (.inl hq)

/-- A file has become what it was to become: it holds what came of it if it is
stripped, and is as it was if not. -/
def Settled (o : Options) (mode : WriteMode) (cwd : Place) (before after : FileSystem)
    (path : String) : Prop :=
  match o.outcomeOf cwd before path with
  | .stripped p s => p = path ∧ HoldsResult o mode cwd before after path s
  | _ => after.at? cwd path = before.at? cwd path

/-- **Each file that can be written becomes what it is to become**, whatever comes
of the others. -/
lemma settled_processEach (hmode : mode.apply = true) (h : Independent fs cwd paths)
    (hpath : path ∈ paths) (hok : o.Succeeds mode cwd fs path) :
    Settled o mode cwd fs (processEach o mode cwd fs paths) path := by
  obtain ⟨folder, name, hsource⟩ := h.source path hpath
  have hkept (hno : (o.outcomeOf cwd fs path).stripped? = none) :
      (processEach o mode cwd fs paths).at? cwd path = fs.at? cwd path :=
    (agrees_processEach o mode h (.refl _ fs)).at?_eq hsource.isPlaced fun q hq =>
      not_touches_of_unstripped h hpath hno hq
  rw [Settled]
  cases hout : o.outcomeOf cwd fs path with
  | stripped p s =>
      obtain ⟨rfl, hholds⟩ := holdsResult_processFile hmode hsource hout hok
      have halone := agrees_processFile o mode hsource
      refine ⟨rfl, hholds.of_agrees (hsource.of_agrees halone) ?_⟩
      refine (agrees_processEach_alone o mode h (.refl _ fs) _ hpath).mono fun q hq => ?_
      exact (hsource.footprint_iff halone).mp hq
  | unchanged n => exact hkept (by rw [hout]; rfl)
  | excluded => exact hkept (by rw [hout]; rfl)
  | failed p message => exact hkept (by rw [hout]; rfl)

/-- **What is left of a file that cannot be written** does not depend on the others
either. -/
lemma brokenOff_processEach (h : Independent fs cwd paths) (hpath : path ∈ paths)
    (hfails : ¬ o.Succeeds mode cwd fs path) :
    BrokenOff o mode cwd fs (processEach o mode cwd fs paths) path := by
  obtain ⟨folder, name, hsource⟩ := h.source path hpath
  cases hout : (processFile o mode cwd fs path).outcome with
  | ok out =>
      have houtcome := outcome_processFile hout
      exact absurd (hout.trans (by rw [houtcome])) hfails
  | error m =>
      have halone := agrees_processFile o mode hsource
      refine (brokenOff_processFile hsource hout).of_agrees (hsource.of_agrees halone) ?_
      refine (agrees_processEach_alone o mode h (.refl _ fs) _ hpath).mono fun q hq => ?_
      exact (hsource.footprint_iff halone).mp hq

/-- **What is left does not depend on the order.** -/
lemma processEach_perm {order : List String} (h : Independent fs cwd paths)
    (hperm : order.Perm paths) (q : Place) :
    FileSystem.entry? (processEach o mode cwd fs order) q
      = FileSystem.entry? (processEach o mode cwd fs paths) q := by
  have horder := h.perm hperm
  by_cases hq : ∃ f ∈ paths, Footprint fs cwd f q
  · obtain ⟨f, hf, hq⟩ := hq
    rw [(agrees_processEach_alone o mode horder (.refl _ fs) f (hperm.mem_iff.mpr hf)).same q hq,
      (agrees_processEach_alone o mode h (.refl _ fs) f hf).same q hq]
  · have hno : ∀ f ∈ paths, ¬ o.Touches mode cwd fs f q := fun f hf htouches =>
      hq ⟨f, hf, htouches.footprint⟩
    rw [(agrees_processEach o mode horder (.refl _ fs)).same q fun f hf =>
        hno f (hperm.mem_iff.mp hf),
      (agrees_processEach o mode h (.refl _ fs)).same q hno]

/-- The events of files that are processed without fault are those of each. -/
lemma events_processFiles (h : Independent fs cwd paths)
    (hagree : Agrees (Footprints fs cwd paths) fs gs)
    (hall : ∀ f ∈ paths, o.Succeeds mode cwd fs f) :
    (processFiles o mode cwd gs paths).events
      = paths.flatMap fun f => (o.examine f (fs.read cwd f)).events := by
  induction paths generalizing gs with
  | nil => rfl
  | cons path paths ih =>
      obtain ⟨folder, name, hsource⟩ := h.source path List.mem_cons_self
      obtain ⟨hsame, hevents, -⟩ := processFile_of_agrees o mode hagree hsource fun q hq =>
        ⟨path, List.mem_cons_self, hq⟩
      rw [List.forall_mem_cons] at hall
      have hfirst : (processFile o mode cwd fs path).events
          = (o.examine path (fs.read cwd path)).events := by rw [processFile_eq]
      rw [processFiles_cons_ok (hsame.trans hall.1), List.flatMap_cons,
        ← ih h.of_cons (agrees_step o mode h hagree) hall.2, hevents, hfirst]

/-! ### Files of which nothing is written -/

/-- **A run that writes nothing leaves all as it is**, and finds out what becomes
of each file. -/
lemma processFiles_of_dry (o : Options) (hmode : mode.apply = false) (cwd : Place)
    (fs : FileSystem) (paths : List String) :
    processFiles o mode cwd fs paths =
      { files := fs
        events := paths.flatMap fun f => (o.examine f (fs.read cwd f)).events
        outcomes := .ok (paths.map (o.outcomeOf cwd fs)) } := by
  induction paths with
  | nil => rfl
  | cons path paths ih =>
      have hfirst := processFile_of_dry o hmode cwd fs path
      rw [processFiles_cons_ok (by rw [hfirst]), hfirst, ih]
      rfl

end ConsoleStrip
