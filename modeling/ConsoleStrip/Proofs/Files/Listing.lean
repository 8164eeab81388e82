/-
Which files a scan finds.

* `FileSystem.LeadsToFile`: names lead from a place through folders to a file;
* `FileSystem.leadsToFile_of_mem_walk`, `FileSystem.mem_walk_of_leadsToFile`: a
  walk meets such files alone, none that is left out, and all others if every
  folder on the way can be listed. `FileSystem.mem_walk_iff`: it meets what a
  walk without ignores meets, less what these leave out;
* `FileSystem.Lists`, `FileSystem.scanBy`: a scan in which the folders list
  their names in any order;
* `FileSystem.scan_in_any_order`: each such scan finds the same files, in the
  order of their paths, and these are the source files that are not left out.
-/
import ConsoleStrip.Proofs.Files.Found

namespace ConsoleStrip

/-! ### What is left out -/

namespace Ignores

variable {root path : String} {ignores : List String}

/-- Each text leaves out what lies under a path, or what a pattern matches, or
nothing if it is a pattern that cannot be read. -/
lemma ofList_cons (root p : String) (ps : List String) :
    (isPattern p = false ∧ (ofList root (p :: ps)).paths = Path.join root p :: (ofList root ps).paths
      ∧ (ofList root (p :: ps)).patterns = (ofList root ps).patterns)
    ∨ isPattern p = true ∧ (ofList root (p :: ps)).paths = (ofList root ps).paths
      ∧ (ofList root (p :: ps)).patterns
        = (Glob.parse p).toOption.toList ++ (ofList root ps).patterns := by
  rw [ofList]
  cases hp : isPattern p with
  | false => exact .inl ⟨rfl, rfl, rfl⟩
  | true =>
      right
      cases hg : Glob.parse p with
      | error fault => exact ⟨rfl, rfl, rfl⟩
      | ok g => exact ⟨rfl, rfl, rfl⟩

lemma mem_paths_ofList {top : String} :
    top ∈ (ofList root ignores).paths
      ↔ ∃ p ∈ ignores, isPattern p = false ∧ top = Path.join root p := by
  induction ignores with
  | nil => simp [ofList]
  | cons p ps ih =>
      rcases ofList_cons root p ps with ⟨hp, hpaths, -⟩ | ⟨hp, hpaths, -⟩
      · simp [hpaths, ih, hp]
      · simp [hpaths, ih, hp]

lemma mem_patterns_ofList {g : Glob} :
    g ∈ (ofList root ignores).patterns
      ↔ ∃ p ∈ ignores, isPattern p = true ∧ Glob.parse p = .ok g := by
  induction ignores with
  | nil => simp [ofList]
  | cons p ps ih =>
      rcases ofList_cons root p ps with ⟨hp, -, hpatterns⟩ | ⟨hp, -, hpatterns⟩
      · simp [hpatterns, ih, hp]
      · have hmem : g ∈ (Glob.parse p).toOption.toList ↔ Glob.parse p = .ok g := by
          cases Glob.parse p <;> simp [Except.toOption, eq_comm]
        simp [hpatterns, ih, hp, hmem]

/-- A path is left out with all under it if it lies under a text that is no
pattern. -/
lemma prunes_ofList_eq_false :
    (ofList root ignores).prunes path = false
      ↔ ∀ p ∈ ignores, isPattern p = false → Path.isUnder path (Path.join root p) = false := by
  simp only [prunes, List.any_eq_false, mem_paths_ofList, Bool.not_eq_true]
  constructor
  · exact fun h p hp hno => h _ ⟨p, hp, hno, rfl⟩
  · rintro h top ⟨p, hp, hno, rfl⟩
    exact h p hp hno

/-- A path is left out by itself if a pattern matches it. -/
lemma skips_ofList_eq_false :
    (ofList root ignores).skips path = false
      ↔ ∀ p ∈ ignores, isPattern p = true → ∀ g, Glob.parse p = .ok g → g.accepts path = false := by
  simp only [skips, List.any_eq_false, mem_patterns_ofList, Bool.not_eq_true]
  constructor
  · exact fun h p hp hpattern g hg => h g ⟨p, hp, hpattern, hg⟩
  · rintro h g ⟨p, hp, hpattern, hg⟩
    exact h p hp hpattern g hg

/-- What is left out with all under it takes along what names lead to. -/
lemma prunes_under {is : Ignores} (hpath : path ≠ "") {ns : List String}
    (hns : ∀ n ∈ ns, Path.IsName n) (h : is.prunes path = true) :
    is.prunes (Path.under path ns) = true := by
  obtain ⟨top, htop, hunder⟩ := List.any_eq_true.mp h
  exact List.any_eq_true.mpr ⟨top, htop, Path.isUnder_under hpath hns hunder⟩

end Ignores

namespace FileSystem

variable {fs : FileSystem} {cwd p top : Place} {root path f n : String} {ns ignores : List String}
  {is : Ignores} {depth : ℕ}

/-! ### Files under a place -/

/-- Names lead from a place through folders to a file. -/
def LeadsToFile (fs : FileSystem) : Place → List String → Prop
  | p, [] => ∃ c, fs.entry? p = some (.file c)
  | p, n :: ns => fs.entry? p = some .folder ∧ fs.LeadsToFile (p ++ [n]) ns

lemma isSome_entry?_iff (hp : p ≠ []) : (fs.entry? p).isSome ↔ p ∈ fs.entries.map (·.1) := by
  rw [entry?_of_ne_nil fs hp, List.lookup_isSome_iff, List.mem_map]
  exact exists_congr fun x => and_congr_right fun _ => beq_iff_eq.trans eq_comm

/-- The names in a folder are those under which something stands there. -/
lemma mem_names_iff : n ∈ fs.names p ↔ (fs.entry? (p ++ [n])).isSome := by
  rw [isSome_entry?_iff (by simp), (names_perm fs p).mem_iff, List.mem_filterMap]
  simp only [nameIn?_eq_some, exists_eq_right]

/-- Something stands at the place from which names lead to a file. -/
lemma LeadsToFile.isSome (h : fs.LeadsToFile p ns) : (fs.entry? p).isSome := by
  cases ns with
  | nil =>
      obtain ⟨c, hc⟩ := h
      simp [hc]
  | cons n ns => simp [h.1]

lemma LeadsToFile.mem_names (h : fs.LeadsToFile p (n :: ns)) : n ∈ fs.names p :=
  mem_names_iff.mpr h.2.isSome

lemma LeadsToFile.isName (hfs : fs.Lawful) (h : fs.LeadsToFile p ns) : ∀ m ∈ ns, Path.IsName m := by
  induction ns generalizing p with
  | nil => simp
  | cons n ns ih =>
      rw [List.forall_mem_cons]
      exact ⟨isName_of_mem_names hfs h.mem_names, ih h.2⟩

/-- A file stands where names lead to one. -/
lemma LeadsToFile.exists_file (h : fs.LeadsToFile p ns) :
    ∃ c, fs.entry? (p ++ ns) = some (.file c) := by
  induction ns generalizing p with
  | nil => rwa [List.append_nil]
  | cons n ns ih => simpa using ih h.2

/-- The longest of some places is as long as each of them. -/
lemma length_le_foldl_max (es : List (Place × Entry)) (k : ℕ) :
    k ≤ es.foldl (fun n x => max n x.1.length) k
      ∧ ∀ x ∈ es, x.1.length ≤ es.foldl (fun n x => max n x.1.length) k := by
  induction es generalizing k with
  | nil => simp
  | cons e es ih =>
      obtain ⟨hk, hes⟩ := ih (max k e.1.length)
      rw [List.foldl_cons, List.forall_mem_cons]
      exact ⟨(le_max_left _ _).trans hk, (le_max_right _ _).trans hk, hes⟩

/-- No place in a file system is as deep as its depth. -/
lemma length_lt_depth (hp : p ∈ fs.entries.map (·.1)) : p.length < fs.depth := by
  obtain ⟨x, hx, rfl⟩ := List.mem_map.mp hp
  have hle := (length_le_foldl_max fs.entries 0).2 x hx
  exact Nat.lt_succ_of_le hle

lemma LeadsToFile.length_lt_depth (h : fs.LeadsToFile p ns) : ns.length < fs.depth := by
  obtain ⟨c, hc⟩ := h.exists_file
  have hne : p ++ ns ≠ [] := by
    intro hnil
    simp [hnil, entry?] at hc
  have hmem := (isSome_entry?_iff hne).mp (by rw [hc]; rfl)
  have hlt := FileSystem.length_lt_depth hmem
  rw [List.length_append] at hlt
  omega

/-! ### What a walk meets -/

/-- A walk meets nothing but files that names lead to, and none that is left
out with its folder. -/
lemma leadsToFile_of_mem_walk (h : .file f ∈ fs.walk is depth path p) :
    is.prunes f = false ∧ ∃ ns, f = Path.under path ns ∧ fs.LeadsToFile p ns := by
  induction depth generalizing path p with
  | zero => simp [walk] at h
  | succ depth ih =>
      rw [walk] at h
      split at h
      · simp at h
      · next hprunes =>
        split at h
        · simp at h
        · next c hfile =>
          obtain rfl : f = path := by simpa using h
          exact ⟨by simpa using hprunes, [], rfl, c, hfile⟩
        · next hfolder =>
          split at h
          · simp at h
          · simp only [List.mem_cons, reduceCtorEq, List.mem_flatMap, false_or] at h
            obtain ⟨n, -, hn⟩ := h
            obtain ⟨hout, ns, rfl, hleads⟩ := ih hn
            exact ⟨hout, n :: ns, rfl, hfolder, hleads⟩

/-- A walk on which every folder can be listed meets all files that names lead
to and that are not left out. -/
lemma mem_walk_of_leadsToFile (hfs : fs.Lawful) (hpath : path ≠ "") (h : fs.LeadsToFile p ns)
    (hdepth : ns.length < depth) (hout : is.prunes (Path.under path ns) = false)
    (hread : ∀ v ∈ fs.walk is depth path p, unreadableEvent? v = none) :
    .file (Path.under path ns) ∈ fs.walk is depth path p := by
  induction ns generalizing depth path p with
  | nil =>
      obtain ⟨depth, rfl⟩ := Nat.exists_eq_add_of_lt hdepth
      obtain ⟨c, hfile⟩ := h
      have hstay : is.prunes path = false := hout
      simp [walk, hstay, hfile, Path.under]
  | cons n ns ih =>
      obtain ⟨depth, rfl⟩ : ∃ d, depth = d + 1 := ⟨depth - 1, by omega⟩
      have hnames := h.isName hfs
      have hname := hnames n (by simp)
      have hrest : ∀ m ∈ ns, Path.IsName m := fun m hm => hnames m (by simp [hm])
      -- nothing on the way is left out, for the file is not
      have hstay : is.prunes path = false := by
        cases hprunes : is.prunes path with
        | false => rfl
        | true =>
            have htaken := Ignores.prunes_under hpath hnames hprunes
            simp [hout] at htaken
      by_cases hlong : maxPath ≤ path.utf8ByteSize
      · have hfault := hread (.unreadable path .nameTooLong) (by simp [walk, hstay, h.1, hlong])
        simp [unreadableEvent?] at hfault
      · have hwalk : fs.walk is (depth + 1) path p
            = .folder path :: (fs.names p).flatMap fun n =>
              fs.walk is depth (Path.join path n) (p ++ [n]) := by
          simp [walk, hstay, h.1, hlong]
        rw [hwalk] at hread ⊢
        refine List.mem_cons_of_mem _ (List.mem_flatMap.mpr ⟨n, h.mem_names, ?_⟩)
        refine ih (Path.join_ne_empty hpath hname) h.2 (by simpa using hdepth) hout fun v hv => ?_
        exact hread v (List.mem_cons_of_mem _ (List.mem_flatMap.mpr ⟨n, h.mem_names, hv⟩))

/-- **Leaving out on the way and leaving out in the end are the same**: a walk
meets the files that a walk without ignores meets, less those left out. -/
lemma mem_walk_iff (hfs : fs.Lawful) (hpath : path ≠ "") :
    .file f ∈ fs.walk is depth path p ↔ .file f ∈ fs.walk {} depth path p ∧ is.prunes f = false := by
  induction depth generalizing path p with
  | zero => simp [walk]
  | succ depth ih =>
      have hnone : Ignores.prunes {} path = false := rfl
      cases hprunes : is.prunes path with
      | true =>
          -- all that is under the path is left out with it
          constructor
          · intro h
            simp [walk, hprunes] at h
          · rintro ⟨h, hout⟩
            obtain ⟨-, ns, rfl, hleads⟩ := leadsToFile_of_mem_walk h
            have htaken := Ignores.prunes_under hpath (hleads.isName hfs) hprunes
            simp [hout] at htaken
      | false =>
          rw [walk, walk, hprunes, hnone, if_neg Bool.false_ne_true, if_neg Bool.false_ne_true]
          split
          · simp
          · simp only [List.mem_singleton, Visit.file.injEq]
            refine ⟨fun h => ⟨h, h ▸ hprunes⟩, And.left⟩
          · split
            · simp
            · simp only [List.mem_cons, reduceCtorEq, List.mem_flatMap, false_or]
              have hstep : ∀ n ∈ fs.names p, (.file f ∈ fs.walk is depth (Path.join path n) (p ++ [n])
                  ↔ .file f ∈ fs.walk {} depth (Path.join path n) (p ++ [n])
                    ∧ is.prunes f = false) :=
                fun n hn => ih (Path.join_ne_empty hpath (isName_of_mem_names hfs hn))
              constructor
              · rintro ⟨n, hn, h⟩
                obtain ⟨h, hout⟩ := (hstep n hn).mp h
                exact ⟨⟨n, hn, h⟩, hout⟩
              · rintro ⟨⟨n, hn, h⟩, hout⟩
                exact ⟨n, hn, (hstep n hn).mpr ⟨h, hout⟩⟩

/-! ### Files in order -/

lemma mem_scan (htop : fs.locate cwd root = .ok top) :
    path ∈ (fs.scan cwd root ignores).files
      ↔ .file path ∈ fs.walk (.ofList root ignores) fs.depth root top
        ∧ (Ignores.ofList root ignores).skips path = false ∧ (FileKind.ofPath? path).isSome := by
  rw [(scan_files_perm htop).mem_iff, List.mem_filterMap]
  simp only [sourceFile?_eq_some]
  exact ⟨fun ⟨_, hv, heq, h⟩ => ⟨heq ▸ hv, h⟩, fun ⟨hv, h⟩ => ⟨_, hv, rfl, h⟩⟩

/-- Different files of a scan have different parts. -/
lemma eq_of_parts_eq {g : String} (hfs : fs.Lawful) (htop : fs.locate cwd root = .ok top)
    (hf : f ∈ (fs.scan cwd root ignores).files) (hg : g ∈ (fs.scan cwd root ignores).files)
    (h : Path.parts f = Path.parts g) : f = g := by
  have hroot := (reached_root htop).ne_empty
  obtain ⟨-, ns, rfl, hleads⟩ := leadsToFile_of_mem_walk ((mem_scan htop).mp hf).1
  obtain ⟨-, ms, rfl, hleads'⟩ := leadsToFile_of_mem_walk ((mem_scan htop).mp hg).1
  rw [Path.parts_under hroot (hleads.isName hfs), Path.parts_under hroot (hleads'.isName hfs)] at h
  rw [List.append_cancel_left h]

/-- Sorted paths are in order. -/
lemma pairwise_mergeSort (paths : List String) :
    (paths.mergeSort Path.le).Pairwise fun a b => Path.le a b = true := by
  have htrans : ∀ a b c, Path.le a b = true → Path.le b c = true → Path.le a c = true := by
    intro a b c hab hbc
    exact Path.le_trans hab hbc
  exact List.pairwise_mergeSort htrans Path.le_total paths

/-- The files of a scan are in the order of their paths, each of them once. -/
lemma pairwise_scan (hfs : fs.Lawful) (htop : fs.locate cwd root = .ok top) :
    (fs.scan cwd root ignores).files.Pairwise fun a b => Path.parts a < Path.parts b := by
  have hsorted : (fs.scan cwd root ignores).files.Pairwise fun a b => Path.le a b = true :=
    pairwise_mergeSort _
  refine (hsorted.and (nodup_scan hfs htop)).imp_of_mem fun {a b} ha hb ⟨hle, hne⟩ => ?_
  by_contra hlt
  have hparts := Path.parts_eq_of_le hle (Path.le_iff.mpr hlt)
  exact hne (eq_of_parts_eq hfs htop ha hb hparts)

/-- Paths in strict order are told by what they have in them. -/
lemma eq_of_mem_iff {xs ys : List String}
    (hxs : xs.Pairwise fun a b => Path.parts a < Path.parts b)
    (hys : ys.Pairwise fun a b => Path.parts a < Path.parts b)
    (h : ∀ path, path ∈ xs ↔ path ∈ ys) : xs = ys := by
  have hne : ∀ a b : String, Path.parts a < Path.parts b → a ≠ b := by
    rintro a b hlt rfl
    exact List.lt_irrefl _ hlt
  have hperm : xs.Perm ys := (List.perm_ext_iff_of_nodup (hxs.imp fun {a b} => hne a b)
    (hys.imp fun {a b} => hne a b)).mpr h
  exact hperm.eq_of_pairwise (fun a b _ _ hab hba => absurd hba (List.lt_asymm hab)) hxs hys

/-! ### Folders that list their names in any order -/

/-- Each folder lists the names in it, in whatever order. -/
def Lists (fs : FileSystem) (list : Place → List String) : Prop := ∀ p, (list p).Perm (fs.names p)

/-- All that stands at a place with a given path and under it, met in the order
in which the folders list it. -/
def walkBy (fs : FileSystem) (list : Place → List String) (is : Ignores) :
    (depth : Nat) → (path : String) → Place → List Visit
  | 0, _, _ => []
  | depth + 1, path, p =>
    if is.prunes path then []
    else
      match fs.entry? p with
      | none => []
      | some (.file _) => [.file path]
      | some .folder =>
        if maxPath ≤ path.utf8ByteSize then [.folder path, .unreadable path .nameTooLong]
        else .folder path :: (list p).flatMap fun n =>
          fs.walkBy list is depth (Path.join path n) (p ++ [n])

/-- The source files under a folder, met in the order in which the folders list
them. -/
def scanBy (fs : FileSystem) (list : Place → List String) (cwd : Place) (root : String)
    (ignores : List String) : Scan :=
  let is := Ignores.ofList root ignores
  let visits := match fs.locate cwd root with
    | .ok p => fs.walkBy list is fs.depth root p
    | .error _ => []
  let unreadable := visits.filterMap unreadableEvent?
  { files := (visits.filterMap (sourceFile? is)).mergeSort Path.le
    skipped := unreadable.length
    events := is.faults.map (fun (p, f) => Event.badIgnore p f.message) ++ unreadable }

variable {list : Place → List String}

/-- Where the folders list their names in order, these are the walk and the
scan. -/
lemma walkBy_names (is : Ignores) (depth : ℕ) (path : String) (p : Place) :
    fs.walkBy fs.names is depth path p = fs.walk is depth path p := by
  induction depth generalizing path p with
  | zero => rfl
  | succ depth ih =>
      have hkids : (fun n => fs.walkBy fs.names is depth (Path.join path n) (p ++ [n]))
          = fun n => fs.walk is depth (Path.join path n) (p ++ [n]) := funext fun n => ih _ _
      rw [walkBy, hkids]
      rfl

lemma scanBy_names : fs.scanBy fs.names cwd root ignores = fs.scan cwd root ignores := by
  rw [scanBy]
  simp only [walkBy_names]
  rfl

/-- Walks meet the same, in another order. -/
lemma walkBy_perm (hlist : fs.Lists list) (is : Ignores) (depth : ℕ) (path : String) (p : Place) :
    (fs.walkBy list is depth path p).Perm (fs.walk is depth path p) := by
  induction depth generalizing path p with
  | zero => exact .nil
  | succ depth ih =>
      rw [walkBy, walk]
      by_cases hprunes : is.prunes path = true
      · rw [if_pos hprunes, if_pos hprunes]
      · rw [if_neg hprunes, if_neg hprunes]
        cases hentry : fs.entry? p with
        | none => exact .nil
        | some e =>
            cases e with
            | file c => exact .refl _
            | folder =>
                by_cases hlong : maxPath ≤ path.utf8ByteSize
                · simp only [if_pos hlong]
                  exact .refl _
                · simp only [if_neg hlong]
                  exact .cons _ ((hlist p).flatMap fun n _ => ih _ _)

/-- Scans find the same files. -/
lemma scanBy_files (hfs : fs.Lawful) (hlist : fs.Lists list)
    (htop : fs.locate cwd root = .ok top) :
    (fs.scanBy list cwd root ignores).files = (fs.scan cwd root ignores).files := by
  have hperm : (fs.scanBy list cwd root ignores).files.Perm (fs.scan cwd root ignores).files := by
    rw [scanBy]
    simp only [htop]
    refine (List.mergeSort_perm _ _).trans (.trans ?_ (scan_files_perm htop).symm)
    exact (walkBy_perm hlist _ _ _ _).filterMap _
  refine hperm.eq_of_pairwise (fun a b ha hb hab hba => ?_) (pairwise_mergeSort _)
    (pairwise_mergeSort _)
  exact eq_of_parts_eq hfs htop (hperm.mem_iff.mp ha) hb (Path.parts_eq_of_le hab hba)

/-- If nothing is skipped then every folder that is met can be listed. -/
lemma unreadableEvent?_of_skipped (hlist : fs.Lists list) (htop : fs.locate cwd root = .ok top)
    (h : (fs.scanBy list cwd root ignores).skipped = 0) :
    ∀ v ∈ fs.walk (.ofList root ignores) fs.depth root top, unreadableEvent? v = none := by
  rw [scanBy] at h
  simp only [htop, List.length_eq_zero_iff, List.filterMap_eq_nil_iff] at h
  exact fun v hv => h v ((walkBy_perm hlist _ _ _ _).mem_iff.mpr hv)

/-- **A scan finds the right files, whatever the order of the folders.** If every
folder on the way can be listed, then the files found are, in the order of their
paths and each once, those to which names lead from the root, which have a
supported extension, are matched as a whole by no pattern among the ignores and
lie under no other text among them. They are the files that a scan without
ignores finds, less those left out. -/
theorem scan_in_any_order (hfs : fs.Lawful) (hlist : fs.Lists list)
    (htop : fs.locate cwd root = .ok top)
    (hread : (fs.scanBy list cwd root ignores).skipped = 0) :
    let is := Ignores.ofList root ignores
    let files := (fs.scanBy list cwd root ignores).files
    (∀ path, path ∈ files ↔ (∃ ns, path = Path.under root ns ∧ fs.LeadsToFile top ns)
      ∧ (FileKind.ofPath? path).isSome
      ∧ (∀ p ∈ ignores, Ignores.isPattern p = true →
        ∀ g, Glob.parse p = .ok g → g.accepts path = false)
      ∧ ∀ p ∈ ignores, Ignores.isPattern p = false →
        Path.isUnder path (Path.join root p) = false)
    ∧ files.Pairwise (fun a b => Path.parts a < Path.parts b) ∧ files.Nodup
    ∧ files = (fs.scan cwd root ignores).files
    ∧ files = (fs.scan cwd root []).files.filter fun path => !is.prunes path && !is.skips path := by
  intro is files
  have hroot := (reached_root htop).ne_empty
  have hfiles : files = (fs.scan cwd root ignores).files := scanBy_files hfs hlist htop
  have hsorted : (fs.scan cwd root ignores).files.Pairwise fun a b =>
      Path.parts a < Path.parts b := pairwise_scan hfs htop
  rw [hfiles]
  refine ⟨fun path => ?_, hsorted, nodup_scan hfs htop, rfl, ?_⟩
  · rw [mem_scan htop, ← Ignores.skips_ofList_eq_false, ← Ignores.prunes_ofList_eq_false]
    constructor
    · rintro ⟨hwalk, hskips, hkind⟩
      obtain ⟨hout, hleads⟩ := leadsToFile_of_mem_walk hwalk
      exact ⟨hleads, hkind, hskips, hout⟩
    · rintro ⟨⟨ns, rfl, hleads⟩, hkind, hskips, hout⟩
      have hlisted := unreadableEvent?_of_skipped hlist htop hread
      exact ⟨mem_walk_of_leadsToFile hfs hroot hleads hleads.length_lt_depth hout hlisted,
        hskips, hkind⟩
  · refine eq_of_mem_iff hsorted ((pairwise_scan hfs htop).filter _) fun path => ?_
    have hnone : (Ignores.ofList root []).skips path = false := rfl
    rw [List.mem_filter, mem_scan htop, mem_scan htop, mem_walk_iff hfs hroot]
    simp only [hnone, Bool.and_eq_true, Bool.not_eq_true', true_and]
    exact ⟨fun ⟨⟨hwalk, hout⟩, hskips, hkind⟩ => ⟨⟨hwalk, hkind⟩, hout, hskips⟩,
      fun ⟨⟨hwalk, hkind⟩, hout, hskips⟩ => ⟨⟨hwalk, hout⟩, hskips, hkind⟩⟩

/-- A project with a folder that is left out, a file whose path merely starts as
that of the folder does, and a file that a pattern matches. -/
def sampleProject : FileSystem where
  entries :=
    [(["p"], .folder), (["p", "src"], .folder),
     (["p", "src", "b.spec.ts"], .file (.text "")), (["p", "src", "a.ts"], .file (.text "")),
     (["p", "old.js"], .file (.text "")), (["p", "old"], .folder),
     (["p", "old", "a.js"], .file (.text "")), (["p", "notes.md"], .file (.text ""))]

/-- Of that project, with its folders listed in the order of its entries, the two
source files that no pattern names are found. A pattern that is none excludes
nothing. -/
theorem scan_in_any_order_sample :
    let list : Place → List String := fun p =>
      (sampleProject.entries.map (·.1)).filterMap (nameIn? p)
    let ignores := ["old", "**/*.spec.ts", "[*"]
    let files := (sampleProject.scanBy list [] "p" ignores).files
    sampleProject.Lawful ∧ sampleProject.Lists list ∧ sampleProject.locate [] "p" = .ok ["p"]
    ∧ (sampleProject.scanBy list [] "p" ignores).skipped = 0
    ∧ "p/old.js" ∈ files ∧ "p/src/a.ts" ∈ files ∧ "p/old/a.js" ∉ files
    ∧ "p/src/b.spec.ts" ∉ files ∧ "p/notes.md" ∉ files := by
  intro list ignores files
  have hlawful : sampleProject.Lawful := by decide
  have hlist : sampleProject.Lists list := fun p => (names_perm sampleProject p).symm
  have htop : sampleProject.locate [] "p" = .ok ["p"] := by decide +kernel
  have hread : (sampleProject.scanBy list [] "p" ignores).skipped = 0 := by decide +kernel
  have hskips : ∀ path, (Ignores.ofList "p" ignores).skips path = false ↔ _ :=
    fun path => Ignores.skips_ofList_eq_false
  have hprunes : ∀ path, (Ignores.ofList "p" ignores).prunes path = false ↔ _ :=
    fun path => Ignores.prunes_ofList_eq_false
  obtain ⟨hmem, -⟩ := scan_in_any_order hlawful hlist htop hread
  refine ⟨hlawful, hlist, htop, hread, (hmem _).mpr ?_, (hmem _).mpr ?_, ?_, ?_, ?_⟩
  · exact ⟨⟨["old.js"], rfl, rfl, _, rfl⟩, by decide +kernel,
      (hskips _).mp (by decide +kernel), (hprunes _).mp (by decide +kernel)⟩
  · exact ⟨⟨["src", "a.ts"], rfl, rfl, rfl, _, rfl⟩, by decide +kernel,
      (hskips _).mp (by decide +kernel), (hprunes _).mp (by decide +kernel)⟩
  · intro h
    have hout := (hprunes _).mpr ((hmem _).mp h).2.2.2
    exact absurd hout (by decide +kernel)
  · intro h
    have hskip := (hskips _).mpr ((hmem _).mp h).2.2.1
    exact absurd hskip (by decide +kernel)
  · intro h
    have hkind := ((hmem _).mp h).2.1
    exact absurd hkind (by decide +kernel)

end FileSystem

end ConsoleStrip
