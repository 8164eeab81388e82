/-
What a scan finds.

* `FileSystem.Lawful`: one thing stands at a place, and places have names that
  can name something;
* `FileSystem.Found`: a name in a folder, under the path by which the folder is
  reached from the root of a scan. `Found.leads`: its path leads there;
* `FileSystem.found_of_mem_scan`, `FileSystem.nodup_scan`: source files are
  found so, and each once.
-/
import ConsoleStrip.Files.Scan
import ConsoleStrip.Proofs.Files.Place

namespace ConsoleStrip

namespace FileSystem

/-- One thing stands at a place, and each place but the top is under names. -/
structure Lawful (fs : FileSystem) : Prop where
  nodup : (fs.entries.map (·.1)).Nodup
  isName : ∀ x ∈ fs.entries, ∀ n ∈ x.1, Path.IsName n

instance (fs : FileSystem) : Decidable fs.Lawful :=
  decidable_of_iff ((fs.entries.map (·.1)).Nodup ∧ ∀ x ∈ fs.entries, ∀ n ∈ x.1, Path.IsName n)
    ⟨fun ⟨h, h'⟩ => ⟨h, h'⟩, fun h => ⟨h.1, h.2⟩⟩

variable {fs : FileSystem} {cwd p top : Place} {root path n : String} {ns : List String}
  {is : Ignores} {depth : ℕ}

/-- Something more under names. -/
lemma Lawful.put (hfs : fs.Lawful) (hp : ∀ n ∈ p, Path.IsName n) (e : Entry) :
    (fs.put p e).Lawful := by
  refine ⟨?_, ?_⟩
  · rw [FileSystem.put, List.map_cons, List.nodup_cons]
    refine ⟨by simp, hfs.nodup.sublist (List.filter_sublist.map _)⟩
  · rw [FileSystem.put]
    simp only [List.forall_mem_cons]
    exact ⟨hp, fun x hx => hfs.isName x (List.mem_filter.mp hx).1⟩

/-- Writing a file leaves a lawful file system, whatever comes of it. -/
lemma Lawful.write (hfs : fs.Lawful) (hcwd : ∀ m ∈ cwd, Path.IsName m) (text : String) :
    (fs.write cwd path text).files.Lawful := by
  obtain ⟨f, h⟩ | ⟨q, hq, h⟩ := write_cases fs cwd path text
  · rwa [h]
  · have hput := fun c => hfs.put (isName_of_locate hcwd (locate_of_opened hq).1) (.file c)
    obtain h | ⟨f, n, h⟩ := h <;> rw [h] <;> exact hput _

/-! ### The names in a folder -/

/-- The name of a place in a folder. -/
def nameIn? (p q : Place) : Option String :=
  if q.length == p.length + 1 && p.isPrefixOf q then q.getLast? else none

lemma nameIn?_eq_some {q : Place} : nameIn? p q = some n ↔ q = p ++ [n] := by
  rw [nameIn?, Option.ite_none_right_eq_some]
  constructor
  · rintro ⟨h, hlast⟩
    obtain ⟨init, rfl⟩ := List.getLast?_eq_some_iff.mp hlast
    simp only [List.length_append, List.length_singleton, Bool.and_eq_true, beq_iff_eq,
      Nat.add_right_cancel_iff, List.isPrefixOf_iff_prefix] at h
    obtain ⟨hlength, rest, hrest⟩ := h
    rw [(List.append_inj hrest hlength.symm).1]
  · rintro rfl
    simp

lemma names_perm (fs : FileSystem) (p : Place) :
    (fs.names p).Perm ((fs.entries.map (·.1)).filterMap (nameIn? p)) := by
  rw [List.filterMap_map]
  exact List.mergeSort_perm _ _

/-- Each thing in a folder has a name of its own. -/
lemma nodup_names (hfs : fs.Lawful) (p : Place) : (fs.names p).Nodup := by
  refine (names_perm fs p).nodup_iff.mpr (hfs.nodup.filterMap fun q q' n hq hq' => ?_)
  rw [nameIn?_eq_some.mp hq, nameIn?_eq_some.mp hq']

lemma isName_of_mem_names (hfs : fs.Lawful) (hn : n ∈ fs.names p) : Path.IsName n := by
  obtain ⟨q, hq, hname⟩ := List.mem_filterMap.mp ((names_perm fs p).mem_iff.mp hn)
  obtain ⟨x, hx, rfl⟩ := List.mem_map.mp hq
  exact hfs.isName x hx n (by rw [nameIn?_eq_some.mp hname]; simp)

/-! ### What is found under a folder -/

/-- Names lead from the root of a scan, which is at the place `top`. -/
structure Reached (fs : FileSystem) (cwd : Place) (root : String) (top : Place)
    (ns : List String) : Prop where
  ne_empty : root ≠ ""
  areNames : ∀ m ∈ ns, Path.IsName m
  arrives : Arrives (fs.locate cwd (Path.under root ns)) (top ++ ns)

/-- A name in a folder that names lead to. -/
structure Found (fs : FileSystem) (cwd : Place) (root : String) (top : Place) (path : String)
    (ns : List String) (n : String) : Prop where
  reached : fs.Reached cwd root top ns
  isFolder : fs.entry? (top ++ ns) = some .folder
  isName : Path.IsName n
  path_eq : path = Path.join (Path.under root ns) n

lemma Reached.under_ne_empty (h : fs.Reached cwd root top ns) : Path.under root ns ≠ "" :=
  Path.under_ne_empty h.ne_empty h.areNames

/-- Names lead on from a folder to each name in it. -/
lemma Reached.enter (hfs : fs.Lawful) (h : fs.Reached cwd root top ns)
    (hfolder : fs.entry? (top ++ ns) = some .folder) (hn : n ∈ fs.names (top ++ ns)) :
    fs.Reached cwd root top (ns ++ [n]) := by
  have hname := isName_of_mem_names hfs hn
  refine ⟨h.ne_empty, by simpa [or_imp, forall_and] using ⟨h.areNames, hname⟩, ?_⟩
  rw [Path.under_append, ← List.append_assoc]
  exact (leads_join h.under_ne_empty hname hfolder h.arrives).arrives

/-- What is found is where its path leads. -/
lemma Found.leads (h : fs.Found cwd root top path ns n) : fs.Leads cwd path (top ++ ns) n := by
  rw [h.path_eq]
  exact leads_join h.reached.under_ne_empty h.isName h.isFolder h.reached.arrives

/-- A path is found by its names. -/
lemma Found.path_eq_under (h : fs.Found cwd root top path ns n) :
    (∀ m ∈ ns ++ [n], Path.IsName m) ∧ path = Path.under root (ns ++ [n]) := by
  refine ⟨?_, by rw [h.path_eq, Path.under_append]⟩
  simpa [or_imp, forall_and] using ⟨h.reached.areNames, h.isName⟩

/-- What is met on the way that starts at names: what stands there, or what is
met from a name in the folder there. -/
lemma mem_walk_succ (h : .file path ∈ fs.walk is (depth + 1) (Path.under root ns) (top ++ ns)) :
    path = Path.under root ns ∧ fs.entry? (top ++ ns) ≠ some .folder
    ∨ fs.entry? (top ++ ns) = some .folder ∧ ∃ n ∈ fs.names (top ++ ns),
      .file path ∈ fs.walk is depth (Path.under root (ns ++ [n])) (top ++ (ns ++ [n])) := by
  rw [walk] at h
  split at h
  · simp at h
  · split at h
    · simp at h
    · next c hp => exact .inl ⟨by simpa using h, by rw [hp]; nofun⟩
    · next hp =>
      split at h
      · simp at h
      · simp only [List.mem_cons, reduceCtorEq, List.mem_flatMap, false_or] at h
        obtain ⟨n, hn, h⟩ := h
        exact .inr ⟨hp, n, hn, by rwa [Path.under_append, ← List.append_assoc]⟩

/-- A file that is met on the way is the one that the way starts at, or it is
found in a folder. -/
lemma found_of_mem_walk (hfs : fs.Lawful) (h : fs.Reached cwd root top ns)
    (hmem : .file path ∈ fs.walk is depth (Path.under root ns) (top ++ ns)) :
    path = Path.under root ns ∧ fs.entry? (top ++ ns) ≠ some .folder
    ∨ ∃ ms n, fs.Found cwd root top path (ns ++ ms) n := by
  induction depth generalizing ns with
  | zero => simp [walk] at hmem
  | succ depth ih =>
      obtain hself | ⟨hfolder, n, hn, hmem⟩ := mem_walk_succ hmem
      · exact .inl hself
      · right
        obtain ⟨hpath, -⟩ | ⟨ms, m, hfound⟩ := ih (h.enter hfs hfolder hn) hmem
        · rw [Path.under_append] at hpath
          exact ⟨[], n, by simpa using ⟨h, hfolder, isName_of_mem_names hfs hn, hpath⟩⟩
        · exact ⟨n :: ms, m, by simpa using hfound⟩

/-- A file that is met on the way lies under the path that the way starts at. -/
lemma exists_under_of_mem_walk (hfs : fs.Lawful) (h : fs.Reached cwd root top ns)
    (hmem : .file path ∈ fs.walk is depth (Path.under root ns) (top ++ ns)) :
    ∃ ms, (∀ m ∈ ns ++ ms, Path.IsName m) ∧ path = Path.under root (ns ++ ms) := by
  obtain ⟨hpath, -⟩ | ⟨ms, n, hfound⟩ := found_of_mem_walk hfs h hmem
  · exact ⟨[], by simpa using h.areNames, by simpa using hpath⟩
  · exact ⟨ms ++ [n], by simpa using hfound.path_eq_under⟩

/-! ### The source files -/

lemma sourceFile?_eq_some {v : Visit} :
    sourceFile? is v = some path
      ↔ v = .file path ∧ is.skips path = false ∧ (FileKind.ofPath? path).isSome := by
  cases v <;> simp only [sourceFile?] <;> grind

/-- A walk from names meets each source file once. -/
lemma nodup_walk (is : Ignores) (depth : ℕ) (hfs : fs.Lawful)
    (h : fs.Reached cwd root top ns) :
    ((fs.walk is depth (Path.under root ns) (top ++ ns)).filterMap (sourceFile? is)).Nodup := by
  induction depth generalizing ns with
  | zero => exact List.nodup_nil
  | succ depth ih =>
      rw [walk]
      split
      · exact List.nodup_nil
      · split
        · exact List.nodup_nil
        · refine (List.nodup_singleton _).filterMap fun v w path hv hw => ?_
          rw [(sourceFile?_eq_some.mp hv).1, (sourceFile?_eq_some.mp hw).1]
        · next hfolder =>
          split
          · exact List.nodup_nil
          · rw [List.filterMap_cons_none rfl, List.filterMap_flatMap, List.nodup_flatMap]
            simp only [← Path.under_append, List.append_assoc]
            refine ⟨fun n hn => ih (h.enter hfs hfolder hn), ?_⟩
            -- a path under one name is not under another
            refine (nodup_names hfs _).imp_of_mem fun {n m} hn hm hne path hpath hpath' => hne ?_
            obtain ⟨v, hv, hsource⟩ := List.mem_filterMap.mp hpath
            obtain ⟨w, hw, hsource'⟩ := List.mem_filterMap.mp hpath'
            rw [(sourceFile?_eq_some.mp hsource).1] at hv
            rw [(sourceFile?_eq_some.mp hsource').1] at hw
            obtain ⟨ns', hns', hunder⟩ := exists_under_of_mem_walk hfs (h.enter hfs hfolder hn) hv
            obtain ⟨ms', hms', hunder'⟩ := exists_under_of_mem_walk hfs (h.enter hfs hfolder hm) hw
            have hnames := Path.under_inj h.ne_empty hns' hms' (hunder.symm.trans hunder')
            simpa using List.append_inj_left hnames (by simp)

variable {ignores : List String}

lemma scan_files_perm (htop : fs.locate cwd root = .ok top) :
    (fs.scan cwd root ignores).files.Perm
      ((fs.walk (.ofList root ignores) fs.depth root top).filterMap
        (sourceFile? (.ofList root ignores))) := by
  rw [scan]
  simp only [htop]
  exact List.mergeSort_perm _ _

/-- Whatever a scan finds is a source file. -/
lemma isSome_ofPath?_of_mem_scan (h : path ∈ (fs.scan cwd root ignores).files) :
    (FileKind.ofPath? path).isSome := by
  rw [scan, (List.mergeSort_perm _ _).mem_iff] at h
  obtain ⟨v, -, hsource⟩ := List.mem_filterMap.mp h
  exact (sourceFile?_eq_some.mp hsource).2.2

/-- A folder is where its path leads. -/
lemma exists_of_isFolder (h : fs.isFolder cwd root) :
    ∃ top, fs.locate cwd root = .ok top ∧ fs.entry? top = some .folder := by
  rw [isFolder, at?] at h
  cases htop : fs.locate cwd root with
  | error f => simp [htop] at h
  | ok top =>
      refine ⟨top, rfl, ?_⟩
      simp only [htop] at h
      split at h <;> simp_all

/-- The root of a scan is reached by no names. -/
lemma reached_root (htop : fs.locate cwd root = .ok top) : fs.Reached cwd root top [] := by
  refine ⟨?_, by simp, .inl (by simpa [Path.under] using htop)⟩
  rintro rfl
  simp [locate, maxPath] at htop

/-- **A scan of a folder finds names in folders.** -/
lemma found_of_mem_scan (hfs : fs.Lawful) (htop : fs.locate cwd root = .ok top)
    (hfolder : fs.entry? top = some .folder) (h : path ∈ (fs.scan cwd root ignores).files) :
    ∃ ns n, fs.Found cwd root top path ns n := by
  obtain ⟨v, hv, hsource⟩ := List.mem_filterMap.mp ((scan_files_perm htop).mem_iff.mp h)
  rw [(sourceFile?_eq_some.mp hsource).1] at hv
  obtain ⟨-, hno⟩ | ⟨ns, n, hfound⟩ :=
    found_of_mem_walk hfs (reached_root htop) (by simpa [Path.under] using hv)
  · exact absurd (by simpa using hfolder) hno
  · exact ⟨ns, n, by simpa using hfound⟩

/-- **A scan finds each source file once.** -/
lemma nodup_scan (hfs : fs.Lawful) (htop : fs.locate cwd root = .ok top) :
    (fs.scan cwd root ignores).files.Nodup := by
  rw [(scan_files_perm htop).nodup_iff]
  simpa [Path.under] using nodup_walk (.ofList root ignores) fs.depth hfs (reached_root htop)

end FileSystem

end ConsoleStrip
