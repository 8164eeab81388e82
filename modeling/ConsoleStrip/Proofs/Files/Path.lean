/-
Paths as texts.

* `Path.IsName`: a text that can name something in a folder;
* `Path.slashed`, `Path.stem`: a path with a slash at its end, and the pieces
  before that slash;
* `Path.noSlash_of_mem_pieces`, `Path.pieces_join`: pieces have no slashes in
  them, and a name under a path is one more piece;
* `Path.under`, `Path.under_inj`: the path that names lead to from a path, and
  that no other names lead there;
* `Path.parts_join`, `Path.isUnder_under`: a name under a path is one more part,
  so what names lead to lies under all that the path lies under;
* `Path.le_trans`, `Path.le_total`, `Path.parts_eq_of_le`: paths are in order by
  their parts.
-/
import Mathlib.Tactic
import ConsoleStrip.Files.Path

namespace ConsoleStrip

namespace Path

/-- A text that can name something in a folder. -/
structure IsName (n : String) : Prop where
  ne_empty : n ≠ ""
  ne_dot : n ≠ "."
  ne_dots : n ≠ ".."
  noSlash : '/' ∉ n.toList

instance (n : String) : Decidable (IsName n) :=
  decidable_of_iff (n ≠ "" ∧ n ≠ "." ∧ n ≠ ".." ∧ '/' ∉ n.toList)
    ⟨fun ⟨h, h', h'', h'''⟩ => ⟨h, h', h'', h'''⟩, fun h => ⟨h.1, h.2, h.3, h.4⟩⟩

variable {path n m top : String}

/-! ### Joined paths -/

/-- A path with a slash at its end. -/
def slashed (path : String) : String :=
  if path.toList.getLast? = some '/' then path else path ++ "/"

lemma IsName.not_isAbsolute (hn : IsName n) : isAbsolute n = false := by
  cases hcs : n.toList with
  | nil => simp [isAbsolute, hcs]
  | cons c cs =>
      have hc : c ≠ '/' := by
        rintro rfl
        exact hn.noSlash (by simp [hcs])
      simp [isAbsolute, hcs, hc]

lemma join_eq (hpath : path ≠ "") (hn : IsName n) : join path n = slashed path ++ n := by
  rw [join, hn.not_isAbsolute, if_neg Bool.false_ne_true, slashed]
  by_cases hlast : path.toList.getLast? = some '/' <;> simp [hlast, hpath]

/-- A name with more letters at its end under a path. -/
lemma join_append (hpath : path ≠ "") (hn : IsName n) (hnm : IsName (n ++ m)) :
    join path (n ++ m) = join path n ++ m := by
  rw [join_eq hpath hn, join_eq hpath hnm, String.append_assoc]

lemma join_ne_empty (hpath : path ≠ "") (hn : IsName n) : join path n ≠ "" := by
  rw [join_eq hpath hn]
  simp [hn.ne_empty]

/-- A path is no longer than a path under it. -/
lemma utf8ByteSize_le_join (hpath : path ≠ "") (hn : IsName n) :
    path.utf8ByteSize ≤ (join path n).utf8ByteSize := by
  rw [join_eq hpath hn, slashed]
  split_ifs <;> simp only [String.utf8ByteSize_append] <;> omega

lemma isAbsolute_join (hpath : path ≠ "") (hn : IsName n) :
    isAbsolute (join path n) = isAbsolute path := by
  rw [join_eq hpath hn, slashed]
  cases hcs : path.toList with
  | nil => exact absurd (String.toList_eq_nil_iff.mp hcs) hpath
  | cons c cs => split_ifs <;> simp [isAbsolute, hcs]

/-! ### Pieces -/

/-- The pieces of a path before the slash at its end. -/
def stem (path : String) : List String := (pieces (slashed path)).dropLast

/-- A slash cuts a text into pieces. -/
lemma splitOn_slash (xs ys : List Char) :
    (xs ++ '/' :: ys).splitOn '/' = xs.splitOn '/' ++ ys.splitOn '/' :=
  List.splitOnP_append_cons xs ys (by simp)

/-- No piece of a path has a slash in it. -/
lemma noSlash_of_mem_pieces (h : n ∈ pieces path) : '/' ∉ n.toList := by
  have hall : ∀ cs : List Char, ∀ piece ∈ cs.splitOn '/', '/' ∉ piece := by
    intro cs
    induction cs with
    | nil => simp
    | cons c cs ih =>
        rw [List.splitOn_cons_eq_if_modifyHead]
        split_ifs with hc
        · simpa using ih
        · obtain ⟨piece, rest, hrest⟩ := List.exists_cons_of_ne_nil (List.splitOn_ne_nil '/' cs)
          rw [hrest, List.forall_mem_cons] at ih
          rw [hrest, List.modifyHead_cons, List.forall_mem_cons]
          refine ⟨?_, ih.2⟩
          rw [List.mem_cons, not_or]
          exact ⟨fun heq => hc (beq_iff_eq.mpr heq.symm), ih.1⟩
  obtain ⟨piece, hpiece, rfl⟩ := List.mem_map.mp h
  simpa using hall _ piece hpiece

/-- What stands before the slash at the end of a path. -/
lemma exists_slashed (path : String) :
    ∃ base, (slashed path).toList = base ++ ['/']
      ∧ stem path = (base.splitOn '/').map String.ofList
      ∧ (path.toList = base ∨ path.toList = base ++ ['/']) := by
  obtain ⟨base, hslashed, hbase⟩ : ∃ base, (slashed path).toList = base ++ ['/']
      ∧ (path.toList = base ∨ path.toList = base ++ ['/']) := by
    by_cases hlast : path.toList.getLast? = some '/'
    · obtain ⟨base, hbase⟩ := List.getLast?_eq_some_iff.mp hlast
      exact ⟨base, by rw [slashed, if_pos hlast, hbase], .inr hbase⟩
    · exact ⟨path.toList, by simp [slashed, hlast], .inl rfl⟩
  refine ⟨base, hslashed, ?_, hbase⟩
  simp [stem, pieces, hslashed, splitOn_slash]

/-- The pieces of a path are those before the slash at its end, and an empty one
if it has that slash itself. -/
lemma pieces_eq_stem (path : String) :
    pieces path = stem path ∨ pieces path = stem path ++ [""] := by
  obtain ⟨base, -, hstem, hbase | hbase⟩ := exists_slashed path
  · exact .inl (by rw [pieces, hbase, hstem])
  · exact .inr (by simp [pieces, hbase, hstem, splitOn_slash])

/-- **A name under a path is one more piece.** -/
lemma pieces_join (hpath : path ≠ "") (hn : IsName n) :
    pieces (join path n) = stem path ++ [n] := by
  obtain ⟨base, hslashed, hstem, -⟩ := exists_slashed path
  rw [pieces, join_eq hpath hn, String.toList_append, hslashed, List.append_assoc,
    List.singleton_append, splitOn_slash, List.splitOn_eq_singleton hn.noSlash, List.map_append,
    hstem]
  simp

lemma stem_join (hpath : path ≠ "") (hn : IsName n) : stem (join path n) = stem path ++ [n] := by
  rw [← pieces_join hpath hn]
  obtain h | h := pieces_eq_stem (join path n)
  · exact h.symm
  · -- the last piece is the name, and that is not empty
    rw [pieces_join hpath hn, List.append_singleton_inj] at h
    exact absurd h.2 hn.ne_empty

/-! ### Names one under another -/

/-- The path that names lead to from a path. -/
def under (path : String) (names : List String) : String := names.foldl join path

lemma under_append (path : String) (names : List String) (n : String) :
    under path (names ++ [n]) = join (under path names) n := by
  simp [under]

lemma under_ne_empty (hpath : path ≠ "") {names : List String} (hnames : ∀ n ∈ names, IsName n) :
    under path names ≠ "" := by
  induction names generalizing path with
  | nil => exact hpath
  | cons n names ih =>
      exact ih (join_ne_empty hpath (hnames n (by simp))) fun m hm => hnames m (by simp [hm])

lemma stem_under (hpath : path ≠ "") {names : List String} (hnames : ∀ n ∈ names, IsName n) :
    stem (under path names) = stem path ++ names := by
  induction names generalizing path with
  | nil => simp [under]
  | cons n names ih =>
      have hn := hnames n (by simp)
      have h := ih (join_ne_empty hpath hn) fun m hm => hnames m (by simp [hm])
      rw [stem_join hpath hn, List.append_assoc] at h
      exact h

/-- The names that lead to a path are read off it. -/
lemma under_inj (hpath : path ≠ "") {names names' : List String} (hnames : ∀ n ∈ names, IsName n)
    (hnames' : ∀ n ∈ names', IsName n) (h : under path names = under path names') :
    names = names' := by
  have hstem := congrArg stem h
  rw [stem_under hpath hnames, stem_under hpath hnames'] at hstem
  exact List.append_cancel_left hstem

/-! ### Parts -/

/-- The names among pieces. -/
def namesAmong (ps : List String) : List String := ps.filter fun p => p != "" && p != "."

/-- The parts of a path are its first piece, where an empty one before others is
the top, and the names among the others. -/
lemma parts_of_pieces {p : String} {ps : List String} (h : pieces path = p :: ps) :
    parts path
      = (if p = "" then (if ps = [] then [] else ["/"]) else [p]) ++ namesAmong ps := by
  unfold parts
  simp only [h]
  split
  · next heq =>
    obtain ⟨rfl, rfl⟩ := List.cons.inj heq
    simp [namesAmong, List.isEmpty_iff]
  · next heq =>
    obtain ⟨rfl, rfl⟩ := List.cons.inj heq
    simp [namesAmong]
  · next hempty hdot =>
    have hne : p ≠ "" := fun heq => hempty ps (by rw [heq])
    have hne' : p ≠ "." := fun heq => hdot ps (by rw [heq])
    simp [namesAmong, hne, hne']

/-- The one path of a single empty piece is the empty one. -/
lemma eq_empty_of_pieces (h : pieces path = [""]) : path = "" := by
  have hsplit : path.toList.splitOn '/' = [[]] := by
    obtain ⟨piece, hpiece, hempty⟩ := List.map_eq_singleton_iff.mp h
    rw [hpiece, String.ofList_eq_empty_iff.mp hempty]
  have hjoin : ['/'].intercalate (path.toList.splitOn '/') = path.toList :=
    List.intercalate_splitOn '/'
  rw [hsplit] at hjoin
  exact String.toList_eq_nil_iff.mp (by simpa using hjoin.symm)

/-- **A name under a path is one more part.** -/
lemma parts_join (hpath : path ≠ "") (hn : IsName n) :
    parts (join path n) = parts path ++ [n] := by
  obtain ⟨p, ps, hstem⟩ : ∃ p ps, stem path = p :: ps := by
    obtain ⟨base, -, hstem, -⟩ := exists_slashed path
    refine List.exists_cons_of_ne_nil ?_
    rw [hstem]
    simp
  have hjoin : pieces (join path n) = p :: (ps ++ [n]) := by
    rw [pieces_join hpath hn, hstem, List.cons_append]
  have hname : namesAmong (ps ++ [n]) = namesAmong ps ++ [n] := by
    simp [namesAmong, hn.ne_empty, hn.ne_dot]
  rw [parts_of_pieces hjoin, hname]
  obtain h | h := pieces_eq_stem path
  · -- an empty first piece has others after it, for the path is not empty
    rw [hstem] at h
    have hmore : ¬ (p = "" ∧ ps = []) := by
      rintro ⟨rfl, rfl⟩
      exact hpath (eq_empty_of_pieces h)
    rw [parts_of_pieces h]
    by_cases hp : p = "" <;> simp_all
  · rw [hstem, List.cons_append] at h
    have hempty : namesAmong (ps ++ [""]) = namesAmong ps := by simp [namesAmong]
    rw [parts_of_pieces h, hempty]
    simp

lemma parts_under (hpath : path ≠ "") {names : List String} (hnames : ∀ n ∈ names, IsName n) :
    parts (under path names) = parts path ++ names := by
  induction names using List.reverseRecOn with
  | nil => simp [under]
  | append_singleton names n ih =>
      have hinit : ∀ m ∈ names, IsName m := fun m hm => hnames m (by simp [hm])
      rw [under_append, parts_join (under_ne_empty hpath hinit) (hnames n (by simp)), ih hinit,
        List.append_assoc]

/-- What lies under a path lies under all that the path lies under. -/
lemma isUnder_under (hpath : path ≠ "") {names : List String} (hnames : ∀ n ∈ names, IsName n)
    (h : isUnder path top = true) : isUnder (under path names) top = true := by
  rw [isUnder, List.isPrefixOf_iff_prefix] at h ⊢
  rw [parts_under hpath hnames]
  exact h.trans (List.prefix_append _ _)

/-- The last name of a path. -/
lemma fileName_join (hpath : path ≠ "") (hn : IsName n) : fileName (join path n) = n := by
  rw [fileName, parts_join hpath hn]
  simp

/-! ### Paths in order -/

variable {a b c : String}

lemma le_iff : le a b = true ↔ ¬ parts b < parts a := by simp [le]

lemma le_trans (hab : le a b = true) (hbc : le b c = true) : le a c = true :=
  le_iff.mpr (List.le_trans (List.not_lt.mp (le_iff.mp hab)) (List.not_lt.mp (le_iff.mp hbc)))

lemma le_total (a b : String) : (le a b || le b a) = true := by
  rw [Bool.or_eq_true, le_iff, le_iff, List.not_lt, List.not_lt]
  exact List.le_total _ _

/-- Paths none of which comes after the other have the same parts. -/
lemma parts_eq_of_le (hab : le a b = true) (hba : le b a = true) : parts a = parts b :=
  List.le_antisymm (List.not_lt.mp (le_iff.mp hab)) (List.not_lt.mp (le_iff.mp hba))

end Path

end ConsoleStrip
