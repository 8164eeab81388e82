/-
What stands at places, and where paths lead.

* `FileSystem.entry?_put`: putting something at a place leaves all other places;
* `FileSystem.isName_of_locate`: a path leads under names that can name
  something;
* `FileSystem.Leads`: a path leads to a name in a folder, unless it is too long
  to lead anywhere. `leads_join`: a name under the path of a folder does;
* `FileSystem.Agrees`: two file systems have the same at some places, and the
  second has the folders of the first. `Agrees.read_eq` and `Agrees.write`: at
  such places reading gives the same and writing does the same;
* `FileSystem.write_cases`: what a write can do. Whatever comes of it, it changes
  no place but the one that the path leads to (`agrees_write`), and if it fails,
  what stands there is what stood there or a first part of the text
  (`brokenWrite_of_fault`);
* `FileSystem.Writable`: a file can be written where a path leads.
-/
import ConsoleStrip.Files.System
import ConsoleStrip.Proofs.Files.Path

namespace ConsoleStrip

namespace FileSystem

variable {fs gs : FileSystem} {cwd p q folder : Place} {path name text : String}

/-! ### Putting something at a place -/

lemma entry?_of_ne_nil (fs : FileSystem) (hp : p ≠ []) : fs.entry? p = fs.entries.lookup p := by
  unfold entry?
  rw [if_neg (by simpa using hp)]

/-- What is put at a place stands there, and all else stays. -/
lemma entry?_put (hp : p ≠ []) (e : Entry) (q : Place) :
    FileSystem.entry? (fs.put p e) q = if q = p then some e else fs.entry? q := by
  have hlookup : ∀ es : List (Place × Entry), q ≠ p →
      (es.filter (·.1 != p)).lookup q = es.lookup q := by
    intro es hne
    induction es with
    | nil => rfl
    | cons x es ih =>
        obtain ⟨k, e⟩ := x
        by_cases hk : k = p
        · have hqk : (q == p) = false := beq_false_of_ne hne
          simp [hk, hqk, ih, List.lookup_cons]
        · simp [hk, ih, List.lookup_cons]
  by_cases hqp : q = p
  · rw [hqp, entry?_of_ne_nil _ hp, put, if_pos rfl, List.lookup_cons, beq_self_eq_true]
  · rw [if_neg hqp]
    by_cases hq : q = []
    · rw [hq]
      rfl
    · rw [entry?_of_ne_nil _ hq, entry?_of_ne_nil _ hq, put, List.lookup_cons,
        beq_false_of_ne hqp, hlookup _ hqp]

/-- Something can be named at a place exactly if there is a folder. -/
lemma checkFolder_eq_ok : fs.checkFolder p = .ok () ↔ fs.entry? p = some .folder := by
  rw [checkFolder]
  split <;> simp_all

/-- What goes well in the end goes well at the start. -/
lemma exists_of_bind {ε α β : Type} {x : Except ε α} {f : α → Except ε β} {b : β}
    (h : x.bind f = .ok b) : ∃ a, x = .ok a ∧ f a = .ok b := by
  cases x with
  | error e => simp [Except.bind] at h
  | ok a => exact ⟨a, rfl, h⟩

/-! ### Following names -/

/-- What a path leads to is a given place, unless the path is too long to lead
anywhere. -/
def Arrives (r : Except FileFault Place) (p : Place) : Prop :=
  r = .ok p ∨ r = .error .nameTooLong

lemma Arrives.eq (h : Arrives (.ok q) p) : q = p := by
  simpa [Arrives] using h

/-- Where a path arrives, no folder is missing on the way. -/
lemma Arrives.of_checkFolder {f : Unit → Except FileFault Place}
    (h : Arrives ((fs.checkFolder p).bind f) q) :
    fs.entry? p = some .folder ∧ Arrives (f ()) q := by
  rw [checkFolder] at h
  split at h
  · next hp => exact ⟨hp, h⟩
  · simp [Arrives, Except.bind] at h
  · simp [Arrives, Except.bind] at h

/-- The place that a name leads to from a folder. -/
def enter (p : Place) (name : String) : Except FileFault Place :=
  if name == "" || name == "." then .ok p
  else if name == ".." then .ok p.dropLast
  else if maxName < name.utf8ByteSize then .error .nameTooLong
  else .ok (p ++ [name])

/-- Names under which a place stands are names of what is entered from there. -/
lemma isName_of_enter (hp : ∀ n ∈ p, Path.IsName n) (hname : '/' ∉ name.toList)
    (h : enter p name = .ok q) : ∀ n ∈ q, Path.IsName n := by
  rw [enter] at h
  split_ifs at h with hself hup
  · rwa [← Except.ok.inj h]
  · rw [← Except.ok.inj h]
    exact fun n hn => hp n (List.mem_of_mem_dropLast hn)
  · rw [← Except.ok.inj h]
    simp only [Bool.or_eq_true, beq_iff_eq, not_or] at hself hup
    simpa [or_imp, forall_and] using ⟨hp, ⟨hself.1, hself.2, hup, hname⟩⟩

/-- A name is followed if there is a folder. -/
lemma follow_cons (fs : FileSystem) (p : Place) (n : String) (ns : List String) :
    fs.follow p (n :: ns)
      = (fs.checkFolder p).bind fun _ => (enter p n).bind fun q => fs.follow q ns := by
  rw [follow, enter]
  cases fs.checkFolder p with
  | error f => rfl
  | ok _ =>
      change (if _ then _ else _) = Except.bind (if _ then _ else _) _
      split_ifs <;> rfl

/-- Names are followed one after another. -/
lemma follow_append (p : Place) (xs ys : List String) :
    fs.follow p (xs ++ ys) = (fs.follow p xs).bind fun q => fs.follow q ys := by
  induction xs generalizing p with
  | nil => rfl
  | cons x xs ih =>
      rw [List.cons_append, follow_cons, follow_cons]
      cases fs.checkFolder p with
      | error f => rfl
      | ok _ =>
          cases hx : enter p x with
          | error f => rfl
          | ok q => exact ih q

/-- A path leads from names to names. -/
lemma isName_of_follow {names : List String} (hp : ∀ n ∈ p, Path.IsName n)
    (hnames : ∀ n ∈ names, '/' ∉ n.toList) (h : fs.follow p names = .ok q) :
    ∀ n ∈ q, Path.IsName n := by
  induction names generalizing p with
  | nil => rwa [← Except.ok.inj h]
  | cons name names ih =>
      rw [List.forall_mem_cons] at hnames
      rw [follow_cons] at h
      obtain ⟨-, -, h⟩ := exists_of_bind h
      obtain ⟨q', hq, h⟩ := exists_of_bind h
      exact ih (isName_of_enter hp hnames.1 hq) hnames.2 h

lemma isName_of_locate (hcwd : ∀ n ∈ cwd, Path.IsName n) (h : fs.locate cwd path = .ok q) :
    ∀ n ∈ q, Path.IsName n := by
  rw [locate] at h
  split_ifs at h
  · exact isName_of_follow (by simp) (fun n => Path.noSlash_of_mem_pieces) h
  · exact isName_of_follow hcwd (fun n => Path.noSlash_of_mem_pieces) h

/-- A name leads from a folder into it. -/
lemma arrives_follow_name (hp : fs.entry? p = some .folder) (hn : Path.IsName name) :
    Arrives (fs.follow p [name]) (p ++ [name]) := by
  rw [follow_cons, checkFolder_eq_ok.mpr hp]
  by_cases hlong : maxName < name.utf8ByteSize
  · right
    simp [Except.bind, enter, hn.ne_empty, hn.ne_dot, hn.ne_dots, hlong]
  · left
    simp [Except.bind, enter, follow, hn.ne_empty, hn.ne_dot, hn.ne_dots, hlong]

/-- A path leads to a folder also without the slash at its end. -/
lemma arrives_follow_stem (h : Arrives (fs.follow p (Path.pieces path)) q) :
    Arrives (fs.follow p (Path.stem path)) q := by
  obtain hstem | hstem := Path.pieces_eq_stem path
  · rwa [← hstem]
  · rw [hstem, follow_append] at h
    cases hfollow : fs.follow p (Path.stem path) with
    | error f => rwa [hfollow] at h
    | ok p' =>
        rw [hfollow] at h
        change Arrives (fs.follow p' [""]) q at h
        rw [follow_cons] at h
        exact h.of_checkFolder.2

/-- Names under the stem of a path lead on from where the path leads. -/
lemma arrives_follow_append {xs ys : List String} {r : Place} (hxs : Arrives (fs.follow p xs) q)
    (hys : Arrives (fs.follow q ys) r) : Arrives (fs.follow p (xs ++ ys)) r := by
  rw [follow_append]
  obtain h | h := hxs <;> rw [h]
  · exact hys
  · exact .inr rfl

/-- A path leads to a name in a folder, unless it is too long to lead
anywhere. -/
structure Leads (fs : FileSystem) (cwd : Place) (path : String) (folder : Place)
    (name : String) : Prop where
  isFolder : fs.entry? folder = some .folder
  arrives : Arrives (fs.locate cwd path) (folder ++ [name])

/-- A name under the path of a folder leads into the folder. -/
lemma leads_join (hpath : path ≠ "") (hn : Path.IsName name)
    (hfolder : fs.entry? folder = some .folder) (h : Arrives (fs.locate cwd path) folder) :
    fs.Leads cwd (Path.join path name) folder name := by
  refine ⟨hfolder, ?_⟩
  have hsize := Path.utf8ByteSize_le_join hpath hn
  have hempty : (Path.join path name).isEmpty = false := by
    simpa using Path.join_ne_empty hpath hn
  by_cases hlong : maxPath ≤ (Path.join path name).utf8ByteSize
  · right
    rw [locate, if_pos hlong]
  · have hpathShort : ¬ maxPath ≤ path.utf8ByteSize := by omega
    rw [locate, if_neg hpathShort, if_neg (by simpa using hpath)] at h
    rw [locate, if_neg hlong, hempty, if_neg Bool.false_ne_true, Path.isAbsolute_join hpath hn,
      Path.pieces_join hpath hn]
    exact arrives_follow_append (arrives_follow_stem h) (arrives_follow_name hfolder hn)

/-- A path leads to some name in some folder. -/
def IsPlaced (fs : FileSystem) (cwd : Place) (path : String) : Prop :=
  ∃ folder name, fs.Leads cwd path folder name

/-! ### File systems that agree -/

/-- Two file systems have the same at the places `V`, and the second has the
folders of the first. The same writes fail. -/
structure Agrees (V : Place → Prop) (fs gs : FileSystem) : Prop where
  same : ∀ q, V q → gs.entry? q = fs.entry? q
  folders : ∀ q, fs.entry? q = some .folder → gs.entry? q = some .folder
  stops : gs.stops = fs.stops

variable {V W : Place → Prop}

/-- Names lead to the same place wherever there are the same folders. -/
lemma follow_eq (hfolders : ∀ q, fs.entry? q = some .folder → gs.entry? q = some .folder)
    {names : List String} (h : Arrives (fs.follow p names) q) :
    gs.follow p names = fs.follow p names := by
  induction names generalizing p with
  | nil => rfl
  | cons n names ih =>
      rw [follow_cons] at h
      obtain ⟨hp, h⟩ := h.of_checkFolder
      rw [follow_cons, follow_cons, checkFolder_eq_ok.mpr hp,
        checkFolder_eq_ok.mpr (hfolders p hp)]
      cases hn : enter p n with
      | error f => rfl
      | ok p' =>
          rw [hn] at h
          exact ih h

/-- A path leads to the same place wherever there are the same folders. -/
lemma locate_eq (hfolders : ∀ q, fs.entry? q = some .folder → gs.entry? q = some .folder)
    (h : Arrives (fs.locate cwd path) q) : gs.locate cwd path = fs.locate cwd path := by
  rw [locate] at h
  rw [locate, locate]
  split_ifs at h ⊢
  · rfl
  · rfl
  all_goals exact follow_eq hfolders h

namespace Agrees

lemma refl (V : Place → Prop) (fs : FileSystem) : Agrees V fs fs :=
  ⟨fun _ _ => rfl, fun _ h => h, rfl⟩

lemma trans {hs : FileSystem} (h : Agrees V fs gs) (h' : Agrees V gs hs) : Agrees V fs hs :=
  ⟨fun q hq => (h'.same q hq).trans (h.same q hq), fun q hq => h'.folders q (h.folders q hq),
    h'.stops.trans h.stops⟩

lemma mono (h : Agrees V fs gs) (hVW : ∀ q, W q → V q) : Agrees W fs gs :=
  ⟨fun q hq => h.same q (hVW q hq), h.folders, h.stops⟩

lemma locate_eq (h : Agrees V fs gs) (hl : fs.IsPlaced cwd path) :
    gs.locate cwd path = fs.locate cwd path := by
  obtain ⟨folder, name, hl⟩ := hl
  exact FileSystem.locate_eq h.folders hl.arrives

lemma leads (h : Agrees V fs gs) (hl : fs.Leads cwd path folder name) :
    gs.Leads cwd path folder name :=
  ⟨h.folders _ hl.isFolder, by rw [h.locate_eq ⟨folder, name, hl⟩]; exact hl.arrives⟩

lemma isPlaced (h : Agrees V fs gs) (hl : fs.IsPlaced cwd path) : gs.IsPlaced cwd path := by
  obtain ⟨folder, name, hl⟩ := hl
  exact ⟨folder, name, h.leads hl⟩

/-- What is read at a place where two file systems agree is the same. -/
lemma read_eq (h : Agrees V fs gs) (hl : fs.IsPlaced cwd path)
    (hV : ∀ q, fs.locate cwd path = .ok q → V q) : gs.read cwd path = fs.read cwd path := by
  rw [read, read, h.locate_eq hl]
  cases hlocate : fs.locate cwd path with
  | error f => rfl
  | ok q =>
      change gs.readAt q = fs.readAt q
      rw [readAt, readAt, h.same q (hV q hlocate)]

/-- What stands where a path leads is the same where two file systems agree. -/
lemma at?_eq (h : Agrees V fs gs) (hl : fs.IsPlaced cwd path)
    (hV : ∀ q, fs.locate cwd path = .ok q → V q) : gs.at? cwd path = fs.at? cwd path := by
  rw [at?, at?, h.locate_eq hl]
  cases hlocate : fs.locate cwd path with
  | error f => rfl
  | ok q => exact h.same q (hV q hlocate)

end Agrees

/-! ### Putting a file at a place -/

/-- The top is a folder. -/
lemma ne_nil_of_not_folder (h : fs.entry? p ≠ some .folder) : p ≠ [] := by
  rintro rfl
  exact h rfl

/-- A file that is put at a place changes nothing else, and no folder. -/
lemma agrees_put (hfolder : fs.entry? p ≠ some .folder) (c : Content) :
    Agrees (· ≠ p) fs (fs.put p (.file c)) := by
  have hp := ne_nil_of_not_folder hfolder
  refine ⟨fun q hq => by rw [entry?_put hp, if_neg hq], fun q hq => ?_, rfl⟩
  rw [entry?_put hp, if_neg (by rintro rfl; exact hfolder hq), hq]

/-- File systems that agree still do if the same is put in both. -/
lemma Agrees.put (h : Agrees V fs gs) (hfolder : fs.entry? p ≠ some .folder) (c : Content) :
    Agrees V (fs.put p (.file c)) (gs.put p (.file c)) := by
  have hp := ne_nil_of_not_folder hfolder
  refine ⟨fun q hq => ?_, fun q hq => ?_, h.stops⟩
  · rw [entry?_put hp, entry?_put hp, h.same q hq]
  · rw [entry?_put hp] at hq ⊢
    split_ifs at hq ⊢ with hqp
    · exact hq
    · exact h.folders q hq

/-- A path that leads to a file leads there also if something else is put there. -/
lemma at?_put (hp : fs.locate cwd path = .ok p) (hfolder : fs.entry? p ≠ some .folder)
    (c : Content) : FileSystem.at? (fs.put p (.file c)) cwd path = some (.file c) := by
  rw [at?, FileSystem.locate_eq (agrees_put hfolder c).folders (.inl hp), hp]
  simp only
  rw [entry?_put (ne_nil_of_not_folder hfolder), if_pos rfl]

/-! ### Opening a file -/

/-- Opening a file at a place. A folder that stands there is in the way. -/
def openAt (fs : FileSystem) (p : Place) : Except FileFault Place :=
  match fs.entry? p with
  | some .folder => .error .isFolder
  | _ => .ok p

lemma openAt_of_not_folder (h : fs.entry? p ≠ some .folder) : fs.openAt p = .ok p := by
  rw [openAt]
  split
  · next hfolder => exact absurd hfolder h
  · rfl

/-- A file is opened where its path leads: the folder around it is not missing. -/
lemma opened_eq (hl : fs.IsPlaced cwd path) :
    fs.opened cwd path = (fs.locate cwd path).bind fs.openAt := by
  obtain ⟨folder, name, hl⟩ := hl
  rw [opened]
  obtain h | h := hl.arrives <;> rw [h]
  · have hcheck := checkFolder_eq_ok.mpr hl.isFolder
    simp only [bind, Except.bind, openAt]
    cases hentry : fs.entry? (folder ++ [name]) with
    | none => simp [hcheck, pure, Except.pure]
    | some e => cases e <;> rfl
  · rfl

/-- A file is opened where its path leads, and no folder stands there. -/
lemma locate_of_opened (h : fs.opened cwd path = .ok p) :
    fs.locate cwd path = .ok p ∧ fs.entry? p ≠ some .folder := by
  rw [opened] at h
  obtain ⟨q, hq, h⟩ := exists_of_bind h
  split at h
  · simp [throw, throwThe, MonadExceptOf.throw] at h
  · next hentry =>
    obtain rfl := Except.ok.inj h
    exact ⟨hq, by rw [hentry]; nofun⟩
  · next hentry =>
    obtain ⟨-, -, h⟩ := exists_of_bind h
    obtain rfl := Except.ok.inj h
    exact ⟨hq, by rw [hentry]; nofun⟩

/-- A file is opened at the same place where two file systems agree. -/
lemma Agrees.opened_eq (h : Agrees V fs gs) (hl : fs.IsPlaced cwd path)
    (hV : ∀ q, fs.locate cwd path = .ok q → V q) : gs.opened cwd path = fs.opened cwd path := by
  rw [FileSystem.opened_eq hl, FileSystem.opened_eq (h.isPlaced hl), h.locate_eq hl]
  cases hlocate : fs.locate cwd path with
  | error f => rfl
  | ok p =>
      change gs.openAt p = fs.openAt p
      rw [openAt, openAt, h.same p (hV p hlocate)]

/-! ### Writing -/

/-- What a write does: nothing, or it puts the text where the path leads, or a
first part of it. -/
lemma write_cases (fs : FileSystem) (cwd : Place) (path text : String) :
    (∃ f, fs.write cwd path text = ⟨fs, some f⟩)
    ∨ ∃ p, fs.opened cwd path = .ok p
      ∧ (fs.write cwd path text = ⟨fs.put p (.file (.text text)), none⟩
        ∨ ∃ f n, fs.write cwd path text
          = ⟨fs.put p (.file (.firstBytes text n)), some f⟩) := by
  unfold write
  cases fs.opened cwd path with
  | error f => exact .inl ⟨f, rfl⟩
  | ok p =>
      dsimp only
      rcases fs.stops.lookup p with _ | ⟨f, _ | n⟩
      · exact .inr ⟨p, rfl, .inl rfl⟩
      · exact .inl ⟨f, rfl⟩
      · exact .inr ⟨p, rfl, .inr ⟨f, n, rfl⟩⟩

/-- **Whatever comes of a write, it changes no place but the one that the path
leads to**, and no folder. -/
lemma agrees_write (fs : FileSystem) (cwd : Place) (path text : String) :
    Agrees (fun q => fs.locate cwd path ≠ .ok q) fs (fs.write cwd path text).files := by
  obtain ⟨f, h⟩ | ⟨p, hp, h⟩ := write_cases fs cwd path text
  · rw [h]
    exact .refl _ fs
  · obtain ⟨hlocate, hfolder⟩ := locate_of_opened hp
    have hput := fun c => (agrees_put hfolder c).mono
      fun q (hq : fs.locate cwd path ≠ .ok q) hqp => hq (by rw [hlocate, hqp])
    obtain h | ⟨f, n, h⟩ := h <;> rw [h] <;> exact hput _

/-- What stands where a text was to be written and was not: what stood there
before, or a file of the first bytes of the text. -/
def BrokenWrite (text : String) (before after : Option Entry) : Prop :=
  after = before ∨ ∃ n, after = some (.file (.firstBytes text n))

/-- **A write that fails leaves what was there, or a first part of the text.** -/
lemma brokenWrite_of_fault {f : FileFault} (h : (fs.write cwd path text).fault? = some f) :
    BrokenWrite text (fs.at? cwd path) ((fs.write cwd path text).files.at? cwd path) := by
  obtain ⟨f', hwrite⟩ | ⟨p, hp, hwrite | ⟨f', n, hwrite⟩⟩ := write_cases fs cwd path text
  · rw [hwrite]
    exact .inl rfl
  · rw [hwrite] at h
    cases h
  · obtain ⟨hlocate, hfolder⟩ := locate_of_opened hp
    rw [hwrite]
    exact .inr ⟨n, at?_put hlocate hfolder _⟩

/-- A file can be written where a path leads: the path is not too long, no folder
is in the way, and the system does not fail to write it. -/
def Writable (fs : FileSystem) (cwd : Place) (path : String) : Prop :=
  ∃ q, fs.locate cwd path = .ok q ∧ fs.entry? q ≠ some .folder ∧ fs.stops.lookup q = none

lemma fault?_write_eq_none_iff (text : String) (hl : fs.IsPlaced cwd path) :
    (fs.write cwd path text).fault? = none ↔ fs.Writable cwd path := by
  rw [write, opened_eq hl, Writable]
  cases fs.locate cwd path with
  | error f => simp [Except.bind]
  | ok p =>
      simp only [Except.bind, Except.ok.injEq, exists_eq_left']
      by_cases hfolder : fs.entry? p = some .folder
      · simp [openAt, hfolder]
      · rw [openAt_of_not_folder hfolder]
        simp only [ne_eq, hfolder, not_false_eq_true, true_and]
        rcases fs.stops.lookup p with _ | ⟨f, _ | n⟩ <;> simp

/-- A write makes no folder. -/
lemma entry?_write_eq_folder_iff {q : Place} :
    FileSystem.entry? (fs.write cwd path text).files q = some .folder
      ↔ fs.entry? q = some .folder := by
  refine ⟨fun hq => ?_, (agrees_write fs cwd path text).folders q⟩
  obtain ⟨f, h⟩ | ⟨p, hp, h⟩ := write_cases fs cwd path text
  · rwa [h] at hq
  · have hp := ne_nil_of_not_folder (locate_of_opened hp).2
    obtain h | ⟨f, n, h⟩ := h <;>
    · rw [h, entry?_put hp] at hq
      split_ifs at hq <;> simp_all

/-- Writing a file is in the way of no other. -/
lemma writable_of_write {other : String} (hother : fs.IsPlaced cwd other) :
    (fs.write cwd path text).files.Writable cwd other ↔ fs.Writable cwd other := by
  have hagree := agrees_write fs cwd path text
  rw [Writable, Writable, hagree.locate_eq hother, hagree.stops]
  simp only [ne_eq, entry?_write_eq_folder_iff]

/-- What is written is read back. -/
lemma read_of_write (h : (fs.write cwd path text).fault? = none) :
    (fs.write cwd path text).files.read cwd path = .ok text := by
  obtain ⟨f', hwrite⟩ | ⟨p, hp, hwrite | ⟨f', n, hwrite⟩⟩ := write_cases fs cwd path text
  · rw [hwrite] at h
    cases h
  · obtain ⟨hlocate, hfolder⟩ := locate_of_opened hp
    rw [hwrite, read, FileSystem.locate_eq (agrees_put hfolder _).folders (.inl hlocate), hlocate]
    change readAt _ p = _
    rw [readAt, entry?_put (ne_nil_of_not_folder hfolder), if_pos rfl]
  · rw [hwrite] at h
    cases h

/-- Writing at a place where two file systems agree does the same in both. -/
lemma Agrees.write (text : String) (h : Agrees V fs gs) (hl : fs.IsPlaced cwd path)
    (hV : ∀ q, fs.locate cwd path = .ok q → V q) :
    (gs.write cwd path text).fault? = (fs.write cwd path text).fault?
      ∧ Agrees V (fs.write cwd path text).files (gs.write cwd path text).files := by
  unfold FileSystem.write
  rw [h.opened_eq hl hV, h.stops]
  cases hp : fs.opened cwd path with
  | error f => exact ⟨rfl, h⟩
  | ok p =>
      have hfolder := (locate_of_opened hp).2
      dsimp only
      rcases fs.stops.lookup p with _ | ⟨f, _ | n⟩
      · exact ⟨rfl, h.put hfolder _⟩
      · exact ⟨rfl, h⟩
      · exact ⟨rfl, h.put hfolder _⟩

end FileSystem

end ConsoleStrip
