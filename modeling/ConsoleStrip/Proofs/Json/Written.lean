/-
What is written as JSON is read back.

* `Json.Layout`: a way to write values, whatever blanks it puts between them.
  The text on one line and the text with a member on each line are two of them;
* `Json.readsText_value`: values of texts, lists and objects are read back;
* `Json.Decoder.ReadsBack`: so is what a decoder makes of them. There is one lemma
  for each way to make a decoder;
* `Json.Decoder.ReadsBack.ofText`: what is read back is read as a whole text.
-/
import ConsoleStrip.Proofs.Json.Reads

namespace ConsoleStrip

namespace Json

open Read

/-! ### Layouts -/

/-- A way to write values at a depth: blanks stand before an item, before a
closing bracket and after a colon, and nowhere else. -/
structure Layout where
  write : (depth : Nat) → Json → List Char
  line : (depth : Nat) → List Char
  gap : List Char
  isBlank_line : ∀ d, (line d).all Read.isBlank
  isBlank_gap : gap.all Read.isBlank
  write_str : ∀ d s, write d (.str s) = (quoted s).toList
  write_arr : ∀ d vs, write d (.arr vs)
    = '[' :: (listed (line (d + 1)) (line d) true (vs.map (write (d + 1))) ++ [']'])
  write_obj : ∀ d ms, write d (.obj ms)
    = '\x7b' :: (listed (line (d + 1)) (line d) true
        (ms.map fun m => memberText gap m.1 (write (d + 1) m.2)) ++ ['\x7d'])

/-- Items that are written one after another, with commas between them. -/
lemma toList_eq_listed {γ : Type} {write : List γ → String} {text : γ → List Char}
    {before : List Char} (hnil : write [] = "") (hone : ∀ v, (write [v]).toList = before ++ text v)
    (hmore : ∀ v w rest, (write (v :: w :: rest)).toList
      = before ++ (text v ++ ',' :: (write (w :: rest)).toList)) (vs : List γ) :
    (write vs).toList = listed before [] true (vs.map text) := by
  induction vs with
  | nil => rw [hnil]; rfl
  | cons v vs ih =>
      cases vs with
      | nil => simp [hone, listed]
      | cons w rest =>
          rw [hmore, ih]
          rfl

/-- The text on one line. -/
def Layout.compact : Layout where
  write _ v := v.compact.toList
  line _ := []
  gap := []
  isBlank_line _ := rfl
  isBlank_gap := rfl
  write_str _ s := by rw [Json.compact]
  write_arr _ vs := by
    have hlist : (compactList vs).toList = listed [] [] true (vs.map (·.compact.toList)) :=
      toList_eq_listed rfl (fun v => rfl) (fun v w rest => by simp [compactList]) vs
    simp [Json.compact, hlist]
  write_obj _ ms := by
    have hlist : (compactMembers ms).toList
        = listed [] [] true (ms.map fun m => memberText [] m.1 m.2.compact.toList) :=
      toList_eq_listed rfl (fun m => by simp [compactMembers, memberText])
        (fun m n rest => by simp [compactMembers, memberText]) ms
    simp [Json.compact, hlist]

lemma Layout.toList_compact (v : Json) : v.compact.toList = Layout.compact.write 0 v := rfl

/-- What stands before the closing bracket comes last. -/
lemma listed_append (before after : List Char) {texts : List (List Char)} (htexts : texts ≠ []) :
    listed before [] true texts ++ after = listed before after true texts := by
  have hrest : ∀ texts,
      listed before [] false texts ++ after = listed before after false texts := by
    intro texts
    induction texts with
    | nil => rfl
    | cons text texts ih => simp [listed, ← ih]
  cases texts with
  | nil => exact absurd rfl htexts
  | cons text texts => simp [listed, ← hrest]

lemma all_isBlank_lineAt (d : Nat) : (lineAt d).toList.all Read.isBlank := by
  simp [lineAt, Read.isBlank]

/-- The text with a member on each line. -/
def Layout.pretty : Layout where
  write d v := (v.prettyAt d).toList
  line d := (lineAt d).toList
  gap := [' ']
  isBlank_line := all_isBlank_lineAt
  isBlank_gap := rfl
  write_str _ s := by rw [Json.prettyAt]
  write_arr d vs := by
    have hlist : (prettyList (d + 1) vs).toList
        = listed (lineAt (d + 1)).toList [] true (vs.map fun v => (v.prettyAt (d + 1)).toList) :=
      toList_eq_listed rfl (fun v => by simp [prettyList]) (fun v w rest => by simp [prettyList]) vs
    cases vs with
    | nil => simp [prettyAt, listed]
    | cons v vs =>
        rw [← listed_append _ _ (by simp), ← hlist]
        simp [prettyAt]
  write_obj d ms := by
    have hlist : (prettyMembers (d + 1) ms).toList
        = listed (lineAt (d + 1)).toList [] true
          (ms.map fun m => memberText [' '] m.1 (m.2.prettyAt (d + 1)).toList) :=
      toList_eq_listed rfl (fun m => by simp [prettyMembers, memberText])
        (fun m n rest => by simp [prettyMembers, memberText]) ms
    cases ms with
    | nil => simp [prettyAt, listed]
    | cons m ms =>
        rw [← listed_append _ _ (by simp), ← hlist]
        simp [prettyAt]

lemma Layout.toList_pretty (v : Json) : v.pretty.toList = Layout.pretty.write 0 v := rfl

/-! ### Values -/

variable {α β : Type} {l : Layout} {n d : Nat}

/-- A value has texts, lists and objects in it, and fewer than so many brackets
are open at once. -/
def Nests : Nat → Json → Prop
  | 0, _ => False
  | _ + 1, .str _ => True
  | n + 1, .arr vs => 0 < n ∧ ∀ v ∈ vs, Nests n v
  | n + 1, .obj ms => 0 < n ∧ ∀ m ∈ ms, Nests n m.2
  | _ + 1, _ => False

/-- **Values of texts, lists and objects are read back.** -/
lemma readsText_value (l : Layout) {v : Json} (hv : Nests n v) (d : Nat) :
    ReadsText (value n) (l.write d v) v := by
  induction n generalizing v d with
  | zero => exact hv.elim
  | succ n ih =>
      cases v with
      | str s =>
          rw [l.write_str, toList_quoted]
          refine (readsText_of_first rfl (by decide) fun rest => ?_).placed
          rw [List.append_assoc]
          exact (reads_advance _ _).bind ((reads_string s rest).bind (reads_pure _ _))
      | arr vs =>
          obtain ⟨hn, hvs⟩ := hv
          have hdeep : (n == 0) = false := beq_false_of_ne (Nat.ne_of_gt hn)
          rw [l.write_arr]
          refine (readsText_of_first rfl (by decide) fun rest => ?_).placed
          simp only [hdeep, List.append_assoc]
          refine (reads_advance _ _).bind ((reads_fuel _).bind ((reads_list ?_ (l.isBlank_line _)
            (l.isBlank_line _) (Nat.lt_succ_self _)).bind (reads_pure _ _)))
          rw [List.forall₂_map_left_iff, List.forall₂_same]
          exact fun v hv => ih (hvs v hv) (d + 1)
      | obj ms =>
          obtain ⟨hn, hms⟩ := hv
          have hdeep : (n == 0) = false := beq_false_of_ne (Nat.ne_of_gt hn)
          rw [l.write_obj]
          refine (readsText_of_first rfl (by decide) fun rest => ?_).placed
          simp only [hdeep, List.append_assoc]
          refine (reads_advance _ _).bind ((reads_fuel _).bind ((reads_object ?_ (l.isBlank_line _)
            (l.isBlank_line _) l.isBlank_gap (Nat.lt_succ_self _)).bind (reads_pure _ _)))
          rw [List.forall₂_map_left_iff, List.forall₂_same]
          exact fun m hm => ⟨_, _, rfl, rfl, ih (hms m hm) (d + 1)⟩
      | _ => exact hv.elim

/-! ### Decoders -/

namespace Decoder

/-- A decoder reads a value back, as it is written in a layout. -/
def ReadsBack (l : Layout) (dec : Decoder α) (n : Nat) (v : Json) (a : α) : Prop :=
  ∀ d, ReadsText (dec.read n) (l.write d v) a

lemma readsBack_text (s : String) : ReadsBack l text n (.str s) s := by
  intro d
  rw [l.write_str, toList_quoted]
  refine readsText_of_first rfl (by decide) fun rest => ?_
  rw [List.append_assoc]
  exact (reads_advance _ _).bind (reads_string s rest)

lemma ReadsBack.list {dec : Decoder α} {vs : List Json} {as : List α} (hn : 0 < n)
    (h : List.Forall₂ (ReadsBack l dec n) vs as) :
    ReadsBack l (.list dec) (n + 1) (.arr vs) as := by
  intro d
  have hdeep : ¬ n + 1 ≤ 1 := by omega
  rw [l.write_arr]
  refine (readsText_of_first rfl (by decide) fun rest => ?_).placed
  simp only [hdeep, List.append_assoc]
  refine (reads_advance _ _).bind ((reads_fuel _).bind (reads_list ?_ (l.isBlank_line _)
    (l.isBlank_line _) (Nat.lt_succ_self _)))
  rw [List.forall₂_map_left_iff]
  exact h.imp fun _ _ hv => hv (d + 1)

lemma ReadsBack.map {dec : Decoder α} {v : Json} {a : α} (h : ReadsBack l dec n v a) (f : α → β) :
    ReadsBack l (.map f dec) n v (f a) :=
  fun d => (h d).bind fun _ => reads_pure _ _

lemma readsBack_viaValue {f : Json → Except Cause α} {v : Json} {a : α} (hv : Nests n v)
    (hf : f v = .ok a) : ReadsBack l (viaValue f) n v a := by
  refine fun d => (readsText_value l hv d).bind fun rest => ?_
  rw [hf]
  exact reads_pure _ _

/-- A record is read back if each of its fields is, and none is there twice. -/
lemma readsBack_record {name : String} {fields : List (String × Decoder β)}
    {ms : List (String × Json)} {fs : Fields β} (hn : 0 < n)
    (h : List.Forall₂ (fun m f => m.1 = f.1
      ∧ ∃ dec, fields.lookup f.1 = some dec ∧ ReadsBack l dec n m.2 f.2) ms fs)
    (hfs : (fs.map (·.1)).Nodup) : ReadsBack l (record name fields) (n + 1) (.obj ms) fs := by
  intro d
  have hdeep : ¬ n + 1 ≤ 1 := by omega
  rw [l.write_obj]
  refine (readsText_of_first rfl (by decide) fun rest => ?_).placed
  simp only [hdeep, List.append_assoc]
  refine (reads_advance _ _).bind ((reads_fuel _).bind (reads_record ?_ (l.isBlank_line _)
    (l.isBlank_line _) l.isBlank_gap hfs (Nat.lt_succ_self _)))
  rw [List.forall₂_map_left_iff]
  refine h.imp ?_
  rintro ⟨k, v⟩ ⟨_, b⟩ ⟨rfl, dec, hdec, hread⟩
  exact ⟨dec.read n, _, by simp [fieldReader, hdec], rfl, hread (d + 1)⟩

/-- **What is read back is read as a whole text.** -/
lemma ReadsBack.ofText {dec : Decoder α} {v : Json} {a : α} {s : String}
    (h : ReadsBack l dec maxDepth v a) (hs : s.toList = l.write 0 v) : dec.ofText s = .ok a := by
  have hwhole : Reads (whole (dec.read maxDepth)) s.toList a [] := by
    have hread := (h 0).reads [] [] rfl
    rw [List.nil_append, List.append_nil, ← hs] at hread
    exact hread.bind (reads_skipBlanks_nil.bind (reads_pure _ _))
  obtain ⟨offset, hrun⟩ := hwhole 0
  rw [Decoder.ofText, Read.text, hrun]

end Decoder

end Json

end ConsoleStrip
