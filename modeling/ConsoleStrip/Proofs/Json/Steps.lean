/-
The steps of a computation that reads JSON.

* `Json.Cursor.next`, `Json.Cursor.pastBlanks`: the cursors behind a character and
  behind blanks;
* `Json.Read.Gives`: a computation gives a value and stops at a cursor. There is
  one lemma for each way to make a computation, which takes it apart;
* `Json.Read.text_eq_ok_iff`: a whole text is read if nothing but blanks is left.
-/
import ConsoleStrip.Json.Decoder
import Mathlib.Data.List.TakeWhile
import Mathlib.Tactic.Common

namespace ConsoleStrip

namespace Json

/-! ### Cursors -/

namespace Cursor

/-- The cursor behind a character. -/
def next (s : Cursor) : Cursor :=
  match s.rest with
  | [] => s
  | c :: rest => ⟨rest, s.offset + c.utf8Size⟩

/-- The cursor behind the blanks. -/
def pastBlanks (s : Cursor) : Cursor :=
  ⟨s.rest.dropWhile Read.isBlank, s.offset + (s.rest.takeWhile Read.isBlank).length⟩

variable {s : Cursor} {c : Char}

/-- Behind the blanks there are none. -/
@[simp] lemma pastBlanks_pastBlanks (s : Cursor) : s.pastBlanks.pastBlanks = s.pastBlanks := by
  have hnone : (s.rest.dropWhile Read.isBlank).takeWhile Read.isBlank = [] := by
    have hhead := List.head?_dropWhile_not Read.isBlank s.rest
    cases hrest : s.rest.dropWhile Read.isBlank with
    | nil => rfl
    | cons c rest =>
        rw [hrest] at hhead
        exact List.takeWhile_cons_of_neg (by simpa using hhead)
  have hsame := List.takeWhile_append_dropWhile (p := Read.isBlank)
    (l := s.rest.dropWhile Read.isBlank)
  rw [hnone, List.nil_append] at hsame
  simp [pastBlanks, hnone, hsame]

lemma length_pastBlanks_le (s : Cursor) : s.pastBlanks.rest.length ≤ s.rest.length :=
  List.length_dropWhile_le _ _

lemma length_next_le (s : Cursor) : s.next.rest.length ≤ s.rest.length := by
  obtain ⟨_ | ⟨c, rest⟩, offset⟩ := s
  · exact Nat.le_refl _
  · exact Nat.le_succ _

/-- A character is passed. -/
lemma length_next (h : s.rest.head? = some c) : s.next.rest.length + 1 = s.rest.length := by
  obtain ⟨rest, offset⟩ := s
  cases rest with
  | nil => simp at h
  | cons d rest => rfl

end Cursor

namespace Read

variable {α β : Type} {x : Read α} {f : α → Read β} {a : α} {b : β} {s t u : Cursor} {c : Char}
  {cause : Cause} {i : Unit}

/-! ### Steps of a computation -/

/-- A computation gives a value, and what it leaves is what follows a cursor. -/
def Gives (x : Read α) (s : Cursor) (a : α) (t : Cursor) : Prop := x.run s = (.ok a, t)

@[simp] lemma gives_pure_iff {a' : α} : Gives (pure a) s a' t ↔ a' = a ∧ t = s := by
  change ((Except.ok a : Except Fault α), s) = (Except.ok a', t) ↔ _
  rw [Prod.mk.injEq, Except.ok.injEq, eq_comm, eq_comm (a := s)]

@[simp] lemma gives_bind_iff :
    Gives (x >>= f) s b u ↔ ∃ a t, Gives x s a t ∧ Gives (f a) t b u := by
  have hrun : (x >>= f).run s = match x.run s with
      | (.ok a, t) => (f a).run t
      | (.error e, t) => (.error e, t) := by
    rw [ExceptT.run_bind]
    change StateT.bind x.run _ _ = _
    rw [StateT.bind]
    obtain ⟨_ | _, _⟩ := x.run s <;> rfl
  rw [Gives, hrun]
  unfold Gives
  obtain ⟨e | a, t⟩ := x.run s
  · exact ⟨nofun, by rintro ⟨a, t, h, -⟩; cases h⟩
  · exact ⟨fun h => ⟨a, t, rfl, h⟩, by rintro ⟨a', t', h, hf⟩; cases h; exact hf⟩

@[simp] lemma gives_map_iff {g : α → β} :
    Gives (g <$> x) s b t ↔ ∃ a, Gives x s a t ∧ b = g a := by
  rw [← bind_pure_comp, gives_bind_iff]
  constructor
  · rintro ⟨a, u, hx, h⟩
    obtain ⟨rfl, rfl⟩ := gives_pure_iff.mp h
    exact ⟨a, hx, rfl⟩
  · rintro ⟨a, hx, rfl⟩
    exact ⟨a, t, hx, gives_pure_iff.mpr ⟨rfl, rfl⟩⟩

@[simp] lemma not_gives_failHere : ¬ Gives (failHere cause) s a t := nofun

@[simp] lemma not_gives_failNext : ¬ Gives (failNext cause) s a t := nofun

@[simp] lemma not_gives_refuse : ¬ Gives (refuse cause) s a t := nofun

lemma gives_observe_iff {r : Except Fault α} : Gives (observe x) s r t ↔ x.run s = (r, t) := by
  rw [Gives, observe, ExceptT.run_mk]
  change StateT.bind x.run _ _ = _ ↔ _
  rw [StateT.bind]
  obtain ⟨r', t'⟩ := x.run s
  change ((Except.ok r' : Except Fault _), t') = (Except.ok r, t) ↔ (r', t') = (r, t)
  rw [Prod.mk.injEq, Except.ok.injEq, Prod.mk.injEq]

@[simp] lemma gives_placed_iff : Gives (placed x) s a t ↔ Gives x s a t := by
  rw [placed, gives_bind_iff]
  constructor
  · rintro ⟨e | a', u, hx, h⟩
    · exact absurd h nofun
    · obtain ⟨rfl, rfl⟩ := gives_pure_iff.mp h
      exact gives_observe_iff.mp hx
  · exact fun h => ⟨.ok a, t, gives_observe_iff.mpr h, gives_pure_iff.mpr ⟨rfl, rfl⟩⟩

/-- What stands in brackets is read if it and the closing one are. -/
@[simp] lemma gives_enclosed_iff {close : Read Unit} :
    Gives (enclosed x close) s a u ↔ ∃ t, Gives x s a t ∧ Gives close t () u := by
  simp only [enclosed, gives_bind_iff, gives_observe_iff]
  constructor
  · rintro ⟨e | a', t, hx, e' | ⟨⟩, t', hclose, h⟩
    · exact absurd h nofun
    · exact absurd h nofun
    · exact absurd h nofun
    · obtain ⟨rfl, rfl⟩ := gives_pure_iff.mp h
      exact ⟨t, hx, hclose⟩
  · rintro ⟨t, hx, hclose⟩
    exact ⟨_, t, hx, _, u, hclose, gives_pure_iff.mpr ⟨rfl, rfl⟩⟩

@[simp] lemma gives_discard_iff : Gives (discard x) s i t ↔ ∃ a, Gives x s a t := by
  change Gives ((fun _ => ()) <$> x) s i t ↔ _
  rw [gives_map_iff]
  exact exists_congr fun a => and_iff_left rfl

/-! ### Characters -/

@[simp] lemma gives_peek_iff {r : Option Char} :
    Gives peek s r t ↔ r = s.rest.head? ∧ t = s := by
  change Gives (pure s.rest.head?) s r t ↔ _
  exact gives_pure_iff

@[simp] lemma gives_advance_iff : Gives advance s i t ↔ t = s.next := by
  have hadvance : advance.run s = (.ok (), s.next) := by
    obtain ⟨_ | ⟨c, rest⟩, offset⟩ := s <;> rfl
  rw [Gives, hadvance]
  exact ⟨fun h => by cases h; rfl, fun h => by rw [h]⟩

@[simp] lemma gives_skipBlanks_iff {r : Option Char} :
    Gives skipBlanks s r t ↔ r = s.pastBlanks.rest.head? ∧ t = s.pastBlanks := by
  change Gives (pure s.pastBlanks.rest.head?) s.pastBlanks r t ↔ _
  exact gives_pure_iff

@[simp] lemma gives_someChar_iff :
    Gives (someChar cause) s c t ↔ s.pastBlanks.rest.head? = some c ∧ t = s.pastBlanks := by
  simp only [someChar, gives_bind_iff, gives_skipBlanks_iff]
  constructor
  · rintro ⟨r, t, ⟨rfl, rfl⟩, h⟩
    split at h
    · next d hd =>
      obtain ⟨rfl, rfl⟩ := gives_pure_iff.mp h
      exact ⟨hd, rfl⟩
    · exact absurd h not_gives_failNext
  · rintro ⟨hc, rfl⟩
    exact ⟨_, _, ⟨rfl, rfl⟩, by rw [hc]; simp⟩

@[simp] lemma gives_fuel_iff {n : Nat} : Gives fuel s n t ↔ n = s.rest.length + 1 ∧ t = s := by
  change Gives (pure (s.rest.length + 1)) s n t ↔ _
  exact gives_pure_iff

/-! ### Whole texts -/

/-- A whole text is read if nothing but blanks follows what is read. -/
lemma text_eq_ok_iff {source : String} :
    Read.text x source = .ok a ↔ ∃ t, Gives x ⟨source.toList, 0⟩ a t ∧ t.pastBlanks.rest = [] := by
  have hwhole : Read.text x source = .ok a ↔ ∃ t, Gives (whole x) ⟨source.toList, 0⟩ a t := by
    rw [Read.text]
    unfold Gives
    obtain ⟨e | a', t⟩ := (whole x).run ⟨source.toList, 0⟩
    · exact ⟨nofun, by rintro ⟨t', h⟩; cases h⟩
    · exact ⟨fun h => by cases h; exact ⟨t, rfl⟩, by rintro ⟨t', h⟩; cases h; rfl⟩
  rw [hwhole]
  simp only [whole, gives_bind_iff, gives_skipBlanks_iff]
  constructor
  · rintro ⟨t, a', u, ha, r, v, ⟨rfl, rfl⟩, h⟩
    split_ifs at h with hend
    · simp only [gives_bind_iff, not_gives_failNext, false_and, exists_false] at h
    · obtain ⟨rfl, rfl⟩ := gives_pure_iff.mp h
      exact ⟨u, ha, by simpa using hend⟩
  · rintro ⟨t, ha, hend⟩
    exact ⟨t.pastBlanks, a, t, ha, _, _, ⟨rfl, rfl⟩, by simp [hend]⟩

end Read

lemma Decoder.ofText_eq_ok_iff {α : Type} {d : Decoder α} {a : α} {source : String} :
    d.ofText source = .ok a ↔ Read.text (d.read maxDepth) source = .ok a := by
  rw [ofText]
  cases Read.text (d.read maxDepth) source <;> simp

end Json

end ConsoleStrip
