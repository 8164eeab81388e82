/-
What is read and what is passed over.

* `Json.Read.gives_stringFrom_lenient`: a string that is read is passed over, also
  with a pair of escapes in it that is one character;
* `Json.Read.gives_skipOn_of_elements`: so are the elements of a list;
* `Json.Decoder.IsPassed`: what a decoder reads can be passed over, up to the same
  place. `isPassed_text`, `isPassed_list`;
* `Json.Decoder.gives_record_narrow`: a record reads the object of a record with
  more fields, if what stands in the fields that it does not have can be passed
  over.
-/
import ConsoleStrip.Proofs.Json.Steps

namespace ConsoleStrip

namespace Json

namespace Read

variable {α : Type} {x : Read α} {s t u : Cursor} {c : Char} {i : Unit}

/-! ### Strings -/

/-- Four digits are passed. -/
lemma length_of_gives_hexEscape {n : Nat} (h : Gives hexEscape s n t) :
    t.rest.length ≤ s.rest.length := by
  change Gives (ite (byteCount (s.rest.take 4) < 4) _ _) s n t at h
  split_ifs at h
  · exact absurd h nofun
  · split at h
    · cases h
      exact (List.drop_suffix 4 s.rest).length_le
    · exact absurd h nofun

lemma gives_pairChar_iff : Gives (pairChar c) s i t ↔ s.rest.head? = some c ∧ t = s.next := by
  simp only [pairChar, gives_bind_iff, gives_peek_iff]
  constructor
  · rintro ⟨r, t, ⟨rfl, rfl⟩, h⟩
    split at h
    · exact absurd h not_gives_failHere
    · next d hd =>
      split_ifs at h with hcd
      · rw [beq_iff_eq] at hcd
        exact ⟨hcd ▸ hd, gives_advance_iff.mp h⟩
      · exact absurd h not_gives_failNext
  · rintro ⟨hc, rfl⟩
    exact ⟨_, s, ⟨rfl, rfl⟩, by simp [hc]⟩

/-- An escape of four digits is one character, or the first of two that are. -/
lemma exists_of_gives_unicodeEscape (h : Gives unicodeEscape s c t) :
    ∃ n u, Gives hexEscape s n u ∧ (t = u ∨ u.rest.head? = some '\\'
      ∧ u.next.rest.head? = some 'u' ∧ ∃ m, Gives hexEscape u.next.next m t) := by
  simp only [unicodeEscape, gives_bind_iff] at h
  obtain ⟨n, u, hn, h⟩ := h
  refine ⟨n, u, hn, ?_⟩
  split_ifs at h
  · simp only [gives_bind_iff, not_gives_failHere, false_and, exists_false] at h
  · simp only [gives_bind_iff, not_gives_failHere, false_and, exists_false] at h
  · exact .inl (gives_pure_iff.mp h).2
  · simp only [gives_bind_iff, gives_pairChar_iff] at h
    obtain ⟨-, v, ⟨hslash, rfl⟩, -, w, ⟨hu, rfl⟩, m, t', hm, h⟩ := h
    split_ifs at h
    · simp only [gives_bind_iff, not_gives_failHere, false_and, exists_false] at h
    · exact .inr ⟨hslash, hu, m, (gives_pure_iff.mp h).2 ▸ hm⟩

/-- Other escapes than those of four digits are the same to who reads them and to
who passes over them. -/
lemma gives_escape_or (h : Gives (escape true) s c t) :
    Gives (escape false) s c t ∧ t = s.next
    ∨ s.rest.head? = some 'u' ∧ Gives unicodeEscape s.next c t := by
  simp only [escape, gives_bind_iff, gives_peek_iff] at h ⊢
  obtain ⟨r, u, ⟨rfl, rfl⟩, h⟩ := h
  split at h
  · exact absurd h not_gives_failHere
  · next d hd =>
    simp only [hd]
    split at h
    case h_1 | h_2 | h_3 | h_4 | h_5 | h_6 | h_7 | h_8 =>
      refine .inl ⟨⟨_, _, ⟨rfl, rfl⟩, h⟩, ?_⟩
      simp only [gives_bind_iff, gives_advance_iff, gives_pure_iff] at h
      obtain ⟨-, _, rfl, -, rfl⟩ := h
      rfl
    case h_9 =>
      simp only [gives_bind_iff, gives_advance_iff, if_true] at h
      obtain ⟨-, _, rfl, h⟩ := h
      exact .inr ⟨rfl, h⟩
    case h_10 => exact absurd h not_gives_failNext

/-- Who passes over an escape of four digits does not ask which character it is. -/
lemma gives_escape_digits {n : Nat} (hu : s.rest.head? = some 'u')
    (h : Gives hexEscape s.next n t) : Gives (escape false) s '\uFFFD' t := by
  simp only [escape, gives_bind_iff, gives_peek_iff]
  refine ⟨_, _, ⟨rfl, rfl⟩, ?_⟩
  rw [hu]
  simp only [gives_bind_iff, gives_advance_iff, Bool.false_eq_true, if_false, gives_discard_iff,
    gives_pure_iff]
  exact ⟨(), _, rfl, (), t, ⟨n, h⟩, trivial, rfl⟩

variable {strict : Bool} {n m : Nat} {acc cs : List Char}

lemma gives_stringFrom_quote_iff (hs : s.rest.head? = some '"') :
    Gives (stringFrom strict (n + 1) acc) s cs t ↔ cs = acc ∧ t = s.next := by
  simp only [stringFrom, gives_bind_iff, gives_peek_iff]
  constructor
  · rintro ⟨r, u, ⟨rfl, rfl⟩, h⟩
    rw [hs] at h
    simpa [and_comm] using h
  · rintro ⟨rfl, rfl⟩
    exact ⟨_, s, ⟨rfl, rfl⟩, by simp [hs]⟩

lemma gives_stringFrom_escape_iff (hs : s.rest.head? = some '\\') :
    Gives (stringFrom strict (n + 1) acc) s cs t ↔
      ∃ c u, Gives (escape strict) s.next c u ∧ Gives (stringFrom strict n (c :: acc)) u cs t := by
  simp only [stringFrom, gives_bind_iff, gives_peek_iff]
  constructor
  · rintro ⟨r, u, ⟨rfl, rfl⟩, h⟩
    rw [hs] at h
    simpa using h
  · rintro ⟨c, u, h⟩
    exact ⟨_, s, ⟨rfl, rfl⟩, by simpa [hs] using ⟨c, u, h⟩⟩

lemma gives_stringFrom_plain_iff (hs : s.rest.head? = some c) (hquote : c ≠ '"')
    (hslash : c ≠ '\\') :
    Gives (stringFrom strict (n + 1) acc) s cs t ↔
      ¬ c.toNat < 0x20 ∧ Gives (stringFrom strict n (c :: acc)) s.next cs t := by
  simp only [stringFrom, gives_bind_iff, gives_peek_iff]
  constructor
  · rintro ⟨r, u, ⟨rfl, rfl⟩, h⟩
    rw [hs] at h
    by_cases hcontrol : c.toNat < 0x20
    · simp [hcontrol] at h
    · simpa [hcontrol] using h
  · rintro ⟨hcontrol, h⟩
    refine ⟨_, s, ⟨rfl, rfl⟩, ?_⟩
    rw [hs]
    simpa [hcontrol] using h

/-- An escape that is read is passed over in one step, or in two if a second escape
is part of the character. Each step passes at least one character of the text. -/
lemma exists_steps_of_escape (hs : s.rest.head? = some '\\') (h : Gives (escape true) s.next c u) :
    ∃ steps passed, 0 < steps ∧ u.rest.length + steps ≤ s.rest.length
      ∧ ∀ {m acc cs t}, Gives (stringFrom false m (passed ++ acc)) u cs t →
        Gives (stringFrom false (m + steps) acc) s cs t := by
  have hlength := Cursor.length_next hs
  have hnext := Cursor.length_next_le s.next
  obtain ⟨hescape, rfl⟩ | ⟨hu, hdigits⟩ := gives_escape_or h
  · exact ⟨1, [c], Nat.one_pos, by omega, fun hrest =>
      (gives_stringFrom_escape_iff hs).mpr ⟨c, _, hescape, hrest⟩⟩
  obtain ⟨k, v, hk, rfl | ⟨hslash, hu', k', hk'⟩⟩ := exists_of_gives_unicodeEscape hdigits
  · have hv := length_of_gives_hexEscape hk
    exact ⟨1, ['\uFFFD'], Nat.one_pos, by omega, fun hrest =>
      (gives_stringFrom_escape_iff hs).mpr ⟨_, _, gives_escape_digits hu hk, hrest⟩⟩
  · have hv := length_of_gives_hexEscape hk
    have hv' := Cursor.length_next hslash
    have hv'' := Cursor.length_next_le v.next
    have hu'' := length_of_gives_hexEscape hk'
    exact ⟨2, ['\uFFFD', '\uFFFD'], Nat.two_pos, by omega, fun hrest =>
      (gives_stringFrom_escape_iff hs).mpr ⟨_, _, gives_escape_digits hu hk,
        (gives_stringFrom_escape_iff hslash).mpr ⟨_, _, gives_escape_digits hu' hk', hrest⟩⟩⟩

/-- **A string that is read is passed over.** Two escapes that are one character
take two steps then, so that the number of steps is bounded by the characters that
are left and not by the steps of reading. -/
lemma gives_stringFrom_lenient (h : Gives (stringFrom true n acc) s cs t)
    (hn : s.rest.length < n) (hm : s.rest.length < m) (acc' : List Char) :
    ∃ cs', Gives (stringFrom false m acc') s cs' t := by
  induction n generalizing s acc m acc' with
  | zero => exact absurd hn (Nat.not_lt_zero _)
  | succ n ih =>
      cases hs : s.rest.head? with
      | none =>
          simp only [stringFrom, gives_bind_iff, gives_peek_iff] at h
          obtain ⟨r, u, ⟨rfl, rfl⟩, h⟩ := h
          rw [hs] at h
          exact absurd h not_gives_failHere
      | some c =>
          have hlength := Cursor.length_next hs
          by_cases hslash : c = '\\'
          · rw [hslash] at hs
            obtain ⟨d, u, hescape, hrest⟩ := (gives_stringFrom_escape_iff hs).mp h
            obtain ⟨steps, passed, hpos, hle, hpass⟩ := exists_steps_of_escape hs hescape
            obtain ⟨m, rfl⟩ : ∃ m', m = m' + steps := ⟨m - steps, by omega⟩
            obtain ⟨cs', h'⟩ := ih (m := m) hrest (by omega) (by omega) (passed ++ acc')
            exact ⟨cs', hpass h'⟩
          obtain ⟨m, rfl⟩ := Nat.exists_eq_succ_of_ne_zero (Nat.ne_zero_of_lt hm)
          by_cases hquote : c = '"'
          · rw [hquote] at hs
            obtain ⟨-, rfl⟩ := (gives_stringFrom_quote_iff hs).mp h
            exact ⟨acc', (gives_stringFrom_quote_iff hs).mpr ⟨rfl, rfl⟩⟩
          · obtain ⟨hcontrol, hrest⟩ := (gives_stringFrom_plain_iff hs hquote hslash).mp h
            obtain ⟨cs', h'⟩ := ih (m := m) hrest (by omega) (by omega) (c :: acc')
            exact ⟨cs', (gives_stringFrom_plain_iff hs hquote hslash).mpr ⟨hcontrol, h'⟩⟩

/-- A string that is read is passed over, from its opening quote on. -/
lemma gives_string_lenient {text : String} (h : Gives (string true) s text t) :
    ∃ text', Gives (string false) s text' t := by
  have hstring : ∀ strict, string strict = do
      let n ← fuel
      return String.ofList (← stringFrom strict n []).reverse := fun _ => rfl
  simp only [hstring, gives_bind_iff, gives_fuel_iff, gives_pure_iff] at h ⊢
  obtain ⟨n, u, ⟨rfl, rfl⟩, cs, v, hcs, -, rfl⟩ := h
  obtain ⟨cs', h'⟩ := gives_stringFrom_lenient hcs (Nat.lt_succ_self _) (Nat.lt_succ_self _) []
  exact ⟨_, _, u, ⟨rfl, rfl⟩, cs', t, h', rfl, rfl⟩

/-! ### Values that are passed over -/

/-- What a computation reads is a value without brackets, which can be passed
over. -/
def IsScalar (x : Read α) : Prop :=
  ∀ ⦃s a t⦄, Gives x s a t → ∃ c, s.pastBlanks.rest.head? = some c ∧ c ≠ '[' ∧ c ≠ '\x7b'
    ∧ Gives (skipScalar c) s.pastBlanks () t

/-- What follows a value that is passed over, or the opening of a list or an
object: what can be closed is closed, and what is open is passed over. -/
def skipOn (fuel : Nat) (afterValue : Bool) (stack : List Open) : Read Unit := do
  let stack ← skipClosing (fuel + 1) afterValue stack
  unless stack.isEmpty do
    skipKey stack
    skipFrom fuel stack

variable {stack : List Open} {k : Bool}

/-- A value without brackets is passed over, and then what follows it. -/
lemma gives_skipFrom_scalar (hc : s.pastBlanks.rest.head? = some c) (hlist : c ≠ '[')
    (hobject : c ≠ '\x7b') (hscalar : Gives (skipScalar c) s.pastBlanks () t)
    (hrest : Gives (skipOn n true stack) t () u) : Gives (skipFrom (n + 1) stack) s () u := by
  simp only [skipFrom, gives_bind_iff, gives_someChar_iff]
  refine ⟨c, _, ⟨hc, rfl⟩, ?_⟩
  split
  · exact absurd rfl hlist
  · exact absurd rfl hobject
  · simp only [gives_bind_iff]
    exact ⟨(), t, hscalar, _, t, gives_pure_iff.mpr ⟨rfl, rfl⟩, by simpa [skipOn] using hrest⟩

/-- The opening of a list is passed, and then what follows it. -/
lemma gives_skipFrom_list (hc : s.pastBlanks.rest.head? = some '[')
    (hrest : Gives (skipOn n false (.list :: stack)) s.pastBlanks.next () u) :
    Gives (skipFrom (n + 1) stack) s () u := by
  simp only [skipFrom, gives_bind_iff, gives_someChar_iff]
  refine ⟨'[', _, ⟨hc, rfl⟩, ?_⟩
  simp only [gives_bind_iff, gives_advance_iff]
  exact ⟨(), _, rfl, _, _, gives_pure_iff.mpr ⟨rfl, rfl⟩, by simpa [skipOn] using hrest⟩

/-- Where no bracket is open, nothing follows. -/
lemma gives_skipOn_nil (n : Nat) (k : Bool) (s : Cursor) : Gives (skipOn n k []) s () s := by
  simp only [skipOn, gives_bind_iff]
  exact ⟨[], s, gives_pure_iff.mpr ⟨rfl, rfl⟩, gives_pure_iff.mpr ⟨rfl, rfl⟩⟩

/-- A list is closed. -/
lemma gives_skipOn_close (hc : s.pastBlanks.rest.head? = some ']') :
    Gives (skipOn n k [.list]) s () s.pastBlanks.next := by
  have hclosed : Gives (skipClosing n true []) s.pastBlanks.next [] s.pastBlanks.next := by
    cases n <;> exact gives_pure_iff.mpr ⟨rfl, rfl⟩
  simp only [skipOn, skipClosing, gives_bind_iff, gives_skipBlanks_iff]
  refine ⟨[], _, ⟨_, _, ⟨rfl, rfl⟩, ?_⟩, gives_pure_iff.mpr ⟨rfl, rfl⟩⟩
  rw [hc]
  simp only [gives_bind_iff, gives_advance_iff]
  exact ⟨(), _, rfl, hclosed⟩

/-- In an open list, a key is not passed over. -/
lemma gives_skipRest_list (hrest : Gives (skipFrom n [.list]) s () t) :
    Gives (do
      skipKey [.list]
      skipFrom n [.list]) s () t := by
  rw [gives_bind_iff]
  exact ⟨(), s, gives_pure_iff.mpr ⟨rfl, rfl⟩, hrest⟩

/-- The first element of a list is passed over. -/
lemma gives_skipOn_first (hc : s.pastBlanks.rest.head? = some c) (hend : c ≠ ']')
    (hrest : Gives (skipFrom n [.list]) s.pastBlanks () t) :
    Gives (skipOn n false [.list]) s () t := by
  simp only [skipOn, skipClosing, gives_bind_iff, gives_skipBlanks_iff]
  refine ⟨[.list], s.pastBlanks, ⟨_, _, ⟨rfl, rfl⟩, ?_⟩, gives_skipRest_list hrest⟩
  rw [hc]
  split
  · next h _ => exact absurd (Option.some.inj h) hend
  · next h => cases h
  · exact gives_pure_iff.mpr ⟨rfl, rfl⟩
  · next h _ => cases h
  · next h => cases h

/-- So is one that follows another. -/
lemma gives_skipOn_comma (hc : s.pastBlanks.rest.head? = some ',')
    (hrest : Gives (skipFrom n [.list]) s.pastBlanks.next () t) :
    Gives (skipOn n true [.list]) s () t := by
  simp only [skipOn, skipClosing, gives_bind_iff, gives_skipBlanks_iff]
  refine ⟨[.list], s.pastBlanks.next, ⟨_, _, ⟨rfl, rfl⟩, ?_⟩, gives_skipRest_list hrest⟩
  rw [hc]
  exact gives_bind_iff.mpr ⟨(), _, gives_advance_iff.mpr rfl, gives_pure_iff.mpr ⟨rfl, rfl⟩⟩

/-! ### Lists -/

/-- An element of a list is there, unless the list ends: the first one, or another
after a comma. -/
lemma gives_hasElement_or {first : Bool} (h : Gives (hasElement first) s k t) :
    s.pastBlanks.rest.head? = some ']' ∧ k = false ∧ t = s.pastBlanks
    ∨ ∃ c, s.pastBlanks.rest.head? = some c ∧ c ≠ ']' ∧ k = true
      ∧ (first = true ∧ t = s.pastBlanks
        ∨ first = false ∧ c = ',' ∧ t = s.pastBlanks.next.pastBlanks) := by
  simp only [hasElement, gives_bind_iff, gives_someChar_iff] at h
  obtain ⟨c, u, ⟨hc, rfl⟩, h⟩ := h
  split at h
  · exact .inl ⟨hc, gives_pure_iff.mp h⟩
  · next hend =>
    refine .inr ⟨c, hc, hend, ?_⟩
    split_ifs at h with hfirst hcomma
    · obtain ⟨rfl, rfl⟩ := gives_pure_iff.mp h
      exact ⟨rfl, .inl ⟨hfirst, rfl⟩⟩
    · simp only [gives_bind_iff, gives_advance_iff, gives_skipBlanks_iff] at h
      obtain ⟨-, _, rfl, r, _, ⟨rfl, rfl⟩, h⟩ := h
      split at h
      · exact absurd h not_gives_failNext
      · obtain ⟨rfl, rfl⟩ := gives_pure_iff.mp h
        exact ⟨rfl, .inr ⟨by simpa using hfirst, by simpa using hcomma, rfl⟩⟩
      · exact absurd h not_gives_failNext
    · simp only [gives_bind_iff, not_gives_failNext, false_and, exists_false] at h

lemma gives_endList_iff :
    Gives endList s i t ↔ s.pastBlanks.rest.head? = some ']' ∧ t = s.pastBlanks.next := by
  simp only [endList, gives_bind_iff, gives_someChar_iff]
  constructor
  · rintro ⟨c, u, ⟨hc, rfl⟩, h⟩
    split at h
    · exact ⟨hc, gives_advance_iff.mp h⟩
    · simp only [gives_bind_iff] at h
      obtain ⟨-, v, -, r, w, -, h⟩ := h
      split at h <;> exact absurd h not_gives_failNext
    · exact absurd h not_gives_failNext
  · rintro ⟨hc, rfl⟩
    exact ⟨_, _, ⟨hc, rfl⟩, gives_advance_iff.mpr rfl⟩

/-- **The elements of a list that are read are passed over**, with the end of the
list. There are at least as many steps as in reading. -/
lemma gives_skipOn_of_elements {first : Bool} {as : List α} (hx : IsScalar x)
    (h : Gives (elements x n first) s as t) (hend : Gives endList t () u) (hnm : n ≤ m) :
    Gives (skipOn m (!first) [.list]) s () u := by
  induction n generalizing s as m first with
  | zero =>
      obtain ⟨-, rfl⟩ := gives_pure_iff.mp h
      obtain ⟨hc, rfl⟩ := gives_endList_iff.mp hend
      exact gives_skipOn_close hc
  | succ n ih =>
      obtain ⟨m, rfl⟩ := Nat.exists_eq_succ_of_ne_zero (Nat.ne_zero_of_lt hnm)
      simp only [elements, gives_bind_iff] at h
      obtain ⟨more, v, hmore, h⟩ := h
      obtain ⟨hc, rfl, rfl⟩ | ⟨c, hc, hne, rfl, hv⟩ := gives_hasElement_or hmore
      · obtain ⟨-, rfl⟩ := gives_pure_iff.mp h
        obtain ⟨-, rfl⟩ := gives_endList_iff.mp hend
        rw [Cursor.pastBlanks_pastBlanks]
        exact gives_skipOn_close hc
      · simp only [if_true, gives_bind_iff] at h
        obtain ⟨a, w, hread, as', t', hrest, h⟩ := h
        obtain ⟨-, rfl⟩ := gives_pure_iff.mp h
        obtain ⟨d, hd, hlist, hobject, hscalar⟩ := hx hread
        have hon := ih hrest (Nat.le_of_succ_le_succ hnm)
        obtain ⟨rfl, rfl⟩ | ⟨rfl, rfl, rfl⟩ := hv
        · exact gives_skipOn_first hc hne (gives_skipFrom_scalar hd hlist hobject hscalar hon)
        · rw [Cursor.pastBlanks_pastBlanks] at hd hscalar
          exact gives_skipOn_comma hc (gives_skipFrom_scalar hd hlist hobject hscalar hon)

end Read

/-! ### Decoders -/

namespace Decoder

open Read

variable {α β : Type} {d : Decoder α} {s t : Cursor} {a : α} {depth : Nat}

/-- What a decoder reads can be passed over instead, up to the same place. -/
def IsPassed (d : Decoder α) : Prop :=
  ∀ ⦃depth s a t⦄, Gives (d.read depth) s a t → Gives skipValue s () t

lemma gives_skipValue_iff {i : Unit} : Gives skipValue s i t ↔
    Gives (skipFrom (s.rest.length + 1) []) s i t := by
  simp only [skipValue, gives_bind_iff, gives_fuel_iff]
  exact ⟨by rintro ⟨n, u, ⟨rfl, rfl⟩, h⟩; exact h, fun h => ⟨_, s, ⟨rfl, rfl⟩, h⟩⟩

lemma not_gives_mismatch {expected : String} {c : Char} :
    ¬ Gives (mismatch expected c) s a t := by
  intro h
  unfold mismatch at h
  split at h <;> simp at h

/-- What is read as a string is one. -/
lemma isScalar_text (depth : Nat) : IsScalar (text.read depth) := by
  intro s a t h
  simp only [text, gives_bind_iff, gives_someChar_iff] at h
  obtain ⟨c, u, ⟨hc, rfl⟩, h⟩ := h
  split at h
  · simp only [gives_bind_iff, gives_advance_iff] at h
    obtain ⟨-, _, rfl, h⟩ := h
    obtain ⟨text', h'⟩ := gives_string_lenient h
    refine ⟨'"', hc, by decide, by decide, ?_⟩
    simp only [skipScalar, gives_bind_iff, gives_advance_iff, gives_discard_iff]
    exact ⟨(), _, rfl, text', h'⟩
  · exact absurd h not_gives_mismatch

lemma isPassed_of_isScalar (hd : ∀ depth, IsScalar (d.read depth)) : d.IsPassed := by
  intro depth s a t h
  obtain ⟨c, hc, hlist, hobject, hscalar⟩ := hd depth h
  exact gives_skipValue_iff.mpr
    (gives_skipFrom_scalar hc hlist hobject hscalar (gives_skipOn_nil _ _ t))

lemma isPassed_text : text.IsPassed := isPassed_of_isScalar isScalar_text

/-- A list of values without brackets is passed over. -/
lemma isPassed_list (hd : ∀ depth, IsScalar (d.read depth)) : (list d).IsPassed := by
  intro depth s as t h
  simp only [list, gives_placed_iff, gives_bind_iff, gives_someChar_iff] at h
  obtain ⟨c, u, ⟨hc, rfl⟩, h⟩ := h
  split at h
  · split_ifs at h
    · simp only [gives_bind_iff, not_gives_failNext, false_and, exists_false] at h
    · simp only [gives_bind_iff, gives_advance_iff, gives_fuel_iff, gives_enclosed_iff] at h
      obtain ⟨-, _, rfl, n, _, ⟨rfl, rfl⟩, v, helements, hend⟩ := h
      -- the bracket that opens the list is one character more
      have hlength := Cursor.length_next hc
      have hle := Cursor.length_pastBlanks_le s
      refine gives_skipValue_iff.mpr (gives_skipFrom_list hc ?_)
      exact gives_skipOn_of_elements (hd _) helements hend (by omega)
  · exact absurd h not_gives_mismatch

lemma gives_map_read_iff {f : α → β} {b : β} :
    Gives ((map f d).read depth) s b t ↔ ∃ a, Gives (d.read depth) s a t ∧ b = f a := by
  simp only [map, gives_bind_iff]
  constructor
  · rintro ⟨a, u, ha, h⟩
    obtain ⟨rfl, rfl⟩ := gives_pure_iff.mp h
    exact ⟨a, ha, rfl⟩
  · rintro ⟨a, ha, rfl⟩
    exact ⟨a, t, ha, gives_pure_iff.mpr ⟨rfl, rfl⟩⟩

lemma IsPassed.map (hd : d.IsPassed) (f : α → β) : (map f d).IsPassed := by
  intro depth s b t h
  obtain ⟨a, ha, -⟩ := gives_map_read_iff.mp h
  exact hd ha

/-! ### Records -/

section Records

variable {wide narrow : List (String × Decoder β)} {acc fs : Fields β} {k : String}

/-- A record has some of the fields of another, and what the other fields are can
be passed over. -/
def Narrows (narrow wide : List (String × Decoder β)) : Prop :=
  ∀ k, narrow.lookup k = wide.lookup k
    ∨ narrow.lookup k = none ∧ ∀ d, wide.lookup k = some d → d.IsPassed

/-- Of the fields that were read, those that a record has. -/
def known (fields : List (String × Decoder β)) (fs : Fields β) : Fields β :=
  fs.filter fun f => (fields.lookup f.1).isSome

lemma lookup_known (hk : (narrow.lookup k).isSome) (fs : Fields β) :
    (known narrow fs).lookup k = fs.lookup k := by
  induction fs with
  | nil => rfl
  | cons f fs ih =>
      obtain ⟨l, b⟩ := f
      rw [known] at ih ⊢
      by_cases hkl : k = l
      · subst hkl
        simp [hk]
      · by_cases hl : (narrow.lookup l).isSome <;>
          simp [hl, List.lookup_cons, beq_false_of_ne hkl, ih]

lemma known_append_of_mem (hk : (narrow.lookup k).isSome) (b : β) :
    known narrow (acc ++ [(k, b)]) = known narrow acc ++ [(k, b)] := by
  simp [known, hk]

lemma known_append_of_not_mem (hk : narrow.lookup k = none) (b : β) :
    known narrow (acc ++ [(k, b)]) = known narrow acc := by
  simp [known, hk]

/-- **A record with fewer fields reads what a record with more fields reads.** Of
the fields it gets those that it has. -/
lemma gives_readMembers_narrow (hfields : Narrows narrow wide) {n : Nat} {first : Bool}
    (h : Gives (readMembers wide depth n first acc) s fs t) :
    Gives (readMembers narrow depth n first (known narrow acc)) s (known narrow fs) t := by
  induction n generalizing s first acc with
  | zero =>
      obtain ⟨rfl, rfl⟩ := gives_pure_iff.mp h
      exact gives_pure_iff.mpr ⟨rfl, rfl⟩
  | succ n ih =>
      simp only [readMembers, gives_bind_iff] at h ⊢
      obtain ⟨more, u, hmore, h⟩ := h
      refine ⟨more, u, hmore, ?_⟩
      cases more with
      | false =>
          obtain ⟨rfl, rfl⟩ := gives_pure_iff.mp h
          exact gives_pure_iff.mpr ⟨rfl, rfl⟩
      | true =>
          simp only [if_true, gives_bind_iff] at h ⊢
          obtain ⟨k, v, hk, h⟩ := h
          refine ⟨k, v, hk, ?_⟩
          cases hwide : wide.lookup k with
          | none =>
              have hnarrow : narrow.lookup k = none := by
                obtain hsame | ⟨hno, -⟩ := hfields k
                · rw [hsame, hwide]
                · exact hno
              simp only [hwide, hnarrow, gives_bind_iff] at h ⊢
              obtain ⟨_, w, hcolon, _, w', hskip, hrest⟩ := h
              exact ⟨_, w, hcolon, _, w', hskip, ih hrest⟩
          | some d =>
              simp only [hwide] at h
              split_ifs at h with htwice
              · simp only [gives_bind_iff, not_gives_refuse, false_and, exists_false] at h
              simp only [gives_bind_iff] at h
              obtain ⟨_, w, hcolon, b, w', hread, hrest⟩ := h
              obtain hsame | ⟨hno, hpassed⟩ := hfields k
              · have hnarrow : narrow.lookup k = some d := hsame.trans hwide
                have hmem : (narrow.lookup k).isSome := by rw [hnarrow]; rfl
                have hrest' := ih hrest
                rw [known_append_of_mem hmem] at hrest'
                simp only [hnarrow, lookup_known hmem, if_neg htwice, gives_bind_iff]
                exact ⟨_, w, hcolon, b, w', hread, hrest'⟩
              · have hrest' := ih hrest
                rw [known_append_of_not_mem hno] at hrest'
                simp only [hno, gives_bind_iff]
                exact ⟨_, w, hcolon, (), w', hpassed d hwide hread, hrest'⟩

/-- So does the record as a whole, if it is written as an object. -/
lemma gives_record_narrow {name name' : String} (hfields : Narrows narrow wide)
    (hobject : s.pastBlanks.rest.head? = some '\x7b')
    (h : Gives ((record name wide).read depth) s fs t) :
    Gives ((record name' narrow).read depth) s (known narrow fs) t := by
  simp only [record, gives_placed_iff, gives_bind_iff, gives_someChar_iff] at h ⊢
  obtain ⟨c, u, ⟨hc, rfl⟩, h⟩ := h
  obtain rfl := Option.some.inj (hc.symm.trans hobject)
  refine ⟨_, _, ⟨hc, rfl⟩, ?_⟩
  simp only at h ⊢
  split_ifs at h ⊢
  · simp only [gives_bind_iff, not_gives_failNext, false_and, exists_false] at h
  · simp only [gives_bind_iff, gives_advance_iff, gives_fuel_iff, gives_enclosed_iff] at h ⊢
    obtain ⟨-, _, rfl, n, _, ⟨rfl, rfl⟩, v, hmembers, hend⟩ := h
    exact ⟨(), _, rfl, _, _, ⟨rfl, rfl⟩, v, gives_readMembers_narrow hfields hmembers, hend⟩

end Records

end Decoder

end Json

end ConsoleStrip
