/-
What computations that read JSON make of a text.

* `Json.Read.Reads`: a computation reads characters up to given ones, and gives
  a value. It composes as the computations do;
* `Json.Read.reads_string`: a string between quotes is read back, whatever
  stands in it;
* `Json.Read.ReadsText`: a computation reads a text back, whatever follows;
* `Json.Read.reads_elements`, `Json.Read.reads_members`: what stands in brackets,
  with commas and blanks between, is read back item by item.
-/
import ConsoleStrip.Json.Decoder
import Mathlib.Data.List.Forall2
import Mathlib.Tactic.Common

namespace ConsoleStrip

namespace Json

namespace Read

variable {α β : Type} {x : Read α} {f : α → Read β} {a : α} {b : β} {c : Char}
  {s t u bs rest : List Char}

/-! ### Reading up to a place -/

/-- A computation reads characters up to given ones, and gives a value. Where in
a text the characters stand makes no difference. -/
def Reads (x : Read α) (s : List Char) (a : α) (t : List Char) : Prop :=
  ∀ offset, ∃ offset', x.run ⟨s, offset⟩ = (.ok a, ⟨t, offset'⟩)

lemma reads_pure (a : α) (s : List Char) : Reads (pure a) s a s := fun offset => ⟨offset, rfl⟩

lemma Reads.bind (hx : Reads x s a t) (hf : Reads (f a) t b u) : Reads (x >>= f) s b u := by
  intro offset
  obtain ⟨offset', hx⟩ := hx offset
  obtain ⟨offset'', hf⟩ := hf offset'
  refine ⟨offset'', ?_⟩
  rw [← hf, ExceptT.run_bind]
  change StateT.bind x.run _ _ = _
  rw [StateT.bind, hx]
  rfl

lemma Reads.observe (hx : Reads x s a t) : Reads (Read.observe x) s (.ok a) t := by
  intro offset
  obtain ⟨offset', hx⟩ := hx offset
  refine ⟨offset', ?_⟩
  rw [Read.observe, ExceptT.run_mk]
  change StateT.bind x.run _ _ = _
  rw [StateT.bind, hx]
  rfl

/-- What is read without a fault is placed nowhere. -/
lemma Reads.placed (hx : Reads x s a t) : Reads (Read.placed x) s a t :=
  hx.observe.bind (reads_pure a t)

lemma Reads.enclosed {close : Read Unit} (hx : Reads x s a t) (hclose : Reads close t () u) :
    Reads (Read.enclosed x close) s a u :=
  hx.observe.bind (hclose.observe.bind (reads_pure a u))

lemma reads_peek (s : List Char) : Reads peek s s.head? s := fun offset => ⟨offset, rfl⟩

lemma reads_advance (c : Char) (s : List Char) : Reads advance (c :: s) () s :=
  fun offset => ⟨offset + c.utf8Size, rfl⟩

lemma reads_fuel (s : List Char) : Reads fuel s (s.length + 1) s := fun offset => ⟨offset, rfl⟩

lemma reads_skipBlanks_nil : Reads skipBlanks [] none [] := fun offset => ⟨offset, rfl⟩

/-- Blanks are passed. -/
lemma reads_skipBlanks (hbs : bs.all isBlank) (hc : isBlank c = false) :
    Reads skipBlanks (bs ++ c :: s) (some c) (c :: s) := by
  intro offset
  have hdrop : (bs ++ c :: s).dropWhile isBlank = c :: s := by
    rw [List.dropWhile_append_of_pos (List.all_eq_true.mp hbs),
      List.dropWhile_cons_of_neg (by simp [hc])]
  refine ⟨offset + ((bs ++ c :: s).takeWhile isBlank).length, ?_⟩
  change (Except.ok ((bs ++ c :: s).dropWhile isBlank).head?,
    Cursor.mk ((bs ++ c :: s).dropWhile isBlank) _) = _
  rw [hdrop]
  rfl

lemma reads_someChar (cause : Cause) (hbs : bs.all isBlank) (hc : isBlank c = false) :
    Reads (someChar cause) (bs ++ c :: s) c (c :: s) :=
  (reads_skipBlanks hbs hc).bind (reads_pure c _)

/-- Where no blank stands, none is passed. -/
lemma reads_skipBlanks_cons (hc : isBlank c = false) :
    Reads skipBlanks (c :: s) (some c) (c :: s) := by
  have hbs : ([] : List Char).all isBlank := rfl
  exact reads_skipBlanks hbs hc

lemma reads_someChar_cons (cause : Cause) (hc : isBlank c = false) :
    Reads (someChar cause) (c :: s) c (c :: s) :=
  (reads_skipBlanks_cons hc).bind (reads_pure c _)

/-! ### Strings -/

lemma toList_quoted (s : String) :
    (quoted s).toList = '"' :: (s.toList.flatMap (fun c => (escaped c).toList) ++ ['"']) := by
  simp [quoted, List.flatMap_def, Function.comp_def]

/-- The characters that have a short escape of their own. -/
def shortEscaped : List Char := ['"', '\\', '\n', '\r', '\t', '\x08', '\x0c']

/-- Any other character is escaped by its number, if it is a control character. -/
lemma escaped_of_not_mem (hc : c ∉ shortEscaped) :
    escaped c = if c.toNat < 0x20 then
      "\\u00" ++ String.ofList [hexDigit (c.toNat / 16), hexDigit (c.toNat % 16)]
    else String.singleton c := by
  simp only [shortEscaped, List.mem_cons, List.not_mem_nil, or_false, not_or] at hc
  simp [escaped, hc]

/-- A control character is escaped by four digits, which are those of its
number. -/
lemma hexValue?_control : ∀ n < 32,
    ['0', '0', hexDigit (n / 16), hexDigit (n % 16)].mapM hexValue? = some [0, 0, n / 16, n % 16]
    ∧ byteCount ['0', '0', hexDigit (n / 16), hexDigit (n % 16)] = 4 := by
  decide

/-- Four digits are read as their number. -/
lemma reads_hexEscape {hex : List Char} {ds : List Nat} (hlength : hex.length = 4)
    (hbytes : byteCount hex = 4) (hds : hex.mapM hexValue? = some ds) (s : List Char) :
    Reads hexEscape (hex ++ s) (ds.foldl (fun n d => 16 * n + d) 0) s := by
  intro offset
  refine ⟨offset + 4, ?_⟩
  have htake : (hex ++ s).take 4 = hex := List.take_left' hlength
  have hdrop : (hex ++ s).drop 4 = s := List.drop_left' hlength
  change (ite (byteCount ((hex ++ s).take 4) < 4) _ _ : Read Nat).run _ = _
  rw [htake, if_neg (by omega)]
  simp only [hds]
  change (_, Cursor.mk ((hex ++ s).drop 4) _) = _
  rw [hdrop]

/-- A control character that is escaped by its number is read back. -/
lemma reads_unicodeEscape {n : Nat} (hn : n < 32) (s : List Char) :
    Reads unicodeEscape ('0' :: '0' :: hexDigit (n / 16) :: hexDigit (n % 16) :: s)
      (Char.ofNat n) s := by
  obtain ⟨hvalues, hbytes⟩ := hexValue?_control n hn
  have hvalue : [0, 0, n / 16, n % 16].foldl (fun n d => 16 * n + d) 0 = n := by
    simp only [List.foldl_cons, List.foldl_nil]
    omega
  have hhex := reads_hexEscape rfl hbytes hvalues s
  rw [hvalue] at hhex
  refine hhex.bind ?_
  have hlow : (decide (0xDC00 ≤ n) && decide (n ≤ 0xDFFF)) = false := by
    simp only [Bool.and_eq_false_iff, decide_eq_false_iff_not]
    omega
  have hplain : (decide (n < 0xD800) || decide (0xDBFF < n)) = true := by
    simp only [Bool.or_eq_true, decide_eq_true_eq]
    omega
  simp only [hlow, hplain, Bool.false_eq_true, if_false, if_true]
  exact reads_pure _ _

/-- What follows a backslash is read as the character that is escaped so. -/
lemma reads_stringFrom_escape {n : Nat} {acc r : List Char} (hescape : Reads (escape true) s c t)
    (hnext : Reads (stringFrom true n (c :: acc)) t r u) :
    Reads (stringFrom true (n + 1) acc) ('\\' :: s) r u :=
  (reads_peek _).bind ((reads_advance _ _).bind (hescape.bind hnext))

lemma reads_stringFrom_plain {n : Nat} {acc r : List Char} (hquote : c ≠ '"') (hslash : c ≠ '\\')
    (hcontrol : ¬ c.toNat < 0x20) (hnext : Reads (stringFrom true n (c :: acc)) s r u) :
    Reads (stringFrom true (n + 1) acc) (c :: s) r u := by
  refine (reads_peek _).bind ?_
  simp only [List.head?_cons]
  rw [if_neg hcontrol]
  exact (reads_advance _ _).bind hnext

/-- A character is read back, escaped or not. -/
lemma reads_stringFrom_escaped {n : Nat} {acc r : List Char} (c : Char)
    (hnext : Reads (stringFrom true n (c :: acc)) s r u) :
    Reads (stringFrom true (n + 1) acc) ((escaped c).toList ++ s) r u := by
  by_cases hc : c ∈ shortEscaped
  · simp only [shortEscaped, List.mem_cons, List.not_mem_nil, or_false] at hc
    -- the second character of the escape says which one it is
    obtain rfl | rfl | rfl | rfl | rfl | rfl | rfl := hc
    all_goals exact reads_stringFrom_escape (fun offset => ⟨_, rfl⟩) hnext
  · rw [escaped_of_not_mem hc]
    simp only [shortEscaped, List.mem_cons, not_or] at hc
    split_ifs with hcontrol
    · have hread := reads_unicodeEscape hcontrol s
      rw [Char.ofNat_toNat] at hread
      have hescape : Reads (escape true) ('u' :: '0' :: '0' :: hexDigit (c.toNat / 16)
          :: hexDigit (c.toNat % 16) :: s) c s :=
        (reads_peek _).bind ((reads_advance _ _).bind hread)
      simpa using reads_stringFrom_escape hescape hnext
    · simpa using reads_stringFrom_plain hc.1 hc.2.1 hcontrol hnext

/-- The characters of a string are read back up to its closing quote. -/
lemma reads_stringFrom (cs : List Char) (acc rest : List Char) {n : Nat} (hn : cs.length < n) :
    Reads (stringFrom true n acc) (cs.flatMap (fun c => (escaped c).toList) ++ '"' :: rest)
      (cs.reverse ++ acc) rest := by
  induction cs generalizing acc n with
  | nil =>
      obtain ⟨j, rfl⟩ := Nat.exists_eq_add_of_lt hn
      exact (reads_peek _).bind ((reads_advance _ _).bind (reads_pure _ _))
  | cons c cs ih =>
      obtain ⟨j, rfl⟩ := Nat.exists_eq_add_of_lt hn
      rw [List.flatMap_cons, List.append_assoc, List.reverse_cons, List.append_assoc]
      exact reads_stringFrom_escaped c (ih (c :: acc) (Nat.lt_of_succ_lt_succ hn))

/-- An escaped character is at least one character. -/
lemma length_le_flatMap_escaped (cs : List Char) :
    cs.length ≤ (cs.flatMap fun c => (escaped c).toList).length := by
  have hone : ∀ c, 1 ≤ (escaped c).toList.length := by
    intro c
    by_cases hc : c ∈ shortEscaped
    · simp only [shortEscaped, List.mem_cons, List.not_mem_nil, or_false] at hc
      obtain rfl | rfl | rfl | rfl | rfl | rfl | rfl := hc <;> decide
    · rw [escaped_of_not_mem hc]
      split_ifs <;> simp
  induction cs with
  | nil => exact Nat.zero_le _
  | cons c cs ih =>
      have hc := hone c
      rw [List.flatMap_cons, List.length_append, List.length_cons]
      omega

/-- **A string between quotes is read back.** -/
lemma reads_string (s : String) (rest : List Char) :
    Reads (string true) (s.toList.flatMap (fun c => (escaped c).toList) ++ '"' :: rest) s rest := by
  have hfuel : string true = do
      let n ← fuel
      return String.ofList (← stringFrom true n []).reverse := rfl
  have hlength := length_le_flatMap_escaped s.toList
  rw [hfuel]
  refine (reads_fuel _).bind ((reads_stringFrom s.toList [] rest ?_).bind ?_)
  · rw [List.length_append, List.length_cons]
    omega
  · have hback : String.ofList (s.toList.reverse ++ []).reverse = s := by simp
    rw [hback]
    exact reads_pure _ _

lemma reads_key (k : String) (rest : List Char) :
    Reads key ((quoted k).toList ++ rest) k rest := by
  rw [toList_quoted, List.cons_append, List.append_assoc]
  exact (reads_advance _ _).bind (reads_string k rest)

/-! ### Reading a text back -/

/-- A text starts, and not with a blank or the end of a list. -/
def Starts (text : List Char) : Prop := ∃ c s, text = c :: s ∧ isBlank c = false ∧ c ≠ ']'

/-- A computation reads a text back, whatever blanks stand before it and whatever
follows. -/
structure ReadsText (x : Read α) (text : List Char) (a : α) : Prop where
  starts : Starts text
  reads : ∀ bs rest, bs.all isBlank → Reads x (bs ++ (text ++ rest)) a rest

variable {text : List Char}

/-- What the first character decides about is read back if what it decides on
reads the text back. -/
lemma readsText_of_first {k : Char → Read α} (hblank : isBlank c = false) (hend : c ≠ ']')
    (h : ∀ rest, Reads (k c) (c :: (text ++ rest)) a rest) :
    ReadsText (someChar .endInValue >>= k) (c :: text) a :=
  ⟨⟨c, text, rfl, hblank, hend⟩,
    fun _ rest hbs => (reads_someChar .endInValue hbs hblank).bind (h rest)⟩

lemma ReadsText.placed (h : ReadsText x text a) : ReadsText (Read.placed x) text a :=
  ⟨h.starts, fun bs rest hbs => (h.reads bs rest hbs).placed⟩

/-- What is made of what is read back. -/
lemma ReadsText.bind (h : ReadsText x text a) (hf : ∀ rest, Reads (f a) rest b rest) :
    ReadsText (x >>= f) text b :=
  ⟨h.starts, fun bs rest hbs => (h.reads bs rest hbs).bind (hf rest)⟩

/-- What stands in brackets, or what is left of it: each item after some blanks,
with commas between, and blanks before the closing bracket. In brackets without
items there are no blanks. -/
def listed (before after : List Char) : (first : Bool) → List (List Char) → List Char
  | first, [] => if first then [] else after
  | first, text :: texts =>
    (if first then [] else [',']) ++ (before ++ (text ++ listed before after false texts))

variable {before after : List Char} {texts : List (List Char)}

/-- There are at least as many characters as items, but for the first. -/
lemma length_le_listed (before after : List Char) (first : Bool) (texts : List (List Char)) :
    texts.length ≤ (listed before after first texts).length + first.toNat := by
  induction texts generalizing first with
  | nil => exact Nat.zero_le _
  | cons text texts ih =>
      have hrest := ih false
      rw [Bool.toNat_false] at hrest
      simp only [listed, List.length_append, List.length_cons]
      cases first <;> simp <;> omega

/-- There are fewer items than characters up to the closing bracket. -/
lemma length_lt_of_listed {n : Nat}
    (hn : (listed before after true texts ++ c :: rest).length < n) : texts.length < n := by
  have hlength := length_le_listed before after true texts
  rw [Bool.toNat_true] at hlength
  rw [List.length_append, List.length_cons] at hn
  omega

/-! ### Lists -/

section Lists

variable {element : Read α} {as : List α} {n : Nat}

lemma reads_hasElement_end (first : Bool) (hbs : bs.all isBlank) :
    Reads (hasElement first) (bs ++ ']' :: s) false (']' :: s) :=
  (reads_someChar .endInList hbs rfl).bind (reads_pure _ _)

lemma reads_hasElement (first : Bool) (hbs : bs.all isBlank) (htext : Starts text) :
    Reads (hasElement first) ((if first then [] else [',']) ++ (bs ++ (text ++ s))) true
      (text ++ s) := by
  obtain ⟨c, cs, rfl, hblank, hend⟩ := htext
  cases first with
  | true =>
      refine (reads_someChar .endInList hbs hblank).bind ?_
      split
      · exact absurd rfl hend
      · exact reads_pure _ _
  | false =>
      refine (reads_someChar_cons .endInList rfl).bind ?_
      refine (reads_advance _ _).bind ((reads_skipBlanks hbs hblank).bind ?_)
      split
      · next h => exact absurd (Option.some.inj h) hend
      · exact reads_pure _ _
      · next h => cases h

/-- **The elements of a list are read back.** -/
lemma reads_elements (htexts : List.Forall₂ (ReadsText element) texts as)
    (hbefore : before.all isBlank) (hafter : after.all isBlank) (first : Bool)
    (hn : as.length < n) (rest : List Char) :
    Reads (elements element n first) (listed before after first texts ++ ']' :: rest) as
      (']' :: rest) := by
  -- the number of steps goes down with the elements that are left, so it never runs out
  induction htexts generalizing first n with
  | nil =>
      obtain ⟨j, rfl⟩ := Nat.exists_eq_add_of_lt hn
      refine (reads_hasElement_end first ?_).bind (reads_pure _ _)
      cases first <;> simp [listed, hafter]
  | cons htext htexts ih =>
      obtain ⟨j, rfl⟩ := Nat.exists_eq_add_of_lt hn
      rw [listed]
      simp only [List.append_assoc]
      exact (reads_hasElement first hbefore htext.starts).bind ((htext.reads [] _ rfl).bind
        ((ih false (Nat.lt_of_succ_lt_succ hn)).bind (reads_pure _ _)))

lemma reads_endList (s : List Char) : Reads endList (']' :: s) () s :=
  (reads_someChar_cons .endInList rfl).bind (reads_advance _ _)

/-- What stands in the brackets of a list is read back with the closing one: what
is left to read has more characters than there are elements. -/
lemma reads_list (htexts : List.Forall₂ (ReadsText element) texts as)
    (hbefore : before.all isBlank) (hafter : after.all isBlank)
    (hn : (listed before after true texts ++ ']' :: rest).length < n) :
    Reads (Read.enclosed (elements element n true) endList)
      (listed before after true texts ++ ']' :: rest) as rest := by
  refine (reads_elements htexts hbefore hafter true ?_ rest).enclosed (reads_endList rest)
  rw [← htexts.length_eq]
  exact length_lt_of_listed hn

end Lists

/-! ### Objects -/

/-- How the values of the fields of a record are read. -/
def fieldReader (fields : List (String × Decoder β)) (depth : Nat) (k : String) :
    Option (Read β) :=
  (fields.lookup k).map (·.read depth)

/-- The text of a member: its key, a colon, some blanks and its value. -/
def memberText (gap : List Char) (k : String) (text : List Char) : List Char :=
  (quoted k).toList ++ ':' :: (gap ++ text)

/-- The text of a member is read back, where the key says how the value is
read. -/
def ReadsMember (reader : String → Option (Read β)) (gap text : List Char) (m : String × β) :
    Prop :=
  ∃ x valueText, reader m.1 = some x ∧ text = memberText gap m.1 valueText
    ∧ ReadsText x valueText m.2

section Objects

variable {gap : List Char} {ms : List (String × β)} {n : Nat}

lemma reads_hasMember_end (first : Bool) (hbs : bs.all isBlank) :
    Reads (hasMember first) (bs ++ '\x7d' :: s) false ('\x7d' :: s) :=
  (reads_someChar .endInObject hbs rfl).bind (reads_pure _ _)

lemma reads_hasMember (first : Bool) (hbs : bs.all isBlank) (gap : List Char) (k : String)
    (text : List Char) :
    Reads (hasMember first) ((if first then [] else [',']) ++ (bs ++ (memberText gap k text ++ s)))
      true (memberText gap k text ++ s) := by
  rw [memberText, toList_quoted]
  cases first with
  | true =>
      refine (reads_someChar .endInObject hbs rfl).bind ?_
      exact (reads_skipBlanks_cons rfl).bind (reads_pure _ _)
  | false =>
      refine (reads_someChar_cons .endInObject rfl).bind ?_
      exact (reads_advance _ _).bind ((reads_skipBlanks hbs rfl).bind (reads_pure _ _))

lemma reads_colon (s : List Char) : Reads colon (':' :: s) () s :=
  (reads_someChar_cons .endInObject rfl).bind (reads_advance _ _)

lemma reads_endObject (s : List Char) : Reads endObject ('\x7d' :: s) () s :=
  (reads_someChar_cons .endInObject rfl).bind (reads_advance _ _)

lemma reads_memberKey (gap : List Char) (k : String) (text s : List Char) :
    Reads key (memberText gap k text ++ s) k (':' :: (gap ++ (text ++ s))) := by
  rw [memberText]
  simpa using reads_key k (':' :: (gap ++ (text ++ s)))

/-- **The members of an object are read back.** -/
lemma reads_members {member : Read β}
    (htexts : List.Forall₂ (ReadsMember (fun _ => some member) gap) texts ms)
    (hbefore : before.all isBlank) (hafter : after.all isBlank) (hgap : gap.all isBlank)
    (first : Bool) (hn : ms.length < n) (rest : List Char) :
    Reads (members member n first) (listed before after first texts ++ '\x7d' :: rest) ms
      ('\x7d' :: rest) := by
  induction htexts generalizing first n with
  | nil =>
      obtain ⟨j, rfl⟩ := Nat.exists_eq_add_of_lt hn
      refine (reads_hasMember_end first ?_).bind (reads_pure _ _)
      cases first <;> simp [listed, hafter]
  | cons htext htexts ih =>
      obtain ⟨j, rfl⟩ := Nat.exists_eq_add_of_lt hn
      obtain ⟨x, text, hx, rfl, hread⟩ := htext
      obtain rfl := Option.some.inj hx
      rw [listed]
      simp only [List.append_assoc]
      exact (reads_hasMember first hbefore gap _ text).bind ((reads_memberKey gap _ text _).bind
        ((reads_colon _).bind ((hread.reads gap _ hgap).bind
          ((ih false (Nat.lt_of_succ_lt_succ hn)).bind (reads_pure _ _)))))

/-- **The fields of a record are read back**, if each is there once. -/
lemma reads_readMembers {fields : List (String × Decoder β)} {depth : Nat}
    (htexts : List.Forall₂ (ReadsMember (fieldReader fields depth) gap) texts ms)
    (hbefore : before.all isBlank) (hafter : after.all isBlank) (hgap : gap.all isBlank)
    (first : Bool) (acc : Decoder.Fields β) (hacc : ((acc ++ ms).map (·.1)).Nodup)
    (hn : ms.length < n) (rest : List Char) :
    Reads (Decoder.readMembers fields depth n first acc)
      (listed before after first texts ++ '\x7d' :: rest) (acc ++ ms) ('\x7d' :: rest) := by
  induction htexts generalizing first n acc with
  | nil =>
      obtain ⟨j, rfl⟩ := Nat.exists_eq_add_of_lt hn
      rw [List.append_nil]
      refine (reads_hasMember_end first ?_).bind (reads_pure _ _)
      cases first <;> simp [listed, hafter]
  | @cons _ m _ ms htext htexts ih =>
      obtain ⟨j, rfl⟩ := Nat.exists_eq_add_of_lt hn
      obtain ⟨x, text, hx, rfl, hread⟩ := htext
      obtain ⟨d, hd, rfl⟩ := Option.map_eq_some_iff.mp hx
      obtain ⟨k, b⟩ := m
      -- a field that was read before would be a fault
      have hnew : acc.lookup k = none := by
        simp only [List.map_append, List.map_cons, List.nodup_append, List.mem_map] at hacc
        rw [List.lookup_eq_none_iff]
        intro p hp
        simpa using Ne.symm (hacc.2.2 p.1 ⟨p, hp, rfl⟩ k List.mem_cons_self)
      rw [List.append_cons] at hacc
      have hrest := ih false _ hacc (Nat.lt_of_succ_lt_succ hn)
      rw [← List.append_cons] at hrest
      rw [listed]
      simp only [List.append_assoc]
      refine (reads_hasMember first hbefore gap k text).bind
        ((reads_memberKey gap k text _).bind ?_)
      simp only [hd, hnew]
      exact (reads_colon _).bind ((hread.reads gap _ hgap).bind hrest)

/-- What stands in the brackets of an object is read back with the closing one. -/
lemma reads_object {member : Read β}
    (htexts : List.Forall₂ (ReadsMember (fun _ => some member) gap) texts ms)
    (hbefore : before.all isBlank) (hafter : after.all isBlank) (hgap : gap.all isBlank)
    (hn : (listed before after true texts ++ '\x7d' :: rest).length < n) :
    Reads (Read.enclosed (members member n true) endObject)
      (listed before after true texts ++ '\x7d' :: rest) ms rest := by
  refine (reads_members htexts hbefore hafter hgap true ?_ rest).enclosed (reads_endObject rest)
  rw [← htexts.length_eq]
  exact length_lt_of_listed hn

/-- So is what stands in the brackets of a record. -/
lemma reads_record {fields : List (String × Decoder β)} {depth : Nat}
    (htexts : List.Forall₂ (ReadsMember (fieldReader fields depth) gap) texts ms)
    (hbefore : before.all isBlank) (hafter : after.all isBlank) (hgap : gap.all isBlank)
    (hms : (ms.map (·.1)).Nodup)
    (hn : (listed before after true texts ++ '\x7d' :: rest).length < n) :
    Reads (Read.enclosed (Decoder.readMembers fields depth n true []) endObject)
      (listed before after true texts ++ '\x7d' :: rest) ms rest := by
  refine Reads.enclosed (reads_readMembers htexts hbefore hafter hgap true [] hms ?_ rest)
    (reads_endObject rest)
  rw [← htexts.length_eq]
  exact length_lt_of_listed hn

end Objects

end Read

end Json

end ConsoleStrip
