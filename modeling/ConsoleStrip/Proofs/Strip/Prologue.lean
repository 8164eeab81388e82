/-
The strings that a list of statements starts with.

* `opensWith`: of the elements that a list starts with, one is of a given sort
  and those before it are passed over. Where elements are taken out, they are
  passed over too (`opensWith_filter`);
* `Node.prologue`: the strings that a list of statements starts with. A body has
  the directive `use strict` exactly if one of these says so
  (`isSome_directiveSpan?`);
* `Policy.prologue_editItems`: stripping leaves a list that starts with the
  strings with which its statements that do not go start;
* `Policy.useStrict_left_iff`: when a body starts with the directive
  `use strict`, before and after stripping. A statement that goes makes room for
  a string after it, and so a string that was no directive can become one;
* `Options.printed_after_stripping_unread`: a file with such a body can be read
  before it is stripped and not after.
-/
import ConsoleStrip.Proofs.Comment.Order
import ConsoleStrip.Proofs.Strip.Account

namespace ConsoleStrip

/-! ### Elements at the start of a list -/

/-- One of the elements that a list starts with satisfies `q`, and those before
it satisfy `r`. -/
def opensWith {α : Type} (q r : α → Bool) : List α → Bool
  | [] => false
  | x :: xs => q x || r x && opensWith q r xs

section OpensWith

variable {α : Type} {q r : α → Bool}

lemma opensWith_iff {l : List α} :
    opensWith q r l = true
      ↔ ∃ pre d post, l = pre ++ d :: post ∧ q d = true ∧ ∀ x ∈ pre, r x = true := by
  induction l with
  | nil => simp [opensWith]
  | cons x xs ih =>
      rw [opensWith, Bool.or_eq_true, Bool.and_eq_true, ih]
      constructor
      · rintro (hx | ⟨hx, pre, d, post, rfl, hd, hpre⟩)
        · exact ⟨[], x, xs, rfl, hx, by simp⟩
        · exact ⟨x :: pre, d, post, rfl, hd, by simpa [hx] using hpre⟩
      · rintro ⟨pre, d, post, heq, hd, hpre⟩
        cases pre with
        | nil =>
            obtain ⟨rfl, rfl⟩ := List.cons.inj heq
            exact .inl hd
        | cons y ys =>
            obtain ⟨rfl, rfl⟩ := List.cons.inj heq
            exact .inr ⟨hpre x (by simp), ys, d, post, rfl, hd, fun z hz => hpre z (by simp [hz])⟩

/-- Elements that are taken out are passed over. -/
lemma opensWith_filter {k : α → Bool} (hq : ∀ x, q x = true → k x = true) (l : List α) :
    opensWith q r (l.filter k) = opensWith q (fun x => r x || !k x) l := by
  induction l with
  | nil => rfl
  | cons x xs ih =>
      cases hk : k x with
      | true => rw [List.filter_cons_of_pos hk, opensWith, opensWith, ih, hk]; simp
      | false =>
          have hqx : q x = false := by
            by_contra hno
            simp [hq x (Bool.not_eq_false _ ▸ hno)] at hk
          rw [List.filter_cons_of_neg (by simp [hk]), opensWith, ih, hqx, hk]
          simp

end OpensWith

/-! ### Strings that are statements -/

namespace Node

/-- The strings that a list of statements starts with, as they are spelled. -/
def prologue (ks : List Node) : List String :=
  (ks.takeWhile Parser.isStringStatement).filterMap Parser.stringStatement?

/-- Which strings a list starts with is told by which of its statements are
strings. -/
lemma prologue_congr {ks ls : List Node}
    (h : ks.map Parser.stringStatement? = ls.map Parser.stringStatement?) :
    prologue ks = prologue ls := by
  have hread : ∀ ks : List Node, prologue ks
      = ((ks.map Parser.stringStatement?).takeWhile Option.isSome).filterMap id := by
    intro ks
    rw [List.takeWhile_map, List.filterMap_map]
    rfl
  rw [hread, hread, h]

lemma prologue_ne_nil_iff {ks : List Node} :
    prologue ks ≠ [] ↔ ks.takeWhile Parser.isStringStatement ≠ [] := by
  cases ks with
  | nil => simp [prologue]
  | cons x xs =>
      cases hx : Parser.stringStatement? x <;> simp [prologue, Parser.isStringStatement, hx]

/-- A list starts with a string of some spelling exactly if it opens with one,
after strings only. -/
lemma any_prologue (f : String → Bool) (ks : List Node) :
    (prologue ks).any f
      = opensWith (fun x => (Parser.stringStatement? x).any f) Parser.isStringStatement ks := by
  induction ks with
  | nil => rfl
  | cons x xs ih =>
      rw [opensWith, ← ih]
      cases hx : Parser.stringStatement? x <;> simp [prologue, Parser.isStringStatement, hx]

/-- How the directive `use strict` is spelled. -/
def spellsUseStrict (raw : String) : Bool := raw == "'use strict'" || raw == "\"use strict\""

/-- A body has the directive exactly if one of the strings that its statements
start with spells it. -/
lemma isSome_directiveSpan? (b : Node) :
    (Parser.directiveSpan? b).isSome = (prologue (b.kid 0).kids).any spellsUseStrict := by
  rw [Parser.directiveSpan?, Option.isSome_map, List.isSome_find?, prologue, List.any_filterMap]
  rfl

/-- A statement with a call that is the whole of it is no string. -/
lemma stringStatement?_eq_none {n c : Node} (h : n.statementCall? = some c) :
    Parser.stringStatement? n = none := by
  obtain ⟨s, e, rfl, rfl, hcall⟩ := statementCall?_eq_some h
  have hstr : e.str? = none := by
    unfold str?
    split
    · next raw hraw =>
      -- what is a string is not in parentheses
      have hp : e.isParen = false := by
        cases e with
        | absent => rfl
        | node r k s ks => rw [isParen_node, show k = .str raw from hraw]; rfl
      rw [peelParens_eq_self hp, isCall, hraw] at hcall
      simp at hcall
    · rfl
  have hkid : (node .statement .exprStmt s [e]).kid 0 = e := rfl
  rw [Parser.stringStatement?, hkid, hstr]
  simp

end Node

/-! ### What is left of a list of statements -/

namespace Policy

variable {p : Policy} {gone : List (List Nat)} {r : Role} {k : Kind} {sp : Span} {ks : List Node}
  {way : List Nat} {above : List Node}

lemma str?_edited (n : Node) (h : p.Agrees gone (n.sitesFrom way above)) :
    (n.edited gone way).str? = n.str? := by
  cases n with
  | absent => rfl
  | node r k sp ks =>
      rcases edited_cases h with ⟨rfl, rfl, hedit⟩ | ⟨rfl, rfl, hedit⟩ | hedit
      all_goals rw [hedit]; rfl

/-- Editing what is in a statement does not change the string that it is, and
does not make it one. -/
lemma stringStatement?_editKids (h : p.Agrees gone ((Node.node r k sp ks).sitesFrom way above)) :
    Parser.stringStatement? (.node r k sp (Node.editKids gone way k ks))
      = Parser.stringStatement? (.node r k sp ks) := by
  by_cases hk : k = .exprStmt
  · have hkid : ((Node.node r k sp (Node.editKids gone way k ks)).kid 0).str?
        = ((Node.node r k sp ks).kid 0).str? := by
      rw [Node.editKids_eq_editAll (by simp [hk])]
      cases ks with
      | nil => rfl
      | cons c cs =>
          have hc : p.Agrees gone (c.sitesFrom (way ++ [0]) (.node r k sp (c :: cs) :: above)) :=
            fun s hs => h.kids s (by simp [Node.sitesOf, hs])
          rw [Node.editAll_cons]
          exact str?_edited c hc
    rw [Parser.stringStatement?, Parser.stringStatement?, hkid]
    rfl
  · have hkind : (k == .exprStmt) = false := by simpa using hk
    simp [Parser.stringStatement?, Node.kind, hkind]

/-- A statement of a list goes, or something is left of it that is the string
that it was. -/
lemma editFrom_item {c : Node} (hreach : p.reachesUnder above = true)
    (hagree : p.Agrees gone (c.sitesFrom way above)) :
    (p.removes ⟨[], above, c⟩ = true ∧ c.editFrom gone way = none)
    ∨ (p.removes ⟨[], above, c⟩ = false
      ∧ ∃ c', c.editFrom gone way = some c'
        ∧ Parser.stringStatement? c' = Parser.stringStatement? c) := by
  have hremoves : p.removes ⟨[], above, c⟩ = p.losesStatement ⟨way, above, c⟩ := by
    rw [removes, reaches, hreach]
    rfl
  rw [hremoves]
  cases c with
  | absent => exact .inr ⟨rfl, .absent, by rw [Node.editFrom], rfl⟩
  | node r k sp ks =>
      rcases Node.editFrom_cases gone way r k sp ks with
        ⟨w, hw, hgone, hedit⟩ | ⟨hstays, ⟨hsite, hedit⟩ | ⟨hsite, hedit⟩⟩
      · exact .inl ⟨losesStatement_eq_true hreach hagree hw hgone, hedit⟩
      · rw [hagree.self] at hsite
        have hkind : k = .call := (isCall_of_takesOut hsite).2
        refine .inr ⟨losesStatement_eq_false hreach hagree hstays, _, hedit, ?_⟩
        rw [hkind]
        rfl
      · exact .inr ⟨losesStatement_eq_false hreach hagree hstays, _, hedit,
          stringStatement?_editKids hagree⟩

/-- **What is left of a list of statements**: those that do not go, in their
order, and each is the string that it was, if any. -/
lemma map_stringStatement?_editItems (hreach : p.reachesUnder above = true) : ∀ i,
    p.Agrees gone (Node.sitesOf way above i ks) →
    (Node.editItems gone way i ks).map Parser.stringStatement?
      = (ks.filter fun c => !p.removes ⟨[], above, c⟩).map Parser.stringStatement? := by
  induction ks with
  | nil => intro i _; rfl
  | cons c cs ih =>
      intro i hagree
      rw [Node.sitesOf] at hagree
      have hc : p.Agrees gone (c.sitesFrom (way ++ [i]) above) :=
        fun s hs => hagree s (List.mem_append_left _ hs)
      have hcs := ih (i + 1) fun s hs => hagree s (List.mem_append_right _ hs)
      rw [Node.editItems, List.map_append, hcs]
      obtain ⟨hgone, hedit⟩ | ⟨hstays, c', hedit, hsame⟩ := editFrom_item hreach hc
      · rw [hedit, List.filter_cons_of_neg (by simp [hgone])]
        rfl
      · rw [hedit, List.filter_cons_of_pos (by simp [hstays]), List.map_cons, ← hsame]
        rfl

/-- **What a list starts with that is left**: with the strings with which those
of its statements start that do not go. -/
lemma prologue_editItems (hreach : p.reachesUnder above = true)
    (hagree : p.Agrees gone (Node.sitesOf way above 0 ks)) :
    Node.prologue (Node.editItems gone way 0 ks)
      = Node.prologue (ks.filter fun c => !p.removes ⟨[], above, c⟩) :=
  Node.prologue_congr (map_stringStatement?_editItems hreach 0 hagree)

/-- A string does not go. -/
lemma not_removes_of_isStringStatement {x : Node} (h : Parser.isStringStatement x = true) :
    (!p.removes ⟨way, above, x⟩) = true := by
  rw [Bool.not_eq_true', removes]
  cases hcall : x.statementCall? with
  | none => simp [losesStatement, hcall]
  | some c => simp [Parser.isStringStatement, Node.stringStatement?_eq_none hcall] at h

/-- A node that is neither a call nor a statement with one stays, with what is
left of its children. -/
lemma editFrom_of_plain (hagree : p.Agrees gone ((Node.node r k sp ks).sitesFrom way above))
    (hcall : k ≠ .call) (hstmt : k ≠ .exprStmt) :
    (Node.node r k sp ks).editFrom gone way
      = some (.node r k sp (Node.editKids gone way k ks)) := by
  have hun : (Node.node r k sp ks).matched? p.includes = none :=
    Node.matched?_eq_none (by simp [Node.isCall, Node.kind, hcall])
  have hway : (Node.node r k sp ks).wholeWay? = none := by
    by_contra hsome
    obtain ⟨w, hw⟩ := Option.ne_none_iff_exists'.mp hsome
    obtain ⟨c, hc⟩ := Node.exists_statementCall? hw
    obtain ⟨s, e, heq, -, -⟩ := Node.statementCall?_eq_some hc
    exact hstmt (Node.node.inj heq).2.1
  refine Node.editFrom_eq_node (by simp [hway]) ?_
  rw [hagree.self, takesOut, p.condemns_eq_false hun, Bool.and_false]

/-- The node of a site is found to be a body without the directive
`use strict` that stripping leaves with it. -/
def promotes (p : Policy) (s : Site) : Bool :=
  p.reaches s && !(Parser.directiveSpan? s.node).isSome
    && match s.node with
      | .node _ .block _ [.node r .items sp ks] =>
        opensWith Parser.isUseStrict (fun x => Parser.isStringStatement x
          || p.removes ⟨[], .node r .items sp ks :: s.node :: s.above, x⟩) ks
      | _ => false

lemma exists_block_of_promotes {s : Site} (h : p.promotes s = true) :
    ∃ r sp r' sp' ks, s.node = .node r .block sp [.node r' .items sp' ks] ∧ p.reaches s = true
      ∧ (Parser.directiveSpan? s.node).isSome = false
      ∧ opensWith Parser.isUseStrict (fun x => Parser.isStringStatement x
          || p.removes ⟨[], .node r' .items sp' ks :: s.node :: s.above, x⟩) ks = true := by
  rw [promotes, Bool.and_eq_true, Bool.and_eq_true] at h
  obtain ⟨⟨hreach, hbefore⟩, hopens⟩ := h
  split at hopens
  · next r sp r' sp' ks hnode =>
    exact ⟨r, sp, r', sp', ks, hnode, hreach, by simpa using hbefore, hopens⟩
  · simp at hopens

/-- **When a body starts with the directive `use strict`.** In the given tree it
does if only strings stand before it in the body, and in the tree that stripping
leaves, if only strings and statements that go do. So a string that a statement
which goes keeps from being a directive becomes one. -/
theorem useStrict_left_iff (p : Policy) {m : Node} {s : Site} {r r' : Role} {sp sp' : Span}
    {ks : List Node} (hs : s ∈ m.sites)
    (hnode : s.node = .node r .block sp [.node r' .items sp' ks])
    (hreach : p.reaches s = true) :
    ∃ ks', s.node.editFrom (p.takenOut m) s.way = some (.node r .block sp [.node r' .items sp' ks'])
      ∧ ((Parser.directiveSpan? s.node).isSome = true
        ↔ ∃ pre d post, ks = pre ++ d :: post ∧ Parser.isUseStrict d = true
          ∧ ∀ x ∈ pre, Parser.isStringStatement x = true)
      ∧ ((Parser.directiveSpan? (.node r .block sp [.node r' .items sp' ks'])).isSome = true
        ↔ ∃ pre d post, ks = pre ++ d :: post ∧ Parser.isUseStrict d = true
          ∧ ∀ x ∈ pre, Parser.isStringStatement x = true
            ∨ p.removes ⟨[], .node r' .items sp' ks :: s.node :: s.above, x⟩ = true) := by
  have hagree : p.Agrees (p.takenOut m) (s.node.sitesFrom s.way s.above) :=
    fun t ht => p.contains_takenOut (m.sitesFrom_subset [] [] hs ht)
  have hreach' : p.reachesUnder (.node r' .items sp' ks :: s.node :: s.above) = true := by
    rw [p.reachesUnder_cons_of_unmatched (Node.matched?_eq_none (by simp [Node.isCall, Node.kind])),
      p.reachesUnder_cons_of_unmatched (Node.matched?_eq_none (by simp [hnode, Node.isCall,
        Node.kind]))]
    exact hreach
  rw [hnode] at hagree hreach' ⊢
  have hitems : p.Agrees (p.takenOut m) ((Node.node r' .items sp' ks).sitesFrom (s.way ++ [0])
      (.node r .block sp [.node r' .items sp' ks] :: s.above)) :=
    fun t ht => hagree.kids t (by simpa [Node.sitesOf] using ht)
  refine ⟨Node.editItems (p.takenOut m) (s.way ++ [0]) 0 ks, ?_, ?_, ?_⟩
  · rw [editFrom_of_plain hagree (by simp) (by simp), Node.editKids_eq_editAll (by simp),
      Node.editAll_cons, Node.edited, editFrom_of_plain hitems (by simp) (by simp)]
    rfl
  · rw [Node.isSome_directiveSpan?, Node.any_prologue, opensWith_iff]
    rfl
  · have hstays : ∀ x : Node, Parser.isUseStrict x = true →
        (!p.removes ⟨[], .node r' .items sp' ks :: .node r .block sp [.node r' .items sp' ks]
          :: s.above, x⟩) = true :=
      fun x hx => not_removes_of_isStringStatement (Option.isSome_of_any hx)
    have hleft := prologue_editItems hreach' hitems.kids
    rw [Node.isSome_directiveSpan?]
    change (Node.prologue (Node.editItems (p.takenOut m) (s.way ++ [0]) 0 ks)).any _ = true ↔ _
    rw [hleft, Node.any_prologue]
    change opensWith Parser.isUseStrict _ _ = true ↔ _
    rw [opensWith_filter hstays, opensWith_iff]
    simp only [Bool.or_eq_true, Bool.not_not]

/-- The body of a function, whose string stands behind a call: it opens with no
directive, and what is left of it does. -/
theorem useStrict_left_promoted :
    ∃ file, parseFile "a.ts" "function f(a = 1) \x7b console.log(1); \"use strict\"; \x7d" .ts
        = .ok file
      ∧ ∃ s ∈ file.module.sites, ∃ block,
        s.node.editFrom ((({} : Options).policy file.index).takenOut file.module) s.way = some block
        ∧ (Parser.directiveSpan? s.node).isSome = false
        ∧ (Parser.directiveSpan? block).isSome = true := by
  obtain ⟨file, hfile, hrun⟩ : ∃ file,
      parseFile "a.ts" "function f(a = 1) \x7b console.log(1); \"use strict\"; \x7d" .ts = .ok file
      ∧ file.module.sites.any (({} : Options).policy file.index).promotes = true :=
    exists_parsed (by decide +kernel)
  obtain ⟨s, hs, hfound⟩ := List.any_eq_true.mp hrun
  obtain ⟨r, sp, r', sp', ks, hnode, hreach, hbefore, hopens⟩ := exists_block_of_promotes hfound
  obtain ⟨ks', hedit, -, hafter⟩ := useStrict_left_iff _ hs hnode hreach
  refine ⟨file, hfile, s, hs, _, hedit, hbefore, hafter.mpr ?_⟩
  simpa using opensWith_iff.mp hopens

end Policy

namespace Options

/-- A file that is read again after it is printed need not be so after it is
stripped. -/
theorem printed_after_stripping_unread :
    ¬ ∀ (o : Options) (path code : String) (kind : FileKind) (file : ParsedFile),
      FileKind.ofPath? path = some kind → parseFile path code kind = .ok file →
      (parseFile path (file.module.print file.comments).text kind).isOk = true →
      (parseFile path (o.rewrite path file).output.text kind).isOk = true := by
  intro hall
  obtain ⟨file, hfile, hrun⟩ : ∃ file,
      parseFile "a.ts" "function f(a = 1) \x7b console.log(1); \"use strict\"; \x7d" .ts = .ok file
      ∧ ((parseFile "a.ts" (file.module.print file.comments).text .ts).isOk
        && !(parseFile "a.ts" (({} : Options).rewrite "a.ts" file).output.text .ts).isOk) = true :=
    exists_parsed (by decide +kernel)
  rw [Bool.and_eq_true] at hrun
  have hread := hall {} "a.ts" _ .ts file (by decide) hfile hrun.1
  simp [hread] at hrun

end Options

end ConsoleStrip
