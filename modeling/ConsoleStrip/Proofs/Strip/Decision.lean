/-
Deciding about all calls of a tree before anything is taken out.

* `Site.statement?`, `Site.owner?`: the expression statement that a site is the
  whole of, parentheses aside, and the node whose comments speak for a call
  there: that statement, or else the innermost owner around the site;
* `Policy.verdictOf`: the verdict on a node, read off the given tree alone;
* `Policy.reaches`: nothing that a node stands in is taken out;
* `Policy.decisions`: the verdicts on the calls that are reached, in the order
  of the sites;
* `Policy.takenOut`: the ways to the calls that are reached and not kept.
  `contains_takenOut` says that a way is among them exactly if its site is.
-/
import ConsoleStrip.Proofs.Tree.Site
import ConsoleStrip.Strip.Rewrite

namespace ConsoleStrip

/-! ### Where a call stands -/

namespace Node

/-- The expression statement that a node in `above` is the whole of,
parentheses aside. -/
def statementAmong? : (above : List Node) → Option Node
  | node _ .paren _ [_] :: above => statementAmong? above
  | node .statement .exprStmt s [e] :: _ => some (node .statement .exprStmt s [e])
  | _ => none

/-- The extent of the innermost owner among the nodes that a node stands in. -/
def ownerAmong? (above : List Node) : Option Extent := (above.find? isOwner).map extent

end Node

namespace Site

/-- The expression statement that the site is the whole of, parentheses
aside. -/
def statement? (s : Site) : Option Node := Node.statementAmong? s.above

/-- The extent of the node whose comments speak for a call at the site. -/
def owner? (s : Site) : Option Extent :=
  match s.statement? with
  | some stmt => some stmt.extent
  | none => Node.ownerAmong? s.above

end Site

/-! ### The decisions -/

namespace Policy

variable (p : Policy)

/-- The verdict on the node of a site, if it is a call to decide about. -/
def verdict? (s : Site) : Option Verdict := p.judge s.owner? s.statement?.isSome s.node

/-- The node of a site is a call that nothing keeps. -/
def condemns (s : Site) : Bool := (p.verdict? s).any (!·.keep)

/-- None of the nodes around a site is a call that nothing keeps. -/
def reachesUnder : (above : List Node) → Bool
  | [] => true
  | n :: above => !p.condemns ⟨[], above, n⟩ && reachesUnder above

/-- The site lies in no call that nothing keeps. -/
def reaches (s : Site) : Bool := p.reachesUnder s.above

/-- The verdicts on the calls among some sites that are reached. -/
def decisions (ss : List Site) : List Verdict :=
  ss.filterMap fun s => if p.reaches s then p.verdict? s else none

/-- The site is that of a call that is taken out by itself, and not with
something around it. -/
def takesOut (s : Site) : Bool := p.reaches s && p.condemns s

/-- The ways to the calls of a tree that are taken out. -/
def takenOut (m : Node) : List (List Nat) := (m.sites.filter p.takesOut).map (·.way)

/-- The way of a site is among those taken out exactly if its call is taken
out: no other site has that way. -/
lemma contains_takenOut {m : Node} {s : Site} (hs : s ∈ m.sites) :
    (p.takenOut m).contains s.way = p.takesOut s := by
  rw [Bool.eq_iff_iff, List.contains_iff_mem, takenOut, List.mem_map]
  constructor
  · rintro ⟨t, ht, hway⟩
    obtain ⟨hmem, htakes⟩ := List.mem_filter.mp ht
    rwa [← List.inj_on_of_nodup_map m.nodup_way_sites hmem hs hway]
  · intro htakes
    exact ⟨s, List.mem_filter.mpr ⟨hs, htakes⟩, rfl⟩

/-! ### What decides the decisions -/

@[simp] lemma decisions_nil : p.decisions [] = [] := rfl

@[simp] lemma decisions_append (ss ts : List Site) :
    p.decisions (ss ++ ts) = p.decisions ss ++ p.decisions ts := by
  simp [decisions]

lemma decisions_cons (s : Site) (ss : List Site) :
    p.decisions (s :: ss)
      = (if p.reaches s then (p.verdict? s).toList else []) ++ p.decisions ss := by
  unfold decisions
  rw [List.filterMap_cons]
  by_cases h : p.reaches s
  · cases p.verdict? s <;> simp [h]
  · simp [h]

/-- The way to a site has no part in what is decided about it. -/
lemma condemns_way (way : List Nat) (above : List Node) (n : Node) :
    p.condemns ⟨way, above, n⟩ = p.condemns ⟨[], above, n⟩ := rfl

lemma judge_eq_none {owner : Option Extent} {whole : Bool} {n : Node}
    (h : n.matched? p.includes = none) : p.judge owner whole n = none := by
  simp [judge, h]

lemma matched?_of_judge {owner : Option Extent} {whole : Bool} {n : Node}
    (h : p.judge owner whole n = none) : n.matched? p.includes = none := by
  simpa [judge] using h

lemma verdict?_eq_none {s : Site} (h : s.node.matched? p.includes = none) :
    p.verdict? s = none := p.judge_eq_none h

lemma condemns_eq_false {s : Site} (h : s.node.matched? p.includes = none) :
    p.condemns s = false := by
  simp [condemns, p.verdict?_eq_none h]

lemma decisions_eq_nil_of_unmatched {ss : List Site} (h : ∀ s ∈ ss, p.verdict? s = none) :
    p.decisions ss = [] := by
  rw [decisions, List.filterMap_eq_nil_iff]
  intro s hs
  simp [h s hs]

/-- Nothing inside a call that is taken out is decided about. -/
lemma decisions_eq_nil {ss : List Site} (h : ∀ s ∈ ss, p.reaches s = false) :
    p.decisions ss = [] := by
  rw [decisions, List.filterMap_eq_nil_iff]
  intro s hs
  simp [h s hs]

end Policy

end ConsoleStrip
