/-
More names.

* `Widens`: one list of names takes in all calls that another takes in;
* `Site.LiesIn`: one site lies in another. `Policy.exists_takesOut_around`: what
  is not reached lies in a call that is taken out by itself;
* `Policy.strip_widened`: with more names every decision stays what it is, except
  inside the calls that go with them. A call that is met on the way down is
  decided about with the owner that it has in the tree, and the names around it
  have no part in that.
-/
import ConsoleStrip.Proofs.Comment.Order
import ConsoleStrip.Proofs.Strip.Edit
import ConsoleStrip.Transform

namespace ConsoleStrip

/-! ### Lists of names -/

/-- A list of names has some names, and another list has them too or, being
empty, stands for all names. -/
structure Widens (wide narrow : List String) : Prop where
  named : narrow ≠ []
  wider : wide = [] ∨ narrow ⊆ wide

variable {wide narrow : List String}

/-- A call that a list of names takes in is taken in by a wider one, as a call
of the same member. -/
lemma Widens.matched? (h : Widens wide narrow) {n : Node} {member : ConsoleMember}
    (hn : n.matched? narrow = some member) : n.matched? wide = some member := by
  rw [Node.matched?] at hn ⊢
  cases hcall : n.consoleMember? with
  | none => simp [hcall] at hn
  | some m =>
      have hnarrow : narrow.isEmpty = false := by simpa using h.named
      cases hname : m.name with
      | none => simp [hcall, hnarrow, hname] at hn
      | some w =>
          obtain ⟨hw, rfl⟩ : w ∈ narrow ∧ m = member := by simpa [hcall, hnarrow, hname] using hn
          obtain rfl | hsub := h.wider
          · simp
          · simp [hname, hsub hw]

/-! ### Sites in sites -/

/-- A site lies in another: its way goes on from the way of that one. -/
def Site.LiesIn (s t : Site) : Prop := ∃ i rest, s.way = t.way ++ i :: rest

namespace Node

/-- A site below some children is a site below one of them. -/
lemma exists_of_mem_sitesOf {ks : List Node} {way : List Nat} {above : List Node} {s : Site} :
    ∀ i, s ∈ sitesOf way above i ks →
      ∃ j, ∃ c ∈ ks, s ∈ c.sitesFrom (way ++ [j]) above
        ∧ c.sitesFrom (way ++ [j]) above ⊆ sitesOf way above i ks := by
  induction ks with
  | nil => simp [sitesOf]
  | cons c cs ih =>
      intro i hs
      rw [sitesOf, List.mem_append] at hs
      rw [sitesOf]
      rcases hs with hs | hs
      · exact ⟨i, c, by simp, hs, List.subset_append_left _ _⟩
      · obtain ⟨j, d, hd, hs, hsub⟩ := ih (i + 1) hs
        exact ⟨j, d, by simp [hd], hs, List.subset_append_of_subset_right _ hsub⟩

end Node

namespace Policy

variable {p : Policy}

/-- What is not reached, although the node above it is, lies in a call that is
taken out by itself: the outermost of those around it that nothing keeps. -/
lemma exists_takesOut_around {s : Site} (n : Node) : ∀ way above,
    p.reachesUnder above = true → s ∈ n.sitesFrom way above → p.reaches s = false →
      ∃ t ∈ n.sitesFrom way above, s.LiesIn t ∧ p.takesOut t = true := by
  induction n using Node.ind with
  | habsent => simp [Node.sitesFrom]
  | hnode r k sp ks ih =>
      intro way above hreach hs hunreached
      rw [Node.sitesFrom, List.mem_cons] at hs
      rw [Node.sitesFrom]
      rcases hs with rfl | hs
      · rw [reaches, hreach] at hunreached
        simp at hunreached
      · obtain ⟨j, c, hc, hs, hsub⟩ := Node.exists_of_mem_sitesOf 0 hs
        cases hcond : p.condemns ⟨way, above, .node r k sp ks⟩ with
        | true =>
            obtain ⟨rest, hway, -⟩ := c.leadsFrom_of_mem_sitesFrom _ _ s hs
            refine ⟨_, List.mem_cons_self, ⟨j, rest, by simp [hway]⟩, ?_⟩
            rw [takesOut, reaches, hreach, hcond]
            rfl
        | false =>
            have hinner : p.reachesUnder (.node r k sp ks :: above) = true := by
              rw [reachesUnder_cons, ← p.condemns_way way, hcond, hreach]
              rfl
            obtain ⟨t, ht, hlies, htakes⟩ := ih c hc _ _ hinner hs hunreached
            exact ⟨t, List.mem_cons_of_mem _ (hsub ht), hlies, htakes⟩

/-! ### Two policies side by side -/

/-- The same policy for other names. -/
def withIncludes (p : Policy) (names : List String) : Policy := { p with includes := names }

/-- What is decided about a site: nothing, if it lies in a call that goes. -/
def decision? (p : Policy) (s : Site) : Option Verdict :=
  if p.reaches s then p.verdict? s else none

/-- The tree that stripping leaves and the decisions, site by site. -/
lemma strip_eq_decisions (p : Policy) (m : Node) :
    p.strip m = (m.edit (p.takenOut m), m.sites.filterMap p.decision?) := p.strip_eq m

/-- The verdict on a call does not depend on the names that take it in. -/
lemma verdict?_of_widens (h : Widens wide p.includes) {s : Site} {v : Verdict}
    (hv : p.verdict? s = some v) : (p.withIncludes wide).verdict? s = some v := by
  rw [verdict?, judge, Option.map_eq_some_iff] at hv
  obtain ⟨member, hmatched, rfl⟩ := hv
  rw [verdict?, judge, Option.map_eq_some_iff]
  exact ⟨member, h.matched? hmatched, rfl⟩

/-- What is taken out was decided about, and nothing keeps it. -/
lemma exists_decision?_of_takesOut {t : Site} (h : p.takesOut t = true) :
    ∃ v, p.decision? t = some v ∧ v.keep = false := by
  rw [takesOut, Bool.and_eq_true] at h
  obtain ⟨hreach, hcond⟩ := h
  rw [condemns, Option.any_eq_true] at hcond
  obtain ⟨v, hv, hkeep⟩ := hcond
  exact ⟨v, by rw [decision?, if_pos hreach, hv], by simpa using hkeep⟩

/-- **More names only take out more.** What is decided about a call, be it to
keep it or to take it out, is decided about it with more names too, unless it
lies in a call that these take out. -/
theorem strip_widened (p : Policy) {wide : List String} (h : Widens wide p.includes) (m : Node) :
    let q := p.withIncludes wide
    p.strip m = (m.edit (p.takenOut m), m.sites.filterMap p.decision?)
    ∧ q.strip m = (m.edit (q.takenOut m), m.sites.filterMap q.decision?)
    ∧ ∀ s ∈ m.sites, ∀ v, p.decision? s = some v →
        q.decision? s = some v
        ∨ ∃ t ∈ m.sites, s.LiesIn t ∧ ∃ w, q.decision? t = some w ∧ w.keep = false := by
  intro q
  refine ⟨p.strip_eq_decisions m, q.strip_eq_decisions m, fun s hs v hv => ?_⟩
  rw [decision?] at hv
  split at hv
  · cases hreach : q.reaches s with
    | true => exact .inl (by rw [decision?, if_pos hreach, verdict?_of_widens h hv])
    | false =>
        obtain ⟨t, ht, hlies, htakes⟩ := exists_takesOut_around m [] [] rfl hs hreach
        exact .inr ⟨t, ht, hlies, exists_decision?_of_takesOut htakes⟩
  · simp at hv

/-- With a second name the call around another one goes, and takes it along. The
call after it is kept for the same reason as before. -/
theorem strip_widened_outer :
    ∃ file, parseFile "a.js"
        "console.log(console.warn(1));\n/* keep-console */ console.warn(2);" .js = .ok file
      ∧ let p := ({ includes := ["warn"] } : Options).policy file.index
        let q := p.withIncludes ["log", "warn"]
        Widens ["log", "warn"] p.includes
        ∧ Summary.ofVerdicts (p.strip file.module).2 = ⟨0, 1, 1⟩
        ∧ Summary.ofVerdicts (q.strip file.module).2 = ⟨1, 0, 1⟩
        ∧ ∃ s ∈ file.module.sites, p.takesOut s = true ∧ q.decision? s = none
          ∧ ∃ t ∈ file.module.sites, s.LiesIn t ∧ ∃ w, q.decision? t = some w ∧ w.keep = false := by
  obtain ⟨file, hfile, hrun⟩ : ∃ file, parseFile "a.js"
        "console.log(console.warn(1));\n/* keep-console */ console.warn(2);" .js = .ok file
      ∧ (let p := ({ includes := ["warn"] } : Options).policy file.index
        let q := p.withIncludes ["log", "warn"]
        decide (Summary.ofVerdicts (p.strip file.module).2 = ⟨0, 1, 1⟩)
        && decide (Summary.ofVerdicts (q.strip file.module).2 = ⟨1, 0, 1⟩)
        && file.module.sites.any fun s => p.takesOut s && (q.decision? s).isNone) = true :=
    exists_parsed (by decide +kernel)
  rw [Bool.and_eq_true, Bool.and_eq_true, decide_eq_true_eq, decide_eq_true_eq,
    List.any_eq_true] at hrun
  obtain ⟨⟨hfew, hmore⟩, s, hs, hfound⟩ := hrun
  rw [Bool.and_eq_true, Option.isNone_iff_eq_none] at hfound
  obtain ⟨htakes, hnone⟩ := hfound
  have hwidens : Widens ["log", "warn"]
      (({ includes := ["warn"] } : Options).policy file.index).includes :=
    ⟨List.cons_ne_nil _ _, .inr (List.subset_cons_self _ _)⟩
  obtain ⟨v, hv, -⟩ := exists_decision?_of_takesOut htakes
  obtain ⟨-, -, hall⟩ := strip_widened _ hwidens file.module
  refine ⟨file, hfile, hwidens, hfew, hmore, s, hs, htakes, hnone, ?_⟩
  obtain hsame | hinside := hall s hs v hv
  · rw [hnone] at hsame
    simp at hsame
  · exact hinside

end Policy

end ConsoleStrip
