/-
More markers.

* `Markers.Covers`: each of some markers has one of other markers in it, so that
  a text that has one of the first in it has one of the others in it;
* `Policy.reachesUnder_of_covers`: what is reached with fewer markers is reached
  with more. Around a call that is kept with fewer there is none that goes with
  more: the induction is over the nodes around it;
* `Policy.strip_kept_sublist`: the calls that are kept with fewer markers are
  kept with more. Those that go need not be fewer: in a call that is kept only
  with more markers there can be others that go.
-/
import ConsoleStrip.Proofs.Strip.Account
import ConsoleStrip.Proofs.Comment.Order

namespace ConsoleStrip

/-! ### Markers in markers -/

namespace Markers

/-- Each marker of `ms` has a marker of `ns` in it. -/
def Covers (ns ms : Markers) : Prop :=
  ∀ m ∈ ms.list, ∃ n ∈ ns.list, occursIn n.toList m.toList = true

variable {ns ms : Markers}

/-- Markers are covered by themselves with more. -/
lemma covers_of_subset (h : ms.list ⊆ ns.list) : ns.Covers ms :=
  fun m hm => ⟨m, h hm, occursIn_eq_true_iff.mpr (List.infix_refl _)⟩

/-- A text that has a marker in it has in it what the marker has in it. -/
lemma Covers.occurIn (h : ns.Covers ms) {text : String} (ht : ms.occurIn text = true) :
    ns.occurIn text = true := by
  obtain ⟨m, hm, hmt⟩ := List.any_eq_true.mp ht
  obtain ⟨n, hn, hnm⟩ := h m hm
  refine List.any_eq_true.mpr ⟨n, hn, occursIn_eq_true_iff.mpr ?_⟩
  exact (occursIn_eq_true_iff.mp hnm).trans (occursIn_eq_true_iff.mp hmt)

lemma Covers.keeps (h : ns.Covers ms) {cs : List Comment} (hcs : ms.keeps cs = true) :
    ns.keeps cs = true := by
  obtain ⟨c, hc, hmarker⟩ := List.any_eq_true.mp hcs
  exact List.any_eq_true.mpr ⟨c, hc, h.occurIn hmarker⟩

end Markers

/-! ### Two policies side by side -/

namespace Policy

/-- The same policy with other markers. -/
def withMarkers (p : Policy) (ns : Markers) : Policy := { p with markers := ns }

/-- The verdict on a call that is reached, if it keeps the call. -/
def kept? (p : Policy) (s : Site) : Option Verdict :=
  (if p.reaches s then p.verdict? s else none).filter (·.keep)

/-- The decisions that keep a call, site by site. -/
lemma filter_keep_decisions (p : Policy) (ss : List Site) :
    (p.decisions ss).filter (·.keep) = ss.filterMap p.kept? := by
  rw [decisions, List.filter_filterMap]
  rfl

variable {p : Policy} {ns : Markers}

/-- What keeps a call with fewer markers keeps it with more, on the same
verdict. -/
lemma verdict?_of_covers (h : ns.Covers p.markers) {s : Site} {v : Verdict}
    (hv : p.verdict? s = some v) (hkeep : v.keep = true) :
    (p.withMarkers ns).verdict? s = some v := by
  rw [verdict?, judge, Option.map_eq_some_iff] at hv
  obtain ⟨member, hmatched, rfl⟩ := hv
  have hkeep' : ns.keeps (p.index.collect s.node s.owner?) = true := h.keeps hkeep
  rw [verdict?, judge]
  change (s.node.matched? p.includes).map _ = _
  rw [hmatched, Option.map_some]
  simp only [withMarkers, hkeep', show p.markers.keeps _ = true from hkeep]

/-- A call that goes with more markers goes with fewer. -/
lemma condemns_of_covers (h : ns.Covers p.markers) {s : Site}
    (hs : (p.withMarkers ns).condemns s = true) : p.condemns s = true := by
  cases hmatched : s.node.matched? p.includes with
  | none =>
      have hun : (p.withMarkers ns).condemns s = false :=
        (p.withMarkers ns).condemns_eq_false hmatched
      rw [hun] at hs
      exact absurd hs Bool.false_ne_true
  | some member =>
      cases hkeep : p.markers.keeps (p.index.collect s.node s.owner?) with
      | false => simp [condemns, verdict?, judge, hmatched, hkeep]
      | true =>
          have hkeep' : ns.keeps (p.index.collect s.node s.owner?) = true := h.keeps hkeep
          simp [condemns, verdict?, judge, withMarkers, hmatched, hkeep'] at hs

/-- What is reached with fewer markers is reached with more. -/
lemma reachesUnder_of_covers (h : ns.Covers p.markers) {above : List Node}
    (hreach : p.reachesUnder above = true) : (p.withMarkers ns).reachesUnder above = true := by
  induction above with
  | nil => rfl
  | cons n above ih =>
      rw [reachesUnder_cons, Bool.and_eq_true, Bool.not_eq_true'] at hreach
      obtain ⟨hn, hreach⟩ := hreach
      have hn' : (p.withMarkers ns).condemns ⟨[], above, n⟩ = false := by
        by_contra hcond
        rw [condemns_of_covers h (Bool.not_eq_false _ ▸ hcond)] at hn
        simp at hn
      rw [reachesUnder_cons, hn', ih hreach]
      rfl

/-- A call that is kept with fewer markers is kept with more, on the same
verdict. -/
lemma kept?_of_covers (h : ns.Covers p.markers) {s : Site} {v : Verdict}
    (hv : p.kept? s = some v) : (p.withMarkers ns).kept? s = some v := by
  rw [kept?, Option.filter_eq_some_iff] at hv ⊢
  obtain ⟨hv, hkeep⟩ := hv
  split at hv
  · next hreach =>
    have hreach' : (p.withMarkers ns).reaches s = true := reachesUnder_of_covers h hreach
    rw [if_pos hreach']
    exact ⟨verdict?_of_covers h hv hkeep, hkeep⟩
  · simp at hv

/-- The verdicts that keep a call with fewer markers are among those that do with
more. -/
lemma filterMap_kept?_sublist (h : ns.Covers p.markers) (ss : List Site) :
    (ss.filterMap p.kept?).Sublist (ss.filterMap (p.withMarkers ns).kept?) := by
  have hread : ss.filterMap p.kept?
      = (ss.filter fun s => (p.kept? s).isSome).filterMap (p.withMarkers ns).kept? := by
    rw [List.filterMap_filter]
    refine List.filterMap_congr fun s _ => ?_
    cases hv : p.kept? s with
    | none => rfl
    | some v => exact (kept?_of_covers h hv).symm
  rw [hread]
  exact List.filter_sublist.filterMap _

/-- **More markers keep no fewer calls.** If each marker has one of other
markers in it, then the calls that are kept are, in their order and with their
verdicts, among those that are kept with the other markers, those that are left
in the tree are among those left with the others, and they are no more. -/
theorem strip_kept_sublist (p : Policy) {ns : Markers} (h : ns.Covers p.markers) (m : Node) :
    let fewer := p.strip m
    let more := (p.withMarkers ns).strip m
    (fewer.2.filter (·.keep)).Sublist (more.2.filter (·.keep))
    ∧ (fewer.1.preorder.filterMap (Node.calledAs? p.includes)).Sublist
        (more.1.preorder.filterMap (Node.calledAs? p.includes))
    ∧ (Summary.ofVerdicts fewer.2).retained ≤ (Summary.ofVerdicts more.2).retained := by
  intro fewer more
  have hkept : (fewer.2.filter (·.keep)).Sublist (more.2.filter (·.keep)) := by
    have hfewer : fewer.2 = p.decisions m.sites := congrArg Prod.snd (p.strip_eq m)
    have hmore : more.2 = (p.withMarkers ns).decisions m.sites :=
      congrArg Prod.snd ((p.withMarkers ns).strip_eq m)
    rw [hfewer, hmore, filter_keep_decisions, filter_keep_decisions]
    exact filterMap_kept?_sublist h m.sites
  refine ⟨hkept, ?_, ?_⟩
  · rw [p.filterMap_calledAs?_strip m]
    have hmore := (p.withMarkers ns).filterMap_calledAs?_strip m
    change more.1.preorder.filterMap (Node.calledAs? p.includes) = _ at hmore
    rw [hmore]
    exact hkept.map _
  · simpa only [Summary.ofVerdicts, List.countP_eq_length_filter] using hkept.length_le

/-- With a second marker the call around two others is kept, and they go by
themselves: one call is taken out with fewer markers, and two with more. -/
theorem strip_kept_sublist_outer :
    ∃ file, parseFile "a.js"
        ("/* outer */ console.log(/* a */ console.warn(1), /* b */ console.info(2));\n"
          ++ "/* keep-console */ console.error(3);") .js = .ok file
      ∧ let p := ({} : Options).policy file.index
        let ns := Markers.ofList ["keep-console", "outer"]
        ns.Covers p.markers
        ∧ Summary.ofVerdicts (p.strip file.module).2 = ⟨1, 0, 1⟩
        ∧ Summary.ofVerdicts ((p.withMarkers ns).strip file.module).2 = ⟨0, 2, 2⟩
        ∧ ((p.strip file.module).2.filter (·.keep)).Sublist
            (((p.withMarkers ns).strip file.module).2.filter (·.keep)) := by
  obtain ⟨file, hfile, hrun⟩ : ∃ file, parseFile "a.js"
        ("/* outer */ console.log(/* a */ console.warn(1), /* b */ console.info(2));\n"
          ++ "/* keep-console */ console.error(3);") .js = .ok file
      ∧ (let p := ({} : Options).policy file.index
        let ns := Markers.ofList ["keep-console", "outer"]
        decide (Summary.ofVerdicts (p.strip file.module).2 = ⟨1, 0, 1⟩)
        && decide (Summary.ofVerdicts ((p.withMarkers ns).strip file.module).2 = ⟨0, 2, 2⟩))
        = true :=
    exists_parsed (by decide +kernel)
  rw [Bool.and_eq_true, decide_eq_true_eq, decide_eq_true_eq] at hrun
  have hcovers : (Markers.ofList ["keep-console", "outer"]).Covers
      (({} : Options).policy file.index).markers :=
    Markers.covers_of_subset (List.cons_subset_cons _ (List.nil_subset _))
  exact ⟨file, hfile, hcovers, hrun.1, hrun.2,
    ((({} : Options).policy file.index).strip_kept_sublist hcovers file.module).1⟩

end Policy

end ConsoleStrip
