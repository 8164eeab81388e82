/-
Trees out of which no call goes.

* `Policy.Spares`: of the calls of a tree none is condemned. Stripping leaves
  such a tree as it is, and keeps each of its calls
  (`Spares.strip_fst`, `Spares.ofVerdicts_strip`);
* `Policy.spares_iff_keeps`: no call is condemned exactly if for each of them
  some comment speaks that has a marker;
* `Policy.stripped_eq_zero_iff`: no call is counted as gone exactly if none is
  condemned. A call that is not reached is counted nowhere, but then the call
  around it that goes is.
-/
import ConsoleStrip.Proofs.Strip.Account
import ConsoleStrip.Proofs.Strip.Widen

namespace ConsoleStrip

namespace Node

/-! ### Editing at no way -/

lemma editFrom_nil (n : Node) : ∀ way, n.editFrom [] way = some n := by
  induction n using ind with
  | habsent => intro way; rw [editFrom]
  | hnode r k s ks ih =>
      have hitems : ∀ ks : List Node, (∀ c ∈ ks, ∀ way, c.editFrom [] way = some c) →
          ∀ way i, editAll [] way i ks = ks ∧ editItems [] way i ks = ks := by
        intro ks
        induction ks with
        | nil => intro _ way i; exact ⟨by rw [editAll], by rw [editItems]⟩
        | cons c cs ihcs =>
            intro hall way i
            obtain ⟨hcs, hcs'⟩ := ihcs (fun d hd => hall d (by simp [hd])) way (i + 1)
            rw [editAll, editItems, hall c (by simp), hcs, hcs']
            exact ⟨rfl, rfl⟩
      intro way
      rw [editFrom_eq_node (by simp) (by simp), editKids, (hitems ks ih way 0).1,
        (hitems ks ih way 0).2, ite_self]

/-- A tree is left as it is if nothing is taken out. -/
lemma edit_nil (m : Node) : m.edit [] = m := by
  rw [edit, editFrom_nil]
  rfl

end Node

namespace Policy

/-- Of the calls of a tree none is condemned. -/
def Spares (p : Policy) (m : Node) : Prop := ∀ s ∈ m.sites, p.condemns s = false

variable {p : Policy} {m : Node}

/-- A call to decide about is condemned exactly if no comment that speaks for it
has a marker. -/
lemma condemns_of_matched {s : Site} {member : ConsoleMember}
    (h : s.node.matched? p.includes = some member) :
    p.condemns s = !p.markers.keeps (p.index.collect s.node s.owner?) := by
  simp [condemns, verdict?, judge, h]

/-- No call is condemned exactly if a marker speaks for each. -/
lemma spares_iff_keeps : p.Spares m ↔
    ∀ s ∈ m.sites, (s.node.matched? p.includes).isSome = true →
      p.markers.keeps (p.index.collect s.node s.owner?) = true := by
  refine forall₂_congr fun s _ => ?_
  cases hmatched : s.node.matched? p.includes with
  | none => simp [p.condemns_eq_false hmatched]
  | some member => simp [condemns_of_matched hmatched]

namespace Spares

variable (h : p.Spares m)
include h

/-- Nothing is taken out of the tree. -/
lemma takenOut : p.takenOut m = [] := by
  rw [Policy.takenOut, List.map_eq_nil_iff, List.filter_eq_nil_iff]
  intro s hs
  rw [takesOut, h s hs, Bool.and_false]
  exact Bool.false_ne_true

/-- Stripping leaves the tree as it is. -/
lemma strip_fst : (p.strip m).1 = m := by
  rw [p.strip_eq, h.takenOut, Node.edit_nil]

/-- Every call that is decided about is kept. -/
lemma keep_of_mem {v : Verdict} (hv : v ∈ (p.strip m).2) : v.keep = true := by
  rw [p.strip_eq, decisions, List.mem_filterMap] at hv
  obtain ⟨s, hs, hverdict⟩ := hv
  split at hverdict
  · have hcond := h s hs
    rw [condemns, hverdict] at hcond
    simpa using hcond
  · simp at hverdict

/-- Stripping counts the calls of the tree as retained, and nothing else. -/
lemma ofVerdicts_strip : Summary.ofVerdicts (p.strip m).2
    = ⟨0, 0, m.preorder.countP fun n => (n.matched? p.includes).isSome⟩ := by
  have hcount := p.countP_matched_strip m
  rw [h.strip_fst] at hcount
  rw [hcount, Summary.ofVerdicts, Summary.mk.injEq]
  refine ⟨?_, ?_, rfl⟩
  all_goals exact List.countP_eq_zero.mpr fun v hv => by simp [h.keep_of_mem hv]

end Spares

/-- A call that is condemned goes, or the call around it that goes is decided
about. -/
lemma exists_verdict_of_condemns {s : Site} (hs : s ∈ m.sites) (hcond : p.condemns s = true) :
    ∃ v ∈ (p.strip m).2, v.keep = false := by
  have htakes : ∃ t ∈ m.sites, p.takesOut t = true := by
    cases hreach : p.reaches s with
    | true => exact ⟨s, hs, by rw [takesOut, hreach, hcond]; rfl⟩
    | false =>
        obtain ⟨t, ht, -, htakes⟩ := exists_takesOut_around m [] [] rfl hs hreach
        exact ⟨t, ht, htakes⟩
  obtain ⟨t, ht, htakes⟩ := htakes
  obtain ⟨v, hv, hkeep⟩ := exists_decision?_of_takesOut htakes
  rw [strip_eq_decisions]
  exact ⟨v, List.mem_filterMap.mpr ⟨t, ht, hv⟩, hkeep⟩

/-- **No call is counted as gone** exactly if none is condemned. -/
lemma stripped_eq_zero_iff :
    (Summary.ofVerdicts (p.strip m).2).stripped = 0 ↔ p.Spares m := by
  constructor
  · intro hzero s hs
    by_contra hcond
    obtain ⟨v, hv, hkeep⟩ := exists_verdict_of_condemns hs (Bool.not_eq_false _ ▸ hcond)
    have htotal := Summary.ofVerdicts_total (p.strip m).2
    have hall : (p.strip m).2.countP (·.keep) = (p.strip m).2.length := by
      rw [Summary.stripped] at hzero
      rw [← htotal, Nat.add_assoc, ← Nat.add_assoc, hzero, Nat.zero_add]
      rfl
    rw [List.countP_eq_length.mp hall v hv] at hkeep
    exact absurd hkeep (by simp)
  · intro h
    rw [h.ofVerdicts_strip]
    rfl

end Policy

end ConsoleStrip
