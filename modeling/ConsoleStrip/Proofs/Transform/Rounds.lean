/-
Transforming a file again.

* `Options.rounds_only`: what is read the next time, and what is then counted. A
  comment that is not printed is not in it, also if it kept a call; every call is
  kept again exactly if the text that is read has a marker for each and as many
  calls as were left;
* `Options.kept_call_stripped_next`: a call that was kept can be without its
  marker the next time.
-/
import ConsoleStrip.Proofs.Print.Place
import ConsoleStrip.Proofs.Strip.Spared
import ConsoleStrip.Proofs.Transform.Gate

namespace ConsoleStrip

namespace Options

variable {o : Options} {path code : String} {r : Rewritten}

/-- A file that is to be rewritten, and that can be read, is. -/
lemma transform_eq_rewritten {kind : FileKind} {file : ParsedFile}
    (hkind : FileKind.ofPath? path = some kind) (ho : o.acceptsPath path = true)
    (hfile : parseFile path code kind = .ok file) :
    (o.transform code path).1 = .ok (.rewritten (o.rewrite path file)) := by
  simp [transform, hkind, ho, hfile]

/-- A file that was rewritten is one to rewrite, and could be read. -/
lemma exists_parsed_of_rewritten (h : (o.transform code path).1 = .ok (.rewritten r)) :
    o.handles path = true ∧ ∃ kind file, FileKind.ofPath? path = some kind
      ∧ parseFile path code kind = .ok file ∧ r = o.rewrite path file := by
  cases hhandles : o.handles path with
  | false => simp [transform_of_unhandled o code path hhandles] at h
  | true =>
      obtain ⟨kind, hkind, ⟨f, -, herror⟩ | ⟨file, hfile, hok⟩⟩ :=
        transform_of_handled o code path hhandles
      · simp [herror] at h
      · rw [h] at hok
        exact ⟨rfl, kind, file, hkind, hfile, by simpa using hok⟩

/-- As many calls are retained in a file as are left in it. -/
lemma retained_rewrite (o : Options) (path : String) (file : ParsedFile) :
    (o.rewrite path file).summary.retained
      = (o.rewrite path file).module.preorder.countP (fun n => (n.matched? o.includes).isSome) :=
  ((o.policy file.index).countP_matched_strip file.module).symm

/-- No call of a file goes, and a number of calls is retained, exactly if a
marker speaks for each call of the file and they are that many. -/
lemma rewrite_keeps_iff (o : Options) (path : String) (file : ParsedFile) (n : Nat) :
    (o.rewrite path file).summary.stripped = 0 ∧ (o.rewrite path file).summary.retained = n ↔
      (∀ s ∈ file.module.sites, (s.node.matched? o.includes).isSome = true →
        o.markers.keeps (file.index.collect s.node s.owner?) = true)
      ∧ file.module.preorder.countP (fun n => (n.matched? o.includes).isSome) = n := by
  have hspares : (o.rewrite path file).summary.stripped = 0 ↔
      (o.policy file.index).Spares file.module := Policy.stripped_eq_zero_iff
  rw [hspares]
  refine (and_congr_right fun h => ?_).trans (and_congr_left fun _ => Policy.spares_iff_keeps)
  have hretained : (o.rewrite path file).summary.retained
      = file.module.preorder.countP (fun n => (n.matched? o.includes).isSome) :=
    congrArg Summary.retained h.ofVerdicts_strip
  rw [hretained]

/-- **Transforming again.** A file that was rewritten is read the next time as
what is left of it, printed with the comments at its places alone: a comment that
is attached elsewhere is gone, also if it kept a call. If that text can be read,
the next time takes out no call and retains as many as the first exactly if each
call in the text has a marker that speaks for it there, and as many calls stand
in the text as in the tree that was printed. -/
theorem rounds_only (o : Options) {path code : String} {r : Rewritten} (n : Nat)
    (h : (o.transform code path).1 = .ok (.rewritten r)) :
    let text := (r.module.print (r.comments.only (r.module.places.contains ·))).text
    o.rounds path (n + 1) code = .ok (.rewritten r) :: o.rounds path n text
    ∧ ∀ t, (o.transform text path).1 = .ok t →
      ∃ kind file, FileKind.ofPath? path = some kind ∧ parseFile path text kind = .ok file
        ∧ t = .rewritten (o.rewrite path file)
        ∧ (t.summary.stripped = 0 ∧ t.summary.retained = r.summary.retained ↔
          (∀ s ∈ file.module.sites, (s.node.matched? o.includes).isSome = true →
            o.markers.keeps (file.index.collect s.node s.owner?) = true)
          ∧ file.module.preorder.countP (fun n => (n.matched? o.includes).isSome)
            = r.module.preorder.countP (fun n => (n.matched? o.includes).isSome)) := by
  intro text
  have hprint : r.module.print (r.comments.only (r.module.places.contains ·))
      = (r.module.print r.comments).only (r.module.places.contains ·) :=
    Node.print_only (fun pos hpos => List.contains_iff_mem.mpr hpos) r.comments
  constructor
  · rw [rounds, h, show text = _ from congrArg Output.text hprint]
    rfl
  · intro t ht
    obtain ⟨hhandles, _, first, -, -, rfl⟩ := exists_parsed_of_rewritten h
    obtain ⟨kind, hkind, ⟨f, -, herror⟩ | ⟨file, hfile, hok⟩⟩ :=
      transform_of_handled o text path hhandles
    · simp [herror] at ht
    · obtain rfl : t = .rewritten (o.rewrite path file) := by simpa [hok] using ht.symm
      refine ⟨kind, file, hkind, hfile, rfl, ?_⟩
      rw [← retained_rewrite]
      exact rewrite_keeps_iff o path file _

/-- The comment in an empty list of arguments keeps its call once: the next time
the call stands there without it, and goes. -/
theorem rounds_only_bare_comment :
    ∃ r, (({} : Options).transform "console.log(/* keep-console */);" "a.js").1 = .ok (.rewritten r)
      ∧ r.summary = ⟨0, 0, 1⟩
      ∧ ({} : Options).rounds "a.js" 2 "console.log(/* keep-console */);"
        = .ok (.rewritten r) :: ({} : Options).rounds "a.js" 1 "console.log();\n"
      ∧ ∃ t, (({} : Options).transform "console.log();\n" "a.js").1 = .ok t
        ∧ ¬ (t.summary.stripped = 0 ∧ t.summary.retained = 1) := by
  obtain ⟨file, hfile, hrun⟩ : ∃ file,
      parseFile "a.js" "console.log(/* keep-console */);" .js = .ok file
      ∧ (let r := ({} : Options).rewrite "a.js" file
        decide (r.summary = ⟨0, 0, 1⟩)
          && (r.module.print (r.comments.only (r.module.places.contains ·))).text
            == "console.log();\n") = true :=
    exists_parsed (by decide +kernel)
  -- a call without a comment in the text that is read next
  obtain ⟨next, hnext, hbare⟩ : ∃ next, parseFile "a.js" "console.log();\n" .js = .ok next
      ∧ (next.module.sites.any fun s => (s.node.matched? []).isSome
        && !({} : Options).markers.keeps (next.index.collect s.node s.owner?)) = true :=
    exists_parsed (by decide +kernel)
  rw [Bool.and_eq_true, decide_eq_true_eq, beq_iff_eq] at hrun
  obtain ⟨hsummary, htext⟩ := hrun
  have htransform := @transform_eq_rewritten {} "a.js" _ .js file (by decide) (by decide) hfile
  have hagain := @transform_eq_rewritten {} "a.js" _ .js next (by decide) (by decide) hnext
  obtain ⟨hrounds, hcounts⟩ := rounds_only {} 1 htransform
  rw [htext] at hrounds hcounts
  refine ⟨_, htransform, hsummary, hrounds, _, hagain, fun hkept => ?_⟩
  obtain ⟨kind, file', hkind, hfile', -, hiff⟩ := hcounts _ hagain
  obtain rfl : .js = kind :=
    Option.some.inj ((show FileKind.ofPath? "a.js" = some .js by decide).symm.trans hkind)
  obtain rfl : next = file' := by simpa [hnext] using hfile'
  rw [hsummary] at hiff
  obtain ⟨s, hs, hfound⟩ := List.any_eq_true.mp hbare
  rw [Bool.and_eq_true, Bool.not_eq_true'] at hfound
  have hkeeps := (hiff.mp hkept).1 s hs hfound.1
  rw [hkeeps] at hfound
  simp at hfound

/-- A call that was kept need not be kept when the file is transformed again. -/
theorem kept_call_stripped_next :
    ¬ ∀ (o : Options) (path code : String) (t t' : Transformed),
      (o.transform code path).1 = .ok t → (o.transform t.code path).1 = .ok t' →
      t'.summary.stripped = 0 ∧ t'.summary.retained = t.summary.retained := by
  intro hall
  obtain ⟨file, hfile, hrun⟩ : ∃ file,
      parseFile "a.js" "console.log(/* keep-console */);" .js = .ok file
      ∧ ((({} : Options).rewrite "a.js" file).output.text == "console.log();\n") = true :=
    exists_parsed (by decide +kernel)
  obtain ⟨file', hfile', hrun'⟩ : ∃ file', parseFile "a.js" "console.log();\n" .js = .ok file'
      ∧ decide ((({} : Options).rewrite "a.js" file').summary = ⟨1, 0, 0⟩) = true :=
    exists_parsed (by decide +kernel)
  rw [beq_iff_eq] at hrun
  rw [decide_eq_true_eq] at hrun'
  have hagain := hall {} "a.js" _ _ _
    (transform_eq_rewritten (by decide) (by decide) hfile)
    (by rw [Transformed.code, hrun]; exact transform_eq_rewritten (by decide) (by decide) hfile')
  rw [Transformed.summary, hrun'] at hagain
  simp [Summary.stripped] at hagain

end Options

end ConsoleStrip
