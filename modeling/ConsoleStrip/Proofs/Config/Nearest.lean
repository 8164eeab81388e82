/-
Where the configuration of a folder is found.

* `Config.Holds`: something with a given name stands in a folder;
* `Config.Nearest`: the nearest folder around a folder, or the folder itself, in
  which a configuration file stands, if no repository is nearer;
* `Config.find_append`: a folder is searched, and then the folder around it.
  `Config.nearest_append_iff`: the nearest folder is told in the same steps;
* `Config.find_nearest`: what is found is in the nearest folder. A configuration
  above a repository is never used.
-/
import ConsoleStrip.Config.Load
import Mathlib.Data.List.Induction
import Mathlib.Tactic.Common

namespace ConsoleStrip

namespace Config

variable {fs : FileSystem} {folder d e : Place} {name : String}

/-- Something with a given name stands in a folder. -/
def Holds (fs : FileSystem) (folder : Place) (name : String) : Prop :=
  (fs.entry? (folder ++ [name])).isSome = true

/-- Of a folder and those around it, the nearest in which a configuration file
stands. No repository is nearer, but there may be one beside the file. -/
structure Nearest (fs : FileSystem) (folder d : Place) : Prop where
  around : d <+: folder
  holds : Holds fs d fileName
  nearest : ∀ e, e <+: folder → d.length < e.length → ¬ Holds fs e fileName
  within : ∀ e, e <+: folder → d.length < e.length → ¬ Holds fs e repositoryMark

/-! ### One folder -/

lemma foundIn?_of_holds (h : Holds fs folder fileName) :
    foundIn? fs folder = some (some (folder ++ [fileName])) := by
  rw [Holds] at h
  rw [foundIn?, if_pos h]

/-- The repository is looked at second. -/
lemma foundIn?_of_repository (hno : ¬ Holds fs folder fileName)
    (h : Holds fs folder repositoryMark) : foundIn? fs folder = some none := by
  rw [Holds] at hno h
  rw [foundIn?, if_neg hno, if_pos h]

lemma foundIn?_of_neither (hno : ¬ Holds fs folder fileName)
    (hmark : ¬ Holds fs folder repositoryMark) : foundIn? fs folder = none := by
  rw [Holds] at hno hmark
  rw [foundIn?, if_neg hno, if_neg hmark]

/-! ### The folders around it -/

lemma find_nil (fs : FileSystem) : find fs [] = (foundIn? fs []).getD none := rfl

/-- A folder is searched, and then the one around it, if there is no answer. -/
lemma find_append (fs : FileSystem) (folder : Place) (name : String) :
    find fs (folder ++ [name]) = (foundIn? fs (folder ++ [name])).getD (find fs folder) := by
  rw [find, List.reverse_append, List.reverse_singleton, List.singleton_append, findUp,
    List.reverse_cons, List.reverse_reverse]
  cases foundIn? fs (folder ++ [name]) <;> rfl

lemma nearest_nil_iff : Nearest fs [] d ↔ d = [] ∧ Holds fs [] fileName := by
  constructor
  · intro h
    obtain rfl := List.prefix_nil.mp h.around
    exact ⟨rfl, h.holds⟩
  · rintro ⟨rfl, h⟩
    have hno : ∀ e : Place, e <+: [] → ¬ ([] : Place).length < e.length := by
      intro e he
      rw [List.prefix_nil.mp he]
      exact Nat.lt_irrefl _
    exact ⟨List.prefix_rfl, h, fun e he hlt => absurd hlt (hno e he),
      fun e he hlt => absurd hlt (hno e he)⟩

/-- The nearest folder is the folder itself, or, if that has neither a
configuration file nor a repository, the nearest from the folder around it. -/
lemma nearest_append_iff :
    Nearest fs (folder ++ [name]) d ↔
      d = folder ++ [name] ∧ Holds fs (folder ++ [name]) fileName
      ∨ ¬ Holds fs (folder ++ [name]) fileName ∧ ¬ Holds fs (folder ++ [name]) repositoryMark
        ∧ Nearest fs folder d := by
  have hlonger : ∀ e, e <+: folder → e.length < (folder ++ [name]).length := by
    intro e he
    rw [List.length_append, List.length_singleton]
    exact Nat.lt_succ_of_le he.length_le
  constructor
  · intro h
    obtain hself | hd := List.prefix_concat_iff.mp h.around
    · exact .inl ⟨hself, hself ▸ h.holds⟩
    · refine .inr ⟨h.nearest _ List.prefix_rfl (hlonger d hd),
        h.within _ List.prefix_rfl (hlonger d hd), hd, h.holds, ?_, ?_⟩
      · exact fun e he => h.nearest e (he.trans (List.prefix_append folder [name]))
      · exact fun e he => h.within e (he.trans (List.prefix_append folder [name]))
  · rintro (⟨rfl, h⟩ | ⟨hfile, hmark, h⟩)
    · have hno : ∀ e, e <+: folder ++ [name] → ¬ (folder ++ [name]).length < e.length :=
        fun e he => Nat.not_lt.mpr he.length_le
      exact ⟨List.prefix_rfl, h, fun e he hlt => absurd hlt (hno e he),
        fun e he hlt => absurd hlt (hno e he)⟩
    · refine ⟨h.around.trans (List.prefix_append folder [name]), h.holds, ?_, ?_⟩ <;>
        intro e he hlt <;>
        obtain hself | he := List.prefix_concat_iff.mp he
      · rwa [hself]
      · exact h.nearest e he hlt
      · rwa [hself]
      · exact h.within e he hlt

/-! ### What is found -/

/-- What is found is the configuration file of the nearest folder. The induction is
on the folders from the top down, so that each step goes one folder up. -/
lemma find_eq_some_iff {p : Place} :
    find fs folder = some p ↔ ∃ d, Nearest fs folder d ∧ p = d ++ [fileName] := by
  induction folder using List.reverseRecOn with
  | nil =>
      simp only [find_nil, nearest_nil_iff]
      by_cases hfile : Holds fs [] fileName
      · simp [foundIn?_of_holds hfile, hfile, eq_comm]
      · by_cases hmark : Holds fs [] repositoryMark
        · simp [foundIn?_of_repository hfile hmark, hfile]
        · simp [foundIn?_of_neither hfile hmark, hfile]
  | append_singleton folder name ih =>
      simp only [find_append, nearest_append_iff]
      by_cases hfile : Holds fs (folder ++ [name]) fileName
      · simp [foundIn?_of_holds hfile, hfile, eq_comm]
      · by_cases hmark : Holds fs (folder ++ [name]) repositoryMark
        · simp [foundIn?_of_repository hfile hmark, hfile, hmark]
        · simp [foundIn?_of_neither hfile hmark, hfile, hmark, ih]

/-- A folder around a folder that has a repository is around the nearest one with a
configuration file. -/
lemma Nearest.under_repository (h : Nearest fs folder d) (he : e <+: folder)
    (hmark : Holds fs e repositoryMark) : e <+: d := by
  have hle : e.length ≤ d.length := by
    by_contra hlt
    exact h.within e he (Nat.lt_of_not_le hlt) hmark
  exact List.prefix_of_prefix_length_le he h.around hle

/-- **The nearest configuration holds.** From any folder, at any depth, the file
that is found is that of the nearest folder which has one, where no repository is
nearer; if there is no such folder, nothing is found and the defaults hold.
Whatever is found stands in or below every folder on the way that has a
repository: a configuration beside a repository is used, and one above it never
is. -/
theorem find_nearest (fs : FileSystem) (folder : Place) :
    (∀ p, find fs folder = some p ↔ ∃ d, Nearest fs folder d ∧ p = d ++ [fileName])
    ∧ (find fs folder = none ↔ ∀ d, ¬ Nearest fs folder d)
    ∧ (∀ d, Nearest fs folder d → load fs folder = ofFile fs (d ++ [fileName]))
    ∧ ((∀ d, ¬ Nearest fs folder d) → load fs folder = (.ok {}, []))
    ∧ ∀ e, e <+: folder → Holds fs e repositoryMark →
      (∀ d, Nearest fs folder d → e <+: d)
      ∧ (Holds fs e fileName →
          (∀ d, d <+: folder → e.length < d.length →
            ¬ Holds fs d fileName ∧ ¬ Holds fs d repositoryMark) →
          find fs folder = some (e ++ [fileName])) := by
  have hsome : ∀ d, Nearest fs folder d → find fs folder = some (d ++ [fileName]) :=
    fun d h => find_eq_some_iff.mpr ⟨d, h, rfl⟩
  have hnone : find fs folder = none ↔ ∀ d, ¬ Nearest fs folder d := by
    rw [Option.eq_none_iff_forall_ne_some]
    constructor
    · exact fun h d hd => h _ (hsome d hd)
    · intro h p hp
      obtain ⟨d, hd, -⟩ := find_eq_some_iff.mp hp
      exact h d hd
  refine ⟨fun p => find_eq_some_iff, hnone, fun d h => ?_, fun h => ?_, fun e he hmark => ⟨?_, ?_⟩⟩
  · rw [load, hsome d h]
  · rw [load, hnone.mpr h]
  · exact fun d h => h.under_repository he hmark
  · exact fun h hno => hsome e
      ⟨he, h, fun d hd hlt => (hno d hd hlt).1, fun d hd hlt => (hno d hd hlt).2⟩

/-- A repository in a repository: nothing is found in the inner one, though the
outer one has a configuration file. From two folders down in the outer one, the
file beside its mark is found. -/
theorem find_nearest_repositories :
    let fs : FileSystem :=
      { entries := [(["a", ".git"], .folder), (["a", fileName], .file (.text "\x7b\x7d")),
          (["a", "b", ".git"], .file (.text "gitdir: ../.git/modules/b")),
          (["a", "c", "d"], .folder)] }
    Nearest fs ["a", "c", "d"] ["a"]
    ∧ (load fs ["a", "c", "d"]).1.toOption.map Loaded.fromFile = some true
    ∧ (∀ d, ¬ Nearest fs ["a", "b"] d)
    ∧ load fs ["a", "b"] = (.ok {}, []) := by
  intro fs
  obtain ⟨houter, -, hload, -⟩ := find_nearest fs ["a", "c", "d"]
  obtain ⟨-, hinner, -, hdefaults, -⟩ := find_nearest fs ["a", "b"]
  have hno : ∀ d, ¬ Nearest fs ["a", "b"] d := hinner.mp (by decide)
  have hfound : find fs ["a", "c", "d"] = some (["a"] ++ [fileName]) := by decide
  obtain ⟨d, hd, heq⟩ := (houter _).mp hfound
  obtain ⟨rfl, -⟩ := List.append_singleton_inj.mp heq
  exact ⟨hd, by rw [hload _ hd]; rfl, hno, hdefaults hno⟩

end Config

end ConsoleStrip
