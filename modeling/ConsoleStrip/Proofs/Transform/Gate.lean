/-
Which files are rewritten.

* `FileKind.ofPath?_eq_some`: the kind of a path is the one whose extension
  stands at its end, after a dot;
* `PathFilter.Admits`: what a filter asks of a path. The two signs that separate
  folders count as one, in the filter and in the path;
* `PathFilter.accepts_iff_admits`: that is what a filter accepts. To write both
  with one sign and to look for one in the other is to look for a part of the
  path that differs in such signs alone;
* `Options.transform_gate`: a file passes through exactly if its path is not one
  to rewrite, whatever is in it.
-/
import Mathlib.Data.List.Forall2
import Mathlib.Data.List.TakeWhile
import Mathlib.Tactic
import ConsoleStrip.Transform

namespace ConsoleStrip

/-! ### Extensions -/

namespace FileKind

/-- What follows the last dot of a text has no dot in it and stands at the end,
after a dot. -/
lemma afterLastDot?_eq_some {cs ext : List Char} :
    afterLastDot? cs = some ext ↔ '.' ∉ ext ∧ '.' :: ext <:+ cs := by
  constructor
  · intro h
    rw [afterLastDot?, Option.ite_none_right_eq_some] at h
    obtain ⟨hdot, h⟩ := h
    obtain rfl := Option.some.inj h
    have hmem : '.' ∈ cs.reverse := by simpa using hdot
    -- the dot is where the run of other characters from the end stops
    obtain ⟨c, rest, hrest⟩ : ∃ c rest, cs.reverse.dropWhile (· != '.') = c :: rest := by
      refine List.exists_cons_of_ne_nil fun hnil => ?_
      simpa using List.dropWhile_eq_nil_iff.mp hnil '.' hmem
    have hc : c = '.' := by
      have hhead := List.head?_dropWhile_not (· != '.') cs.reverse
      rw [hrest] at hhead
      simpa using hhead
    have hsplit := List.takeWhile_append_dropWhile (p := (· != '.')) (l := cs.reverse)
    rw [hrest, hc] at hsplit
    refine ⟨?_, rest.reverse, ?_⟩
    · intro hin
      simpa using List.mem_takeWhile_imp (List.mem_reverse.mp hin)
    · simpa using congrArg List.reverse hsplit
  · rintro ⟨hno, pre, rfl⟩
    have hrun : (ext.reverse ++ '.' :: pre.reverse).takeWhile (· != '.') = ext.reverse := by
      rw [List.takeWhile_append_of_pos, List.takeWhile_cons_of_neg (by simp), List.append_nil]
      intro c hc
      have hne : c ≠ '.' := fun heq => hno (heq ▸ List.mem_reverse.mp hc)
      simpa using hne
    simp [afterLastDot?, hrun]

lemma ofExtension?_eq_some {ext : String} {k : FileKind} :
    ofExtension? ext = some k ↔ k.extension = ext := by
  constructor
  · intro h
    simpa using List.find?_some h
  · rintro rfl
    cases k <;> rfl

/-- **The kind of a path** is the one whose extension stands at the end, after a
dot. -/
lemma ofPath?_eq_some {path : String} {k : FileKind} :
    ofPath? path = some k ↔ '.' :: k.extension.toList <:+ path.toList := by
  rw [ofPath?, Option.bind_eq_some_iff]
  simp only [afterLastDot?_eq_some, ofExtension?_eq_some]
  constructor
  · rintro ⟨ext, ⟨-, hsuffix⟩, hext⟩
    rwa [hext, String.toList_ofList]
  · intro hsuffix
    refine ⟨k.extension.toList, ⟨?_, hsuffix⟩, String.ofList_toList.symm⟩
    cases k <;> decide

/-- The extensions of all kinds. -/
lemma mem_extensions {ext : String} :
    ext ∈ ["js", "jsx", "ts", "tsx", "vue", "svelte"] ↔ ∃ k : FileKind, k.extension = ext := by
  change ext ∈ all.map extension ↔ _
  rw [List.mem_map]
  constructor
  · rintro ⟨k, -, hk⟩
    exact ⟨k, hk⟩
  · rintro ⟨k, hk⟩
    exact ⟨k, by cases k <;> decide, hk⟩

end FileKind

/-! ### Filters -/

namespace PathFilter

/-- A sign that separates folders. -/
def IsSeparator (c : Char) : Prop := c = '/' ∨ c = '\\'

/-- Two signs are the same, or both separate folders. -/
def Alike (c d : Char) : Prop := c = d ∨ IsSeparator c ∧ IsSeparator d

/-- What a filter asks of a path: that a text stands somewhere in it, where all
signs that separate folders are alike, or that a regular expression occurs in
the path as it is. -/
def Admits : PathFilter → String → Prop
  | literal text, path =>
    ∃ before part after, path.toList = before ++ part ++ after
      ∧ List.Forall₂ Alike text.toList part
  | pattern r, path => r.occursIn path = true

/-- A sign written with one separator. -/
def withSlash (c : Char) : Char := if c == '\\' then '/' else c

/-- Two signs are alike exactly if they are the same once they are written with
one separator. -/
lemma alike_iff {c d : Char} : Alike c d ↔ withSlash c = withSlash d := by
  rw [withSlash, withSlash]
  constructor
  · rintro (rfl | ⟨rfl | rfl, rfl | rfl⟩) <;> rfl
  · intro h
    by_cases hc : c = '\\' <;> by_cases hd : d = '\\'
    · exact .inl (hc.trans hd.symm)
    · exact .inr ⟨.inr hc, .inl (by simpa [hc, hd] using h.symm)⟩
    · exact .inr ⟨.inl (by simpa [hc, hd] using h), .inr hd⟩
    · exact .inl (by simpa [hc, hd] using h)

lemma forall₂_alike_iff {cs ds : List Char} :
    List.Forall₂ Alike cs ds ↔ cs.map withSlash = ds.map withSlash := by
  have halike : Alike = fun c d => withSlash c = withSlash d :=
    funext₂ fun _ _ => propext alike_iff
  rw [← List.forall₂_eq_eq_eq, List.forall₂_map_left_iff, List.forall₂_map_right_iff, halike]

/-- What a filter accepts is what it asks for. -/
lemma accepts_iff_admits {f : PathFilter} {path : String} :
    f.accepts path = true ↔ f.Admits path := by
  cases f with
  | pattern r => exact Iff.rfl
  | literal text =>
      rw [accepts, occursIn_eq_true_iff, Admits]
      change text.toList.map withSlash <:+: path.toList.map withSlash ↔ _
      simp only [forall₂_alike_iff]
      constructor
      · rintro ⟨before, after, h⟩
        obtain ⟨front, after', hpath, hfront, rfl⟩ := List.map_eq_append_iff.mp h.symm
        obtain ⟨before', part, rfl, rfl, hpart⟩ := List.map_eq_append_iff.mp hfront
        exact ⟨before', part, after', hpath, hpart.symm⟩
      · rintro ⟨before, part, after, hpath, hpart⟩
        exact ⟨before.map withSlash, after.map withSlash, by rw [hpart, hpath]; simp⟩

end PathFilter

/-! ### The gate -/

namespace Options

variable (o : Options) (code path : String)

/-- A file passes through: it comes back as it is, without a source map, with
nothing counted, and without a failure. -/
def PassesThrough : Prop :=
  ∃ t, (o.transform code path).1 = .ok t ∧ t.code = code ∧ t.map? = none ∧ t.summary = ⟨0, 0, 0⟩

/-- A file whose path is not one to rewrite is left as it is. -/
lemma transform_of_unhandled (h : o.handles path = false) :
    (o.transform code path).1 = .ok (.untouched code) := by
  rw [transform]
  cases hkind : FileKind.ofPath? path with
  | none => rfl
  | some kind =>
      have haccepts : o.acceptsPath path = false := by simpa [handles, hkind] using h
      simp [haccepts]

/-- A file whose path is one to rewrite is read as its kind says. It cannot be
read, or it is rewritten. -/
lemma transform_of_handled (h : o.handles path = true) :
    ∃ kind, FileKind.ofPath? path = some kind
      ∧ ((∃ f, parseFile path code kind = .error f ∧ (o.transform code path).1 = .error f)
        ∨ ∃ file, parseFile path code kind = .ok file
          ∧ (o.transform code path).1 = .ok (.rewritten (o.rewrite path file))) := by
  rw [handles, Bool.and_eq_true] at h
  obtain ⟨hkind, haccepts⟩ := h
  obtain ⟨kind, hkind⟩ := Option.isSome_iff_exists.mp hkind
  refine ⟨kind, hkind, ?_⟩
  cases hparse : parseFile path code kind with
  | error f => exact .inl ⟨f, rfl, by simp [transform, hkind, haccepts, hparse]⟩
  | ok file => exact .inr ⟨file, rfl, by simp [transform, hkind, haccepts, hparse]⟩

/-- A path has a kind exactly if one of the extensions stands at its end, after
a dot, and no two of them do. -/
lemma isSome_ofPath?_iff :
    (FileKind.ofPath? path).isSome = true ↔
      ∃! ext, ext ∈ ["js", "jsx", "ts", "tsx", "vue", "svelte"]
        ∧ '.' :: ext.toList <:+ path.toList := by
  rw [Option.isSome_iff_exists]
  constructor
  · rintro ⟨k, hk⟩
    refine ⟨k.extension, ⟨FileKind.mem_extensions.mpr ⟨k, rfl⟩, FileKind.ofPath?_eq_some.mp hk⟩, ?_⟩
    rintro ext ⟨hext, hsuffix⟩
    obtain ⟨k', rfl⟩ := FileKind.mem_extensions.mp hext
    rw [FileKind.ofPath?_eq_some.mpr hsuffix] at hk
    rw [Option.some.inj hk]
  · rintro ⟨ext, ⟨hext, hsuffix⟩, -⟩
    obtain ⟨k, rfl⟩ := FileKind.mem_extensions.mp hext
    exact ⟨k, FileKind.ofPath?_eq_some.mpr hsuffix⟩

/-- **Which files are rewritten.** A file passes through exactly if its path is
not one to rewrite, whatever its text is. A path is one to rewrite exactly if it
ends in a dot and one of the extensions, and there are no filters or one of them
admits it. A file with such a path, and no other, either cannot be read or comes
back with a source map. -/
theorem transform_gate :
    (o.PassesThrough code path ↔ o.handles path = false)
    ∧ (o.handles path = true ↔
        (∃! ext, ext ∈ ["js", "jsx", "ts", "tsx", "vue", "svelte"]
          ∧ '.' :: ext.toList <:+ path.toList)
        ∧ (o.external = [] ∨ ∃ f ∈ o.external, f.Admits path))
    ∧ (o.handles path = true ↔
        (∃ kind f, FileKind.ofPath? path = some kind ∧ parseFile path code kind = .error f
          ∧ (o.transform code path).1 = .error f)
        ∨ ∃ t, (o.transform code path).1 = .ok t ∧ t.map?.isSome = true) := by
  refine ⟨⟨?_, ?_⟩, ?_, ?_, ?_⟩
  · rintro ⟨t, ht, -, hmap, -⟩
    by_contra hhandles
    obtain ⟨kind, -, ⟨f, -, hf⟩ | ⟨file, -, hfile⟩⟩ :=
      o.transform_of_handled code path (Bool.not_eq_false _ ▸ hhandles)
    · rw [hf] at ht
      simp at ht
    · rw [hfile] at ht
      obtain rfl := Except.ok.inj ht
      simp [Transformed.map?] at hmap
  · intro h
    exact ⟨_, o.transform_of_unhandled code path h, rfl, rfl, rfl⟩
  · rw [handles, Bool.and_eq_true, isSome_ofPath?_iff, acceptsPath, Bool.or_eq_true,
      List.isEmpty_iff, List.any_eq_true]
    simp only [PathFilter.accepts_iff_admits]
  · intro h
    obtain ⟨kind, hkind, ⟨f, hparse, hf⟩ | ⟨file, -, hfile⟩⟩ := o.transform_of_handled code path h
    · exact .inl ⟨kind, f, hkind, hparse, hf⟩
    · exact .inr ⟨_, hfile, rfl⟩
  · intro h
    by_contra hhandles
    have hleft := o.transform_of_unhandled code path (Bool.not_eq_true _ ▸ hhandles)
    rw [hleft] at h
    rcases h with ⟨kind, f, -, -, hf⟩ | ⟨t, ht, hmap⟩
    · simp at hf
    · obtain rfl := Except.ok.inj ht
      simp [Transformed.map?] at hmap

end Options

end ConsoleStrip
