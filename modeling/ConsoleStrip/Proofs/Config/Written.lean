/-
Options and configurations that are written are read back.

* `PathFilter.IsCompiled`: the regular expression of a filter, if it has one, was
  compiled from a text, as those of all filters that are read are;
* `PathFilter.ofJson_toJson`: such a filter is itself again;
* `Options.readsBack`, `Config.readsBack`: so are options and configurations, in
  whatever layout they are written;
* `written_reads_back`: options on one line, and the text of a configuration file.
-/
import ConsoleStrip.Config
import ConsoleStrip.Proofs.Json.Written

namespace ConsoleStrip

open Json Json.Decoder

variable {l : Layout} {n : Nat}

/-! ### Filters -/

/-- An expression keeps the text that it was compiled from, which compiles to it
again. -/
lemma Regex.pattern_of_compile {text : String} {r : Regex} (h : Regex.compile text = .ok r) :
    r.pattern = text := by
  rw [compile] at h
  split at h
  · split at h
    · cases h
    · rw [← Except.ok.inj h]
  · cases h

/-- The regular expression of a filter, if it has one, was compiled. -/
def PathFilter.IsCompiled : PathFilter → Prop
  | .literal _ => True
  | .pattern r => ∃ text, Regex.compile text = .ok r

/-- A filter that was compiled is itself again: a text stays a text, also one that
looks like a regular expression. -/
lemma PathFilter.ofJson_toJson {f : PathFilter} (hf : f.IsCompiled) :
    PathFilter.ofJson f.toJson = .ok f := by
  cases f with
  | literal text => rfl
  | pattern r =>
      obtain ⟨text, htext⟩ := hf
      simp [toJson, ofJson, ofPattern, Regex.pattern_of_compile htext, htext]

/-- A filter in JSON has at most one bracket open. -/
lemma PathFilter.nests_toJson (f : PathFilter) : Nests (n + 2) f.toJson := by
  cases f with
  | literal text => trivial
  | pattern r => exact ⟨Nat.succ_pos n, by simp [Nests]⟩

/-! ### Fields -/

lemma readsBack_textDecoder (s : String) :
    ReadsBack l OptionValue.textDecoder n (.str s) (.text s) :=
  (readsBack_text s).map _

lemma readsBack_textsDecoder (ss : List String) :
    ReadsBack l OptionValue.textsDecoder (n + 2) (.strs ss) (.texts ss) := by
  refine ReadsBack.map (ReadsBack.list (Nat.succ_pos n) ?_) _
  rw [List.forall₂_map_left_iff, List.forall₂_same]
  exact fun s _ => readsBack_text s

lemma readsBack_filtersDecoder {fs : List PathFilter} (hfs : ∀ f ∈ fs, f.IsCompiled) :
    ReadsBack l OptionValue.filtersDecoder (n + 3) (.arr (fs.map PathFilter.toJson))
      (.filters fs) := by
  refine ReadsBack.map (ReadsBack.list (Nat.succ_pos (n + 1)) ?_) _
  rw [List.forall₂_map_left_iff, List.forall₂_same]
  exact fun f hf => readsBack_viaValue f.nests_toJson (PathFilter.ofJson_toJson (hfs f hf))

/-! ### Options and configurations -/

/-- Options are read back. A list that is empty is there, so that no default
takes its place. -/
lemma Options.readsBack {o : Options} (ho : ∀ f ∈ o.external, f.IsCompiled) :
    ReadsBack l Options.decoder (n + 4) o.toJson o := by
  have hfields : ReadsBack l (record "KeepConsoleOptions" Options.fields) (n + 4) o.toJson
      [("includes", .texts o.includes), ("external", .filters o.external),
        ("keepComments", .texts o.keepComments)] :=
    readsBack_record (Nat.succ_pos _)
      (.cons ⟨rfl, _, rfl, readsBack_textsDecoder _⟩
        (.cons ⟨rfl, _, rfl, readsBack_filtersDecoder ho⟩
          (.cons ⟨rfl, _, rfl, readsBack_textsDecoder _⟩ .nil)))
      (by simp)
  exact hfields.map Options.ofFields

/-- So are configurations. -/
lemma Config.readsBack {c : Config} (hc : ∀ f ∈ c.external, f.IsCompiled) :
    ReadsBack l Config.decoder (n + 4) c.toJson c := by
  have hfields : ReadsBack l (record "Config" Config.fields) (n + 4) c.toJson
      [("sourceRoot", .text c.sourceRoot), ("ignores", .texts c.ignores),
        ("includes", .texts c.includes), ("external", .filters c.external),
        ("keepComments", .texts c.keepComments)] :=
    readsBack_record (Nat.succ_pos _)
      (.cons ⟨rfl, _, rfl, readsBack_textDecoder _⟩
        (.cons ⟨rfl, _, rfl, readsBack_textsDecoder _⟩
          (.cons ⟨rfl, _, rfl, readsBack_textsDecoder _⟩
            (.cons ⟨rfl, _, rfl, readsBack_filtersDecoder hc⟩
              (.cons ⟨rfl, _, rfl, readsBack_textsDecoder _⟩ .nil)))))
      (by simp)
  exact hfields.map Config.ofFields

/-- **What is written is read back.** Options that are written on one line and a
configuration that is written as a file are themselves again, whatever characters
their texts have and whatever lists are empty, if the regular expressions of their
filters were compiled from texts. -/
theorem written_reads_back (o : Options) (c : Config) (ho : ∀ f ∈ o.external, f.IsCompiled)
    (hc : ∀ f ∈ c.external, f.IsCompiled) :
    Options.decoder.ofText o.toJson.compact = .ok o ∧ Config.decoder.ofText c.text = .ok c := by
  have hoptions : ReadsBack .compact Options.decoder maxDepth o.toJson o := Options.readsBack ho
  have hconfig : ReadsBack .pretty Config.decoder maxDepth c.toJson c := Config.readsBack hc
  exact ⟨hoptions.ofText (Layout.toList_compact _), hconfig.ofText (Layout.toList_pretty _)⟩

/-- Quotes, backslashes, control characters and characters outside the first plane
are there again, and a text that looks like a regular expression is a text. -/
theorem written_reads_back_escaped :
    ∃ r, Regex.compile "\\.tsx$" = .ok r
      ∧ let o : Options :=
          { includes := ["a\"b\\c", "\x01\n\x7f", "\u20ac😀"]
            external := [.literal "\x7b\"pattern\":\"\"\x7d", .pattern r], keepComments := [] }
        let c : Config :=
          { sourceRoot := "", ignores := [], external := o.external, keepComments := [] }
        (∀ f ∈ o.external, f.IsCompiled)
        ∧ o.toJson.compact =
          "\x7b\"includes\":[\"a\\\"b\\\\c\",\"\\u0001\\n\x7f\",\"\u20ac😀\"],\"external\":["
          ++ "\"\x7b\\\"pattern\\\":\\\"\\\"\x7d\",\x7b\"pattern\":\"\\\\.tsx$\"\x7d],"
          ++ "\"keepComments\":[]\x7d"
        ∧ Options.decoder.ofText o.toJson.compact = .ok o
        ∧ Config.decoder.ofText c.text = .ok c := by
  have hcompiles : (Regex.compile "\\.tsx$").toOption.isSome := by decide +kernel
  cases hr : Regex.compile "\\.tsx$" with
  | error m => simp [hr, Except.toOption] at hcompiles
  | ok r =>
      refine ⟨r, rfl, ?_⟩
      intro o c
      have hfilters : ∀ f ∈ o.external, f.IsCompiled := by
        simp only [o, List.forall_mem_cons]
        exact ⟨trivial, ⟨_, hr⟩, nofun⟩
      have hwritten := written_reads_back o c hfilters hfilters
      refine ⟨hfilters, ?_, hwritten⟩
      have hpattern := Regex.pattern_of_compile hr
      simp only [o, Options.toJson, PathFilter.toJson, List.map_cons, List.map_nil, hpattern]
      decide +kernel

end ConsoleStrip
