/-
Options in a configuration.

* `Json.OpensObject`: what a text holds starts as an object does.
  `opensObject_of_parse`: so does every text whose value is an object;
* `Config.narrows_fields`: options have some of the fields of a configuration, and
  its other fields can be passed over;
* `Config.options_read_alone`: the text of a configuration, read as options, gives
  the options of the configuration.
-/
import ConsoleStrip.Config
import ConsoleStrip.Proofs.Json.Passed

namespace ConsoleStrip

open Json Json.Read Json.Decoder

/-! ### Objects -/

/-- The first character of a text that is not blank opens an object. -/
def Json.OpensObject (source : String) : Prop :=
  (source.toList.dropWhile Read.isBlank).head? = some '\x7b'

instance (source : String) : Decidable (Json.OpensObject source) :=
  inferInstanceAs (Decidable (_ = _))

/-- What has no brackets is no object. -/
lemma Json.not_gives_scalar_obj {ms : List (String × Json)} {c : Char} {s t : Cursor} :
    ¬ Gives (scalar c) s (.obj ms) t := by
  intro h
  unfold scalar at h
  split at h
  case h_6 => split_ifs at h <;> simp at h
  all_goals simp at h

/-- A text whose value is an object opens one. -/
lemma Json.opensObject_of_parse {source : String} {ms : List (String × Json)}
    (h : Json.parse source = .ok (.obj ms)) : OpensObject source := by
  obtain ⟨t, h, -⟩ := text_eq_ok_iff.mp h
  have hdepth : maxDepth = 127 + 1 := rfl
  rw [hdepth, value] at h
  simp only [gives_placed_iff, gives_bind_iff, gives_someChar_iff] at h
  obtain ⟨c, u, ⟨hc, rfl⟩, h⟩ := h
  split at h
  · simp at h
  · exact hc
  · exact absurd h not_gives_scalar_obj

namespace Config

/-! ### Fields -/

/-- Options have three of the fields of a configuration. The other two are a text
and a list of texts. -/
lemma narrows_fields : Narrows Options.fields fields := by
  have htexts : OptionValue.textsDecoder.IsPassed := (isPassed_list isScalar_text).map _
  have htext : OptionValue.textDecoder.IsPassed := isPassed_text.map _
  intro k
  by_cases hroot : k = "sourceRoot"
  · subst hroot
    exact .inr ⟨rfl, fun d hd => Option.some.inj hd ▸ htext⟩
  by_cases hignores : k = "ignores"
  · subst hignores
    exact .inr ⟨rfl, fun d hd => Option.some.inj hd ▸ htexts⟩
  left
  simp only [Options.fields, fields, List.lookup_cons, beq_false_of_ne hroot,
    beq_false_of_ne hignores]

/-- The options of a configuration are made of the fields that options have. -/
lemma ofFields_known (fs : Fields OptionValue) :
    Options.ofFields (known Options.fields fs) = (ofFields fs).options := by
  have hincludes : (known Options.fields fs).lookup "includes" = fs.lookup "includes" :=
    lookup_known rfl fs
  have hexternal : (known Options.fields fs).lookup "external" = fs.lookup "external" :=
    lookup_known rfl fs
  have hkeep : (known Options.fields fs).lookup "keepComments" = fs.lookup "keepComments" :=
    lookup_known rfl fs
  simp only [Options.ofFields, OptionValue.texts?, OptionValue.filters?, hincludes, hexternal,
    hkeep]
  rfl

/-- **Options mean the same in a configuration as alone.** A text that holds an
object and is read as a configuration is read as options, which are those of the
configuration: whatever fields are missing or empty, in whatever order they stand,
and whatever other fields there are. -/
theorem options_read_alone {source : String} {c : Config} (hobject : OpensObject source)
    (hc : decoder.ofText source = .ok c) : Options.decoder.ofText source = .ok c.options := by
  obtain ⟨t, hread, hend⟩ := text_eq_ok_iff.mp (ofText_eq_ok_iff.mp hc)
  obtain ⟨fs, hfields, rfl⟩ := gives_map_read_iff.mp hread
  have hopens : (Cursor.mk source.toList 0).pastBlanks.rest.head? = some '\x7b' := hobject
  have hoptions :
      Gives (Options.decoder.read maxDepth) ⟨source.toList, 0⟩ (ofFields fs).options t :=
    gives_map_read_iff.mpr
      ⟨_, gives_record_narrow narrows_fields hopens hfields, (ofFields_known fs).symm⟩
  exact ofText_eq_ok_iff.mpr (text_eq_ok_iff.mpr ⟨t, hoptions, hend⟩)

/-- Fields in another order, with a list that is empty, a field that is missing,
and a pair of escapes and unknown fields to pass over. -/
theorem options_read_alone_unordered :
    let source := " \x7b\"x\": [1e999, \x7b\"ignores\": 0\x7d], \"keepComments\": [], \"ignores\":"
      ++ " [\"\\ud83d\\ude00\", \"\" ], \"x\": null, \"external\": [\"src\"],"
      ++ " \"sourceRoot\": \"\\u002f\" \x7d\n"
    OpensObject source
    ∧ (decoder.ofText source).toOption.map (fun c => (c.sourceRoot, c.ignores))
      = some ("/", ["😀", ""])
    ∧ ∃ o, Options.decoder.ofText source = .ok o ∧ o.includes = [] ∧ o.keepComments = []
      ∧ o.external.map PathFilter.text = ["src"] := by
  intro source
  have hobject : OpensObject source := by decide +kernel
  have hread : (decoder.ofText source).toOption.map (fun c => (c.sourceRoot, c.ignores))
        = some ("/", ["😀", ""])
      ∧ (decoder.ofText source).toOption.map (fun c =>
        (c.includes, c.keepComments, c.external.map PathFilter.text)) = some ([], [], ["src"]) := by
    decide +kernel
  cases hc : decoder.ofText source with
  | error m => simp [hc, Except.toOption] at hread
  | ok c =>
      simp only [hc, Except.toOption, Option.map_some, Option.some.injEq, Prod.mk.injEq] at hread
      exact ⟨hobject, by simp [Except.toOption, hread], c.options,
        options_read_alone hobject hc, hread.2⟩

end Config

end ConsoleStrip
