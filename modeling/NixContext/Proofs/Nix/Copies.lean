import NixContext.Nix.Parts
import NixContext.Proofs.Nix.Building

/-! # Copies of handles

What is checked once passes again unchanged: flags, options and handles are the same again when they
are made from the values of their fields, and a handle whose runner is replaced is the same but for
the runner (`Handle.ofParts_parts`). So it gives the same command lines.
-/

namespace NixContext

open Check Checked

theorem Check.orNull_text (x : Option String) : orNull text (x.elim .null .str) = .ok x :=
  orNull_elim (f := .str) (by simp) (fun _ => rfl) x

theorem Check.orNull_truth (x : Option Bool) : orNull truth (x.elim .null .bool) = .ok x :=
  orNull_elim (f := .bool) (by simp) (fun _ => rfl) x

theorem Check.orNull_path (x : Option Path) : orNull path (x.elim .null .path) = .ok x :=
  orNull_elim (f := .path) (by simp) (fun _ => rfl) x

namespace Nix

theorem texts_textsValue (ts : List String) : texts .notTuple (textsValue ts) = .ok ts :=
  texts_tuple .notTuple ts

theorem textMap_tableValue (t : Table String) : textMap (tableValue t) = .ok t := by
  have hentries : ∀ es : List (String × String),
      textEntries (es.map fun e => (.str e.1, .str e.2)) = .ok es := by
    intro es
    induction es with
    | nil => rfl
    | cons e es ih =>
      rw [List.map_cons, textEntries, ih]
      rfl
  rw [tableValue, textMap, hentries]
  exact congrArg Except.ok t.ofList_entries

theorem GeneralFlags.ofEntries_values (g : GeneralFlags) : ofEntries g.values = .ok g := by
  have hstore : optional "store" (orNull text) none g.values = .ok g.store :=
    optional_eq_ok rfl (orNull_text g.store)
  rw [ofEntries, hstore]
  rfl

theorem FlakeFlags.ofEntries_values (f : FlakeFlags) : ofEntries f.values = .ok f := by
  have hinputs : optional "override_inputs" textMap ∅ f.values = .ok f.overrideInputs :=
    optional_eq_ok rfl (textMap_tableValue f.overrideInputs)
  rw [ofEntries, hinputs]
  rfl

theorem EvalFlags.ofEntries_values (e : EvalFlags) : ofEntries e.values = .ok e := by
  have hstore : optional "eval_store" (orNull text) none e.values = .ok e.evalStore :=
    optional_eq_ok rfl (orNull_text e.evalStore)
  rw [ofEntries, hstore]
  rfl

namespace Options

theorem entrySet_elim (x : Option EntrySet) :
    entrySet (x.elim .null fun s => textsValue s.entries) = .ok x := by
  cases x with
  | none => rfl
  | some s =>
    rw [Option.elim_some, entrySet_of_ne_null (v := textsValue s.entries) nofun, texts_textsValue,
      Except.bind, s.ofList_entries]

theorem optional_values {α : Type} {name : String} {check : Value → Checked (Option α)}
    {f : α → OptionValue} {x : Option α} {o : Options}
    (hv : Value.findEntry (.str name) o.values = some ((x.map f).elim .null OptionValue.value))
    (h : check (x.elim .null fun a => (f a).value) = .ok x) :
    optional name check none o.values = .ok x :=
  optional_eq_ok hv (by rwa [Option.elim_map])

theorem ofEntries_values (o : Options) : ofEntries o.values = .ok o := by
  refine ofEntries_eq_ok_iff.mpr ⟨⟨?_, ?_, ?_, ?_, ?_, ?_, ?_⟩, rfl⟩
  · exact optional_values rfl (orNull_truth o.acceptFlakeConfig)
  · exact optional_values rfl (orNull_truth o.warnDirty)
  · exact optional_values rfl (orNull_truth o.showTrace)
  · exact optional_values rfl (orNull_path o.netrcFile)
  · exact optional_values rfl (entrySet_elim o.extraExperimentalFeatures)
  · exact optional_values rfl (entrySet_elim o.extraSubstituters)
  · exact optional_values rfl (entrySet_elim o.extraTrustedPublicKeys)

end Options

namespace Handle

variable {α : Type}

theorem check_inForm {values : α → List (Value × Value)}
    {ofEntries : List (Value × Value) → Checked α} (h : ∀ a, ofEntries (values a) = .ok a) (a : α)
    (f : Form) :
    (Given.inForm values a f).check (record ofEntries) = .ok a := by
  cases f with
  | record => rfl
  | fields => exact h a

theorem optionalPart_eq_ok {β : Type} {name : String} {check : β → Checked α} {default a : α}
    {b : β} (h : check b = .ok a) : optionalPart name check default (some b) = .ok a :=
  under_eq_ok_iff.mpr h

theorem ofParts_parts (h : Handle) (f : Forms) (v : Variant) (r : Runner) :
    ofParts v { h.parts f with runner := some (.made r) } =
      .ok { h with variant := v, runner := r } := by
  rw [ofParts]
  dsimp only [parts]
  rw [optionalPart_eq_ok (textMap_tableValue h.environment),
    optionalPart_eq_ok (check_inForm GeneralFlags.ofEntries_values h.general f.general),
    optionalPart_eq_ok (check_inForm FlakeFlags.ofEntries_values h.flake f.flake),
    optionalPart_eq_ok (check_inForm EvalFlags.ofEntries_values h.evaluation f.evaluation),
    optionalPart_eq_ok (check_inForm Options.ofEntries_values h.options f.options),
    optionalPart_eq_ok (texts_textsValue h.extraArgs)]
  rfl

end Handle

/-- Flags and options are the same again when they are made from the values of their fields, the
replaced inputs in their order. A handle is the same again when it is put together from its parts,
whether its records are handed on as they are or by their fields, and so it is with another runner
and as another variant, up to these two: it has the same replaced inputs and variables in the same
order and gives the same command lines. -/
theorem made_again :
    (∀ g : GeneralFlags, GeneralFlags.ofEntries g.values = .ok g) ∧
    (∀ f : FlakeFlags, FlakeFlags.ofEntries f.values = .ok f) ∧
    (∀ e : EvalFlags, EvalFlags.ofEntries e.values = .ok e) ∧
    (∀ o : Options, Options.ofEntries o.values = .ok o) ∧
    ∀ (h : Handle) (f : Handle.Forms), Handle.ofParts h.variant (h.parts f) = .ok h ∧
      ∀ (v : Variant) (r : Runner), ∃ k,
        Handle.ofParts v { h.parts f with runner := some (.made r) } = .ok k ∧
        k = { h with variant := v, runner := r } ∧
        k.flake.overrideInputs.entries = h.flake.overrideInputs.entries ∧
        k.environment.entries = h.environment.entries ∧
        ∀ args, k.command args = h.command args := by
  refine ⟨GeneralFlags.ofEntries_values, FlakeFlags.ofEntries_values, EvalFlags.ofEntries_values,
    Options.ofEntries_values, fun h f => ⟨?_, fun v r => ?_⟩⟩
  · exact Handle.ofParts_parts h f h.variant h.runner
  · exact ⟨_, Handle.ofParts_parts h f v r, rfl, rfl, rfl, fun args => rfl⟩

/-- A word for a truth value, a repeated entry and a path with a separator too many are given a
normal form, which a copy keeps. -/
theorem made_again_normalForm :
    let h : Handle :=
      { binary := "nix"
        flake := { overrideInputs := .ofList [("b", "2"), ("a", "1")], noWriteLockFile := true }
        options := { netrcFile := some (.ofText "/etc/netrc")
                     extraSubstituters := some ⟨["x", "y"], by decide, by decide +kernel⟩ } }
    Handle.ofEntries [(.str "nix_bin", .str "nix"),
      (.str "flake_args", .map [(.str "no_write_lock_file", .str "Yes"),
        (.str "override_inputs", .map [(.str "b", .str "2"), (.str "a", .str "1")])]),
      (.str "nix_config", .map [(.str "netrc_file", .str "/etc//netrc"),
        (.str "extra_substituters", .list [.str "x", .str "y", .str "x"])])] = .ok h ∧
    Handle.ofParts .plain (h.parts ⟨.record, .fields, .record, .fields⟩) = .ok h := by
  intro h
  obtain ⟨-, -, -, -, hhandle⟩ := made_again
  exact ⟨by decide +kernel, (hhandle h ⟨.record, .fields, .record, .fields⟩).1⟩

end Nix

end NixContext
