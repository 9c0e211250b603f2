import Mathlib.Data.List.Basic
import NixContext.Proofs.Context.Loading
import NixContext.Proofs.Reference.Referring

/-! # Expansion in different surroundings

Of the surroundings only the variables and the directory that a value refers to reach its
expansion. Two expansions of one value differ in nothing but what stands for the references,
whatever characters the inserted texts hold. So the surroundings of a settings file decide over
the texts of its values, and neither over its keys nor over the shape of a value
(`Surroundings.expansions_correspond`).
-/

namespace NixContext

/-- A reference has the same value in both surroundings, or none in either. -/
def Reference.Agrees (s₁ s₂ : Surroundings) : Reference → Prop
  | named name =>
    s₁.environment.find? (String.ofList name) = s₂.environment.find? (String.ofList name)
  | directory => s₁.directory = s₂.directory

namespace Reference

variable {s₁ s₂ : Surroundings} {r : Reference}

theorem Agrees.unset?_eq (h : r.Agrees s₁ s₂) : r.unset? s₁ = r.unset? s₂ := by
  cases r with
  | directory => rfl
  | named name => simp only [unset?, show _ = _ from h]

theorem Agrees.value_eq (h : r.Agrees s₁ s₂) : r.value s₁ = r.value s₂ := by
  cases r with
  | directory => exact h
  | named name => simp only [value, show _ = _ from h]

theorem findSome?_unset?_congr {rs : List Reference} (h : ∀ r ∈ rs, r.Agrees s₁ s₂) :
    rs.findSome? (unset? s₁) = rs.findSome? (unset? s₂) := by
  rw [← List.head?_filterMap, ← List.head?_filterMap,
    List.filterMap_congr fun r hr => (h r hr).unset?_eq]

end Reference

namespace Value

variable {s s₁ s₂ : Surroundings} {v w : Value}

/-- A value with its texts taken out: lists and all other leaves stay. -/
def outline (v : Value) : Value :=
  v.mapTexts fun _ => ""

theorem outline_mapTexts (f : String → String) (v : Value) :
    (v.mapTexts f).outline = v.outline :=
  mapTexts_mapTexts f _ v

theorem filled_congr {t : String} (h : ∀ (r : Reference) i, r.StandsAt t.toList i →
    r.Agrees s₁ s₂) : filled s₁ t = filled s₂ t := by
  have hpiece : ∀ p ∈ cutText t, p.value s₁ = p.value s₂ := by
    rintro (c | r) hp
    · rfl
    · obtain ⟨i, hi⟩ := Piece.reference_mem_ofText.mp hp
      exact congrArg String.toList (h r i hi).value_eq
  rw [filled, filled, List.flatMap_congr hpiece]

theorem mapTexts_filled_congr (h : ∀ r, v.RefersTo r → r.Agrees s₁ s₂) :
    v.mapTexts (filled s₁) = v.mapTexts (filled s₂) :=
  mapTexts_congr fun t ht => filled_congr fun r i hr => h r ⟨t, ht, i, hr⟩

/-- Surroundings that agree on what a value refers to give the same expansion or error. -/
theorem expandReferences_congr (h : ∀ r, v.RefersTo r → r.Agrees s₁ s₂) :
    v.expandReferences s₁ = v.expandReferences s₂ := by
  have hunset := Reference.findSome?_unset?_congr fun r hr => h r (mem_references_of_texts.mp hr)
  rw [expandReferences_eq, expandReferences_eq, expansion, expansion, hunset]
  exact congrArg _ (mapTexts_filled_congr h)

/-- The texts of an expansion are those of the value, with the references filled in. -/
theorem texts_expansion (h : v.expandReferences s = .ok w) {i : Nat} {t : String}
    {ps : List Piece} (ht : v.texts[i]? = some t) (hp : Piece.IsCut t.toList ps) :
    w.texts[i]? = some (String.ofList (ps.flatMap (Piece.value s))) := by
  obtain ⟨-, rfl⟩ := expandReferences_eq_ok_iff.mp h
  obtain rfl := Piece.isCut_iff.mp hp
  rw [texts_mapTexts, List.getElem?_map, ht]
  rfl

theorem outline_expansion (h : v.expandReferences s = .ok w) : w.outline = v.outline := by
  obtain ⟨-, rfl⟩ := expandReferences_eq_ok_iff.mp h
  exact outline_mapTexts _ v

end Value

section Entries

variable {s s₁ s₂ : Surroundings} {es fs : List (Value × Value)}

/-- The keys of entries, each with the outline of its value. -/
def outlines (es : List (Value × Value)) : List (Value × Value) :=
  es.map fun e => (e.1, e.2.outline)

theorem expandEntries_eq_ok_iff :
    expandEntries s es = .ok fs ↔ firstUnset? s es = none ∧ expandedEntries s es = fs := by
  rw [expandEntries_eq, unless?_eq_ok_iff]

theorem outlines_expandedEntries (s : Surroundings) (es : List (Value × Value)) :
    outlines (expandedEntries s es) = outlines es := by
  rw [outlines, expandedEntries, List.map_map]
  exact List.map_congr_left fun e _ => congrArg (e.1, ·) (Value.outline_mapTexts _ e.2)

theorem expandedEntries_congr (h : ∀ x ∈ es, ∀ r, x.2.RefersTo r → r.Agrees s₁ s₂) :
    expandedEntries s₁ es = expandedEntries s₂ es :=
  List.map_congr_left fun x hx => congrArg (x.1, ·) (Value.mapTexts_filled_congr (h x hx))

theorem firstUnset?_congr (h : ∀ x ∈ es, ∀ r, x.2.RefersTo r → r.Agrees s₁ s₂) :
    firstUnset? s₁ es = firstUnset? s₂ es := by
  refine Reference.findSome?_unset?_congr fun r hr => ?_
  obtain ⟨x, hx, hr⟩ := List.mem_flatMap.mp hr
  exact h x hx r (Value.mem_references_of_texts.mp hr)

theorem isSome_value?_ofSettings {e : Engine} {d : Draft} (h : Draft.ofSettings e s es = .ok d)
    (f : Setting) : (d.value? f).isSome = ((f.valueIn? es).isSome || f.initial?.isSome) := by
  rw [Draft.ofSettings_eq] at h
  split at h
  · cases h
  · split at h
    · cases h
    · next o ho =>
      cases h
      rw [Overlay.value?_draft, Option.isSome_or, Overlay.isSome_value? ho,
        Setting.valueIn?_expandedEntries]

end Entries

namespace Surroundings

open Draft

/-- One value in two surroundings, and one settings file whose entries are the same in both.
Surroundings that agree on what is referred to give the same outcome. Where both expansions
succeed, they have the outline of what was expanded, hence the same keys and shapes, and their
texts have the same characters around the references. The same settings are given. -/
theorem expansions_correspond (s₁ s₂ : Surroundings) (v : Value) :
    ((∀ r, v.RefersTo r → r.Agrees s₁ s₂) → v.expandReferences s₁ = v.expandReferences s₂) ∧
    (∀ w₁ w₂, v.expandReferences s₁ = .ok w₁ → v.expandReferences s₂ = .ok w₂ →
      w₁.outline = w₂.outline ∧ w₁.outline = v.outline ∧
      ∀ (i : Nat) (t : String) (ps : List Piece), v.texts[i]? = some t → Piece.IsCut t.toList ps →
        w₁.texts[i]? = some (String.ofList (ps.flatMap (Piece.value s₁))) ∧
        w₂.texts[i]? = some (String.ofList (ps.flatMap (Piece.value s₂)))) ∧
    ∀ (e : Engine) (file : Settings.File) (context : Table Value) (es : List (Value × Value)),
      Settings.load file s₁.environment context = .ok (.map es) →
      Settings.load file s₂.environment context = .ok (.map es) →
      ((∀ x ∈ es, ∀ r, x.2.RefersTo r → r.Agrees s₁ s₂) →
        ofFile e s₁ context file = ofFile e s₂ context file) ∧
      (∀ fs₁ fs₂, expandEntries s₁ es = .ok fs₁ → expandEntries s₂ es = .ok fs₂ →
        outlines fs₁ = outlines fs₂ ∧ outlines fs₁ = outlines es) ∧
      ∀ d₁ d₂, (ofFile e s₁ context file).result = .ok d₁ →
        (ofFile e s₂ context file).result = .ok d₂ →
        ∀ f, (d₁.value? f).isSome = (d₂.value? f).isSome := by
  refine ⟨Value.expandReferences_congr, fun w₁ w₂ h₁ h₂ => ⟨?_, Value.outline_expansion h₁,
    fun i t ps ht hp => ⟨Value.texts_expansion h₁ ht hp, Value.texts_expansion h₂ ht hp⟩⟩,
    fun e file context es hl₁ hl₂ => ⟨fun h => ?_, fun fs₁ fs₂ h₁ h₂ => ?_,
      fun d₁ d₂ h₁ h₂ f => ?_⟩⟩
  · rw [Value.outline_expansion h₁, Value.outline_expansion h₂]
  · rw [ofFile_of_load hl₁, ofFile_of_load hl₂, ofSettings_eq, ofSettings_eq,
      firstUnset?_congr h, expandedEntries_congr h]
  · obtain ⟨-, rfl⟩ := expandEntries_eq_ok_iff.mp h₁
    obtain ⟨-, rfl⟩ := expandEntries_eq_ok_iff.mp h₂
    rw [outlines_expandedEntries, outlines_expandedEntries]
    exact ⟨rfl, rfl⟩
  · rw [ofFile_of_load hl₁] at h₁
    rw [ofFile_of_load hl₂] at h₂
    rw [isSome_value?_ofSettings h₁, isSome_value?_ofSettings h₂]

/-- A file whose values refer to one variable, inside and outside a list. -/
def variableFile : Settings.File :=
  ⟨.ofText "/f.hcl", some "data_dir = \"/d/$\x7benv.A\x7d\"
extra_nix_args = [\"-v\", \"x$\x7benv.A\x7dy\"]
".toUTF8⟩

/-- The arguments in the file. -/
def variableArgs : Value :=
  .list [.str "-v", .str "x$\x7benv.A\x7dy"]

/-- The entries of the file. -/
def variableEntries : List (Value × Value) :=
  [(.str "data_dir", .str "/d/$\x7benv.A\x7d"), (.str "extra_nix_args", variableArgs)]

/-- A quote, a line feed and a reference that comes with the variable change texts only. Another
directory and another variable that the inserted text seems to refer to change nothing. -/
theorem expansions_correspond_variableFile :
    let s₁ : Surroundings := ⟨Table.ofList [("A", "\"\n$\x7benv.B\x7d")], "/"⟩
    let s₂ : Surroundings := ⟨Table.ofList [("A", "")], "/"⟩
    let s₃ : Surroundings := ⟨Table.ofList [("A", "\"\n$\x7benv.B\x7d"), ("B", "b")], "/w"⟩
    let e : Engine := .commandLine .plain
    variableArgs.expandReferences s₁ = variableArgs.expandReferences s₃ ∧
    ofFile e s₁ ∅ variableFile = ofFile e s₃ ∅ variableFile ∧
    ∃ w₁ w₂ d₁ d₂, variableArgs.expandReferences s₁ = .ok w₁ ∧
      variableArgs.expandReferences s₂ = .ok w₂ ∧ w₁ ≠ w₂ ∧ w₁.outline = w₂.outline ∧
      w₁.texts[1]? = some "x\"\n$\x7benv.B\x7dy" ∧ w₂.texts[1]? = some "xy" ∧
      (∃ fs₁ fs₂, expandEntries s₁ variableEntries = .ok fs₁ ∧
        expandEntries s₂ variableEntries = .ok fs₂ ∧ outlines fs₁ = outlines fs₂) ∧
      (ofFile e s₁ ∅ variableFile).result = .ok d₁ ∧
      (ofFile e s₂ ∅ variableFile).result = .ok d₂ ∧ d₁ ≠ d₂ ∧
      ∀ f, (d₁.value? f).isSome = (d₂.value? f).isSome := by
  intro s₁ s₂ s₃ e
  have hl₁ : Settings.load variableFile s₁.environment ∅ = .ok (.map variableEntries) := by
    decide +kernel
  have hl₂ : Settings.load variableFile s₂.environment ∅ = .ok (.map variableEntries) := by
    decide +kernel
  have hl₃ : Settings.load variableFile s₃.environment ∅ = .ok (.map variableEntries) := by
    decide +kernel
  have hw₁ : variableArgs.expandReferences s₁ =
      .ok (.list [.str "-v", .str "x\"\n$\x7benv.B\x7dy"]) := by decide +kernel
  have hw₂ : variableArgs.expandReferences s₂ = .ok (.list [.str "-v", .str "xy"]) := by
    decide +kernel
  have hd₁ : (ofFile e s₁ ∅ variableFile).result =
      .ok ⟨{ dataDir := .path (.ofText "/d/\"\n$\x7benv.B\x7d"), collectMetrics := .bool false,
              extraArgs := .tuple [.str "-v", .str "x\"\n$\x7benv.B\x7dy"] }, .own e, []⟩ := by
    rw [ofFile_of_load hl₁]
    decide +kernel
  have hd₂ : (ofFile e s₂ ∅ variableFile).result =
      .ok ⟨{ dataDir := .path (.ofText "/d"), collectMetrics := .bool false,
              extraArgs := .tuple [.str "-v", .str "xy"] }, .own e, []⟩ := by
    rw [ofFile_of_load hl₂]
    decide +kernel
  have hagrees : ∀ x ∈ variableEntries, ∀ r, x.2.RefersTo r → r.Agrees s₁ s₃ := by
    intro x hx r hr
    have hone : ∀ x ∈ variableEntries,
        ∀ r ∈ x.2.texts.flatMap fun t => Piece.references (Value.cutText t),
          r = .named ['A'] := by decide +kernel
    obtain rfl := hone x hx r (Value.mem_references_of_texts.mpr hr)
    rfl
  have hfs₁ : expandEntries s₁ variableEntries =
      .ok (expandedEntries s₁ variableEntries) := by decide +kernel
  have hfs₂ : expandEntries s₂ variableEntries =
      .ok (expandedEntries s₂ variableEntries) := by decide +kernel
  obtain ⟨hsame, -, hfile⟩ := expansions_correspond s₁ s₃ variableArgs
  obtain ⟨hagain, -⟩ := hfile e variableFile ∅ variableEntries hl₁ hl₃
  obtain ⟨-, hshape, hfile⟩ := expansions_correspond s₁ s₂ variableArgs
  obtain ⟨houtline, -, htexts⟩ := hshape _ _ hw₁ hw₂
  obtain ⟨htext₁, htext₂⟩ := htexts 1 _ _ rfl (Piece.isCut_ofText _)
  obtain ⟨-, hkeys, hgiven⟩ := hfile e variableFile ∅ variableEntries hl₁ hl₂
  exact ⟨hsame (hagrees (.str "extra_nix_args", variableArgs) (.tail _ (.head _))),
    hagain hagrees, _, _, _, _, hw₁, hw₂, by decide, houtline,
    htext₁.trans (by decide +kernel), htext₂.trans (by decide +kernel),
    ⟨_, _, hfs₁, hfs₂, (hkeys _ _ hfs₁ hfs₂).1⟩, hd₁, hd₂, by decide, hgiven _ _ hd₁ hd₂⟩

end Surroundings

end NixContext
