import NixContext.Nix.RawOptions
import NixContext.Proofs.Nix.Building

/-! # Options from raw values

The fields are read one after the other. What is wrong with them is kept, in their order, but for a
field about which nothing can be reported: then nothing else counts (`RawOptions.readFields_eq`,
`RawOptions.readFields_of_unencodable`). The names that are none are looked at last.
-/

namespace NixContext

namespace Nix.RawOptions

open Checked
open Options (Kind BuildFailure kinds fieldNames reservedName)

variable {es : List (RawText × RawValue)} {f : String × Kind} {fs : List (String × Kind)}
  {names : List String}

/-- Nothing can be reported about a field, since it would be about a text that cannot be encoded. -/
def Unencodable (es : List (RawText × RawValue)) (f : String × Kind) : Prop :=
  readField es f = .error .unencodable

/-- What is wrong with a field. -/
def refusal (es : List (RawText × RawValue)) (f : String × Kind) : List Issue :=
  match readField es f with
  | .ok c => c.issues
  | .error _ => []

/-- The value of a field that is taken. -/
def setting (es : List (RawText × RawValue)) (f : String × Kind) : Option RawOptionValue :=
  match readField es f with
  | .ok (.ok v) => v
  | _ => none

/-- The values of all fields. -/
def settings (es : List (RawText × RawValue)) : RawOptions :=
  ⟨kinds.map fun f => (f.1, setting es f), rfl⟩

/-- What is wrong with the fields, in their order. -/
def fieldIssues (es : List (RawText × RawValue)) : List Issue :=
  kinds.flatMap (refusal es)

section Fields

theorem isExplained_truth (v : RawValue) : IsExplained v.truth := by
  cases v with
  | bool b => exact Check.isExplained_truth (.bool b)
  | int i => exact Check.isExplained_truth (.int i)
  | float x => exact Check.isExplained_truth (.float x)
  | str s =>
    rw [RawValue.truth]
    split
    · exact Check.isExplained_truth _
    · exact isExplained_fail _
  | null | list _ | tuple _ | map _ | path _ => exact isExplained_fail _

theorem isExplained_rawPath (v : RawValue) : IsExplained v.rawPath := by
  cases v <;> first | exact isExplained_ok _ | exact isExplained_fail _

theorem isExplained_texts (v : RawValue) : IsExplained v.texts := by
  have htext : ∀ v : RawValue, IsExplained v.text := by
    intro v
    cases v <;> first | exact isExplained_ok _ | exact isExplained_fail _
  cases v <;> first | exact .items htext 0 _ | exact isExplained_fail _

theorem entrySet_cases (ts : List RawText) :
    entrySet ts = .error .unencodable ∨ ∃ c, entrySet ts = .ok c ∧ IsExplained c := by
  rw [entrySet]
  split
  · exact .inr ⟨_, rfl, isExplained_ok _⟩
  · split
    · exact .inr ⟨_, rfl, isExplained_fail _⟩
    · exact .inl rfl

/-- A value that cannot be read keeps everything from being reported, or it is explained. -/
theorem read_cases (k : Kind) (v : RawValue) :
    read k v = .error .unencodable ∨ ∃ c, read k v = .ok c ∧ IsExplained c := by
  unfold read
  split
  · exact .inr ⟨_, rfl, isExplained_ok _⟩
  · exact .inr ⟨_, rfl, (isExplained_truth v).map _⟩
  · exact .inr ⟨_, rfl, (isExplained_rawPath v).map _⟩
  · split
    · next ts _ =>
      rcases entrySet_cases ts with h | ⟨c, h, hc⟩
      · exact .inl (by rw [h]; rfl)
      · exact .inr ⟨_, by rw [h]; rfl, hc.map _⟩
    · next is h =>
      exact .inr ⟨_, rfl, fun _ hi => Except.error.inj hi ▸ isExplained_texts v is h⟩

theorem readField_cases (es : List (RawText × RawValue)) (f : String × Kind) :
    Unencodable es f ∨ ∃ c, readField es f = .ok c ∧ IsExplained c := by
  rw [Unencodable, readField]
  split
  · next v _ =>
    rcases read_cases f.2 v with h | ⟨c, h, hc⟩
    · exact .inl (by rw [h]; rfl)
    · exact .inr ⟨_, by rw [h]; rfl, hc.under _⟩
  · exact .inr ⟨_, rfl, isExplained_ok _⟩

/-- The fields are read to their values, or to all that is wrong with them. -/
theorem readFields_eq (hfs : ∀ f ∈ fs, ¬ Unencodable es f) : ∃ c, readFields es fs = .ok c ∧
    IsExplained c ∧ c.issues = fs.flatMap (refusal es) ∧
    ∀ vs, c = .ok vs → vs.1 = fs.map fun f => (f.1, setting es f) := by
  induction fs with
  | nil => exact ⟨_, rfl, isExplained_ok _, rfl, fun vs h => by cases h; rfl⟩
  | cons f fs ih =>
    obtain ⟨c, hc, hce⟩ := (readField_cases es f).resolve_left (hfs f (.head _))
    obtain ⟨cs, hcs, hcse, hissues, hvalues⟩ := ih fun g hg => hfs g (.tail _ hg)
    refine ⟨_, by rw [readFields, hc, hcs]; rfl, (hce.map _).also hcse, ?_, fun vs h => ?_⟩
    · rw [issues_also, issues_map, hissues, List.flatMap_cons, refusal, hc]
    · obtain ⟨g, ws, hg, hws, rfl⟩ := also_eq_ok_iff.mp h
      cases c with
      | error is => cases hg
      | ok v =>
        cases hg
        show (f.1, v) :: ws.1 = _
        rw [List.map_cons, setting, hc, hvalues ws hws]

/-- If nothing can be reported about one of the fields, nothing is reported about any. -/
theorem readFields_of_unencodable (hf : f ∈ fs) (hu : Unencodable es f) :
    readFields es fs = .error .unencodable := by
  induction fs with
  | nil => cases hf
  | cons g fs ih =>
    rcases readField_cases es g with hg | ⟨c, hc, -⟩
    · rw [readFields, hg]
      rfl
    · have hmem : f ∈ fs := by
        rcases List.mem_cons.mp hf with rfl | hmem
        · cases hc.symm.trans hu
        · exact hmem
      rw [readFields, hc, ih hmem]
      rfl

end Fields

section Building

theorem mapM_string?_eq_some_iff {ns : List RawText} :
    ns.mapM RawText.string? = some names ↔ ns = names.map .ofString :=
  mapM_eq_some_iff fun _ _ => RawText.string?_eq_some_iff

theorem build_of_reserved (hr : .ofString reservedName ∈ es.map Prod.fst) :
    build es = .error .reservedName := by
  obtain ⟨e, he, hn⟩ := List.mem_map.mp hr
  exact if_pos (List.any_eq_true.mpr ⟨e, he, by simpa using hn⟩)

theorem build_of_not_reserved (hr : .ofString reservedName ∉ es.map Prod.fst) :
    build es = (readFields es kinds).bind fun fields =>
      refuseStray (fields.map fun vs => ⟨vs.1, vs.2⟩) (strayNames es) := by
  refine if_neg fun h => hr ?_
  obtain ⟨e, he, hn⟩ := List.any_eq_true.mp h
  exact List.mem_map.mpr ⟨e, he, by simpa using hn⟩

theorem build_of_unencodable (hr : .ofString reservedName ∉ es.map Prod.fst) (hf : f ∈ kinds)
    (hu : Unencodable es f) : build es = .error .unencodable := by
  rw [build_of_not_reserved hr, readFields_of_unencodable hf hu]
  rfl

variable (hr : .ofString reservedName ∉ es.map Prod.fst) (hu : ∀ f ∈ kinds, ¬ Unencodable es f)

include hr hu

/-- A name that cannot be encoded is reported alone. -/
theorem build_of_illFormed {n : RawText} (hn : n ∈ strayNames es) (hd : ∀ d, n ≠ .ofString d) :
    build es = .error (.rejected [⟨.illFormedText, []⟩]) := by
  have hnone : (strayNames es).mapM RawText.string? = none := by
    refine Option.eq_none_iff_forall_ne_some.mpr fun names hs => ?_
    rw [mapM_string?_eq_some_iff.mp hs] at hn
    obtain ⟨d, -, hd'⟩ := List.mem_map.mp hn
    exact hd d hd'.symm
  obtain ⟨c, hc, -⟩ := readFields_eq hu
  rw [build_of_not_reserved hr, hc]
  show refuseStray _ _ = _
  rw [refuseStray, hnone]

theorem build_of_names (hn : strayNames es = names.map .ofString) :
    build es = if fieldIssues es = [] ∧ names = [] then .ok (settings es) else
      .error (.rejected (fieldIssues es ++ strayIssues names)) := by
  obtain ⟨c, hc, hce, hissues, hvalues⟩ := readFields_eq hu
  rw [build_of_not_reserved hr, hc, fieldIssues, ← hissues]
  show refuseStray _ _ = _
  rw [refuseStray, mapM_string?_eq_some_iff.mpr hn]
  cases c with
  | error is =>
    rw [if_neg fun h => hce is rfl h.1]
    rfl
  | ok vs =>
    cases names with
    | nil =>
      obtain ⟨vs, hvs⟩ := vs
      obtain rfl := hvalues _ rfl
      rfl
    | cons n ns => rfl

end Building

end Nix.RawOptions

end NixContext
