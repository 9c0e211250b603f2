import NixContext.Validation.Check

/-! # Accepted inputs

A combined check accepts exactly if all its parts do, and gives what they give.
-/

namespace NixContext

namespace Checked

variable {α β : Type}

theorem also_eq_ok_iff {f : Checked (α → β)} {a : Checked α} {b : β} :
    f.also a = .ok b ↔ ∃ g x, f = .ok g ∧ a = .ok x ∧ g x = b := by
  constructor
  · intro h
    cases f <;> cases a <;> cases h
    exact ⟨_, _, rfl, rfl, rfl⟩
  · rintro ⟨g, x, rfl, rfl, rfl⟩
    rfl

theorem guarded_eq_ok_iff {c : Checked α} {further : List Issue} {a : α} :
    c.guarded further = .ok a ↔ c = .ok a ∧ further = [] := by
  constructor
  · intro h
    cases c <;> cases further <;> cases h
    exact ⟨rfl, rfl⟩
  · rintro ⟨rfl, rfl⟩
    rfl

theorem under_eq_ok_iff {s : Step} {c : Checked α} {a : α} : c.under s = .ok a ↔ c = .ok a := by
  cases c with
  | error is => exact ⟨nofun, nofun⟩
  | ok x => exact Iff.rfl

/-- Items are accepted one by one. -/
theorem items_map {check : α → Checked β} {f : β → α} (h : ∀ b, check (f b) = .ok b) (i : Nat)
    (bs : List β) : items check i (bs.map f) = .ok bs := by
  induction bs generalizing i with
  | nil => rfl
  | cons b bs ih =>
    rw [List.map_cons, items, h, ih]
    rfl

end Checked

/-- A value that is a text. -/
def Value.IsText (v : Value) : Prop :=
  ∃ t, v = .str t

namespace Check

/-- A value that stands for a truth value: such a value itself, zero, one, or a word. -/
def IsTruth : Value → Prop
  | .bool _ => True
  | .int i => i = 0 ∨ i = 1
  | .float x => x.isWhole ∧ (x.truncate = 0 ∨ x.truncate = 1)
  | .str s => s.map Char.toLower ∈ falseWords ∨ s.map Char.toLower ∈ trueWords
  | _ => False

/-- A value that names a path. -/
def IsPath (v : Value) : Prop :=
  v.IsText ∨ ∃ p, v = .path p

variable {α : Type} {name : String} {v : Value} {check : Value → Checked α}
  {es : List (Value × Value)} {xs : List Value} {i : Nat}

theorem exists_truthOfInt_iff {i : Int} : (∃ b, truthOfInt i = .ok b) ↔ i = 0 ∨ i = 1 := by
  rw [truthOfInt]
  split
  · next h => simp [h]
  · split
    · next h => simp [h]
    · next h₀ h₁ => simp [h₀, h₁, Checked.fail]

theorem exists_truth_iff : (∃ b, truth v = .ok b) ↔ IsTruth v := by
  cases v with
  | bool b => exact iff_of_true ⟨b, rfl⟩ trivial
  | int i =>
    rw [truth, IsTruth]
    split
    · exact exists_truthOfInt_iff
    · next h =>
      have hi : ¬ (i = 0 ∨ i = 1) := by
        rintro (rfl | rfl) <;> exact h (by decide)
      simp [hi, Checked.fail]
  | float x =>
    rw [truth, IsTruth]
    split
    · next h =>
      simp only [isWordSizedWhole, Bool.and_eq_true, decide_eq_true_eq] at h
      rw [exists_truthOfInt_iff, and_iff_right h.1.1]
    · next h =>
      have hx : ¬ (x.isWhole ∧ (x.truncate = 0 ∨ x.truncate = 1)) := by
        rintro ⟨hw, hx⟩
        refine h ?_
        rcases hx with hx | hx <;> simp [isWordSizedWhole, hw, hx]
      simp [hx, Checked.fail]
  | str s =>
    rw [truth, IsTruth]
    simp only [List.contains_iff_mem]
    split
    · next h => simp [h]
    · split
      · next h => simp [h]
      · next h₀ h₁ => simp [h₀, h₁, Checked.fail]
  | null | list _ | tuple _ | map _ | path _ => simp [truth, IsTruth, Checked.fail]

theorem exists_path_iff : (∃ p, path v = .ok p) ↔ IsPath v := by
  cases v <;> simp [path, IsPath, Value.IsText, Checked.fail]

/-- A list of values is accepted as texts exactly if all of them are. -/
theorem items_text_eq_ok_iff {ts : List String} :
    Checked.items text i xs = .ok ts ↔ xs = ts.map .str := by
  constructor
  · intro h
    induction xs generalizing i ts with
    | nil =>
      cases h
      rfl
    | cons x xs ih =>
      obtain ⟨g, us, hg, hus, rfl⟩ := Checked.also_eq_ok_iff.mp h
      cases x <;> cases hg
      rw [List.map_cons, ← ih hus]
  · rintro rfl
    have h : ∀ t : String, text (.str t) = .ok t := fun _ => rfl
    exact Checked.items_map h i ts

theorem texts_eq_ok_iff {x : Cause} {ts : List String} :
    texts x v = .ok ts ↔ v = .list (ts.map .str) ∨ v = .tuple (ts.map .str) := by
  cases v <;> simp [texts, items_text_eq_ok_iff, Checked.fail]

theorem texts_tuple (x : Cause) (ts : List String) : texts x (.tuple (ts.map .str)) = .ok ts :=
  texts_eq_ok_iff.mpr (.inr rfl)

theorem orNull_of_ne_null {v : Value} (h : v ≠ .null) :
    orNull check v = (check v).map some := by
  cases v <;> first | rfl | exact absurd rfl h

theorem orNull_elim {f : α → Value} (hn : ∀ a, f a ≠ .null) (h : ∀ a, check (f a) = .ok a)
    (x : Option α) : orNull check (x.elim .null f) = .ok x := by
  cases x with
  | none => rfl
  | some a =>
    rw [Option.elim_some, orNull_of_ne_null (hn a), h]
    rfl

theorem optional_eq_ok {default a : α} (hv : Value.findEntry (.str name) es = some v)
    (ha : check v = .ok a) : optional name check default es = .ok a := by
  rw [optional, hv]
  exact Checked.under_eq_ok_iff.mpr ha

theorem exists_orNull_iff :
    (∃ x, orNull check v = .ok x) ↔ v = .null ∨ ∃ a, check v = .ok a := by
  by_cases hv : v = .null
  · simp [hv, orNull]
  · rw [orNull_of_ne_null hv]
    cases check v <;> simp [hv, Except.map]

/-- A field that may be null is given nothing exactly if it is left out or null. -/
theorem eq_none_of_optional_orNull {x : Option α}
    (h : optional name (orNull check) none es = .ok x) :
    x = none ↔ Value.findEntry (.str name) es = none ∨
      Value.findEntry (.str name) es = some .null := by
  rw [optional] at h
  cases hv : Value.findEntry (.str name) es with
  | none =>
    rw [hv] at h
    cases h
    simp
  | some v =>
    rw [hv, Checked.under_eq_ok_iff] at h
    by_cases hn : v = .null
    · subst hn
      cases h
      simp
    · rw [orNull_of_ne_null hn] at h
      cases hc : check v with
      | error is => rw [hc] at h; cases h
      | ok a =>
        rw [hc] at h
        cases h
        simp [hn]

/-- What a field that may be null is given: nothing, or what its check makes of an entry. -/
theorem map_eq_some_iff_of_optional_orNull {β : Type} {f : α → β} {x : Option α} {b : β}
    (h : optional name (orNull check) none es = .ok x) :
    x.map f = some b ↔ ∃ v, Value.findEntry (.str name) es = some v ∧ v ≠ .null ∧
      (check v).toOption.map f = some b := by
  rw [optional] at h
  cases hv : Value.findEntry (.str name) es with
  | none =>
    rw [hv] at h
    cases h
    simp
  | some v =>
    rw [hv, Checked.under_eq_ok_iff] at h
    by_cases hn : v = .null
    · subst hn
      cases h
      simp
    · rw [orNull_of_ne_null hn] at h
      cases hc : check v with
      | error is => rw [hc] at h; cases h
      | ok a =>
        rw [hc] at h
        cases h
        simp [hn, hc, Except.toOption]

/-- A field that may be null is accepted exactly if its entry is missing, null or passes. -/
theorem exists_optional_orNull_iff :
    (∃ x, optional name (orNull check) none es = .ok x) ↔
      ∀ v, Value.findEntry (.str name) es = some v → v ≠ .null → ∃ a, check v = .ok a := by
  rw [optional]
  cases Value.findEntry (.str name) es with
  | none => simp
  | some v =>
    simp only [Checked.under_eq_ok_iff, Option.some.injEq, forall_eq']
    by_cases hn : v = .null
    · subst hn
      simp [orNull]
    · rw [orNull_of_ne_null hn]
      cases check v with
      | error is => simp [hn, Except.map]
      | ok a => simp [Except.map]

/-- There are no stray entries exactly if every key is one of the names. -/
theorem strayIssues_eq_nil_iff {names : List String} :
    strayIssues names es = [] ↔ ∀ e ∈ es, ∃ s ∈ names, e.1 = .str s := by
  have hk : ∀ k : Value, strayIssue? names k = none ↔ ∃ s ∈ names, k = .str s := by
    intro k
    cases k <;> simp [strayIssue?]
  simp only [strayIssues, List.filterMap_eq_nil_iff, hk]

end Check

end NixContext
