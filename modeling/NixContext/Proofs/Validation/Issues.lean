import NixContext.Proofs.Validation.Check

/-! # Reported issues

A combined check reports the issues of all its parts, in order. A check that fails reports at
least one, so it accepts exactly if it reports nothing.
-/

namespace NixContext

namespace Checked

variable {α β : Type} {c : Checked α}

theorem issues_map (f : α → β) (c : Checked α) :
    issues (c.map f) = c.issues := by
  cases c <;> rfl

theorem issues_under (s : Step) (c : Checked α) :
    (c.under s).issues = c.issues.map (Issue.under s) := by
  cases c <;> rfl

theorem issues_also (f : Checked (α → β)) (a : Checked α) :
    (f.also a).issues = f.issues ++ a.issues := by
  cases f <;> cases a <;> rfl

theorem issues_guarded (c : Checked α) (further : List Issue) :
    (c.guarded further).issues = c.issues ++ further := by
  cases c <;> cases further <;> rfl

/-- A failure comes with issues. -/
def IsExplained (c : Checked α) : Prop :=
  ∀ is, c = .error is → is ≠ []

theorem isExplained_ok (a : α) : IsExplained (.ok a) :=
  nofun

theorem isExplained_fail (x : Cause) : IsExplained (fail x : Checked α) := by
  rintro _ ⟨⟩
  exact List.cons_ne_nil _ _

theorem IsExplained.issues_eq_nil_iff (h : IsExplained c) : c.issues = [] ↔ ∃ a, c = .ok a := by
  cases c with
  | ok a => exact ⟨fun _ => ⟨a, rfl⟩, fun _ => rfl⟩
  | error is => exact ⟨fun hn => (h is rfl hn).elim, nofun⟩

theorem isExplained_iff : IsExplained c ↔ (c.issues = [] → ∃ a, c = .ok a) := by
  refine ⟨fun h => h.issues_eq_nil_iff.mp, ?_⟩
  rintro h is rfl hn
  obtain ⟨a, ha⟩ := h hn
  cases ha

theorem IsExplained.ite {p : Prop} [Decidable p] {d : Checked α} (hc : IsExplained c)
    (hd : IsExplained d) : IsExplained (if p then c else d) := by
  split
  · exact hc
  · exact hd

theorem IsExplained.map (h : IsExplained c) (f : α → β) : IsExplained (c.map f) := by
  cases c with
  | ok a => exact isExplained_ok _
  | error is =>
    rintro _ ⟨⟩
    exact h is rfl

theorem IsExplained.bind (h : IsExplained c) {f : α → Checked β} (hf : ∀ a, IsExplained (f a)) :
    IsExplained (c.bind f) := by
  cases c with
  | ok a => exact hf a
  | error is =>
    rintro _ ⟨⟩
    exact h is rfl

theorem IsExplained.under (h : IsExplained c) (s : Step) : IsExplained (c.under s) := by
  cases c with
  | ok a => exact isExplained_ok _
  | error is =>
    rintro _ ⟨⟩
    simpa using h is rfl

theorem IsExplained.also {f : Checked (α → β)} {a : Checked α} (hf : IsExplained f)
    (ha : IsExplained a) : IsExplained (f.also a) := by
  rw [isExplained_iff, issues_also, List.append_eq_nil_iff]
  rintro ⟨hf', ha'⟩
  obtain ⟨g, rfl⟩ := hf.issues_eq_nil_iff.mp hf'
  obtain ⟨x, rfl⟩ := ha.issues_eq_nil_iff.mp ha'
  exact ⟨g x, rfl⟩

theorem IsExplained.guarded (h : IsExplained c) (further : List Issue) :
    IsExplained (c.guarded further) := by
  rw [isExplained_iff, issues_guarded, List.append_eq_nil_iff]
  rintro ⟨hc, rfl⟩
  obtain ⟨a, rfl⟩ := h.issues_eq_nil_iff.mp hc
  exact ⟨a, rfl⟩

theorem IsExplained.items {check : α → Checked β} (h : ∀ a, IsExplained (check a)) (i : Nat)
    (as : List α) : IsExplained (items check i as) := by
  induction as generalizing i with
  | nil => exact isExplained_ok _
  | cons a as ih => exact (((h a).under _).map _).also (ih (i + 1))

/-- A failed check, with all that it reports. -/
theorem IsExplained.eq_error (h : IsExplained c) (hn : c.issues ≠ []) : c = .error c.issues := by
  cases c with
  | ok a => exact (hn rfl).elim
  | error is => rfl

end Checked

namespace Check

open Checked

variable {xs : List Value} {i : Nat}

/-- The places of the values that are no texts, counted from a given one. -/
def strayPlaces : Nat → List Value → List Nat
  | _, [] => []
  | i, .str _ :: xs => strayPlaces (i + 1) xs
  | i, _ :: xs => i :: strayPlaces (i + 1) xs

theorem strayPlaces_cons (i : Nat) (x : Value) (xs : List Value) :
    (∃ t, x = .str t ∧ strayPlaces i (x :: xs) = strayPlaces (i + 1) xs) ∨
      (¬ x.IsText ∧ strayPlaces i (x :: xs) = i :: strayPlaces (i + 1) xs) := by
  cases x with
  | str t => exact .inl ⟨t, rfl, rfl⟩
  | _ => exact .inr ⟨nofun, rfl⟩

theorem mem_strayPlaces {k : Nat} :
    k ∈ strayPlaces i xs ↔ ∃ j x, k = i + j ∧ xs[j]? = some x ∧ ¬ x.IsText := by
  induction xs generalizing i with
  | nil => simp [strayPlaces]
  | cons x xs ih =>
    have htail : (∃ j y, k = i + j ∧ (x :: xs)[j]? = some y ∧ ¬ y.IsText) ↔
        (k = i ∧ ¬ x.IsText) ∨ k ∈ strayPlaces (i + 1) xs := by
      rw [ih]
      constructor
      · rintro ⟨_ | j, y, rfl, hy, hn⟩
        · cases hy
          exact .inl ⟨rfl, hn⟩
        · exact .inr ⟨j, y, by omega, hy, hn⟩
      · rintro (⟨rfl, hn⟩ | ⟨j, y, rfl, hy, hn⟩)
        · exact ⟨0, x, rfl, rfl, hn⟩
        · exact ⟨j + 1, y, by omega, hy, hn⟩
    rw [htail]
    rcases strayPlaces_cons i x xs with ⟨t, rfl, h⟩ | ⟨hn, h⟩
    · simp [h, Value.IsText]
    · simp [h, hn]

theorem pairwise_strayPlaces (i : Nat) (xs : List Value) :
    (strayPlaces i xs).Pairwise (· < ·) := by
  induction xs generalizing i with
  | nil => exact .nil
  | cons x xs ih =>
    rcases strayPlaces_cons i x xs with ⟨t, -, h⟩ | ⟨-, h⟩
    · rw [h]
      exact ih _
    · rw [h]
      refine .cons (fun k hk => ?_) (ih _)
      obtain ⟨j, -, rfl, -⟩ := mem_strayPlaces.mp hk
      omega

theorem isExplained_text (v : Value) : IsExplained (text v) := by
  cases v <;> first | exact isExplained_ok _ | exact isExplained_fail _

theorem issues_items_text (i : Nat) (xs : List Value) :
    (items text i xs).issues = (strayPlaces i xs).map (⟨.notText, [.index ·]⟩) := by
  induction xs generalizing i with
  | nil => rfl
  | cons x xs ih =>
    rw [items, issues_also, issues_map, issues_under, ih]
    cases x <;> rfl

variable {α : Type} {name : String} {check : Value → Checked α} {default : α}
  {es : List (Value × Value)}

theorem isExplained_truthOfInt (i : Int) : IsExplained (truthOfInt i) :=
  (isExplained_ok _).ite ((isExplained_ok _).ite (isExplained_fail _))

theorem isExplained_truth (v : Value) : IsExplained (truth v) := by
  cases v with
  | bool b => exact isExplained_ok b
  | int i => exact (isExplained_truthOfInt i).ite (isExplained_fail _)
  | float x => exact (isExplained_truthOfInt _).ite (isExplained_fail _)
  | str s => exact (isExplained_ok _).ite ((isExplained_ok _).ite (isExplained_fail _))
  | null | list _ | tuple _ | map _ | path _ => exact isExplained_fail _

theorem isExplained_path (v : Value) : IsExplained (path v) := by
  cases v <;> first | exact isExplained_ok _ | exact isExplained_fail _

theorem isExplained_texts (x : Cause) (v : Value) : IsExplained (texts x v) := by
  cases v <;> first | exact .items isExplained_text 0 _ | exact isExplained_fail _

theorem isExplained_orNull (h : ∀ v, IsExplained (check v)) (v : Value) :
    IsExplained (orNull check v) := by
  by_cases hv : v = .null
  · rw [hv]
    exact isExplained_ok _
  · rw [orNull_of_ne_null hv]
    exact (h v).map _

theorem isExplained_optional (h : ∀ v, IsExplained (check v)) :
    IsExplained (optional name check default es) := by
  rw [optional]
  split
  · exact (h _).under _
  · exact isExplained_ok _

/-- What a field reports: nothing if it is left out. -/
theorem issues_optional : (optional name check default es).issues =
    (Value.findEntry (.str name) es).elim [] fun v =>
      (check v).issues.map (Issue.under (.field name)) := by
  rw [optional]
  split
  · next v h => rw [h, issues_under]; rfl
  · next h => rw [h]; rfl

end Check

end NixContext
