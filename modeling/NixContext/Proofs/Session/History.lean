import NixContext.Proofs.Session.Frame

/-! # Makers of objects

An object is what the last action has left that made it or changed it. `maker?` finds this action
in a run, together with the session that it was carried out in.
-/

namespace NixContext.Session

/-- Whether an action makes the object under a label when it is carried out, or changes it. -/
def Makes (s : Session) (a : Action) (label : String) : Prop :=
  (a.rebinds label ∧ (s.step a).1.result.isOk) ∨
    (s.step a).2.objects.find? label ≠ s.objects.find? label

instance (s : Session) (a : Action) (label : String) : Decidable (s.Makes a label) :=
  inferInstanceAs (Decidable (_ ∨ _))

/-- The last action of a run that made the object under a label or changed it, and the session it
was carried out in. -/
def maker? (label : String) : Session → List Action → Option (Session × Action)
  | _, [] => none
  | s, a :: as =>
    (maker? label (s.step a).2 as).or (if s.Makes a label then some (s, a) else none)

variable {s m : Session} {a : Action} {as : List Action} {label : String}

theorem find?_step_of_not_makes (h : ¬ s.Makes a label) :
    (s.step a).2.objects.find? label = s.objects.find? label :=
  Decidable.of_not_not fun hne => h (.inr hne)

theorem label?_of_makes (h : s.Makes a label) : a.label? = some label := by
  rcases h with ⟨hr, -⟩ | hne
  · exact label?_of_rebinds hr
  · exact Decidable.of_not_not fun hl => hne (find?_step hl)

/-- A maker has stored an object. -/
theorem exists_stores_of_makes (h : s.Makes a label) :
    ∃ o, a.Stores s o ∧ (s.step a).2 = s.store label o := by
  have hl := label?_of_makes h
  rcases step_cases s a with ⟨hm, -⟩ | ⟨ht, hf⟩ | ⟨l, o, hl', ho, ht⟩
  · rw [label?_of_movesSurroundings hm] at hl
    cases hl
  · obtain ⟨f, hf⟩ := hf (by rw [hl]; exact Option.some_ne_none _)
    rcases h with ⟨-, hok⟩ | hne
    · rw [hf] at hok
      cases hok
    · exact absurd (by rw [ht]) hne
  · rw [hl] at hl'
    cases hl'
    exact ⟨o, ho, ht⟩

theorem find?_after_of_maker?_eq_none (h : maker? label s as = none) :
    (s.after as).objects.find? label = s.objects.find? label := by
  induction as generalizing s with
  | nil => rfl
  | cons a as ih =>
    rw [maker?, Option.or_eq_none_iff] at h
    have hm : ¬ s.Makes a label := fun hm => by
      rw [if_pos hm] at h
      cases h.2
    rw [after, ih h.1, find?_step_of_not_makes hm]

/-- A maker is one of the actions, carried out where the actions before it have led, and what
it stored is still there. -/
theorem maker?_spec (h : maker? label s as = some (m, a)) :
    m.Makes a label ∧ (∃ before behind, as = before ++ a :: behind ∧ m = s.after before) ∧
      (s.after as).objects.find? label = (m.step a).2.objects.find? label := by
  induction as generalizing s with
  | nil => cases h
  | cons b as ih =>
    rw [maker?, Option.or_eq_some_iff] at h
    rcases h with h | ⟨hn, h⟩
    · obtain ⟨hm, ⟨before, behind, rfl, rfl⟩, hf⟩ := ih h
      exact ⟨hm, ⟨b :: before, behind, rfl, rfl⟩, hf⟩
    · by_cases hm : s.Makes b label
      · rw [if_pos hm] at h
        cases h
        exact ⟨hm, ⟨[], as, rfl, rfl⟩, find?_after_of_maker?_eq_none hn⟩
      · rw [if_neg hm] at h
        cases h

theorem maker?_eq_none (h : ∀ a ∈ as, a.label? ≠ some label) : maker? label s as = none := by
  induction as generalizing s with
  | nil => rfl
  | cons a as ih =>
    rw [maker?, ih fun b hb => h b (.tail _ hb),
      if_neg fun hm => h a (.head _) (label?_of_makes hm)]
    rfl

/-- An action that stored an object is its maker unless a later one has the same label. -/
theorem maker?_append_cons {before behind : List Action} (h : (s.after before).Makes a label)
    (hb : ∀ b ∈ behind, b.label? ≠ some label) :
    maker? label s (before ++ a :: behind) = some (s.after before, a) := by
  induction before generalizing s with
  | nil =>
    have hm : s.Makes a label := h
    rw [List.nil_append, maker?, maker?_eq_none hb, if_pos hm]
    rfl
  | cons b before ih =>
    rw [List.cons_append, maker?, ih h]
    rfl

theorem exists_maker? {o : Object} (hs : s.objects = ∅)
    (h : (s.after as).objects.find? label = some o) : ∃ m a, maker? label s as = some (m, a) := by
  cases hm : maker? label s as with
  | some p => exact ⟨p.1, p.2, rfl⟩
  | none =>
    rw [find?_after_of_maker?_eq_none hm, hs, Table.find?_empty] at h
    cases h

end NixContext.Session
