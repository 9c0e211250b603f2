import NixContext.Proofs.Reference.Occurrence

/-! # Expansion of references

The expansion of a value is described by its texts, those that are reached through lists: every
reference in them is replaced by its value at once, unless one of them has no value, and then
the first of these is reported. `expandReferences_eq_expansion` says that this is what
expanding piece by piece and item by item comes to.
-/

namespace NixContext

/-- A value, unless there is something to report. -/
def unless? {ε α : Type} (e : Option ε) (a : α) : Except ε α :=
  match e with
  | some e => .error e
  | none => .ok a

section Unless

variable {ε α β γ : Type}

theorem map_unless? (f : α → β) (e : Option ε) (a : α) :
    (unless? e a).map f = unless? e (f a) := by
  cases e <;> rfl

/-- Of two reports the first one counts. -/
theorem unless?_bind (f : α → β → γ) (e d : Option ε) (a : α) (b : β) :
    (do let x ← unless? e a; let y ← unless? d b; pure (f x y)) = unless? (e.or d) (f a b) := by
  cases e <;> cases d <;> rfl

end Unless

namespace Reference

/-- What is reported of a reference: nothing if it has a value, which may be empty. -/
def unset? (s : Surroundings) : Reference → Option UnsetVariable
  | named name =>
    match s.environment.find? (String.ofList name) with
    | some _ => none
    | none => some ⟨String.ofList name⟩
  | directory => none

/-- The value of a reference, empty if it has none. -/
def value (s : Surroundings) : Reference → String
  | named name => (s.environment.find? (String.ofList name)).getD ""
  | directory => s.directory

theorem resolve_eq (s : Surroundings) (r : Reference) :
    r.resolve s = unless? (r.unset? s) (r.value s) := by
  cases r with
  | directory => rfl
  | named name =>
    simp only [resolve, unset?, value]
    cases s.environment.find? (String.ofList name) <;> rfl

end Reference

namespace Piece

/-- The text in the place of a piece. -/
def value (s : Surroundings) : Piece → List Char
  | char c => [c]
  | reference r => (r.value s).toList

/-- The reference that a piece is. -/
def reference? : Piece → Option Reference
  | char _ => none
  | reference r => some r

/-- The references among pieces, in order. -/
def references (ps : List Piece) : List Reference :=
  ps.filterMap reference?

theorem map_snd_places (k : Nat) (ps : List Piece) :
    (places k ps).map Prod.snd = references ps := by
  induction ps generalizing k with
  | nil => rfl
  | cons p ps ih =>
    cases p with
    | char c => exact ih _
    | reference r => exact congrArg (r :: ·) (ih _)

theorem expandAll_eq (s : Surroundings) (ps : List Piece) :
    expandAll s ps =
      unless? ((references ps).findSome? (Reference.unset? s)) (ps.flatMap (value s)) := by
  induction ps with
  | nil => rfl
  | cons p ps ih =>
    have hp : p.expand s =
        unless? ((references [p]).findSome? (Reference.unset? s)) (p.value s) := by
      cases p with
      | char c => rfl
      | reference r =>
        rw [expand, Reference.resolve_eq, map_unless?]
        exact congrArg (unless? · _) List.findSome?_singleton.symm
    have hr : references (p :: ps) = references [p] ++ references ps :=
      List.filterMap_append (l := [p])
    rw [expandAll, hp, ih, unless?_bind, hr, List.findSome?_append, List.flatMap_cons]

theorem places_map_char (k : Nat) (t : List Char) : places k (t.map char) = [] := by
  induction t generalizing k with
  | nil => rfl
  | cons c t ih => exact ih _

/-- A text without references is cut into characters. -/
theorem ofText_of_not_standsAt {t : List Char} (h : ∀ (r : Reference) i, ¬ r.StandsAt t i) :
    ofText t = t.map char := by
  refine (isCut_iff.mp ⟨?_, fun i r => ?_⟩).symm
  · simp [List.flatMap_map, source]
  · rw [places_map_char]
    exact ⟨nofun, fun hr => (h r i hr).elim⟩

theorem ofText_of_not_infix {t : List Char} (h : ¬ Reference.opening <:+: t) :
    ofText t = t.map char := by
  refine ofText_of_not_standsAt fun r i ⟨_, hr⟩ => h ?_
  have ho : Reference.opening <+: r.form := by cases r <;> exact ⟨_, rfl⟩
  exact (ho.trans hr).isInfix.trans (List.drop_suffix i t).isInfix

theorem flatMap_value_map_char (s : Surroundings) (t : List Char) :
    (t.map char).flatMap (value s) = t := by
  simp [List.flatMap_map, value]

end Piece

theorem expandText_eq (s : Surroundings) (t : String) :
    expandText s t =
      unless? ((Piece.references (Piece.ofText t.toList)).findSome? (Reference.unset? s))
        (String.ofList ((Piece.ofText t.toList).flatMap (Piece.value s))) := by
  rw [expandText, Piece.expandAll_eq, map_unless?]

/-- A text that is not looked at is its own expansion. -/
theorem expandText_of_not_infix (s : Surroundings) {t : String}
    (h : ¬ Reference.opening <:+: t.toList) : expandText s t = .ok t := by
  have hr : Piece.references (t.toList.map Piece.char) = [] := by
    rw [← Piece.map_snd_places 0, Piece.places_map_char]
    rfl
  rw [expandText_eq, Piece.ofText_of_not_infix h, hr, Piece.flatMap_value_map_char,
    String.ofList_toList]
  rfl

namespace Value

mutual

/-- The texts of a value that are reached through lists, in order. -/
def texts : Value → List String
  | str t => [t]
  | list xs => itemTexts xs
  | _ => []

/-- The texts of items. -/
def itemTexts : List Value → List String
  | [] => []
  | x :: xs => texts x ++ itemTexts xs

end

mutual

/-- Replaces the texts of a value that are reached through lists; all else stays. -/
def mapTexts (f : String → String) : Value → Value
  | str t => str (f t)
  | list xs => list (mapItems f xs)
  | v => v

/-- Replaces the texts of items. -/
def mapItems (f : String → String) : List Value → List Value
  | [] => []
  | x :: xs => mapTexts f x :: mapItems f xs

end

/-- The expansion of a value whose texts are cut as given. -/
def expansion (s : Surroundings) (cut : String → List Piece) (v : Value) :
    Except UnsetVariable Value :=
  unless? ((v.texts.flatMap fun t => Piece.references (cut t)).findSome? (Reference.unset? s))
    (v.mapTexts fun t => String.ofList ((cut t).flatMap (Piece.value s)))

/-- The pieces of a text in a value. -/
def cutText (t : String) : List Piece :=
  Piece.ofText t.toList

mutual

theorem expandReferences_eq (s : Surroundings) :
    ∀ v : Value, v.expandReferences s = v.expansion s cutText
  | str t => by
    have hx : (expandText s t).map str = expansion s cutText (str t) := by
      rw [expandText_eq, map_unless?, expansion, texts, List.flatMap_singleton]
      rfl
    rw [expandReferences]
    split
    · exact hx
    · rename_i h
      rw [Text.holds_iff] at h
      rw [← hx, expandText_of_not_infix s h]
      rfl
  | list xs => by
    rw [expandReferences, expandItems_eq s xs, map_unless?]
    rfl
  | null | bool _ | int _ | float _ | tuple _ | map _ | path _ => rfl

theorem expandItems_eq (s : Surroundings) :
    ∀ xs : List Value, expandItems s xs =
      unless?
        (((itemTexts xs).flatMap fun t => Piece.references (cutText t)).findSome?
          (Reference.unset? s))
        (mapItems (fun t => String.ofList ((cutText t).flatMap (Piece.value s))) xs)
  | [] => rfl
  | x :: xs => by
    rw [expandItems, expandReferences_eq s x, expandItems_eq s xs, expansion, unless?_bind,
      itemTexts, List.flatMap_append, List.findSome?_append]
    rfl

end

/-- Expanding a value is replacing all its references at once. There is one way to cut its
texts so that the references are all that stand in them, and these do not overlap. -/
theorem expandReferences_eq_expansion (s : Surroundings) (v : Value) :
    ∃ cut : String → List Piece,
      (∀ t ps, Piece.IsCut t.toList ps ↔ ps = cut t) ∧
      (∀ t, (Piece.places 0 (cut t)).Pairwise fun a b => a.1 + a.2.form.length ≤ b.1) ∧
      v.expandReferences s = v.expansion s cut :=
  ⟨cutText, fun _ _ => Piece.isCut_iff, fun _ => Piece.pairwise_places 0 _,
    expandReferences_eq s v⟩

end Value

end NixContext
