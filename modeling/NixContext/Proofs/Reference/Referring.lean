import NixContext.Proofs.Reference.Expansion

/-! # What a value refers to

A value refers to what stands in a text that is reached through lists. Expansion succeeds
exactly if everything that the value refers to has a value, and what it gives depends on these
texts only.
-/

namespace NixContext

section Unless

variable {ε α : Type} {e : Option ε} {a b : α}

theorem unless?_eq_ok_iff : unless? e a = .ok b ↔ e = none ∧ a = b := by
  cases e <;> simp [unless?]

end Unless

namespace Piece

variable {r : Reference} {t : List Char}

theorem mem_references_ofText : r ∈ references (ofText t) ↔ ∃ i, r.StandsAt t i := by
  rw [← map_snd_places 0, List.mem_map]
  constructor
  · rintro ⟨⟨i, q⟩, hm, rfl⟩
    exact ⟨i, ((isCut_ofText t).complete i q).mp hm⟩
  · rintro ⟨i, hi⟩
    exact ⟨(i, r), ((isCut_ofText t).complete i r).mpr hi, rfl⟩

theorem reference_mem_ofText : reference r ∈ ofText t ↔ ∃ i, r.StandsAt t i := by
  rw [← mem_references_ofText, references, List.mem_filterMap]
  constructor
  · intro h
    exact ⟨_, h, rfl⟩
  · rintro ⟨_ | q, hm, hr⟩ <;> cases hr
    exact hm

end Piece

namespace Value

/-- A reference stands in a text that is reached through lists. -/
def RefersTo (v : Value) (r : Reference) : Prop :=
  ∃ t ∈ v.texts, ∃ i, r.StandsAt t.toList i

variable {v w : Value} {s : Surroundings} {f g : String → String}

theorem mem_references_of_texts {r : Reference} :
    r ∈ (v.texts.flatMap fun t => Piece.references (cutText t)) ↔ v.RefersTo r := by
  simp only [List.mem_flatMap, cutText, Piece.mem_references_ofText, RefersTo]

mutual

theorem texts_mapTexts (f : String → String) : ∀ v : Value, (v.mapTexts f).texts = v.texts.map f
  | str _ => rfl
  | list xs => itemTexts_mapItems f xs
  | null | bool _ | int _ | float _ | tuple _ | map _ | path _ => rfl

theorem itemTexts_mapItems (f : String → String) :
    ∀ xs : List Value, itemTexts (mapItems f xs) = (itemTexts xs).map f
  | [] => rfl
  | x :: xs => by
    rw [mapItems, itemTexts, itemTexts, List.map_append, texts_mapTexts f x,
      itemTexts_mapItems f xs]

end

mutual

theorem mapTexts_congr : ∀ {v : Value}, (∀ t ∈ v.texts, f t = g t) → v.mapTexts f = v.mapTexts g
  | str _, h => congrArg str (h _ (.head _))
  | list _, h => congrArg list (mapItems_congr h)
  | null, _ | bool _, _ | int _, _ | float _, _ | tuple _, _ | map _, _ | path _, _ => rfl

theorem mapItems_congr :
    ∀ {xs : List Value}, (∀ t ∈ itemTexts xs, f t = g t) → mapItems f xs = mapItems g xs
  | [], _ => rfl
  | x :: xs, h => by
    rw [mapItems, mapItems, mapTexts_congr fun t ht => h t (List.mem_append_left _ ht),
      mapItems_congr fun t ht => h t (List.mem_append_right _ ht)]

end

mutual

theorem mapTexts_mapTexts (f g : String → String) :
    ∀ v : Value, (v.mapTexts f).mapTexts g = v.mapTexts fun t => g (f t)
  | str _ => rfl
  | list xs => congrArg list (mapItems_mapItems f g xs)
  | null | bool _ | int _ | float _ | tuple _ | map _ | path _ => rfl

theorem mapItems_mapItems (f g : String → String) :
    ∀ xs : List Value, mapItems g (mapItems f xs) = mapItems (fun t => g (f t)) xs
  | [] => rfl
  | x :: xs => by
    rw [mapItems, mapItems, mapItems, mapTexts_mapTexts f g x, mapItems_mapItems f g xs]

end

mutual

theorem mapTexts_id : ∀ v : Value, v.mapTexts (fun t => t) = v
  | str _ => rfl
  | list xs => congrArg list (mapItems_id xs)
  | null | bool _ | int _ | float _ | tuple _ | map _ | path _ => rfl

theorem mapItems_id : ∀ xs : List Value, mapItems (fun t => t) xs = xs
  | [] => rfl
  | x :: xs => by rw [mapItems, mapTexts_id x, mapItems_id xs]

end

/-- A text with its references filled in. -/
def filled (s : Surroundings) (t : String) : String :=
  String.ofList ((cutText t).flatMap (Piece.value s))

theorem expandReferences_eq_ok_iff :
    v.expandReferences s = .ok w ↔
      (∀ r, v.RefersTo r → r.unset? s = none) ∧ w = v.mapTexts (filled s) := by
  rw [expandReferences_eq, expansion, unless?_eq_ok_iff, List.findSome?_eq_none_iff]
  simp only [mem_references_of_texts, eq_comm (a := w)]
  rfl

end Value

end NixContext
