import Mathlib.Data.List.Basic
import NixContext.Proofs.Reference.Referring

/-! # Seams of an expansion

An inserted text meets the text around it at two seams. A reference could be completed there, as
in a variable's name that is inserted between an opening and a brace. Inert texts prevent this:
they hold no character that begins or ends a reference and one that no reference holds further
on, so a reference of the expansion cannot begin in one, end in one or pass over one. It would
have been a reference before (`Piece.source_of_value`), and all of these have been replaced.
-/

namespace NixContext

/-- A character that begins or ends references. -/
def Reference.IsMark (c : Char) : Prop :=
  c = '$' ∨ c = '\x7b' ∨ c = '\x7d'

instance : DecidablePred Reference.IsMark :=
  fun c => inferInstanceAs (Decidable (c = '$' ∨ c = '\x7b' ∨ c = '\x7d'))

/-- A text that is no part of a reference and holds none, wherever it is inserted. -/
structure Reference.IsInert (u : List Char) : Prop where
  no_mark : ∀ c ∈ u, ¬ IsMark c
  foreign : ∃ c ∈ u, ¬ Text.isWord c ∧ c ≠ '.'

instance (u : List Char) : Decidable (Reference.IsInert u) :=
  -- over the characters of the text, not over all characters
  decidable_of_iff (u.all (fun c => ¬ Reference.IsMark c) ∧
      u.any fun c => ¬ Text.isWord c ∧ c ≠ '.') <| by
    simp only [List.all_eq_true, List.any_eq_true, decide_eq_true_eq]
    exact ⟨fun h => ⟨h.1, h.2⟩, fun h => ⟨h.no_mark, h.foreign⟩⟩

namespace Reference

variable {r : Reference} {u : List Char}

theorem isInert_of_absolute (h : u.head? = some '/') (hm : ∀ c ∈ u, ¬ IsMark c) : IsInert u :=
  ⟨hm, '/', List.mem_of_head? h, by decide, by decide⟩

/-- A written reference ends in a brace; what stands before it are marks, dots and words. -/
theorem exists_form_eq (hr : r.IsProper) :
    ∃ y, r.form = y ++ ['\x7d'] ∧ ∀ c ∈ y, IsMark c ∨ Text.isWord c ∨ c = '.' := by
  cases r with
  | directory =>
    refine ⟨['$', '\x7b', 'C', 'W', 'D'], rfl, ?_⟩
    simp only [List.forall_mem_cons, List.not_mem_nil, false_imp_iff, implies_true, and_true]
    exact ⟨.inl (.inl rfl), .inl (.inr (.inl rfl)), .inr (.inl (by decide)),
      .inr (.inl (by decide)), .inr (.inl (by decide))⟩
  | named name =>
    refine ⟨variableOpening ++ name, rfl, fun c hc => ?_⟩
    rcases List.mem_append.mp hc with hc | hc
    · simp only [variableOpening, List.mem_cons, List.not_mem_nil, or_false] at hc
      rcases hc with rfl | rfl | rfl | rfl | rfl | rfl
      · exact .inl (.inl rfl)
      · exact .inl (.inr (.inl rfl))
      all_goals exact .inr (by decide)
    · exact .inr (.inl (hr.2 c hc))

end Reference

namespace Piece

open Reference

variable {s : Surroundings} {ps : List Piece}

/-- The references among pieces are replaced by inert texts. -/
def Inserts (s : Surroundings) (ps : List Piece) : Prop :=
  ∀ r, reference r ∈ ps → IsInert (r.value s).toList

theorem Inserts.tail {p : Piece} (h : Inserts s (p :: ps)) : Inserts s ps :=
  fun r hr => h r (.tail _ hr)

theorem not_prefix_of_isInert {u y rest : List Char} (hu : IsInert u)
    (hy : ∀ c ∈ y, IsMark c ∨ Text.isWord c ∨ c = '.') : ¬ y ++ ['\x7d'] <+: u ++ rest := by
  intro h
  rcases List.prefix_or_prefix_of_prefix h (List.prefix_append u rest) with h | h
  · exact hu.no_mark _ (h.subset (List.mem_append_right y (.head _))) (.inr (.inr rfl))
  · obtain ⟨c, hc, hword, hdot⟩ := hu.foreign
    have hmark := hu.no_mark c hc
    rcases List.mem_append.mp (h.subset hc) with hc | hc
    · rcases hy c hc with hm | hw | hd
      · exact hmark hm
      · exact hword hw
      · exact hdot hd
    · exact hmark (.inr (.inr (List.mem_singleton.mp hc)))

/-- What begins the expansion of pieces like the rest of a reference has no seam in it, so the
text that the pieces were cut from begins in the same way. -/
theorem source_of_value {y : List Char} (hs : Inserts s ps)
    (hy : ∀ c ∈ y, IsMark c ∨ Text.isWord c ∨ c = '.')
    (h : y ++ ['\x7d'] <+: ps.flatMap (value s)) : y ++ ['\x7d'] <+: ps.flatMap source := by
  induction ps generalizing y with
  | nil => simp at h
  | cons p ps ih =>
    cases p with
    | char c =>
      rw [List.flatMap_cons] at h ⊢
      cases y with
      | nil => simpa [value, source] using h
      | cons d y =>
        obtain ⟨rfl, hrest⟩ := List.cons_prefix_cons.mp h
        exact List.cons_prefix_cons.mpr
          ⟨rfl, ih hs.tail (fun c hc => hy c (.tail _ hc)) hrest⟩
    | reference r => exact (not_prefix_of_isInert (hs r (.head _)) hy h).elim

/-- No reference stands in an expansion that inserts inert texts: it would begin with a character
that was there before, and be one of the references that the pieces were cut at. -/
theorem not_standsAt_value {t : List Char} (hc : IsCut t ps) (hs : Inserts s ps) (r : Reference)
    (i : Nat) : ¬ r.StandsAt (ps.flatMap (value s)) i := by
  induction ps generalizing t i with
  | nil => simp [StandsAt, form_eq]
  | cons p ps ih =>
    obtain rfl := hc.spells
    cases p with
    | char c =>
      obtain ⟨hno, hc⟩ := isCut_char_cons.mp hc
      cases i with
      | zero =>
        rintro ⟨hr, h⟩
        obtain ⟨y, hform, hy⟩ := exists_form_eq hr
        rw [hform] at h
        have hsource := source_of_value hs hy h
        rw [← hform] at hsource
        exact hno r ⟨hr, hsource⟩
      | succ i => exact ih hc hs.tail i
    | reference q =>
      have hq : q.IsProper := ((hc.complete 0 q).mp (.head _)).1
      have hinert := hs q (.head _)
      rcases Nat.lt_or_ge i (q.value s).toList.length with hlt | hge
      · rintro ⟨hr, h⟩
        rw [form_eq, List.flatMap_cons, value, List.drop_append_of_le_length (Nat.le_of_lt hlt),
          List.drop_eq_getElem_cons hlt, List.cons_append, List.cons_prefix_cons] at h
        exact hinert.no_mark _ (List.getElem_mem hlt) (.inl h.1.symm)
      · obtain ⟨j, rfl⟩ := Nat.exists_eq_add_of_le' hge
        rw [List.flatMap_cons, value, standsAt_append_add]
        exact ih ((isCut_reference_cons hq).mp hc) hs.tail j

end Piece

namespace Value

open Reference

variable {s : Surroundings} {v w : Value}

theorem filled_of_not_standsAt {t : String} (h : ∀ (r : Reference) i, ¬ r.StandsAt t.toList i)
    (s : Surroundings) : filled s t = t := by
  rw [filled, cutText, Piece.ofText_of_not_standsAt h, Piece.flatMap_value_map_char,
    String.ofList_toList]

theorem not_standsAt_filled {t : String}
    (h : ∀ (r : Reference) i, r.StandsAt t.toList i → IsInert (r.value s).toList)
    (r : Reference) (i : Nat) : ¬ r.StandsAt (filled s t).toList i := by
  rw [filled, String.toList_ofList]
  refine Piece.not_standsAt_value (Piece.isCut_ofText t.toList) (fun q hq => ?_) r i
  obtain ⟨j, hj⟩ := Piece.reference_mem_ofText.mp hq
  exact h q j hj

/-- A value that refers to nothing is its own expansion, in all surroundings. -/
theorem expandReferences_of_not_refersTo (h : ∀ r, ¬ v.RefersTo r) (s : Surroundings) :
    v.expandReferences s = .ok v := by
  refine expandReferences_eq_ok_iff.mpr ⟨fun r hr => (h r hr).elim, ?_⟩
  have hfilled : ∀ t ∈ v.texts, filled s t = t := fun t ht =>
    filled_of_not_standsAt (fun r i hr => h r ⟨t, ht, i, hr⟩) s
  rw [mapTexts_congr hfilled, mapTexts_id]

/-- If everything that an expansion inserts is inert, the expanded value refers to nothing, and
expanding it again changes nothing, whatever the surroundings are by then. All absolute paths
without marks are inert. -/
theorem expandReferences_expanded (h : v.expandReferences s = .ok w)
    (hi : ∀ r u, v.RefersTo r → r.resolve s = .ok u → IsInert u.toList) :
    (∀ r, ¬ w.RefersTo r) ∧ (∀ later, w.expandReferences later = .ok w) ∧
      ∀ u : List Char, u.head? = some '/' → (∀ c ∈ u, ¬ IsMark c) → IsInert u := by
  obtain ⟨hset, rfl⟩ := expandReferences_eq_ok_iff.mp h
  have hno : ∀ r, ¬ (v.mapTexts (filled s)).RefersTo r := by
    rintro r ⟨u, hu, i, hr⟩
    rw [texts_mapTexts] at hu
    obtain ⟨t, ht, rfl⟩ := List.mem_map.mp hu
    refine not_standsAt_filled (fun q j hq => hi q _ ⟨t, ht, j, hq⟩ ?_) r i hr
    rw [resolve_eq, hset q ⟨t, ht, j, hq⟩, unless?]
  exact ⟨hno, expandReferences_of_not_refersTo hno, fun u => isInert_of_absolute⟩

/-- A variable inside the opening of another, two references side by side, and texts that only
resemble references. -/
def seams : Value :=
  .list [.str "$\x7benv.$\x7benv.A\x7d\x7d", .list [.str "$\x7benv.A\x7d$\x7bCWD\x7d"],
    .tuple [.str "$\x7benv.A\x7d"], .str "$$\x7bCWD\x7d\x7d"]

theorem expandReferences_seams :
    let s : Surroundings := ⟨Table.ofList [("A", "-A")], "/w"⟩
    ∃ w, seams.expandReferences s = .ok w ∧
      (∀ r u, seams.RefersTo r → r.resolve s = .ok u → IsInert u.toList) ∧
      w = .list [.str "$\x7benv.-A\x7d", .list [.str "-A/w"], .tuple [.str "$\x7benv.A\x7d"],
        .str "$/w\x7d"] ∧
      (∀ r, ¬ w.RefersTo r) ∧ w.expandReferences ⟨∅, "/"⟩ = .ok w := by
  intro s
  have hw : seams.expandReferences s = .ok (.list [.str "$\x7benv.-A\x7d", .list [.str "-A/w"],
      .tuple [.str "$\x7benv.A\x7d"], .str "$/w\x7d"]) := by decide +kernel
  have hi : ∀ r u, seams.RefersTo r → r.resolve s = .ok u → IsInert u.toList := by
    intro r u hr hu
    have hrefs : (seams.texts.flatMap fun t => Piece.references (cutText t)) =
        [.named ['A'], .named ['A'], .directory, .directory] := by decide +kernel
    rw [← mem_references_of_texts, hrefs] at hr
    simp only [List.mem_cons, List.not_mem_nil, or_false] at hr
    rcases hr with rfl | rfl | rfl | rfl <;> cases hu <;> decide
  obtain ⟨hno, hagain, -⟩ := expandReferences_expanded hw hi
  exact ⟨_, hw, hi, rfl, hno, hagain _⟩

end Value

end NixContext
