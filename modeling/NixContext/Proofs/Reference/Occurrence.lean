import NixContext.Reference

/-! # Occurrences of references

A reference stands at a place of a text if its written form is found there and its name is a
word. Occurrences never overlap, since every form begins with a character that no form holds
further on. Cutting a text into pieces finds all of them: `isCut_iff` says that the pieces of
a text are its only spelling in which the references are exactly the occurrences.
-/

namespace NixContext

namespace Reference

/-- A reference that can be written: the name of a variable is a word. -/
def IsProper : Reference → Prop
  | named name => name ≠ [] ∧ ∀ c ∈ name, Text.isWord c
  | directory => True

/-- A reference is written at a place of a text. -/
def StandsAt (r : Reference) (t : List Char) (i : Nat) : Prop :=
  r.IsProper ∧ r.form <+: t.drop i

/-- The written form behind its first character. -/
def body : Reference → List Char
  | named name => variableOpening.tail ++ name ++ ['\x7d']
  | directory => directoryForm.tail

theorem form_eq (r : Reference) : r.form = '$' :: r.body := by
  cases r <;> rfl

theorem length_form_pos (r : Reference) : 0 < r.form.length := by
  simp [form_eq]

theorem isWord_dollar : Text.isWord '$' = false := by decide

theorem isWord_closing : Text.isWord '\x7d' = false := by decide

/-- A proper form holds its first character only once. -/
theorem dollar_not_mem_body {r : Reference} (h : r.IsProper) : '$' ∉ r.body := by
  cases r with
  | directory => decide
  | named name =>
    have hn : '$' ∉ name := fun hm => by
      have hw := h.2 _ hm
      rw [isWord_dollar] at hw
      cases hw
    simp [body, variableOpening, hn]

theorem closing?_eq_some_iff {s rest : List Char} {r : Reference} :
    closing? s = some (r, rest) ↔
      ∃ name, r = named name ∧ r.IsProper ∧ s = name ++ '\x7d' :: rest := by
  constructor
  · intro h
    unfold closing? at h
    split at h
    · rename_i c cs rest' hw hd
      cases h
      have hs : s.takeWhile Text.isWord ++ s.dropWhile Text.isWord = s :=
        List.takeWhile_append_dropWhile
      rw [hw, hd] at hs
      have hall : ∀ a ∈ c :: cs, Text.isWord a := by
        rw [← hw]
        intro a ha
        exact List.all_eq_true.mp List.all_takeWhile a ha
      exact ⟨_, rfl, ⟨by simp, hall⟩, hs.symm⟩
    · cases h
  · rintro ⟨name, rfl, ⟨hne, hall⟩, rfl⟩
    have hw : (name ++ '\x7d' :: rest).takeWhile Text.isWord = name := by
      rw [List.takeWhile_append_of_pos hall, List.takeWhile_cons_of_neg (by simp [isWord_closing]),
        List.append_nil]
    have hd : (name ++ '\x7d' :: rest).dropWhile Text.isWord = '\x7d' :: rest := by
      rw [List.dropWhile_append_of_pos hall, List.dropWhile_cons_of_neg (by simp [isWord_closing])]
    unfold closing?
    rw [hw, hd]
    obtain ⟨c, cs, rfl⟩ := List.exists_cons_of_ne_nil hne
    rfl

theorem leading?_eq_some_iff {s rest : List Char} {r : Reference} :
    leading? s = some (r, rest) ↔ r.IsProper ∧ s = r.form ++ rest := by
  unfold leading?
  split
  · rename_i rest' h
    obtain rfl := Text.isPrefixOf?_eq_some_iff.mp h
    constructor
    · intro he
      cases he
      exact ⟨trivial, rfl⟩
    · rintro ⟨-, he⟩
      cases r with
      | directory => rw [List.append_cancel_left he]
      | named name => simp [form, directoryForm, variableOpening] at he
  · rename_i hn
    have hdir : ¬ (r = directory ∧ s = r.form ++ rest) := by
      rintro ⟨rfl, he⟩
      have := Text.isPrefixOf?_eq_some_iff.mpr he
      simp [form, hn] at this
    split
    · rename_i rest' h
      obtain rfl := Text.isPrefixOf?_eq_some_iff.mp h
      rw [closing?_eq_some_iff]
      constructor
      · rintro ⟨name, rfl, hp, rfl⟩
        exact ⟨hp, by simp [form]⟩
      · rintro ⟨hp, he⟩
        cases r with
        | directory => exact (hdir ⟨rfl, he⟩).elim
        | named name => exact ⟨name, rfl, hp, by simpa [form] using he⟩
    · rename_i hv
      refine ⟨nofun, ?_⟩
      rintro ⟨hp, he⟩
      cases r with
      | directory => exact (hdir ⟨rfl, he⟩).elim
      | named name =>
        have := Text.isPrefixOf?_eq_some_iff.mpr
          (show s = variableOpening ++ (name ++ '\x7d' :: rest) by simpa [form] using he)
        rw [hv] at this
        cases this

/-- What stands at the front of a text, and what follows it, is determined by the text. -/
theorem form_append_inj {r q : Reference} {s t : List Char} (hr : r.IsProper) (hq : q.IsProper)
    (h : r.form ++ s = q.form ++ t) : r = q ∧ s = t := by
  have h₁ : leading? (r.form ++ s) = some (r, s) := leading?_eq_some_iff.mpr ⟨hr, rfl⟩
  have h₂ : leading? (q.form ++ t) = some (q, t) := leading?_eq_some_iff.mpr ⟨hq, rfl⟩
  rw [h, h₂] at h₁
  cases h₁
  exact ⟨rfl, rfl⟩

theorem standsAt_zero_iff {r : Reference} {t : List Char} :
    r.StandsAt t 0 ↔ ∃ s, leading? t = some (r, s) := by
  simp only [leading?_eq_some_iff, exists_and_left, StandsAt, List.drop_zero]
  exact and_congr_right fun _ => ⟨fun ⟨s, h⟩ => ⟨s, h.symm⟩, fun ⟨s, h⟩ => ⟨s, h.symm⟩⟩

theorem standsAt_cons_succ {r : Reference} {c : Char} {t : List Char} {i : Nat} :
    r.StandsAt (c :: t) (i + 1) ↔ r.StandsAt t i := Iff.rfl

theorem standsAt_append_add {r : Reference} {p t : List Char} {i : Nat} :
    r.StandsAt (p ++ t) (i + p.length) ↔ r.StandsAt t i := by
  rw [StandsAt, Nat.add_comm, List.drop_length_add_append]
  rfl

/-- The occurrences in a text that begins with a reference: this one, and those behind it. No
other begins inside, where the first character of a form is not found. -/
theorem standsAt_form_append_iff {r q : Reference} {t : List Char} {i : Nat} (hr : r.IsProper) :
    q.StandsAt (r.form ++ t) i ↔
      (i = 0 ∧ q = r) ∨ ∃ j, i = j + r.form.length ∧ q.StandsAt t j := by
  constructor
  · rintro ⟨hq, hp⟩
    rcases Nat.eq_zero_or_pos i with rfl | hi
    · obtain ⟨s, hs⟩ := hp
      exact .inl ⟨rfl, (form_append_inj hq hr hs).1⟩
    · rcases Nat.lt_or_ge i r.form.length with hlt | hge
      · obtain ⟨k, rfl⟩ : ∃ k, i = k + 1 := ⟨i - 1, by omega⟩
        rw [form_eq, List.length_cons] at hlt
        rw [form_eq r, form_eq q, List.cons_append, List.drop_succ_cons,
          List.drop_append_of_le_length (by omega), List.drop_eq_getElem_cons (by omega),
          List.cons_append, List.cons_prefix_cons] at hp
        exact (dollar_not_mem_body hr (hp.1 ▸ List.getElem_mem _)).elim
      · obtain ⟨j, rfl⟩ : ∃ j, i = j + r.form.length := ⟨i - r.form.length, by omega⟩
        exact .inr ⟨j, rfl, standsAt_append_add.mp ⟨hq, hp⟩⟩
  · rintro (⟨rfl, rfl⟩ | ⟨j, rfl, hj⟩)
    · exact ⟨hr, List.prefix_append ..⟩
    · exact standsAt_append_add.mpr hj

end Reference

namespace Piece

/-- The text that a piece was cut from. -/
def source : Piece → List Char
  | char c => [c]
  | reference r => r.form

/-- The references among pieces with the places where they begin; the first piece begins at
the given place. -/
def places : Nat → List Piece → List (Nat × Reference)
  | _, [] => []
  | i, char _ :: ps => places (i + 1) ps
  | i, reference r :: ps => (i, r) :: places (i + r.form.length) ps

/-- The pieces spell a text and their references are exactly those that stand in it. -/
structure IsCut (t : List Char) (ps : List Piece) : Prop where
  spells : ps.flatMap source = t
  complete : ∀ i r, (i, r) ∈ places 0 ps ↔ r.StandsAt t i

theorem mem_places_add_iff {n k i : Nat} {r : Reference} {ps : List Piece} :
    (i, r) ∈ places (k + n) ps ↔ ∃ j, i = j + n ∧ (j, r) ∈ places k ps := by
  induction ps generalizing k with
  | nil => simp [places]
  | cons p ps ih =>
    cases p with
    | char c => rw [places, places, Nat.add_right_comm, ih]
    | reference q =>
      simp only [places, List.mem_cons, Prod.mk.injEq, Nat.add_right_comm k n, ih]
      constructor
      · rintro (⟨rfl, rfl⟩ | ⟨j, rfl, hj⟩)
        · exact ⟨k, rfl, .inl ⟨rfl, rfl⟩⟩
        · exact ⟨j, rfl, .inr hj⟩
      · rintro ⟨j, rfl, ⟨rfl, rfl⟩ | hj⟩
        · exact .inl ⟨rfl, rfl⟩
        · exact .inr ⟨j, rfl, hj⟩

theorem le_of_mem_places {k i : Nat} {r : Reference} {ps : List Piece}
    (h : (i, r) ∈ places k ps) : k ≤ i := by
  rw [← Nat.zero_add k, mem_places_add_iff] at h
  obtain ⟨j, rfl, -⟩ := h
  omega

/-- The references of pieces follow one another without overlap. -/
theorem pairwise_places (k : Nat) (ps : List Piece) :
    (places k ps).Pairwise fun a b => a.1 + a.2.form.length ≤ b.1 := by
  induction ps generalizing k with
  | nil => exact .nil
  | cons p ps ih =>
    cases p with
    | char c => exact ih _
    | reference r => exact .cons (fun _ hb => le_of_mem_places hb) (ih _)

/-- Skipped characters are dropped. -/
theorem cut_eq_cut_drop (n : Nat) (t : List Char) : cut n t = cut 0 (t.drop n) := by
  induction t generalizing n with
  | nil => simp [cut]
  | cons c t ih =>
    cases n with
    | zero => rfl
    | succ n => rw [cut, ih, List.drop_succ_cons]

theorem ofText_form_append {r : Reference} (hr : r.IsProper) (t : List Char) :
    ofText (r.form ++ t) = reference r :: ofText t := by
  have hl : Reference.leading? (r.form ++ t) = some (r, t) :=
    Reference.leading?_eq_some_iff.mpr ⟨hr, rfl⟩
  rw [Reference.form_eq, List.cons_append] at hl ⊢
  simp only [ofText, cut, hl]
  rw [cut_eq_cut_drop, List.length_append, Nat.add_sub_cancel, List.drop_left]

theorem ofText_cons {c : Char} {t : List Char} (h : ∀ r : Reference, ¬ r.StandsAt (c :: t) 0) :
    ofText (c :: t) = char c :: ofText t := by
  have hl : Reference.leading? (c :: t) = none := by
    cases he : Reference.leading? (c :: t) with
    | none => rfl
    | some p => exact (h p.1 (Reference.standsAt_zero_iff.mpr ⟨p.2, he⟩)).elim
  simp only [ofText, cut, hl]

theorem IsCut.nil : IsCut [] [] :=
  ⟨rfl, fun i r => by simp [places, Reference.StandsAt, Reference.form_eq]⟩

theorem isCut_reference_cons {r : Reference} (hr : r.IsProper) {t : List Char}
    {ps : List Piece} : IsCut (r.form ++ t) (reference r :: ps) ↔ IsCut t ps := by
  have hmem : ∀ j q, (j + r.form.length, q) ∈ places 0 (reference r :: ps) ↔
      (j, q) ∈ places 0 ps := by
    intro j q
    have hpos := r.length_form_pos
    have hne : ¬ (j + r.form.length = 0 ∧ q = r) := fun h => by omega
    rw [places, List.mem_cons, Prod.mk.injEq, or_iff_right hne, mem_places_add_iff]
    exact ⟨fun ⟨k, hk, h⟩ => by rwa [Nat.add_right_cancel hk], fun h => ⟨j, rfl, h⟩⟩
  constructor
  · rintro ⟨hs, hc⟩
    refine ⟨List.append_cancel_left hs, fun j q => ?_⟩
    rw [← hmem, hc, Reference.standsAt_append_add]
  · rintro ⟨hs, hc⟩
    refine ⟨congrArg (r.form ++ ·) hs, fun i q => ?_⟩
    rw [Reference.standsAt_form_append_iff hr, places, List.mem_cons, Prod.mk.injEq,
      mem_places_add_iff]
    simp only [hc]

theorem isCut_char_cons {c : Char} {t : List Char} {ps : List Piece} :
    IsCut (c :: t) (char c :: ps) ↔
      (∀ r : Reference, ¬ r.StandsAt (c :: t) 0) ∧ IsCut t ps := by
  have hmem : ∀ j q, (j + 1, q) ∈ places 0 (char c :: ps) ↔ (j, q) ∈ places 0 ps := by
    intro j q
    rw [places, mem_places_add_iff]
    exact ⟨fun ⟨k, hk, h⟩ => by rwa [Nat.add_right_cancel hk], fun h => ⟨j, rfl, h⟩⟩
  have hzero : ∀ q, (0, q) ∉ places 0 (char c :: ps) := fun q h => by
    have := le_of_mem_places (k := 1) h
    omega
  constructor
  · rintro ⟨hs, hc⟩
    refine ⟨fun r hr => hzero r ((hc 0 r).mpr hr), List.append_cancel_left hs, fun j q => ?_⟩
    rw [← hmem, hc, Reference.standsAt_cons_succ]
  · rintro ⟨hn, hs, hc⟩
    refine ⟨congrArg (c :: ·) hs, fun i q => ?_⟩
    cases i with
    | zero => exact ⟨fun h => (hzero q h).elim, fun h => (hn q h).elim⟩
    | succ j => rw [hmem, hc, Reference.standsAt_cons_succ]

/-- The pieces of a text are a cut of it: the induction is on the length of the text, since a
reference at the front takes several characters away. -/
theorem isCut_ofText (t : List Char) : IsCut t (ofText t) := by
  induction hn : t.length using Nat.strongRecOn generalizing t with
  | ind n ih =>
    by_cases hr : ∃ r : Reference, r.StandsAt t 0
    · obtain ⟨r, hp, s, rfl⟩ := hr
      have hlt : s.length < n := by
        have := r.length_form_pos
        rw [← hn, List.length_append]
        omega
      rw [ofText_form_append hp, isCut_reference_cons hp]
      exact ih _ hlt s rfl
    · cases t with
      | nil => exact .nil
      | cons c t =>
        have hno : ∀ r : Reference, ¬ r.StandsAt (c :: t) 0 := fun r h => hr ⟨r, h⟩
        rw [ofText_cons hno, isCut_char_cons]
        exact ⟨hno, ih _ (by simp [← hn]) t rfl⟩

theorem IsCut.eq_ofText {t : List Char} {ps : List Piece} (h : IsCut t ps) : ps = ofText t := by
  induction ps generalizing t with
  | nil =>
    obtain rfl := h.spells
    rfl
  | cons p ps ih =>
    obtain rfl := h.spells
    cases p with
    | char c =>
      obtain ⟨hno, hs⟩ := isCut_char_cons.mp h
      exact (congrArg _ (ih hs)).trans (ofText_cons hno).symm
    | reference r =>
      have hp : r.IsProper := ((h.complete 0 r).mp (.head _)).1
      exact (congrArg _ (ih ((isCut_reference_cons hp).mp h))).trans
        (ofText_form_append hp _).symm

/-- A text has one cut, its pieces. -/
theorem isCut_iff {t : List Char} {ps : List Piece} : IsCut t ps ↔ ps = ofText t :=
  ⟨IsCut.eq_ofText, fun h => h ▸ isCut_ofText t⟩

end Piece

end NixContext
