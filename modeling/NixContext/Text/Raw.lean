import NixContext.Text.Blank

/-! # Raw texts

A text that comes from outside may hold surrogates that stand alone. Such a surrogate is no
character: it counts as no blank, and a text that holds one cannot be encoded.
-/

namespace NixContext

/-- If a partial function undoes another, so it does item by item. -/
theorem mapM_eq_some_iff {α β : Type} {f : α → Option β} {g : β → α}
    (h : ∀ a b, f a = some b ↔ a = g b) {as : List α} {bs : List β} :
    as.mapM f = some bs ↔ as = bs.map g := by
  induction as generalizing bs with
  | nil => cases bs <;> simp
  | cons a as ih =>
    simp only [List.mapM_cons, Option.bind_eq_bind, Option.bind_eq_some_iff, h, ih, Option.pure_def,
      Option.some.injEq]
    constructor
    · rintro ⟨b, rfl, bs, rfl, rfl⟩
      rfl
    · intro hbs
      cases bs with
      | nil => cases hbs
      | cons b bs =>
        obtain ⟨rfl, rfl⟩ := List.cons.inj hbs
        exact ⟨b, rfl, bs, rfl, rfl⟩

/-- What a raw text is made of: characters, and surrogates that stand alone. -/
inductive RawChar where
  | char (c : Char)
  | surrogate (n : Fin 2048)
  deriving DecidableEq, Repr

namespace RawChar

/-- The character, unless it is a surrogate. -/
def char? : RawChar → Option Char
  | char c => some c
  | surrogate _ => none

/-- A blank character. -/
def isBlank : RawChar → Bool
  | char c => Text.isBlank c
  | surrogate _ => false

end RawChar

/-- A text that may hold surrogates that stand alone. -/
abbrev RawText : Type :=
  List RawChar

instance : LawfulBEq RawText :=
  inferInstanceAs (LawfulBEq (List RawChar))

namespace RawText

/-- A text as a raw text. -/
def ofString (s : String) : RawText :=
  s.toList.map .char

/-- The text itself, unless a surrogate stands alone in it. -/
def string? (s : RawText) : Option String :=
  (s.mapM RawChar.char?).map String.ofList

theorem string?_eq_some_iff {s : RawText} {t : String} : s.string? = some t ↔ s = ofString t := by
  have hchar : ∀ a c, RawChar.char? a = some c ↔ a = .char c := by
    intro a c
    cases a <;> simp [RawChar.char?]
  rw [string?, Option.map_eq_some_iff, ofString]
  simp only [mapM_eq_some_iff hchar]
  constructor
  · rintro ⟨cs, rfl, rfl⟩
    rw [String.toList_ofList]
  · intro h
    exact ⟨t.toList, h, String.ofList_toList⟩

@[simp] theorem string?_ofString (t : String) : (ofString t).string? = some t :=
  string?_eq_some_iff.mpr rfl

theorem ofString_inj {s t : String} : ofString s = ofString t ↔ s = t := by
  rw [← string?_eq_some_iff, string?_ofString, Option.some_inj, eq_comm]

end RawText

end NixContext
