/-! # Replacing text

Every occurrence of a pattern is replaced in one pass from the left, and inserted text is
not looked at again. An empty pattern occurs before every character and at the end.
-/

namespace NixContext.Text

theorem isPrefixOf?_eq_some_iff {p s r : List Char} :
    p.isPrefixOf? s = some r ↔ s = p ++ r := by
  induction p generalizing s with
  | nil =>
    show some s = some r ↔ s = r
    exact Option.some_inj
  | cons a p ih =>
    cases s with
    | nil => exact iff_of_false nofun nofun
    | cons c s =>
      show (if a == c then p.isPrefixOf? s else none) = some r ↔ c :: s = a :: (p ++ r)
      by_cases h : a = c
      · simp [h, ih]
      · simp [h, Ne.symm h]

/-- Whether a text holds a pattern somewhere. -/
def holds (pat : List Char) : List Char → Bool
  | [] => pat.isEmpty
  | c :: cs => pat.isPrefixOf (c :: cs) || holds pat cs

theorem holds_iff {pat s : List Char} : holds pat s ↔ pat <:+: s := by
  induction s with
  | nil => simp [holds]
  | cons c s ih =>
    rw [holds, Bool.or_eq_true, List.isPrefixOf_iff_prefix, ih, List.infix_cons_iff]

/-- Replaces non-empty occurrences; `skip` characters still belong to the last one. -/
def replaceFrom (pat rep : List Char) : Nat → List Char → List Char
  | _, [] => []
  | skip + 1, _ :: cs => replaceFrom pat rep skip cs
  | 0, c :: cs =>
    if pat.isPrefixOf (c :: cs) then rep ++ replaceFrom pat rep (pat.length - 1) cs
    else c :: replaceFrom pat rep 0 cs

/-- Replaces every occurrence of `pat` by `rep`. -/
def replaceAll (pat rep s : List Char) : List Char :=
  if pat.isEmpty then rep ++ s.flatMap (fun c => c :: rep) else replaceFrom pat rep 0 s

end NixContext.Text
