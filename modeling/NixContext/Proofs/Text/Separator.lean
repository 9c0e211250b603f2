import Mathlib.Data.List.TakeWhile

/-! # Lists cut at a separator

A list is cut at the first separator in it.
-/

namespace NixContext

variable {α : Type} [BEq α] [LawfulBEq α] {x : α} {xs : List α}

theorem bne_of_not_mem (h : x ∉ xs) : ∀ y ∈ xs, (y != x) = true := by
  intro y hy
  rw [bne_iff_ne]
  rintro rfl
  exact h hy

theorem takeWhile_bne_of_not_mem (h : x ∉ xs) : xs.takeWhile (· != x) = xs :=
  List.takeWhile_eq_self_iff.mpr (bne_of_not_mem h)

theorem dropWhile_bne_of_not_mem (h : x ∉ xs) : xs.dropWhile (· != x) = [] :=
  List.dropWhile_eq_nil_iff.mpr (bne_of_not_mem h)

theorem takeWhile_bne_append (h : x ∉ xs) (rest : List α) :
    (xs ++ x :: rest).takeWhile (· != x) = xs := by
  rw [List.takeWhile_append_of_pos (bne_of_not_mem h), List.takeWhile_cons_of_neg (by simp),
    List.append_nil]

theorem dropWhile_bne_append (h : x ∉ xs) (rest : List α) :
    (xs ++ x :: rest).dropWhile (· != x) = x :: rest := by
  rw [List.dropWhile_append_of_pos (bne_of_not_mem h), List.dropWhile_cons_of_neg (by simp)]

end NixContext
