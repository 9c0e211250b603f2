import NixContext.Proofs.Hcl.Quoting

/-! # Settings of one literal

A settings text of one attribute that is a string. If the text of the string stays inside it,
the settings are this attribute alone, or there are none (`read_attributeLine`).
-/

namespace NixContext.Hcl

/-- An identifier of the settings language. -/
def IsName (k : List Char) : Prop :=
  ∃ c cs, k = c :: cs ∧ isNameStart c ∧ ∀ d ∈ cs, isNameRest d

/-- The text of an attribute that is a string. -/
def attributeLine (k t : List Char) : List Char :=
  k ++ ' ' :: '=' :: ' ' :: '"' :: (t ++ ['"'])

section Parse

variable {k t r : List Char} {n : Nat} {e : Expr}

theorem isNameRest_of_isNameStart {c : Char} (h : isNameStart c) : isNameRest c := by
  simp only [isNameStart, isNameRest, Char.isAlphanum, Bool.or_eq_true] at h ⊢
  exact .inl (h.imp_left .inl)

theorem IsName.not_mem (h : IsName k) {d : Char} (hd : isNameRest d = false) : d ∉ k := by
  obtain ⟨c, cs, rfl, hc, hcs⟩ := h
  intro hm
  have : isNameRest d := by
    rcases List.mem_cons.mp hm with rfl | hm
    · exact isNameRest_of_isNameStart hc
    · exact hcs d hm
  rw [hd] at this
  cases this

theorem skipSpaces_append (h : IsName k) (r : List Char) : skipSpaces (k ++ r) = k ++ r := by
  obtain ⟨c, cs, rfl, hc, -⟩ := h
  have hspace : isSpace c = false := by
    rw [Bool.eq_false_iff, isSpace]
    intro hs
    rcases Bool.or_eq_true_iff.mp hs with hs | hs <;> rw [eq_of_beq hs] at hc <;> cases hc
  rw [List.cons_append, skipSpaces, List.dropWhile_cons, hspace]
  rfl

/-- An identifier is taken up to the blank after it. -/
theorem name?_append (h : IsName k) (r : List Char) :
    name? (k ++ ' ' :: r) = some (k, ' ' :: r) := by
  rw [name?, skipSpaces_append h]
  obtain ⟨c, cs, rfl, hc, hcs⟩ := h
  simp only [List.cons_append]
  rw [if_pos hc, List.takeWhile_append_of_pos hcs, List.dropWhile_append_of_pos hcs]
  simp [isNameRest]

theorem break?_append (h : IsName k) (r : List Char) : break? (k ++ r) = none := by
  rw [break?, skipSpaces_append h]
  obtain ⟨c, cs, rfl, hc, -⟩ := h
  rw [List.cons_append]
  -- an identifier begins neither a line break nor a comment
  split
  all_goals first
    | rfl
    | (rename_i heq
       obtain ⟨rfl, -⟩ := List.cons.inj heq
       exact absurd hc (by decide))

theorem skipBreaks_of_none {s : List Char} (h : break? s = none) : skipBreaks s = s := by
  rw [skipBreaks]
  cases s with
  | nil => rfl
  | cons c s => rw [List.length_cons, skipBreaksWithin, h]

theorem parseString_literal (h : stringChars r = (t, ['"', '\n'])) :
    parseString (n + 1) r = some (.literal t, ['\n']) := by
  rw [parseString]
  simp only [h]

theorem parseString_none (h : (stringChars r).2 = [] ∨ ∃ cs, (stringChars r).2 = '\\' :: cs) :
    parseString (n + 1) r = none := by
  have hparts : parseParts n (stringChars r).2 = none := by
    rcases h with h | ⟨cs, h⟩ <;> rw [h] <;> cases n <;> rfl
  rw [parseString]
  rcases h with h | ⟨cs, h⟩ <;> rw [h] at hparts <;> simp [h, hparts]

theorem parseExpr_quote (n : Nat) (r : List Char) :
    parseExpr (n + 4) (' ' :: '"' :: r) =
      ((parseString (n + 1) r).bind fun x => parsePostfix (n + 1) true x.1 x.2).bind
        fun x => parseRest (n + 3) x.1 x.2 :=
  rfl

/-- A body that begins with an identifier, an equals sign and a quote. -/
theorem parseBody_attribute (hk : IsName k) (n : Nat) (r : List Char) :
    parseBody (n + 1) false (k ++ ' ' :: '=' :: ' ' :: '"' :: r) =
      (parseExpr n (' ' :: '"' :: r)).bind fun x =>
        (parseBody n false x.2).bind fun y => some (.attr k x.1 :: y.1, y.2) := by
  have hempty : (k ++ ' ' :: '=' :: ' ' :: '"' :: r).isEmpty = false := by simp
  rw [parseBody]
  simp only [skipBreaks_of_none (break?_append hk _), skipSpaces_append hk, hempty, name?_append hk]
  rfl

theorem parse?_attributeLine (hk : IsName k) (t : List Char) :
    ∃ n, parse? (attributeLine k t ++ ['\n']) =
      (((parseString (n + 1) (t ++ ['"', '\n'])).bind fun x =>
        parsePostfix (n + 1) true x.1 x.2).bind fun x => parseRest (n + 3) x.1 x.2).bind fun x =>
          (parseBody (n + 4) false x.2).map fun y => .attr k x.1 :: y.1 := by
  have hline : attributeLine k t ++ ['\n'] =
      k ++ ' ' :: '=' :: ' ' :: '"' :: (t ++ ['"', '\n']) := by
    simp [attributeLine]
  refine ⟨8 * (attributeLine k t ++ ['\n']).length + 27, ?_⟩
  rw [parse?, hline, parseBody_attribute hk, parseExpr_quote, Option.bind_eq_bind,
    Option.bind_assoc]
  congr 1
  funext x
  cases parseBody _ false x.2 <;> rfl

theorem finishText_literal (t : List Char) : finishText ('"' :: t ++ ['"']) = unescape t := by
  have hne : (t ++ ['"']).isEmpty = false := by simp
  rw [finishText, if_neg (by simp [isWrapped]), List.cons_append, unquote?, hne, if_neg (by simp),
    List.getLast?_concat, if_pos rfl, List.dropLast_concat]

/-- A string that ends at its quote is the only attribute of its line. -/
theorem read_literal (hk : IsName k) (h : Closes t) :
    read (attributeLine k t) =
      .ok (.map [(.str (String.ofList k), textValue (unescape t))]) := by
  obtain ⟨n, hn⟩ := parse?_attributeLine hk t
  rw [parseString_literal h] at hn
  have hparse : parse? (attributeLine k t ++ ['\n']) = some [.attr k (.literal t)] := hn
  have hfold : foldItems [.attr k (.literal t)] =
      .ok [.attr (String.ofList k) (finish (textValue ('"' :: t ++ ['"'])))] := rfl
  have hfinish : finish (textValue ('"' :: t ++ ['"'])) = textValue (unescape t) := by
    rw [textValue, finish, String.toList_ofList, finishText_literal]
  rw [hfinish] at hfold
  rw [read, hparse]
  simp only [hfold]
  rfl

/-- A line whose string does not end at its quote is rejected. -/
theorem read_malformed (hk : IsName k) (h : (stringChars (t ++ ['"', '\n'])).2 = [] ∨
    ∃ cs, (stringChars (t ++ ['"', '\n'])).2 = '\\' :: cs) :
    read (attributeLine k t) = .error .malformed := by
  obtain ⟨n, hn⟩ := parse?_attributeLine hk t
  rw [parseString_none h] at hn
  have hparse : parse? (attributeLine k t ++ ['\n']) = none := hn
  rw [read, hparse]

/-- A line whose text stays inside its string is read as a map of one entry or rejected, and
its text is read as it is exactly if it has no escape. -/
theorem read_attributeLine (hk : IsName k) (ht : StaysInside t) :
    (read (attributeLine k t) = .ok (.map [(.str (String.ofList k), textValue (unescape t))]) ∨
      read (attributeLine k t) = .error .malformed) ∧
    (read (attributeLine k t) = .ok (.map [(.str (String.ofList k), textValue t)]) ↔
      HasNoEscape (t ++ ['"'])) := by
  rw [ht.hasNoEscape_iff]
  rcases ht.closes_or with hc | hc
  · rw [read_literal hk hc]
    refine ⟨.inl rfl, ?_⟩
    simp only [hc, true_and, Except.ok.injEq, Value.map.injEq, List.cons.injEq, Prod.mk.injEq,
      and_true, textValue, Value.str.injEq]
    exact ⟨fun h => by simpa using congrArg String.toList h, fun h => by rw [h]⟩
  · rw [read_malformed hk hc]
    refine ⟨.inr rfl, ?_⟩
    constructor
    · intro h
      cases h
    · rintro ⟨hclose, -⟩
      rw [hclose] at hc
      simp at hc

end Parse

end NixContext.Hcl
