import NixContext.Template.Render

/-! # Templates with one output

A template that writes out a single name between two texts renders to the texts with the text
of the name's datum between them (`render_output`), whatever characters this text is made of.
-/

namespace NixContext.Template

/-- The output tag of the name `x`. -/
def outputTag : List Char :=
  ['\x7b', '\x7b', ' ', 'x', ' ', '\x7d', '\x7d']

theorem splitText_cons {c : Char} (h : c ≠ '\x7b') (s : List Char) :
    splitText (c :: s) = (c :: (splitText s).1, (splitText s).2) := by
  rw [splitText.eq_def]
  split <;> simp_all

/-- Text without an opening brace is all text. -/
theorem splitText_of_not_mem {s : List Char} (h : '\x7b' ∉ s) : splitText s = (s, none) := by
  induction s with
  | nil => rfl
  | cons c s ih =>
    obtain ⟨hc, hs⟩ := List.ne_and_not_mem_of_not_mem_cons h
    rw [splitText_cons (Ne.symm hc), ih hs]

theorem splitText_output {s : List Char} (h : '\x7b' ∉ s) (r : List Char) :
    splitText (s ++ '\x7b' :: '\x7b' :: r) = (s, some (.output, r)) := by
  induction s with
  | nil => rfl
  | cons c s ih =>
    obtain ⟨hc, hs⟩ := List.ne_and_not_mem_of_not_mem_cons h
    rw [List.cons_append, splitText_cons (Ne.symm hc), ih hs]

variable {lineOf : List Char → Nat} {p q : List Char} {n : Nat} {ts : List Located}

/-- The tokens of text without tags. -/
theorem exists_lexFrom_text (n : Nat) (hq : q ≠ []) (h : '\x7b' ∉ q) :
    ∃ ts, lexFrom lineOf (n + 1) .outside q = some ts ∧ ts.map Located.token = [.text q] := by
  obtain ⟨c, cs, rfl⟩ := List.exists_cons_of_ne_nil hq
  refine ⟨[⟨.text (c :: cs), lineOf (c :: cs)⟩], ?_, rfl⟩
  simp only [lexFrom, splitText_of_not_mem h]
  rfl

/-- The tokens from the inside of the output tag. -/
theorem exists_lexFrom_name (h : lexFrom lineOf n .outside q = some ts) :
    ∃ us, lexFrom lineOf (n + 4) (.inside true [] false)
        (' ' :: 'x' :: ' ' :: '\x7d' :: '\x7d' :: q) = some us ∧
      us.map Located.token = .name ['x'] :: .closeOutput :: ts.map Located.token := by
  have hclose : lexFrom lineOf (n + 2) (.inside true [] false) (' ' :: '\x7d' :: '\x7d' :: q) =
      some (⟨.closeOutput, lineOf ('\x7d' :: '\x7d' :: q)⟩ :: ts) := by
    show (lexFrom lineOf n .outside q).map _ = _
    rw [h]
    rfl
  have hname : lexFrom lineOf (n + 4) (.inside true [] false)
      (' ' :: 'x' :: ' ' :: '\x7d' :: '\x7d' :: q) =
        some (⟨.name ['x'], lineOf ('x' :: ' ' :: '\x7d' :: '\x7d' :: q)⟩ ::
          ⟨.closeOutput, lineOf ('\x7d' :: '\x7d' :: q)⟩ :: ts) := by
    show (lexFrom lineOf (n + 2) (.inside true [] false) (' ' :: '\x7d' :: '\x7d' :: q) >>= _) = _
    rw [hclose]
    rfl
  exact ⟨_, hname, rfl⟩

/-- The tokens of a template with one output. -/
theorem exists_lexFrom_output (n : Nat) (hp : p ≠ []) (hpb : '\x7b' ∉ p) (hq : q ≠ [])
    (hqb : '\x7b' ∉ q) :
    ∃ ts, lexFrom lineOf (n + 6) .outside (p ++ (outputTag ++ q)) = some ts ∧
      ts.map Located.token = [.text p, .openOutput, .name ['x'], .closeOutput, .text q] := by
  obtain ⟨ts, hts, htokens⟩ : ∃ ts, lexFrom lineOf (n + 1) .outside q = some ts ∧
      ts.map Located.token = [.text q] := exists_lexFrom_text n hq hqb
  obtain ⟨us, hus, hutokens⟩ := exists_lexFrom_name hts
  obtain ⟨c, cs, rfl⟩ := List.exists_cons_of_ne_nil hp
  have hsplit := splitText_output hpb (' ' :: 'x' :: ' ' :: '\x7d' :: '\x7d' :: q)
  rw [htokens] at hutokens
  refine ⟨⟨.text (c :: cs), lineOf (c :: cs ++ (outputTag ++ q))⟩ ::
    ⟨.openOutput, lineOf (' ' :: 'x' :: ' ' :: '\x7d' :: '\x7d' :: q)⟩ :: us, ?_, ?_⟩
  · rw [outputTag, List.cons_append, lexFrom]
    simp only [List.cons_append, List.nil_append] at hsplit ⊢
    rw [hsplit]
    exact (congrArg (Option.map _) hus).trans rfl
  · simp only [List.map_cons, hutokens]

/-- The statements that the tokens of a template with one output make. -/
theorem parseBody_output
    (h : ts.map Located.token = [.text p, .openOutput, .name ['x'], .closeOutput, .text q]) :
    parseBody (16 * ts.length + 32) [] ts =
      some ([.text p, .output (.name ['x']), .text q], []) := by
  simp only [List.map_eq_cons_iff, List.map_eq_nil_iff] at h
  obtain ⟨⟨_, a⟩, _, rfl, rfl, ⟨_, b⟩, _, rfl, rfl, ⟨_, c⟩, _, rfl, rfl, ⟨_, d⟩, _, rfl, rfl,
    ⟨_, e⟩, _, rfl, rfl, rfl⟩ := h
  rfl

theorem parse?_output (hp : p ≠ []) (hpb : '\x7b' ∉ p) (hq : q ≠ []) (hqb : '\x7b' ∉ q) :
    parse? (p ++ (outputTag ++ q)) = some [.text p, .output (.name ['x']), .text q] := by
  obtain ⟨n, hn⟩ : ∃ n, (p ++ (outputTag ++ q)).length + 1 = n + 6 := by
    refine ⟨p.length + q.length + 2, ?_⟩
    simp only [outputTag, List.length_append, List.length_cons, List.length_nil]
    omega
  obtain ⟨ts, hts, htokens⟩ : ∃ ts, lex (p ++ (outputTag ++ q)) = some ts ∧
      ts.map Located.token = [.text p, .openOutput, .name ['x'], .closeOutput, .text q] := by
    rw [lex, hn]
    exact exists_lexFrom_output n hp hpb hq hqb
  rw [parse?, hts, Option.bind_eq_bind, Option.bind_some, parseBody_output htokens]
  rfl

variable {context : List (List Char × Datum)} {v : List Char}

theorem renderBody_cons {sc sc' sc'' : Scope} {t : Statement} {ss : List Statement}
    {a b : List Char} (ht : t.render sc = .ok (a, sc')) (hss : renderBody sc' ss = .ok (b, sc'')) :
    renderBody sc (t :: ss) = .ok (a ++ b, sc'') := by
  rw [renderBody, ht]
  show (renderBody sc' ss >>= _) = _
  rw [hss]
  rfl

theorem renderBody_output (hv : context.lookup ['x'] = some (.str v)) (p q : List Char) :
    renderBody ⟨[[]], context⟩ [.text p, .output (.name ['x']), .text q] =
      .ok (p ++ (v ++ q), ⟨[[]], context⟩) := by
  have hfind : Scope.find ⟨[[]], context⟩ ['x'] = .str v := by
    simp only [Scope.find, List.findSome?_cons, List.lookup_nil, List.findSome?_nil, hv]
  have hout : (Statement.output (.name ['x'])).render ⟨[[]], context⟩ =
      .ok (v, ⟨[[]], context⟩) := by
    rw [Statement.render, Expr.eval, hfind]
    rfl
  have htext : renderBody ⟨[[]], context⟩ [.text q] = .ok (q ++ [], ⟨[[]], context⟩) :=
    renderBody_cons rfl rfl
  rw [List.append_nil] at htext
  exact renderBody_cons rfl (renderBody_cons hout htext)

theorem dropFinalBreak_append (s : List Char) : dropFinalBreak (s ++ ['\n']) = s := by
  rw [dropFinalBreak, if_pos List.getLast?_concat, List.dropLast_concat]

theorem dropFinalBreak_of_ne {s : List Char} (h : s.getLast? ≠ some '\n') :
    dropFinalBreak s = s :=
  if_neg h

/-- A template that writes out one text renders to its own text with that text in place. -/
theorem render_output {s : List Char} (hs : dropFinalBreak s = p ++ (outputTag ++ q))
    (hp : p ≠ []) (hpb : '\x7b' ∉ p) (hq : q ≠ []) (hqb : '\x7b' ∉ q)
    (hv : context.lookup ['x'] = some (.str v)) :
    render s context = .ok (p ++ (v ++ q)) := by
  have hknown : bodyKnown false false [.text p, .output (.name ['x']), .text q] := rfl
  rw [render, hs, parse?_output hp hpb hq hqb]
  simp only [hknown, if_true, renderBody_output hv]

end NixContext.Template
