/-! # Named entries in order

A table maps names to values and remembers the order in which names first appeared. Its
view is `find?`; two tables are the same when their views agree, whatever their order.
-/

namespace NixContext

/-- Values under distinct names, in the order of the names' first appearance. -/
structure Table (α : Type) where
  entries : List (String × α)
  nodup : (entries.map Prod.fst).Nodup

namespace Table

variable {α : Type}

@[ext] theorem ext {t u : Table α} (h : t.entries = u.entries) : t = u := by
  cases t; cases u; simp_all

instance [DecidableEq α] : DecidableEq (Table α) := fun t u =>
  decidable_of_iff (t.entries = u.entries) ⟨Table.ext, fun h => h ▸ rfl⟩

instance [Repr α] : Repr (Table α) where
  reprPrec t n := reprPrec t.entries n

/-- The table without entries. -/
def empty : Table α :=
  ⟨[], by simp⟩

instance : EmptyCollection (Table α) := ⟨empty⟩

instance : Inhabited (Table α) := ⟨empty⟩

/-- The names, in order. -/
def names (t : Table α) : List String :=
  t.entries.map Prod.fst

/-- The value under a name. -/
def find? (t : Table α) (k : String) : Option α :=
  t.entries.lookup k

/-- Whether a name has a value. -/
def contains (t : Table α) (k : String) : Bool :=
  (t.find? k).isSome

/-- Entries with `k` mapped to `v`: in its place if it is there, else at the end. -/
def insertInto (k : String) (v : α) : List (String × α) → List (String × α)
  | [] => [(k, v)]
  | (l, w) :: es => if k = l then (k, v) :: es else (l, w) :: insertInto k v es

theorem map_fst_insertInto (k : String) (v : α) (es : List (String × α)) :
    (insertInto k v es).map Prod.fst =
      if k ∈ es.map Prod.fst then es.map Prod.fst else es.map Prod.fst ++ [k] := by
  induction es with
  | nil => simp [insertInto]
  | cons e es ih =>
    obtain ⟨l, w⟩ := e
    by_cases h : k = l
    · simp [insertInto, h]
    · simp only [insertInto, h, if_false, List.map_cons, ih, List.mem_cons, false_or]
      split <;> simp

theorem nodup_insertInto {k : String} {v : α} {es : List (String × α)}
    (h : (es.map Prod.fst).Nodup) : ((insertInto k v es).map Prod.fst).Nodup := by
  rw [map_fst_insertInto]
  split
  · exact h
  · rename_i hk
    rw [List.nodup_append]
    refine ⟨h, by simp, ?_⟩
    intro a ha b hb he
    simp only [List.mem_singleton] at hb
    exact hk (by rw [← hb, ← he]; exact ha)

/-- Maps a name to a value; an old name keeps its place. -/
def insert (t : Table α) (k : String) (v : α) : Table α :=
  ⟨insertInto k v t.entries, nodup_insertInto t.nodup⟩

/-- Removes a name. -/
def erase (t : Table α) (k : String) : Table α :=
  ⟨t.entries.filter (fun e => e.1 != k), by
    exact (List.filter_sublist.map Prod.fst).nodup t.nodup⟩

/-- The table of the entries in order; a repeated name keeps its first place and last value. -/
def ofList (es : List (String × α)) : Table α :=
  es.foldl (fun t e => t.insert e.1 e.2) ∅

theorem lookup_insertInto (k : String) (v : α) (es : List (String × α)) (l : String) :
    (insertInto k v es).lookup l = if l = k then some v else es.lookup l := by
  induction es with
  | nil =>
    by_cases h : l = k
    · simp [insertInto, h]
    · have hb : (l == k) = false := by simpa using h
      simp [insertInto, List.lookup_cons, h, hb]
  | cons e es ih =>
    obtain ⟨m, w⟩ := e
    by_cases hk : k = m
    · subst hk
      by_cases h : l = k
      · simp [insertInto, h]
      · have hb : (l == k) = false := by simpa using h
        simp [insertInto, List.lookup_cons, h, hb]
    · by_cases h : l = m
      · subst h
        simp [insertInto, hk, Ne.symm hk]
      · have hb : (l == m) = false := by simpa using h
        simp [insertInto, hk, List.lookup_cons, hb, ih]

theorem insertInto_insertInto (k : String) (v w : α) (es : List (String × α)) :
    insertInto k v (insertInto k w es) = insertInto k v es := by
  induction es with
  | nil => simp [insertInto]
  | cons e es ih =>
    obtain ⟨l, x⟩ := e
    by_cases h : k = l
    · simp [insertInto, h]
    · simp [insertInto, h, ih]

theorem insert_insert (t : Table α) (k : String) (v w : α) :
    (t.insert k w).insert k v = t.insert k v :=
  ext (insertInto_insertInto k v w t.entries)

theorem insertInto_of_lookup {k : String} {v : α} {es : List (String × α)}
    (h : es.lookup k = some v) : insertInto k v es = es := by
  induction es with
  | nil => cases h
  | cons e es ih =>
    obtain ⟨l, w⟩ := e
    by_cases hk : k = l
    · subst hk
      simp_all [insertInto]
    · have hb : (k == l) = false := by simpa using hk
      rw [List.lookup_cons, hb] at h
      rw [insertInto, if_neg hk, ih h]

theorem insert_of_find? {t : Table α} {k : String} {v : α} (h : t.find? k = some v) :
    t.insert k v = t :=
  ext (insertInto_of_lookup h)

theorem insertInto_of_not_mem {k : String} {es : List (String × α)} (h : k ∉ es.map Prod.fst)
    (v : α) : insertInto k v es = es ++ [(k, v)] := by
  induction es with
  | nil => rfl
  | cons e es ih =>
    rw [List.map_cons, List.mem_cons, not_or] at h
    rw [insertInto, if_neg h.1, ih h.2, List.cons_append]

/-- Entries with new names are put at the end, in order. -/
theorem entries_foldl_insert (es : List (String × α)) (t : Table α)
    (h : ((t.entries ++ es).map Prod.fst).Nodup) :
    (es.foldl (fun t e => t.insert e.1 e.2) t).entries = t.entries ++ es := by
  induction es generalizing t with
  | nil => exact (List.append_nil _).symm
  | cons e es ih =>
    have hnew : e.1 ∉ t.entries.map Prod.fst := by
      rw [List.map_append, List.map_cons] at h
      exact fun hmem => (List.nodup_append.mp h).2.2 _ hmem _ (.head _) rfl
    have hentries : (t.insert e.1 e.2).entries = t.entries ++ [e] :=
      insertInto_of_not_mem hnew e.2
    have hsplit : t.entries ++ e :: es = t.entries ++ [e] ++ es := List.append_cons ..
    rw [hsplit] at h ⊢
    rw [List.foldl_cons, ih _ (by rwa [hentries]), hentries]

theorem ofList_entries (t : Table α) : ofList t.entries = t :=
  ext (entries_foldl_insert t.entries ∅ t.nodup)

@[simp] theorem find?_insert (t : Table α) (k : String) (v : α) (l : String) :
    (t.insert k v).find? l = if l = k then some v else t.find? l :=
  lookup_insertInto k v t.entries l

theorem names_insert (t : Table α) (k : String) (v : α) :
    (t.insert k v).names = if k ∈ t.names then t.names else t.names ++ [k] :=
  map_fst_insertInto k v t.entries

theorem mem_names_insert {t : Table α} {k l : String} {v : α} :
    l ∈ (t.insert k v).names ↔ l ∈ t.names ∨ l = k := by
  rw [names_insert]
  split
  · next hk => exact ⟨.inl, fun h => h.elim id (· ▸ hk)⟩
  · rw [List.mem_append, List.mem_singleton]

@[simp] theorem find?_empty (k : String) : (∅ : Table α).find? k = none := rfl

theorem lookup_filter_ne (es : List (String × α)) (k l : String) :
    (es.filter (fun e => e.1 != k)).lookup l = if l = k then none else es.lookup l := by
  induction es with
  | nil => simp
  | cons e es ih =>
    obtain ⟨m, w⟩ := e
    by_cases hm : m = k
    · subst hm
      rw [List.filter_cons_of_neg (by simp), ih]
      by_cases h : l = m
      · simp [h]
      · have hb : (l == m) = false := by simpa using h
        simp [h, List.lookup_cons, hb]
    · by_cases h : l = m
      · subst h; simp [hm]
      · have hb : (l == m) = false := by simpa using h
        simp [hm, List.lookup_cons, hb, ih]

@[simp] theorem find?_erase (t : Table α) (k l : String) :
    (t.erase k).find? l = if l = k then none else t.find? l :=
  lookup_filter_ne t.entries k l

/-- Every entry of `t` is found in `u`. -/
def within [BEq α] (t u : Table α) : Bool :=
  t.entries.all fun e => u.find? e.1 == some e.2

/-- Equal as mappings, whatever the order. -/
def same [BEq α] (t u : Table α) : Bool :=
  t.within u && u.within t

theorem find?_eq_some_iff {t : Table α} {k : String} {v : α} :
    t.find? k = some v ↔ (k, v) ∈ t.entries := by
  obtain ⟨es, h⟩ := t
  simp only [find?]
  induction es with
  | nil => simp
  | cons e es ih =>
    obtain ⟨m, w⟩ := e
    simp only [List.map_cons, List.nodup_cons] at h
    by_cases hk : k = m
    · subst hk
      simp only [List.lookup_cons, BEq.rfl, Option.some.injEq, List.mem_cons, Prod.mk.injEq,
        true_and]
      constructor
      · intro e; exact .inl e.symm
      · rintro (e | e)
        · exact e.symm
        · exact (h.1 (List.mem_map.mpr ⟨_, e, rfl⟩)).elim
    · have hb : (k == m) = false := by simpa using hk
      simp [List.lookup_cons, hb, ih h.2, hk]

theorem same_iff [BEq α] [LawfulBEq α] {t u : Table α} :
    t.same u ↔ ∀ k, t.find? k = u.find? k := by
  have half : ∀ {t u : Table α}, t.within u ↔ ∀ k v, t.find? k = some v → u.find? k = some v := by
    intro t u
    simp only [within, List.all_eq_true, beq_iff_eq, find?_eq_some_iff, Prod.forall]
  simp only [same, Bool.and_eq_true, half]
  constructor
  · rintro ⟨h₁, h₂⟩ k
    cases ht : t.find? k with
    | some v => exact (h₁ k v ht).symm
    | none =>
      cases hu : u.find? k with
      | none => rfl
      | some v => simp [h₂ k v hu] at ht
  · intro h
    exact ⟨fun k v hv => h k ▸ hv, fun k v hv => (h k).symm ▸ hv⟩

end Table

end NixContext
