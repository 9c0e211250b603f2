import NixContext.Nix.Options

/-! # Reading options back

The flags of options are triples, one for each option that is set. The entries of a set hold no
blanks and are not empty, so the text of a set can be cut at its blanks (`EntrySet.ofText?_text`),
and the options can be read back from their flags (`Options.ofArgs?_toArgs`).
-/

namespace NixContext

namespace Nix

namespace EntrySet

/-- The set whose entries a text holds between single blanks; the empty text holds none. -/
def ofText? (text : String) : Option EntrySet :=
  (EntrySetOf.ofList isEntry
    (if text = "" then [] else (text.toList.splitOn ' ').map String.ofList)).toOption

variable {s : EntrySet} {e : String}

theorem ne_empty_of_mem (h : e ∈ s.entries) : e ≠ "" := by
  have he := s.valid e h
  simp only [isEntry, Bool.and_eq_true, bne_iff_ne, ne_eq] at he
  exact he.1

theorem blank_not_mem_of_mem (h : e ∈ s.entries) : ' ' ∉ e.toList := by
  intro hm
  have he := s.valid e h
  simp only [isEntry, Bool.and_eq_true, Bool.not_eq_true', List.any_eq_false] at he
  exact he.2 ' ' hm (by decide)

/-- The text of a set that is not empty falls into its entries at the blanks. -/
theorem splitOn_text (h : s.entries ≠ []) :
    (OptionValue.entries s).text.toList.splitOn ' ' = s.entries.map String.toList := by
  rw [OptionValue.text, String.toList_intercalate]
  refine List.splitOn_intercalate ' ' (fun p hp => ?_) (by simpa using h)
  obtain ⟨e, he, rfl⟩ := List.mem_map.mp hp
  exact blank_not_mem_of_mem he

/-- Only the empty set has the empty text, since no entry is empty. -/
theorem text_eq_empty_iff : (OptionValue.entries s).text = "" ↔ s.entries = [] := by
  constructor
  · intro ht
    cases hs : s.entries with
    | nil => rfl
    | cons e es =>
      have hsplit := splitOn_text (s := s) (by simp [hs])
      rw [ht, hs] at hsplit
      have hnil : [] = e.toList := List.head_eq_of_cons_eq hsplit
      exact absurd (String.toList_eq_nil_iff.mp hnil.symm) (ne_empty_of_mem (s := s) (by simp [hs]))
  · intro hs
    rw [OptionValue.text, hs, String.intercalate_nil]

theorem ofText?_text (s : EntrySet) : ofText? (OptionValue.entries s).text = some s := by
  have hentries : (if (OptionValue.entries s).text = "" then [] else
      ((OptionValue.entries s).text.toList.splitOn ' ').map String.ofList) = s.entries := by
    split
    · next ht => exact (text_eq_empty_iff.mp ht).symm
    · next ht =>
      rw [splitOn_text fun hs => ht (text_eq_empty_iff.mpr hs), List.map_map]
      simp [Function.comp_def]
  rw [ofText?, hentries, EntrySetOf.ofList_entries]
  rfl

end EntrySet

/-- The truth value that a text spells. -/
def truthOfText? (text : String) : Option Bool :=
  if text = "true" then some true else if text = "false" then some false else none

theorem truthOfText?_text (b : Bool) : truthOfText? (OptionValue.truth b).text = some b := by
  cases b <;> decide

/-- The path that a text names; each names one. -/
def pathOfText? (text : String) : Option Path :=
  some (Path.ofText text)

theorem pathOfText?_text (p : Path) : pathOfText? (OptionValue.path p).text = some p :=
  congrArg some (Path.ofText_text p)

namespace Options

/-- The flag of a named value. -/
def flag (t : String × String) : List String :=
  ["--option", t.1, t.2]

/-- The name and the text of a field that is set. -/
def named? (f : String × Option OptionValue) : Option (String × String) :=
  f.2.map fun v => (optionName f.1, v.text)

/-- The fields that are set, in order, under the names of the options. -/
def named (o : Options) : List (String × String) :=
  o.fields.filterMap named?

/-- The names and values of a list of flags. -/
def flags? : List String → Option (List (String × String))
  | [] => some []
  | word :: name :: text :: rest =>
    if word = "--option" then (flags? rest).map ((name, text) :: ·) else none
  | _ => none

/-- The value of a field among named texts: none if the name is not there. -/
def field? {α : Type} (ts : List (String × String)) (name : String)
    (read : String → Option α) : Option (Option α) :=
  match ts.lookup (optionName name) with
  | none => some none
  | some text => (read text).map some

/-- The options of a list of flags. -/
def ofArgs? (args : List String) : Option Options := do
  let ts ← flags? args
  let acceptFlakeConfig ← field? ts "accept_flake_config" truthOfText?
  let warnDirty ← field? ts "warn_dirty" truthOfText?
  let showTrace ← field? ts "show_trace" truthOfText?
  let netrcFile ← field? ts "netrc_file" pathOfText?
  let features ← field? ts "extra_experimental_features" EntrySet.ofText?
  let substituters ← field? ts "extra_substituters" EntrySet.ofText?
  let keys ← field? ts "extra_trusted_public_keys" EntrySet.ofText?
  pure ⟨acceptFlakeConfig, warnDirty, showTrace, netrcFile, features, substituters, keys⟩

theorem toArgs_eq (o : Options) : o.toArgs = o.named.flatMap flag := by
  rw [toArgs, named]
  induction o.fields with
  | nil => rfl
  | cons f fs ih =>
    obtain ⟨name, v⟩ := f
    cases v <;> simp [fieldArgs, named?, flag, ih, List.filterMap_cons]

theorem flags?_flatMap (ts : List (String × String)) : flags? (ts.flatMap flag) = some ts := by
  induction ts with
  | nil => rfl
  | cons t ts ih => simp [flag, flags?, ih]

variable {fs : List (String × Option OptionValue)}

theorem map_fst_filterMap_sublist (fs : List (String × Option OptionValue)) :
    ((fs.filterMap named?).map Prod.fst).Sublist (fs.map (optionName ·.1)) := by
  induction fs with
  | nil => exact .slnil
  | cons f fs ih =>
    obtain ⟨name, _ | v⟩ := f
    · exact ih.cons _
    · exact ih.cons_cons _

/-- Among fields with distinct names each is found as it is. -/
theorem lookup_filterMap_named? (hd : (fs.map (optionName ·.1)).Nodup) {name : String}
    {v : Option OptionValue} (hf : (name, v) ∈ fs) :
    (fs.filterMap named?).lookup (optionName name) = v.map OptionValue.text := by
  induction fs with
  | nil => cases hf
  | cons g fs ih =>
    rw [List.map_cons, List.nodup_cons] at hd
    obtain ⟨hg, hd⟩ := hd
    rcases List.mem_cons.mp hf with rfl | hm
    · cases v with
      | none =>
        -- a field that is not set leaves nothing, and no other has its name
        refine List.lookup_eq_none_iff.mpr fun t ht => ?_
        have hmem := (map_fst_filterMap_sublist fs).subset (List.mem_map_of_mem ht)
        have hne : optionName name ≠ t.1 := fun he => hg (he.symm ▸ hmem)
        simpa using hne
      | some v => exact List.lookup_cons_self
    · have hne : optionName name ≠ optionName g.1 := fun he =>
        hg (List.mem_map.mpr ⟨_, hm, he⟩)
      obtain ⟨other, _ | w⟩ := g
      · exact ih hd hm
      · have hb : (optionName name == optionName other) = false := by simpa using hne
        show List.lookup _ ((optionName other, w.text) :: _) = _
        rw [List.lookup_cons, hb]
        exact ih hd hm

theorem nodup_optionNames (o : Options) : (o.fields.map (optionName ·.1)).Nodup := by
  have h : (fieldNames.map optionName).Nodup := by decide +kernel
  rwa [← o.fields_names, List.map_map] at h

/-- A field comes back from the texts if its reader undoes the rendering. -/
theorem field?_named {α : Type} {o : Options} {name : String} {v : Option α}
    {wrap : α → OptionValue} {read : String → Option α}
    (hf : (name, v.map wrap) ∈ o.fields) (hread : ∀ a, read (wrap a).text = some a) :
    field? o.named name read = some v := by
  rw [field?, named, lookup_filterMap_named? o.nodup_optionNames hf]
  cases v with
  | none => rfl
  | some a => simp [hread]

theorem read_toArgs (o : Options) : ofArgs? o.toArgs = some o := by
  have htruth {name : String} (v : Option Bool) (h : (name, v.map .truth) ∈ o.fields) :
      field? o.named name truthOfText? = some v :=
    field?_named h truthOfText?_text
  have hentries {name : String} (v : Option EntrySet) (h : (name, v.map .entries) ∈ o.fields) :
      field? o.named name EntrySet.ofText? = some v :=
    field?_named h EntrySet.ofText?_text
  have hpath : field? o.named "netrc_file" pathOfText? = some o.netrcFile :=
    field?_named (by simp [fields]) pathOfText?_text
  rw [ofArgs?, toArgs_eq, flags?_flatMap]
  show (Option.bind (some o.named) _ : Option Options) = _
  rw [Option.bind_some, htruth o.acceptFlakeConfig (by simp [fields]),
    htruth o.warnDirty (by simp [fields]), htruth o.showTrace (by simp [fields]), hpath,
    hentries o.extraExperimentalFeatures (by simp [fields]),
    hentries o.extraSubstituters (by simp [fields]),
    hentries o.extraTrustedPublicKeys (by simp [fields])]
  rfl

/-- Rendering options loses nothing: each option that is set gives one flag, in order, and the
options can be read back from their flags. -/
theorem ofArgs?_toArgs (o : Options) :
    o.toArgs = o.named.flatMap flag ∧
      (o.named.map Prod.fst).Sublist (fieldNames.map optionName) ∧
      (∀ name v, (name, v) ∈ o.fields → o.named.lookup (optionName name) = v.map OptionValue.text) ∧
      ofArgs? o.toArgs = some o ∧ ∀ p : Options, o.toArgs = p.toArgs → o = p := by
  refine ⟨o.toArgs_eq, map_fst_filterMap_sublist o.fields, fun name v hf => ?_, o.read_toArgs,
    fun p h => ?_⟩
  · exact lookup_filterMap_named? o.nodup_optionNames hf
  · have hp := p.read_toArgs
    rw [← h, o.read_toArgs] at hp
    exact Option.some.inj hp

/-- A false, a path with a blank, an empty set and two entries; the others are not set. -/
def sparse : Options :=
  { warnDirty := some false, netrcFile := some (.ofText "/my netrc"),
    extraSubstituters := some ⟨[], by decide, by decide⟩,
    extraTrustedPublicKeys := some ⟨["k:1", "k:2"], by decide, by decide⟩ }

theorem ofArgs?_sparse :
    sparse.toArgs = ["--option", "warn-dirty", "false", "--option", "netrc-file", "/my netrc",
      "--option", "extra-substituters", "", "--option", "extra-trusted-public-keys", "k:1 k:2"] ∧
    sparse.named.lookup (optionName "extra_substituters") = some "" ∧
    sparse.named.lookup (optionName "extra_experimental_features") = none ∧
    ofArgs? sparse.toArgs = some sparse ∧
    sparse.toArgs ≠ { sparse with extraSubstituters := none }.toArgs := by
  obtain ⟨hflags, -, hlookup, hread, hinj⟩ := ofArgs?_toArgs sparse
  refine ⟨by rw [hflags]; decide +kernel, ?_, ?_, hread,
    fun h => absurd (hinj _ h) (by decide +kernel)⟩
  · exact hlookup "extra_substituters" (sparse.extraSubstituters.map .entries) (by simp [fields])
  · exact hlookup "extra_experimental_features" none (by simp [fields, sparse])

end Options

end Nix

end NixContext
