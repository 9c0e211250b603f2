import NixContext.Nix.Handle

/-! # Reading flags back

The flags of a group stand on a command line without delimiters, and a value may look like a
flag. A reader that goes from left to right is always at the beginning of a flag: it knows how
many values follow, and by the next word it knows which part is left out (`Layout`). So every
group can be read back from its flags, and so can the flags for flake inputs together with those
for evaluation that follow them (`flags_read_back`).
-/

namespace NixContext.Nix

/-- Values whose words can be read off the front of a list, whatever follows. -/
structure Part (α : Type) where
  write : α → List String
  read? : List String → Option (α × List String)
  read?_eq_some_iff : ∀ {ws a rest}, read? ws = some (a, rest) ↔ ws = write a ++ rest

def Part.nothing : Part Unit where
  write _ := []
  read? ws := some ((), ws)
  read?_eq_some_iff := by simp

def Part.word : Part String where
  write v := [v]
  read?
    | [] => none
    | v :: ws => some (v, ws)
  read?_eq_some_iff {ws v rest} := by cases ws <;> simp

/-- A way to write values as words and to read them off the front of a list of words. What is
written is empty or begins with one of the `flags`; what is read is all that was written, unless
the words go on with one of them. -/
structure Layout (α : Type) where
  flags : List String
  write : α → List String
  read? : List String → Option (α × List String)
  head_mem : ∀ a, ∀ w ∈ (write a).head?, w ∈ flags
  eq_of_read? : ∀ {ws a rest}, read? ws = some (a, rest) → ws = write a ++ rest
  read?_write : ∀ a {rest}, (∀ w ∈ rest.head?, w ∉ flags) →
    read? (write a ++ rest) = some (a, rest)

namespace Layout

variable {α β : Type}

def ofArgs? (l : Layout α) (ws : List String) : Option α :=
  match l.read? ws with
  | some (a, []) => some a
  | _ => none

theorem ofArgs?_eq_some_iff {l : Layout α} {ws : List String} {a : α} :
    l.ofArgs? ws = some a ↔ ws = l.write a := by
  constructor
  · intro h
    unfold ofArgs? at h
    split at h
    · next b hb =>
      obtain rfl : b = a := Option.some.inj h
      have hws := l.eq_of_read? hb
      rwa [List.append_nil] at hws
    · cases h
  · rintro rfl
    have h : l.read? (l.write a ++ []) = some (a, []) := l.read?_write a (by simp)
    rw [List.append_nil] at h
    rw [ofArgs?, h]

/-- Words are written for one value only. -/
theorem write_inj {l : Layout α} {a b : α} : l.write a = l.write b ↔ a = b := by
  constructor
  · intro h
    have ha : l.ofArgs? (l.write a) = some a := ofArgs?_eq_some_iff.mpr rfl
    have hb : l.ofArgs? (l.write a) = some b := ofArgs?_eq_some_iff.mpr h
    exact Option.some.inj (ha.symm.trans hb)
  · rintro rfl
    rfl

/-- A part behind a flag, or nothing. -/
def optional (flag : String) (p : Part α) : Layout (Option α) where
  flags := [flag]
  write o := o.elim [] fun a => flag :: p.write a
  read?
    | [] => some (none, [])
    | w :: ws => if w = flag then (p.read? ws).map (Prod.map some id) else some (none, w :: ws)
  head_mem o w hw := by
    cases o with
    | none => simp at hw
    | some a => simpa [eq_comm] using hw
  eq_of_read? {ws o rest} h := by
    cases ws with
    | nil =>
      cases h
      rfl
    | cons w ws =>
      dsimp only at h
      split at h
      · next hw =>
        obtain ⟨⟨a, us⟩, ha, hao⟩ := Option.map_eq_some_iff.mp h
        cases hao
        rw [hw, p.read?_eq_some_iff.mp ha]
        rfl
      · cases h
        rfl
  read?_write o rest hr := by
    cases o with
    | some a =>
      have ha : p.read? (p.write a ++ rest) = some (a, rest) := p.read?_eq_some_iff.mpr rfl
      simp [ha]
    | none =>
      cases rest with
      | nil => rfl
      | cons w ws =>
        have hw : w ≠ flag := by simpa using hr w rfl
        simp [hw]

/-- Reads replaced inputs as long as there is one. -/
def readOverrides : List String → List (String × String) × List String
  | w :: name :: ref :: ws =>
    if w = "--override-input" then
      ((name, ref) :: (readOverrides ws).1, (readOverrides ws).2)
    else ([], w :: name :: ref :: ws)
  | ws => ([], ws)

theorem append_readOverrides (ws : List String) :
    (readOverrides ws).1.flatMap FlakeFlags.overrideArgs ++ (readOverrides ws).2 = ws := by
  fun_induction readOverrides ws with
  | case1 name ref ws ih =>
    rw [List.flatMap_cons, List.append_assoc, ih]
    rfl
  | case2 => rfl
  | case3 => rfl

theorem readOverrides_of_head {rest : List String} (hr : ∀ w ∈ rest.head?, w ≠ "--override-input") :
    readOverrides rest = ([], rest) := by
  unfold readOverrides
  split
  · next w name ref ws => rw [if_neg (hr w rfl)]
  · rfl

theorem readOverrides_append (es : List (String × String)) {rest : List String}
    (hr : ∀ w ∈ rest.head?, w ≠ "--override-input") :
    readOverrides (es.flatMap FlakeFlags.overrideArgs ++ rest) = (es, rest) := by
  induction es with
  | nil => exact readOverrides_of_head hr
  | cons e es ih =>
    have hcons : (e :: es).flatMap FlakeFlags.overrideArgs ++ rest =
        "--override-input" :: e.1 :: e.2 :: (es.flatMap FlakeFlags.overrideArgs ++ rest) := rfl
    rw [hcons, readOverrides, if_pos rfl, ih]

def overrides : Layout (List (String × String)) where
  flags := ["--override-input"]
  write es := es.flatMap FlakeFlags.overrideArgs
  read? ws := some (readOverrides ws)
  head_mem es w hw := by
    cases es with
    | nil => simp at hw
    | cons e es => simpa [FlakeFlags.overrideArgs, eq_comm] using hw
  eq_of_read? {ws es rest} h := by
    have hws := append_readOverrides ws
    rw [Option.some.inj h] at hws
    exact hws.symm
  read?_write es rest hr := by
    rw [readOverrides_append es fun w hw => by simpa using hr w hw]

/-- One layout after the other. The second begins with words that the first does not begin
with, so the first one's end is seen. -/
def pair (l : Layout α) (m : Layout β) (h : ∀ w ∈ m.flags, w ∉ l.flags) : Layout (α × β) where
  flags := l.flags ++ m.flags
  write p := l.write p.1 ++ m.write p.2
  read? ws := do
    let (a, ws) ← l.read? ws
    let (b, rest) ← m.read? ws
    pure ((a, b), rest)
  head_mem p w hw := by
    rw [List.head?_append, Option.mem_def, Option.or_eq_some_iff] at hw
    rcases hw with hw | ⟨-, hw⟩
    · exact List.mem_append_left _ (l.head_mem p.1 w hw)
    · exact List.mem_append_right _ (m.head_mem p.2 w hw)
  eq_of_read? {ws p rest} hp := by
    obtain ⟨⟨a, us⟩, ha, hp⟩ := Option.bind_eq_some_iff.mp hp
    obtain ⟨⟨b, vs⟩, hb, hp⟩ := Option.bind_eq_some_iff.mp hp
    cases hp
    rw [l.eq_of_read? ha, m.eq_of_read? hb, List.append_assoc]
  read?_write p rest hr := by
    have hm : m.read? (m.write p.2 ++ rest) = some (p.2, rest) :=
      m.read?_write p.2 fun w hw hf => hr w hw (List.mem_append_right _ hf)
    have hl : l.read? (l.write p.1 ++ (m.write p.2 ++ rest)) =
        some (p.1, m.write p.2 ++ rest) := by
      -- the next word is one of the second layout or, if that is empty, one behind both
      refine l.read?_write p.1 fun w hw hf => ?_
      rw [List.head?_append, Option.mem_def, Option.or_eq_some_iff] at hw
      rcases hw with hw | ⟨-, hw⟩
      · exact h w (m.head_mem p.2 w hw) hf
      · exact hr w hw (List.mem_append_left _ hf)
    rw [List.append_assoc, hl]
    simp [hm]

/-- A layout for other values, each of which stands for one of the values of the layout. -/
def filterMap (l : Layout α) (f : α → Option β) (g : β → α)
    (h : ∀ a b, f a = some b ↔ a = g b) : Layout β where
  flags := l.flags
  write b := l.write (g b)
  read? ws := (l.read? ws).bind fun r => (f r.1).map (·, r.2)
  head_mem b := l.head_mem (g b)
  eq_of_read? {ws b rest} hb := by
    obtain ⟨⟨a, us⟩, ha, hb⟩ := Option.bind_eq_some_iff.mp hb
    obtain ⟨c, hc, hcb⟩ := Option.map_eq_some_iff.mp hb
    cases hcb
    have hag : a = g b := (h a b).mp hc
    rw [l.eq_of_read? ha, hag]
  read?_write b rest hr := by
    have hb : f (g b) = some b := (h (g b) b).mpr rfl
    rw [l.read?_write (g b) hr, Option.bind_some, hb]
    rfl

def map (l : Layout α) (f : α → β) (g : β → α) (hg : ∀ a, g (f a) = a) (hf : ∀ b, f (g b) = b) :
    Layout β :=
  l.filterMap (fun a => some (f a)) g fun a b => by
    constructor
    · intro h
      rw [← Option.some.inj h, hg]
    · rintro rfl
      rw [hf]

def ofSwitch (flag : String) : Layout Bool :=
  (optional flag .nothing).map Option.isSome (fun b => if b then some () else none)
    (fun o => by cases o <;> rfl) (fun b => by cases b <;> rfl)

theorem write_ofSwitch (flag : String) (b : Bool) : (ofSwitch flag).write b = switch flag b := by
  cases b <;> rfl

def ofValued (flag : String) : Layout (Option String) :=
  optional flag .word

theorem write_ofValued (flag : String) (v : Option String) :
    (ofValued flag).write v = valued flag v := by
  cases v <;> rfl

/-- Replaced inputs under distinct names. -/
def overrideTable : Layout (Table String) :=
  overrides.filterMap (fun es => if h : (es.map Prod.fst).Nodup then some ⟨es, h⟩ else none)
    Table.entries fun es t => by
      constructor
      · intro h
        split at h
        · cases h
          rfl
        · cases h
      · rintro rfl
        exact dif_pos t.nodup

end Layout

open Layout

def GeneralFlags.layout : Layout GeneralFlags :=
  (((ofValued "--store").pair (ofSwitch "--quiet") (by decide)).pair
    (ofSwitch "--print-build-logs") (by decide)).map
    (fun p => ⟨p.1.1, p.1.2, p.2⟩) (fun g => ((g.store, g.quiet), g.printBuildLogs))
    (fun _ => rfl) (fun _ => rfl)

def FlakeFlags.layout : Layout FlakeFlags :=
  ((overrideTable.pair (ofSwitch "--no-write-lock-file") (by decide)).pair
    (ofSwitch "--recreate-lock-file") (by decide)).map
    (fun p => ⟨p.1.1, p.1.2, p.2⟩)
    (fun f => ((f.overrideInputs, f.noWriteLockFile), f.recreateLockFile))
    (fun _ => rfl) (fun _ => rfl)

def EvalFlags.layout : Layout EvalFlags :=
  ((ofSwitch "--impure").pair (ofValued "--eval-store") (by decide)).map
    (fun p => ⟨p.1, p.2⟩) (fun e => (e.impure, e.evalStore)) (fun _ => rfl) (fun _ => rfl)

/-- The flags behind the arguments of a subcommand as words. -/
def Handle.trailingLayout : Layout (FlakeFlags × EvalFlags) :=
  FlakeFlags.layout.pair EvalFlags.layout (by decide)

theorem GeneralFlags.write_layout (g : GeneralFlags) : layout.write g = g.toArgs := by
  show (ofValued _).write g.store ++ (ofSwitch _).write g.quiet ++
    (ofSwitch _).write g.printBuildLogs = _
  rw [write_ofValued, write_ofSwitch, write_ofSwitch, toArgs]

theorem FlakeFlags.write_layout (f : FlakeFlags) : layout.write f = f.toArgs := by
  show overrideTable.write f.overrideInputs ++ (ofSwitch _).write f.noWriteLockFile ++
    (ofSwitch _).write f.recreateLockFile = _
  rw [write_ofSwitch, write_ofSwitch]
  rfl

theorem EvalFlags.write_layout (e : EvalFlags) : layout.write e = e.toArgs := by
  show (ofSwitch _).write e.impure ++ (ofValued _).write e.evalStore = _
  rw [write_ofSwitch, write_ofValued, toArgs]

theorem Handle.write_trailingLayout (h : Handle) :
    trailingLayout.write (h.flake, h.evaluation) = h.trailingArgs := by
  show FlakeFlags.layout.write h.flake ++ EvalFlags.layout.write h.evaluation = _
  rw [FlakeFlags.write_layout, EvalFlags.write_layout, trailingArgs]

/-- Every group can be read back from its flags and from no other words, and the flags behind the
arguments of a subcommand can be read back together. So equal flags are those of equal groups. -/
theorem flags_read_back (g : GeneralFlags) (f : FlakeFlags) (e : EvalFlags) (h : Handle) :
    (∀ ws, GeneralFlags.layout.ofArgs? ws = some g ↔ ws = g.toArgs) ∧
      (∀ ws, FlakeFlags.layout.ofArgs? ws = some f ↔ ws = f.toArgs) ∧
      (∀ ws, EvalFlags.layout.ofArgs? ws = some e ↔ ws = e.toArgs) ∧
      (∀ ws, Handle.trailingLayout.ofArgs? ws = some (h.flake, h.evaluation) ↔
        ws = h.trailingArgs) ∧
      (∀ g', g.toArgs = g'.toArgs ↔ g = g') ∧ (∀ f', f.toArgs = f'.toArgs ↔ f = f') ∧
      (∀ e', e.toArgs = e'.toArgs ↔ e = e') ∧
      ∀ k : Handle, h.trailingArgs = k.trailingArgs ↔
        h.flake = k.flake ∧ h.evaluation = k.evaluation := by
  refine ⟨fun ws => ?_, fun ws => ?_, fun ws => ?_, fun ws => ?_, fun g' => ?_, fun f' => ?_,
    fun e' => ?_, fun k => ?_⟩
  · rw [ofArgs?_eq_some_iff, g.write_layout]
  · rw [ofArgs?_eq_some_iff, f.write_layout]
  · rw [ofArgs?_eq_some_iff, e.write_layout]
  · rw [ofArgs?_eq_some_iff, h.write_trailingLayout]
  · rw [← g.write_layout, ← g'.write_layout, write_inj]
  · rw [← f.write_layout, ← f'.write_layout, write_inj]
  · rw [← e.write_layout, ← e'.write_layout, write_inj]
  · rw [← h.write_trailingLayout, ← k.write_trailingLayout, write_inj, Prod.mk.injEq]

/-- Values that look like flags are read as values. -/
example :
    Handle.trailingLayout.ofArgs? ["--override-input", "--impure", "--override-input",
      "--override-input", "", "--", "--impure", "--eval-store", "--eval-store"] =
    some ({ overrideInputs := .ofList [("--impure", "--override-input"), ("", "--")] },
      { impure := true, evalStore := some "--eval-store" }) := by
  decide +kernel

end NixContext.Nix
