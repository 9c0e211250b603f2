import NixContext.Nix.Handle

/-! # Parts of a handle

A handle is put together from parts. Groups of flags and options are given by value or as they were
made before, the runner only as it was made. The parts of a handle can be taken out of it again, to
put together another one that differs in some of them.
-/

namespace NixContext.Nix

/-- A part by value or as it was made. -/
inductive Given (α : Type) where
  | value (v : Value)
  | made (a : α)
  deriving DecidableEq, Repr

/-- How a part is handed on that is a record: as it is, or as the map of its fields. -/
inductive Form where
  | record
  | fields
  deriving DecidableEq, Repr

namespace Given

variable {α : Type}

/-- A part that was made is taken as it is. -/
def check (check : Value → Checked α) : Given α → Checked α
  | value v => check v
  | made a => .ok a

/-- A record in one of the forms, with the values of its fields. -/
def inForm (values : α → List (Value × Value)) (a : α) : Form → Given α
  | .record => made a
  | .fields => value (.map (values a))

end Given

def textsValue (ts : List String) : Value :=
  .tuple (ts.map .str)

def tableValue (t : Table String) : Value :=
  .map (t.entries.map fun e => (.str e.1, .str e.2))

/-- The fields with their values, as they are given. -/
def GeneralFlags.values (g : GeneralFlags) : List (Value × Value) :=
  [(.str "store", g.store.elim .null .str), (.str "quiet", .bool g.quiet),
    (.str "print_build_logs", .bool g.printBuildLogs)]

def FlakeFlags.values (f : FlakeFlags) : List (Value × Value) :=
  [(.str "override_inputs", tableValue f.overrideInputs),
    (.str "no_write_lock_file", .bool f.noWriteLockFile),
    (.str "recreate_lock_file", .bool f.recreateLockFile)]

def EvalFlags.values (e : EvalFlags) : List (Value × Value) :=
  [(.str "impure", .bool e.impure), (.str "eval_store", e.evalStore.elim .null .str)]

def OptionValue.value : OptionValue → Value
  | truth b => .bool b
  | path p => .path p
  | entries s => textsValue s.entries

def Options.values (o : Options) : List (Value × Value) :=
  o.fields.map fun f => (.str f.1, f.2.elim .null OptionValue.value)

namespace Handle

/-- The parts that are given for a handle. -/
structure Parts where
  binary : Option Value := none
  environment : Option Value := none
  general : Option (Given GeneralFlags) := none
  flake : Option (Given FlakeFlags) := none
  evaluation : Option (Given EvalFlags) := none
  options : Option (Given Options) := none
  extraArgs : Option Value := none
  runner : Option (Given Runner) := none
  deriving DecidableEq, Repr

section Checking

variable {α β : Type}

/-- A part that must be there. -/
def requiredPart (name : String) (check : β → Checked α) (part : Option β) : Checked α :=
  (part.elim (.fail .missing) check).under (.field name)

/-- A part that may be left out. -/
def optionalPart (name : String) (check : β → Checked α) (default : α) (part : Option β) :
    Checked α :=
  part.elim (.ok default) fun b => (check b).under (.field name)

theorem requiredPart_findEntry (name : String) (check : Value → Checked α)
    (es : List (Value × Value)) :
    requiredPart name check (Value.findEntry (.str name) es) = Check.required name check es := by
  unfold requiredPart Check.required
  cases Value.findEntry (.str name) es <;> rfl

theorem optionalPart_findEntry (name : String) (check : Value → Checked α) (default : α)
    (es : List (Value × Value)) :
    optionalPart name check default (Value.findEntry (.str name) es) =
      Check.optional name check default es := by
  unfold optionalPart Check.optional
  cases Value.findEntry (.str name) es <;> rfl

theorem optionalPart_value (name : String) (check : Value → Checked α) (default : α)
    (es : List (Value × Value)) :
    optionalPart name (Given.check check) default
        ((Value.findEntry (.str name) es).map Given.value) =
      Check.optional name check default es := by
  unfold optionalPart Check.optional
  cases Value.findEntry (.str name) es <;> rfl

end Checking

/-- A handle from parts; they are checked in order. -/
def ofParts (v : Variant) (p : Parts) : Checked Handle :=
  (Except.ok (Handle.mk v)
    |> (Checked.also · (requiredPart "nix_bin" Check.text p.binary))
    |> (Checked.also · (optionalPart "env" Check.textMap ∅ p.environment))
    |> (Checked.also · (optionalPart "common_args"
        (Given.check (Check.record GeneralFlags.ofEntries)) {} p.general))
    |> (Checked.also · (optionalPart "flake_args"
        (Given.check (Check.record FlakeFlags.ofEntries)) {} p.flake))
    |> (Checked.also · (optionalPart "eval_args"
        (Given.check (Check.record EvalFlags.ofEntries)) {} p.evaluation))
    |> (Checked.also · (optionalPart "nix_config"
        (Given.check (Check.record Options.ofEntries)) {} p.options))
    |> (Checked.also · (optionalPart "extra_args" (Check.texts .notTuple) [] p.extraArgs))
    |> (Checked.also · (optionalPart "runner"
        (Given.check fun _ => .fail .notCallable) .process p.runner)))

/-- Parts by value; other names are ignored. -/
def Parts.ofEntries (es : List (Value × Value)) : Parts where
  binary := Value.findEntry (.str "nix_bin") es
  environment := Value.findEntry (.str "env") es
  general := (Value.findEntry (.str "common_args") es).map .value
  flake := (Value.findEntry (.str "flake_args") es).map .value
  evaluation := (Value.findEntry (.str "eval_args") es).map .value
  options := (Value.findEntry (.str "nix_config") es).map .value
  extraArgs := Value.findEntry (.str "extra_args") es
  runner := (Value.findEntry (.str "runner") es).map .value

/-- A handle from named values is one whose parts are all given by value. -/
theorem ofParts_ofEntries (es : List (Value × Value)) :
    ofParts .plain (Parts.ofEntries es) = ofEntries es := by
  simp only [ofParts, Parts.ofEntries, requiredPart_findEntry, optionalPart_findEntry,
    optionalPart_value]
  rfl

/-- The forms in which the records of a handle are handed on. -/
structure Forms where
  general : Form
  flake : Form
  evaluation : Form
  options : Form
  deriving DecidableEq, Repr

/-- The parts of a handle, with its records in the given forms. -/
def parts (h : Handle) (f : Forms) : Parts where
  binary := some (.str h.binary)
  environment := some (tableValue h.environment)
  general := some (.inForm GeneralFlags.values h.general f.general)
  flake := some (.inForm FlakeFlags.values h.flake f.flake)
  evaluation := some (.inForm EvalFlags.values h.evaluation f.evaluation)
  options := some (.inForm Options.values h.options f.options)
  extraArgs := some (textsValue h.extraArgs)
  runner := some (.made h.runner)

end Handle

end NixContext.Nix
