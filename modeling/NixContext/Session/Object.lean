import NixContext.Context.Draft
import NixContext.Package.Raw

/-! # Objects of a session

The objects that a session makes, when two of them are equal, and what comes of assigning to
a part of one. Contexts, handles and all records reached from them are frozen; drafts, packages,
stubs and settings are not, and assigning to them changes them.

Names that begin with two underscores belong to the language, and what a runner or a class of
backends is made of belongs to the program around the session: nothing is assigned there. The
same holds for the items of a value that was handed in, except for the list of arguments of
settings, which is their own.
-/

namespace NixContext.Session

/-- Something that a session has made. -/
inductive Object where
  | draft (d : Draft)
  | context (c : Context)
  | rawContext (c : RawContext)
  | connection (c : Connection)
  | package (p : Package)
  | rawPackage (p : RawPackage)
  | settings (x : Fields)
  deriving DecidableEq, Repr

/-- Equal by content; objects without equality of their own are never equal by content. -/
def Object.same : Object → Object → Bool
  | context a, context b => a.same b
  | rawContext a, rawContext b => a.same b
  | connection (.handle a), connection (.handle b) => a.same b
  | settings x, settings y => x.same y
  | _, _ => false

/-- The object that a context of any values is. -/
def Object.ofContext (c : RawContext) : Object :=
  c.context?.elim (rawContext c) context

/-- The object that a package of any values is. -/
def Object.ofPackage (p : RawPackage) : Object :=
  p.package?.elim (rawPackage p) package

/-- What an assignment can be aimed at. -/
inductive Place where
  | draft
  | settings
  | stub (context : Place)
  | package (context installable : Place)
  | foreign
  | context (fixedArgs : Bool)
  | record (r : RecordKind)
  | collection
  | arguments
  | plain
  deriving DecidableEq, Repr

namespace Place

/-- The place that a context is: values that are not as declared have no parts of their own. -/
def ofContext (c : RawContext) : Place :=
  context c.context?.isSome

/-- The place that an attribute for a context is. -/
def ofAttribute : Attribute RawContext → Place
  | .own c => ofContext c
  | .assigned _ => plain

/-- The place that an object is. -/
def ofObject : Object → Place
  | .draft _ => draft
  | .context c => ofContext c.raw
  | .rawContext c => ofContext c
  | .connection (.handle h) => record (.handle h.variant)
  | .connection (.stub c _) => stub (ofAttribute c)
  | .package p => package (ofContext p.context.raw) (record .installable)
  | .rawPackage p =>
    package (ofAttribute p.context)
      (match p.installable with | .own _ => record .installable | .assigned _ => plain)
  | .settings _ => settings

/-- The parts of a handle. -/
def handleParts : List (String × Place) :=
  [("nix_bin", plain), ("env", collection), ("common_args", record .generalFlags),
    ("flake_args", record .flakeFlags), ("eval_args", record .evalFlags),
    ("nix_config", record .options), ("extra_args", collection), ("runner", foreign)]

/-- The parts of a context. -/
def contextParts (fixedArgs : Bool) : List (String × Place) :=
  [("config_dir", plain), ("cache_dir", plain), ("data_dir", plain), ("collect_metrics", plain),
    ("extra_nix_args", if fixedArgs then collection else plain), ("nix_backend", foreign)]

/-- The parts of the options. -/
def optionParts : List (String × Place) :=
  [("accept_flake_config", plain), ("warn_dirty", plain), ("show_trace", plain),
    ("netrc_file", plain), ("extra_experimental_features", collection),
    ("extra_substituters", collection), ("extra_trusted_public_keys", collection)]

/-- The parts of a place, by name. -/
def parts : Place → List (String × Place)
  | context fixedArgs => contextParts fixedArgs
  | record (.handle _) => handleParts
  | record .generalFlags => [("store", plain), ("quiet", plain), ("print_build_logs", plain)]
  | record .flakeFlags =>
    [("override_inputs", collection), ("no_write_lock_file", plain), ("recreate_lock_file", plain)]
  | record .evalFlags => [("impure", plain), ("eval_store", plain)]
  | record .options => optionParts
  | record .installable => [("flakeref", plain), ("attr_path", plain)]
  | package c i => [("flox", c), ("installable", i)]
  | stub c => [("flox", c)]
  | draft => ("_nix_backend", foreign) :: Setting.all.map fun f => ("_" ++ f.name, plain)
  | settings =>
    Setting.all.map fun f => (f.name, if f = .extraArgs then arguments else plain)
  | _ => []

/-- The place that names lead to, part by part. -/
def follow : Place → List String → Option Place
  | p, [] => some p
  | p, n :: ns =>
    match p.parts.lookup n with
    | some q => q.follow ns
    | none => none

/-- Whether a name is one of a record's own: other names are free. -/
def isFieldName (name : String) : Bool :=
  name.toList.head? != some '_'

/-- Whether a name belongs to the language. -/
def isReserved (name : String) : Bool :=
  name.toList.take 2 == ['_', '_']

/-- What is wrong with assigning to a named part, if anything is. -/
def refusal? (name : String) : Place → Option Failure
  | context _ => some (.frozenField name)
  | record r =>
    if isFieldName name then some (.rejected r [⟨.frozen, [.field name]⟩])
    else if isReserved name then some .wrongKind
    else none
  | settings =>
    if isReserved name then some .wrongKind
    else if isFieldName name && (Setting.ofName? name).isNone then some (.unknownField name)
    else none
  | draft | package _ _ | stub _ => if isReserved name then some .wrongKind else none
  | foreign | collection | arguments | plain => some .wrongKind

end Place

/-- What an assignment names: a part or an item. -/
inductive Target where
  | field (name : String)
  | item (key : Value)
  deriving DecidableEq, Repr

/-- The item of a list that a key stands for, from the back if it is negative. -/
def itemIndex (key : Value) (length : Nat) : Except Failure Nat :=
  let count (i : Int) : Except Failure Nat :=
    let j := if i < 0 then i + length else i
    if 0 ≤ j ∧ j < length then .ok j.toNat else .error .indexOutOfRange
  match key with
  | .int i => count i
  | .bool b => count b.toInt
  | _ => .error .typeMismatch

/-- A list or a map with an item replaced. -/
def putItem (key v : Value) : Value → Except Failure Value
  | .list xs => (itemIndex key xs.length).map fun n => .list (xs.set n v)
  | .map es => if key.isKey then .ok (.map (Value.insertEntry key v es)) else .error .typeMismatch
  | _ => .error .typeMismatch

namespace Object

/-- The object with an attribute assigned, where nothing is wrong with that. What is frozen takes
names that are no fields, and keeps nothing of them. -/
def put (name : String) (v : Value) : Object → Object
  | draft d => draft (d.assign name v)
  | package p => ofPackage (p.raw.assign name v)
  | rawPackage p => ofPackage (p.assign name v)
  | connection (.stub c muted) =>
    connection (.stub (if name = "flox" then .assigned v else c) (muted || name == "run"))
  | settings x => settings ((Setting.ofName? name).elim x (x.set v))
  | o => o

/-- The object after assigning to a part that names lead to. -/
def assign (o : Object) (path : List String) (t : Target) (v : Value) : Except Failure Object :=
  match (Place.ofObject o).follow path, t with
  | none, _ => .error .wrongKind
  | some p, .field name =>
    match p.refusal? name with
    | some f => .error f
    | none => .ok (if path = [] then o.put name v else o)
  | some p, .item key =>
    match p, o with
    | .arguments, settings x =>
      (putItem key v x.extraArgs).map fun w => settings { x with extraArgs := w }
    | _, _ => .error .typeMismatch

end Object

end NixContext.Session
