import NixContext.Context.Loading
import NixContext.Session.Action

/-! # Sessions

A session keeps the surroundings, the program that is started as nix, what the runners do, and
labelled objects. Actions are carried out in place, one after the other (`run_append`): what an
action has written before it fails stays written.
-/

namespace NixContext

/-- The state of a session; the program and the runners are fixed when the session begins. -/
structure Session where
  surroundings : Surroundings
  binary : String
  launch : Nix.Launch
  objects : Table Session.Object

namespace Session

open InPlace

/-- The session that begins in the given surroundings; `launch` says what the runners do. -/
def start (s : Surroundings) (launch : Nix.Launch := Nix.Runner.start) : Session :=
  ⟨s, Nix.binary s.environment, launch, ∅⟩

/-- The variables of the process. -/
def environment (s : Session) : Table String :=
  s.surroundings.environment

/-- The session with other variables. -/
def withEnvironment (s : Session) (vs : Table String) : Session :=
  { s with surroundings := { s.surroundings with environment := vs } }

/-- The session in another directory. -/
def withDirectory (s : Session) (path : String) : Session :=
  { s with surroundings := { s.surroundings with directory := path } }

/-- The session with an object under a label. -/
def store (s : Session) (label : String) (o : Object) : Session :=
  { s with objects := s.objects.insert label o }

section Objects

variable (s : Session) (label : String)

/-- The object under a label. -/
def object : Except Failure Object :=
  match s.objects.find? label with
  | some o => .ok o
  | none => .error .unknownObject

/-- The draft under a label. -/
def draft : Except Failure Draft := do
  match ← s.object label with
  | .draft d => pure d
  | _ => .error .wrongKind

/-- The context under a label, if its values are as declared. -/
def context : Except Failure Context := do
  match ← s.object label with
  | .context c => pure c
  | _ => .error .wrongKind

/-- The context under a label, whatever its values are. -/
def anyContext : Except Failure RawContext := do
  match ← s.object label with
  | .context c => pure c.raw
  | .rawContext c => pure c
  | _ => .error .wrongKind

/-- The connection under a label. -/
def connection : Except Failure Connection := do
  match ← s.object label with
  | .connection c => pure c
  | _ => .error .wrongKind

/-- The handle under a label. -/
def handle : Except Failure Nix.Handle := do
  match ← s.connection label with
  | .handle h => pure h
  | .stub _ _ => .error .wrongKind

/-- The package under a label, if its values are as declared. -/
def package : Except Failure Package := do
  match ← s.object label with
  | .package p => pure p
  | _ => .error .wrongKind

/-- The package under a label, whatever its values are. -/
def anyPackage : Except Failure RawPackage := do
  match ← s.object label with
  | .package p => pure p.raw
  | .rawPackage p => pure p
  | _ => .error .wrongKind

/-- The settings under a label. -/
def settings : Except Failure Fields := do
  match ← s.object label with
  | .settings x => pure x
  | _ => .error .wrongKind

end Objects

/-- The texts that a value yields one by one. -/
def argsOf (v : Value) : Except Failure (List String) :=
  match v.asItems? with
  | none => .error .typeMismatch
  | some xs => xs.mapM fun x => match x with
    | .str t => .ok t
    | _ => .error .typeMismatch

/-- The values for a draft that named values make, if they pass validation. -/
def overlayOf (entries : List (Value × Value)) : Except Failure Fields :=
  ((Overlay.ofEntries entries).map Overlay.fields).mapError (.rejected .overlay)

/-- The value that a draft keeps if items are appended to the list it was given: a list of
arguments has been copied, a setting for metrics has not. -/
def appendItems (items : List Value) : Value → Value
  | .list xs => .list (xs ++ items)
  | v => v

/-- Calls a setter, and appends items to the given list afterwards. -/
def callSetter (name : String) (v : Value) (items : List Value) : InPlace Draft Unit := do
  Draft.call name v
  if name = Setting.collectMetrics.name then
    write fun d => { d with fields := d.fields.set (appendItems items v) .collectMetrics }

/-- A handle from named values with a runner that records. -/
def recordingHandle (es : List (Value × Value)) : Except Failure Nix.Handle :=
  if es.any (fun e => e.1 = .str "runner") then .error .typeMismatch
  else do
    let h ← (Nix.Handle.ofEntries es).mapError (.rejected (.handle .plain))
    pure { h with runner := .recorder }

/-- Runs a subcommand on a connection. -/
def runArgs (c : Connection) (args : Value) (launch : Nix.Launch) : Activity Report := do
  let xs ← Activity.ofResult (argsOf args)
  c.run xs launch

/-- Changes a draft of the session where it stands. -/
def onDraft (label : String) (x : InPlace Draft Unit) : InPlace Session Unit where
  run s :=
    match s.draft label with
    | .ok d =>
      let y := x.run d
      (y.1, s.store label (.draft y.2))
    | .error f => (.fail f, s)

/-- Stores an object that an action has made. -/
def keep (label : String) (o : Object) : InPlace Session Unit :=
  write (·.store label o)

/-- Carries out an action in place. -/
def carryOut : Action → InPlace Session Answer
  | .setVariable name value => do
    write fun s => s.withEnvironment (s.environment.insert name value)
    pure .done
  | .unsetVariable name => do
    write fun s => s.withEnvironment (s.environment.erase name)
    pure .done
  | .changeDirectory path => do
    write (·.withDirectory path)
    pure .done
  | .newDraft label engine => do
    keep label (.draft (.fresh engine))
    pure .done
  | .loadDraft label engine file context => do
    let d ← look fun s => Draft.ofFile engine s.surroundings context file
    keep label (.draft d)
    pure .done
  | .newSettings label entries => do
    let x ← ask fun _ => overlayOf entries
    keep label (.settings x)
    pure .done
  | .applySettings on entries => do
    let _ ← ask (·.draft on)
    let x ← ask fun _ => overlayOf entries
    onDraft on (Draft.apply x)
    pure .sameDraft
  | .apply on source => do
    let x ← ask (·.settings source)
    onDraft on (Draft.apply x)
    pure .sameDraft
  | .replace on field value appended => do
    onDraft on (callSetter field value appended)
    pure .sameDraft
  | .build on label => do
    let d ← ask (·.draft on)
    ask fun _ => d.method "build"
    let c ← ask fun _ => d.build.mapError .missingSetting
    keep label (.ofContext c)
    pure (.ofContext c)
  | .inspect on => do
    let c ← ask (·.anyContext on)
    pure (.ofContext c)
  | .connect on label => do
    let c ← ask (·.anyContext on)
    let n ← look fun s => c.connect s.binary s.environment
    keep label (.connection n)
    pure (.connection n)
  | .newHandle label entries => do
    let h ← ask fun _ => recordingHandle entries
    keep label (.connection (.handle h))
    pure (.connection (.handle h))
  | .command on args => do
    let h ← ask (·.handle on)
    let xs ← ask fun _ => argsOf args
    pure (.argv (h.command xs))
  | .run on args => do
    let c ← ask (·.connection on)
    let r ← look fun s => runArgs c args s.launch
    pure (.report r)
  | .package on label installable => do
    let c ← ask (·.anyContext on)
    let i ← ask fun _ =>
      (Installable.ofText? installable).elim (.error (.malformedInstallable installable)) .ok
    keep label (.ofPackage ⟨.own c, .own i, []⟩)
    pure (.package ⟨.own c, .own i, []⟩)
  | .buildPackage on => do
    let p ← ask (·.anyPackage on)
    let r ← look fun s => p.build s.binary s.environment s.launch
    pure (.report r)
  | .evaluatePackage on json => do
    let p ← ask (·.anyPackage on)
    let r ← look fun s => p.evaluate s.binary s.environment json s.launch
    pure (.report r)
  | .runPackage on args => do
    let p ← ask (·.anyPackage on)
    let r ← look fun s => p.run s.binary s.environment args s.launch
    pure (.report r)
  | .compare a b => do
    let x ← ask (·.object a)
    let y ← ask (·.object b)
    pure (.comparison (a == b || x.same y) (a == b))
  | .assign on path target value => do
    let o ← ask (·.object on)
    let p ← ask fun _ => o.assign path target value
    keep on p
    pure .done

/-- The answer to an action and the session after it. -/
def step (s : Session) (a : Action) : Activity Answer × Session :=
  (carryOut a).run s

/-- The answers to actions, one after the other. -/
def run (s : Session) : List Action → List (Activity Answer)
  | [] => []
  | a :: as => (s.step a).1 :: run (s.step a).2 as

/-- The session after actions. -/
def after (s : Session) : List Action → Session
  | [] => s
  | a :: as => after (s.step a).2 as

end Session

end NixContext
