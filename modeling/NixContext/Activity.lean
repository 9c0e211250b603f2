import NixContext.Engine
import NixContext.Failure
import NixContext.Installable

/-! # Activities

An activity is an operation together with the events that it causes. The events that came
before a failure are kept.
-/

namespace NixContext

/-- What happens in the course of an operation. -/
inductive Event where
  | loading (file : Path)
  | building (i : Installable)
  | evaluating (i : Installable)
  | running (i : Installable)
  | instantiating (e : Engine)
  | trusting (certificates : String)
  | invoking (argv : List String)
  | called (i : Invocation)
  deriving DecidableEq, Repr

/-- The line that an event leaves in the journal; a call of the runner leaves none. -/
def Event.line? : Event → Option String
  | loading file => some ("Loading settings from " ++ file.text)
  | building i => some ("Building " ++ i.text)
  | evaluating i => some ("Evaluating " ++ i.text)
  | running i => some ("Running " ++ i.text)
  | instantiating e => some ("Instantiating " ++ e.name)
  | trusting certificates => some ("Using NIX_SSL_CERT_FILE=" ++ certificates)
  | invoking argv => some ("Running " ++ " ".intercalate argv)
  | called _ => none

/-- An operation's events in order and its result. -/
structure Activity (α : Type) where
  events : List Event
  result : Except Failure α

namespace Activity

variable {α β : Type}

/-- The activity that gives a result without any event. -/
def done (a : α) : Activity α :=
  ⟨[], .ok a⟩

/-- The activity that fails at once. -/
def fail (f : Failure) : Activity α :=
  ⟨[], .error f⟩

/-- The activity of a result that is there without any event. -/
def ofResult (r : Except Failure α) : Activity α :=
  ⟨[], r⟩

/-- The activity of a single event. -/
def note (e : Event) : Activity Unit :=
  ⟨[e], .ok ()⟩

/-- One activity after the other, unless the first fails. -/
def andThen (x : Activity α) (f : α → Activity β) : Activity β :=
  match x.result with
  | .ok a => ⟨x.events ++ (f a).events, (f a).result⟩
  | .error e => ⟨x.events, .error e⟩

instance : Monad Activity where
  pure := done
  bind := andThen

@[simp] theorem pure_eq (a : α) : (pure a : Activity α) = ⟨[], .ok a⟩ := rfl

@[simp] theorem bind_ok (es : List Event) (a : α) (f : α → Activity β) :
    ((⟨es, .ok a⟩ : Activity α) >>= f) = ⟨es ++ (f a).events, (f a).result⟩ := rfl

@[simp] theorem bind_error (es : List Event) (e : Failure) (f : α → Activity β) :
    ((⟨es, .error e⟩ : Activity α) >>= f) = ⟨es, .error e⟩ := rfl

@[simp] theorem note_bind (e : Event) (f : Unit → Activity β) :
    (note e >>= f) = ⟨e :: (f ()).events, (f ()).result⟩ := rfl

@[simp] theorem ofResult_ok_bind (a : α) (f : α → Activity β) :
    (ofResult (.ok a) >>= f) = f a := rfl

@[simp] theorem ofResult_error_bind (e : Failure) (f : α → Activity β) :
    (ofResult (.error e) >>= f) = fail e := rfl

@[simp] theorem fail_bind (e : Failure) (f : α → Activity β) : (fail e >>= f) = fail e := rfl

@[simp] theorem result_ofResult (r : Except Failure α) : (ofResult r).result = r := rfl

@[simp] theorem result_fail (e : Failure) : (fail e : Activity α).result = .error e := rfl

theorem bind_assoc {γ : Type} (x : Activity α) (f : α → Activity β) (g : β → Activity γ) :
    x >>= f >>= g = x >>= fun a => f a >>= g := by
  obtain ⟨es, e | a⟩ := x
  · rfl
  · rcases h : f a with ⟨fs, e | b⟩ <;> simp [h, List.append_assoc]

theorem result_bind_eq_ok_iff {x : Activity α} {f : α → Activity β} {b : β} :
    (x >>= f).result = .ok b ↔ ∃ a, x.result = .ok a ∧ (f a).result = .ok b := by
  obtain ⟨es, r⟩ := x
  cases r <;> simp

end Activity

end NixContext
