import QueryClause.Dict
import QueryClause.Eval.Error
import QueryClause.Host.Value

/-!
# Environments

An `Environment` supplies what the evaluator does not know itself: members of types, methods, and
constructors.  Each answer is `none` where the environment has nothing to say.  `Captures` is an
environment made of registrations, kept under names of the form `Owner.Member`.
-/

namespace QueryClause

/-- The part of the host that an expression may call on. -/
structure Environment where
  /-- A member of a type, by the names of both. -/
  staticMember : String → String → Option (Except EvalError Value)
  /-- A method: the type that owns it, the receiver if there is one, the name and the arguments. -/
  callMethod : HostType → Option Value → String → List Value → Option (Except EvalError Value)
  /-- A constructor with its arguments. -/
  construct : HostType → List Value → Option (Except EvalError Value)
  /-- What a call for a new identifier is answered with.  A run that draws its identifiers puts each
  of them here for the call that it was drawn for. -/
  freshGuid : Guid

namespace Environment

/-- The environment that knows nothing. -/
def none (freshGuid : Guid) : Environment where
  staticMember _ _ := .none
  callMethod _ _ _ _ := .none
  construct _ _ := .none
  freshGuid := freshGuid

/-- The environment with another answer for a call for a new identifier. -/
def withFresh (env : Environment) (fresh : Guid) : Environment := { env with freshGuid := fresh }

end Environment

/-- A function of the host, from a receiver and arguments. -/
abbrev HostFunction := Option Value → List Value → Except EvalError Value

/-- Registered members and functions. -/
structure Captures where
  statics : Dict Value
  functions : Dict HostFunction

namespace Captures

/-- Nothing registered. -/
def empty : Captures := ⟨∅, ∅⟩

/-- The name under which a member of a type is registered. -/
def key (owner member : String) : String := owner ++ "." ++ member

/-- Register the value of a member of a type. -/
def withStatic (c : Captures) (owner member : String) (v : Value) : Captures :=
  { c with statics := c.statics.insert (key owner member) v }

/-- Register a function for a method, or for the constructor under the name `new`. -/
def withFunction (c : Captures) (owner method : String) (f : HostFunction) : Captures :=
  { c with functions := c.functions.insert (key owner method) f }

/-- The environment of the registrations. -/
def environment (c : Captures) (freshGuid : Guid) : Environment where
  staticMember owner member := (c.statics.get? (key owner member)).map .ok
  callMethod owner target method args :=
    (c.functions.get? (key owner.text method)).map fun f => f target args
  construct type args := (c.functions.get? (key type.text "new")).map fun f => f none args
  freshGuid := freshGuid

end Captures

end QueryClause
