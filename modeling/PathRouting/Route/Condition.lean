/-
  Conditions on bindings and on a context.

  * `Condition.holds` decides a condition; the conditions of a route tree can be
    given by one.
-/
import PathRouting.Bindings

namespace PathRouting

/-- A condition. -/
inductive Condition where
  | const (value : Bool)
  /-- a name is bound -/
  | bound (name : Text)
  /-- a name is bound to a value -/
  | equals (name value : Text)
  /-- a name is bound to a value of at most so many bytes -/
  | atMost (name : Text) (bytes : Nat)
  | negation (condition : Condition)
  /-- the context is a data value -/
  | contextIs (value : Json)
deriving Repr

/-- Decides a condition. -/
def Condition.holds : Condition → Bindings → Json → Bool
  | .const value, _, _ => value
  | .bound name, b, _ => b.contains name
  | .equals name value, b, _ => b.get? name == some value
  | .atMost name bytes, b, _ => (b.get? name).any (Text.utf8Length · ≤ bytes)
  | .negation c, b, context => !c.holds b context
  | .contextIs value, _, context => context == value

end PathRouting
