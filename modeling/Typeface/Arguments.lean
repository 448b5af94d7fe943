import Typeface.Value

/-!
# Arguments

A host program passes arguments by position and by name.  `bind?` matches them
with the parameters of an operation, each argument with exactly one parameter.
-/

namespace Typeface

structure Parameter where
  name : String
  /-- What stands in when no argument is given. -/
  standIn : Option Value := none

structure Arguments where
  positional : List Value := []
  named : List (String × Value) := []

namespace Arguments

def named? (arguments : Arguments) (name : String) : Option Value :=
  arguments.named.lookup name

/-- The values of parameters that are left for named arguments. -/
def bindNamed? (arguments : Arguments) : List Parameter → Option (List Value)
  | [] => some []
  | parameter :: rest => do
    let value ← (arguments.named? parameter.name).orElse fun _ => parameter.standIn
    let values ← bindNamed? arguments rest
    return value :: values

/-- The values of the parameters in their order. -/
def bind? (arguments : Arguments) (parameters : List Parameter) : Option (List Value) := do
  let given := arguments.positional.length
  let free := parameters.drop given
  guard (given ≤ parameters.length)
  guard (arguments.named.all fun entry => free.any fun parameter => parameter.name == entry.1)
  let rest ← bindNamed? arguments free
  return arguments.positional ++ rest

end Arguments

end Typeface
