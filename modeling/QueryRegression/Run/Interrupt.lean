/-!
# Interrupts

A flag by which a run is asked to stop after its current test.
-/

namespace QueryRegression

/-- The request to stop a run. -/
structure Interrupt where
  raised : Bool
deriving DecidableEq

namespace Interrupt

/-- A flag that is not raised. -/
def new : Interrupt := ⟨false⟩

/-- Raises the flag. -/
def raise (_ : Interrupt) : Interrupt := ⟨true⟩

/-- Lowers the flag. -/
def clear (_ : Interrupt) : Interrupt := ⟨false⟩

/-- Lowers the flag and tells whether it was raised. -/
def take (i : Interrupt) : Bool × Interrupt := (i.raised, i.clear)

/-- The flag after something that may have raised it. -/
def raiseIf (i : Interrupt) (raised : Bool) : Interrupt := if raised then i.raise else i

end Interrupt
end QueryRegression
