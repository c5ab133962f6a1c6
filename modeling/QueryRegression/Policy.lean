import QueryRegression.Number.Binary.Text
import QueryRegression.Number.Decimal

/-!
# Comparison policies

A policy says how far numbers may diverge and how much longer than expected a query may take.
-/

namespace QueryRegression

/-- The rules of a comparison. -/
structure Policy where
  /-- The greatest distance at which numbers of one type still match. -/
  allowedDivergence : Decimal
  /-- By how many percent the actual time may exceed the expected one. -/
  exceedPercent : Binary64
  /-- The expected time in milliseconds up to which times are not checked; they never are, if it
  is not positive. -/
  minimumTime : Int

namespace Policy

/-- Numbers must be equal, and times are not checked. -/
def exact : Policy := ⟨.zero, .zero, -1⟩

/-- The policy with another allowed divergence, of which the sign does not count. -/
def withDivergence (p : Policy) (d : Decimal) : Policy := { p with allowedDivergence := d.abs }

/-- The policy with a check of times. -/
def withTimeCheck (p : Policy) (percent : Binary64) (minimum : Int) : Policy :=
  { p with exceedPercent := percent, minimumTime := minimum }

/-- Whether numbers must be equal. -/
def isExact (p : Policy) : Bool := p.allowedDivergence.isZero

/-- Whether two policies state the same rules. -/
def same (p q : Policy) : Bool :=
  p.allowedDivergence.eq q.allowedDivergence && p.exceedPercent.eq q.exceedPercent &&
    p.minimumTime == q.minimumTime

/-- The complaint about a query that took longer than expected. The times are compared as
doubles; what is reported of them is exact. -/
def timeExcess? (p : Policy) (actual expected : Nat) : Option String :=
  let actualTime : Binary64 := .ofNat actual
  let expectedTime : Binary64 := .ofNat expected
  if p.minimumTime ≤ 0 then none
  else if expectedTime.le (.ofInt p.minimumTime) || actualTime.le expectedTime then none
  else
    let ratio := p.exceedPercent.div (.ofNat 100)
    let allowed := expectedTime.mul ratio
    if expectedTime.lt (actualTime.sub allowed) then
      some (s!"Actual: {actual} Expected: {expected} Diff: {actual - expected} Allowed %: " ++
        ratio.render .plain ++ " (" ++ allowed.render .plain ++ ")")
    else none

end Policy
end QueryRegression
