import QueryRegression.Error
import QueryRegression.Number.Binary.Reader
import QueryRegression.Number.Decimal.Text
import QueryRegression.Policy
import QueryRegression.Text.Blank

/-!
# Settings

Settings are the raw texts of a configuration, each of which may be missing. A policy is made of
them: a blank text counts as missing, a divergence that cannot be used is replaced by zero with a
warning, and a time setting that cannot be read is an error.
-/

namespace QueryRegression

/-- The raw settings of comparisons and scenarios. -/
structure Settings where
  allowedDivergence : Option String
  exceedPercent : Option String
  minimumTime : Option String
  /-- Milliseconds allowed for one query in the time budget of a scenario. -/
  timeForOneQuery : Option Nat
  resultMode : Option String
deriving DecidableEq

/-- Settings of which all are missing. -/
def Settings.empty : Settings := ⟨none, none, none, none, none⟩

/-- Why a divergence was replaced by zero. -/
inductive DivergenceWarning where
  | negative
  | unparsable
deriving DecidableEq

namespace Policy

/-- The divergence that a setting asks for. -/
def readDivergence (setting : Option String) : Decimal × Option DivergenceWarning :=
  match setting.bind Text.nonBlank? with
  | none => (.zero, none)
  | some text =>
    match Decimal.ofText? text with
    | none => (.zero, some .unparsable)
    | some d => if d.isNegative then (.zero, some .negative) else (d, none)

/-- The percentage that a setting asks for. -/
def readPercent (setting : Option String) : Except Error Binary64 :=
  match setting.bind Text.nonBlank? with
  | none => .ok .zero
  | some text =>
    match Binary.ofText? text with
    | some x => .ok x
    | none => .error (.configuration (.invalidPercent text))

/-- The minimum of times that a setting asks for. -/
def readMinimum (setting : Option String) : Except Error Int :=
  match setting.bind Text.nonBlank? with
  | none => .ok (-1)
  | some text =>
    (Number.signed 63 text.toList).mapError fun fault => .configuration (.invalidMinimum text fault)

/-- The policy that settings ask for. A positive percentage turns the check of times on, whatever
the minimum. -/
def ofSettings (s : Settings) : Except Error Policy := do
  let percent ← readPercent s.exceedPercent
  let minimum ← readMinimum s.minimumTime
  let minimum := if Binary.zero.lt percent ∧ minimum < 0 then 1 else minimum
  return ⟨(readDivergence s.allowedDivergence).1, percent, minimum⟩

end Policy
end QueryRegression
