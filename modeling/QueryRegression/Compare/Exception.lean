import QueryRegression.Error
import QueryRegression.Failure
import QueryRegression.Outcome
import QueryRegression.Regex.Library
import QueryRegression.Text.LowerCase
import QueryRegression.Text.Search

/-!
# Comparison of exceptions

An exception is compared with the expected one by its class and by its message in small letters.
How messages are matched is said by the expected side: as equal texts, where line breaks may
differ; as a text that must not occur; as a beginning; or as a regular expression, which is
searched for after it was put into small letters itself.
-/

namespace QueryRegression

namespace RaisedException

/-- Whether the character ends a line. -/
def isBreak (c : Char) : Bool := c == '\r' || c == '\n'

/-- The parts of a text between line breaks, those without characters left out. -/
def lineTokens (cs : List Char) : List (List Char) :=
  match _h : cs.dropWhile isBreak with
  | [] => []
  | c :: rest =>
    (c :: rest.takeWhile (!isBreak ·)) :: lineTokens (rest.dropWhile (!isBreak ·))
termination_by cs.length
decreasing_by
  have h1 := (List.dropWhile_sublist (fun c => !isBreak c) (l := rest)).length_le
  have h2 := (List.dropWhile_sublist isBreak (l := cs)).length_le
  rw [_h] at h2
  simp only [List.length_cons] at h2
  omega

/-- The complaint about an actual message, both messages in small letters. -/
def messageComplaint? (library : PatternLibrary) (messageMatch : MessageMatch)
    (expected actual : String) : Except Error (Option String) :=
  match messageMatch with
  | .contains =>
    .ok (if Text.occursIn expected actual then
      some ("Expected exception message " ++ expected ++
        " is not contained in actual exception of " ++ actual)
    else none)
  | .startsWith =>
    .ok (if Text.beginsWith expected actual then none
    else
      some ("Actual exception message " ++ actual ++
        " does not start with the expected exception of " ++ expected))
  | .regex =>
    match library.compile expected with
    | .error fault => .error (.invalidPattern fault)
    | .ok occursIn =>
      .ok (if occursIn actual then none
      else
        some ("Actual exception message " ++ actual ++ " does not match regex pattern " ++
          expected))
  | .exact =>
    .ok (if expected = actual ∨ lineTokens expected.toList = lineTokens actual.toList then none
    else some ("Got expected exception but with wrong message. Got " ++ actual))

/-- Compares an exception with the expected one. A text that the library takes for no pattern is an
error. -/
def compareWith (library : PatternLibrary) (actual expected : RaisedException) :
    Except Error (Option Failure) :=
  let expectedClass := expected.className.getD ""
  match actual.className with
  | none =>
    .ok (some (.general .exception
      ("Expected exception: " ++ expectedClass ++ " but got none.")))
  | some actualClass =>
    if expectedClass ≠ actualClass then
      .ok (some (.general .exception
        ("Got wrong exception, expected \"" ++ expectedClass ++ "\" but got \"" ++ actualClass ++
          "\"")))
    else do
      let complaint ← messageComplaint? library expected.messageMatch
        (Text.lowercase expected.message) (Text.lowercase actual.message)
      return complaint.map (.general .exception)

end RaisedException

end QueryRegression
