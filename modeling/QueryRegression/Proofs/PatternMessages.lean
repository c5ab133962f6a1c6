import QueryRegression.Proofs.ExceptionMessages
import QueryRegression.Proofs.PatternReading
import QueryRegression.Proofs.RespelledPatterns

/-!
# Messages that are matched by a pattern

An expected message that is a pattern is put into small letters before it is read, like the message
in which it is searched for. `RaisedException.compareWith_patternLaw` says what that search finds,
and when it is the search for the pattern as it was written: letters that name a code point or a
property may be capitals, but small letters change what other escapes and groups mean. So a search
for a character that is no digit, `\D`, becomes one for a digit, and the beginning `(?P<` of a named
group is no longer read. All this holds whatever the limits beyond which patterns are refused.
-/

namespace QueryRegression.RaisedException

variable {limits : Regex.Limits}

/-- What the comparison with a pattern comes to, for a library that reads patterns within limits. -/
structure PatternLaw (limits : Regex.Limits) (actual expected : RaisedException) : Prop where
  /-- The expected message in small letters is no pattern. -/
  refused : ∀ {fault : Regex.Fault},
    Regex.ofChars limits true expected.smallMessage = .error fault →
    actual.compareWith (Regex.library limits) expected = .error (.invalidPattern fault.message)
  /-- It is a pattern, which is searched for in the message in small letters. -/
  searched : ∀ {r : Regex}, Regex.ofChars limits true expected.smallMessage = .ok r →
    PassesIff (Regex.library limits) actual expected (r.Occurs actual.smallMessage)
  /-- The pattern as it was written is searched for in a message of small letters, if small letters
  change it in the names of code points and properties only, and there is still room for it. -/
  written : ∀ {r : Regex}, Regex.ofChars limits true expected.message.toList = .ok r →
    Regex.Respelled false expected.message.toList expected.smallMessage →
    limits.hasRoom expected.smallMessage r = true →
    actual.smallMessage = actual.message.toList →
    PassesIff (Regex.library limits) actual expected (r.Occurs actual.message.toList)
  /-- In general, this takes that there still is a pattern, which occurs in the message if and only
  if the one that was written does. -/
  written_iff : ∀ {r : Regex}, Regex.ofChars limits true expected.message.toList = .ok r →
    actual.smallMessage = actual.message.toList →
    (PassesIff (Regex.library limits) actual expected (r.Occurs actual.message.toList) ↔
      ∃ r', Regex.ofChars limits true expected.smallMessage = .ok r' ∧
        (r'.Occurs actual.message.toList ↔ r.Occurs actual.message.toList))

section OneClass

variable {actual expected : RaisedException} {className : String}
  (actualClass : actual.className = some className)
  (expectedClass : expected.className = some className) (mode : expected.messageMatch = .regex)
include actualClass expectedClass mode

theorem compareWith_of_refused {fault : Regex.Fault}
    (read : Regex.ofChars limits true expected.smallMessage = .error fault) :
    actual.compareWith (Regex.library limits) expected =
      .error (.invalidPattern fault.message) := by
  rw [smallMessage] at read
  rw [compareWith_eq_map actualClass expectedClass, mode, messageComplaint?, Regex.library]
  dsimp only
  rw [read]
  rfl

theorem passesIff_regex {r : Regex}
    (read : Regex.ofChars limits true expected.smallMessage = .ok r) :
    PassesIff (Regex.library limits) actual expected (r.Occurs actual.smallMessage) := by
  refine PassesIff.congr (p := r.search actual.smallMessage = true) ?_
    (Regex.search_iff (Regex.ofChars_isFormed read) _)
  apply passesIff_of_complaint actualClass expectedClass
  rw [smallMessage] at read
  rw [mode, messageComplaint?, Regex.library]
  dsimp only
  rw [read]
  rfl

/-- A message is compared with a pattern by a search for the pattern in small letters. -/
theorem compareWith_patternLaw (limits : Regex.Limits) : PatternLaw limits actual expected where
  refused := compareWith_of_refused actualClass expectedClass mode
  searched := passesIff_regex actualClass expectedClass mode
  written {r} read alike room small := by
    have decided := passesIff_regex actualClass expectedClass mode
      (Regex.ofChars_of_respelled alike read room)
    rwa [small] at decided
  written_iff {r} read small := by
    cases found : Regex.ofChars limits true expected.smallMessage with
    | error fault =>
        have failed := compareWith_of_refused actualClass expectedClass mode found
        constructor
        · rintro (⟨-, passed⟩ | ⟨-, failure, reported, -⟩)
          · rw [failed] at passed
            cases passed
          · rw [failed] at reported
            cases reported
        · rintro ⟨r', ⟨⟩, -⟩
    | ok r' =>
        have decided := passesIff_regex actualClass expectedClass mode found
        rw [small] at decided
        constructor
        · exact fun written => ⟨r', rfl, decided.passes_iff.symm.trans written.passes_iff⟩
        · rintro ⟨_, ⟨⟩, same⟩
          exact decided.congr same

end OneClass

theorem exists_ok_of_any {ε α : Type} {result : Except ε α} {p : α → Bool}
    (any : result.toOption.any p = true) : ∃ a, result = .ok a ∧ p a = true := by
  cases result with
  | error => cases any
  | ok a => exact ⟨a, rfl, any⟩

/-- The pattern of a character that is no digit occurs in a letter, but the comparison fails, since
the pattern is put into small letters. A capital digit of a code point does no harm. -/
theorem compareWith_patternLaw_not_digit :
    let letter : RaisedException := ⟨some "SQLException", "j", .exact, 0⟩
    let notDigit : RaisedException := ⟨some "SQLException", "\\D", .regex, 0⟩
    let code : RaisedException := ⟨some "SQLException", "\\x6A", .regex, 0⟩
    (∃ r, Regex.ofChars .standard true notDigit.message.toList = .ok r ∧
        r.Occurs letter.message.toList) ∧
      (∃ failure, letter.compareWith .standard notDigit = .ok (some failure)) ∧
      letter.compareWith .standard code = .ok none := by
  intro letter notDigit code
  have notDigitLaw : PatternLaw .standard letter notDigit := compareWith_patternLaw rfl rfl rfl _
  have codeLaw : PatternLaw .standard letter code := compareWith_patternLaw rfl rfl rfl _
  have small : letter.smallMessage = letter.message.toList := by decide +kernel
  obtain ⟨r, read, found⟩ : ∃ r, Regex.ofChars .standard true notDigit.message.toList = .ok r ∧
      r.search letter.message.toList = true := exists_ok_of_any (by decide +kernel)
  obtain ⟨digit, readDigit, absent⟩ : ∃ r,
      Regex.ofChars .standard true notDigit.smallMessage = .ok r ∧
        (!r.search letter.smallMessage) = true := exists_ok_of_any (by decide +kernel)
  obtain ⟨j, readCode, foundCode⟩ : ∃ r, Regex.ofChars .standard true code.message.toList = .ok r ∧
      r.search letter.message.toList = true := exists_ok_of_any (by decide +kernel)
  refine ⟨⟨r, read, (Regex.search_iff (Regex.ofChars_isFormed read) _).mp found⟩, ?_, ?_⟩
  · rcases notDigitLaw.searched readDigit with ⟨occurs, -⟩ | ⟨-, failure, failed, -⟩
    · rw [← Regex.search_iff (Regex.ofChars_isFormed readDigit)] at occurs
      rw [occurs] at absent
      cases absent
    · exact ⟨failure, failed⟩
  · have respelled : Regex.Respelled false code.message.toList code.smallMessage := by
      have shape : code.message.toList = ['\\', 'x', '6', 'A'] := by decide +kernel
      have lower : code.smallMessage = ['\\', 'x', '6', 'a'] := by decide +kernel
      have digits : Regex.SameName ['6', 'A'] ['6', 'a'] :=
        .cons (.same (by decide)) (.cons (.cased (by decide) (by decide) (by decide)) .nil)
      rw [shape, lower]
      exact .backslash (.named rfl digits (.same _ []))
    -- The standard limits look at the pattern, and not at how it was written.
    obtain ⟨-, -, -, -, -, room⟩ := Regex.ofChars_eq_ok_iff.mp readCode
    exact (codeLaw.written readCode respelled room small).passes_iff.mpr
      ((Regex.search_iff (Regex.ofChars_isFormed readCode) _).mp foundCode)

end QueryRegression.RaisedException
