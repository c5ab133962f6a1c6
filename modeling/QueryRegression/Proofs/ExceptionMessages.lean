import QueryRegression.Proofs.MessageLines

/-!
# How messages of exceptions are matched

Where two exceptions have one class, their comparison depends on their messages in small letters and
on the way of matching alone, whatever the library of regular expressions, and
`RaisedException.compareWith_modeLaw` says which messages pass in each way. Equal messages are those
with equal lines, so matching them is an equivalence of exceptions.

Matching by containment passes where the expected text does not occur. A text that stands at the
beginning occurs, so what passes as a beginning fails there.
-/

namespace QueryRegression

namespace Text

theorem isSome_firstIndex?_iff (pattern cs : List Char) :
    (firstIndex? pattern cs).isSome = true ↔ pattern <:+: cs := by
  induction cs with
  | nil => cases pattern <;> simp [firstIndex?]
  | cons c cs ih =>
      rw [firstIndex?, List.infix_cons_iff, ← List.isPrefixOf_iff_prefix]
      split
      next starts => simp [starts]
      next apart => simp [apart, ih]

theorem occursIn_iff {pattern text : String} :
    occursIn pattern text = true ↔ pattern.toList <:+: text.toList :=
  isSome_firstIndex?_iff _ _

theorem beginsWith_iff {start text : String} :
    beginsWith start text = true ↔ start.toList <+: text.toList :=
  List.isPrefixOf_iff_prefix

end Text

namespace RaisedException

/-- The message in small letters. -/
def smallMessage (e : RaisedException) : List Char := (Text.lowercase e.message).toList

variable {library : PatternLibrary}

/-- The comparison passes if the condition holds, and it reports a failure otherwise. -/
def PassesIff (library : PatternLibrary) (actual expected : RaisedException) (condition : Prop) :
    Prop :=
  condition ∧ actual.compareWith library expected = .ok none ∨
    ¬condition ∧ ∃ failure, actual.compareWith library expected = .ok (some failure) ∧
      failure.kind = .exception

theorem PassesIff.congr {actual expected : RaisedException} {p q : Prop}
    (decided : PassesIff library actual expected p) (same : p ↔ q) :
    PassesIff library actual expected q := by
  rwa [PassesIff, ← same]

theorem PassesIff.passes_iff {actual expected : RaisedException} {condition : Prop}
    (decided : PassesIff library actual expected condition) :
    actual.compareWith library expected = .ok none ↔ condition := by
  rcases decided with ⟨holds, passed⟩ | ⟨fails, failure, failed, -⟩
  · exact ⟨fun _ => holds, fun _ => passed⟩
  · rw [failed]
    exact ⟨nofun, fun holds => absurd holds fails⟩

/-! ## One class -/

section OneClass

variable {actual expected : RaisedException} {className : String}
  (actualClass : actual.className = some className)
  (expectedClass : expected.className = some className)
include actualClass expectedClass

theorem compareWith_eq_map :
    actual.compareWith library expected =
      (messageComplaint? library expected.messageMatch (Text.lowercase expected.message)
        (Text.lowercase actual.message)).map (·.map (.general .exception)) := by
  rw [compareWith, actualClass, expectedClass]
  simp only [Option.getD_some, ne_eq, not_true_eq_false, if_false]
  rfl

theorem passesIff_of_complaint {condition : Prop} [Decidable condition] {complaint : String}
    (complained : messageComplaint? library expected.messageMatch (Text.lowercase expected.message)
      (Text.lowercase actual.message) = .ok (if condition then none else some complaint)) :
    PassesIff library actual expected condition := by
  have compared : actual.compareWith library expected = _ :=
    compareWith_eq_map actualClass expectedClass
  rw [complained] at compared
  by_cases holds : condition
  · rw [if_pos holds] at compared
    exact .inl ⟨holds, compared⟩
  · rw [if_neg holds] at compared
    exact .inr ⟨holds, _, compared, rfl⟩

/-- Equal messages are those with equal lines. -/
theorem passesIff_exact (mode : expected.messageMatch = .exact) :
    PassesIff library actual expected
      (lines actual.smallMessage = lines expected.smallMessage) := by
  refine (passesIff_of_complaint actualClass expectedClass (by rw [mode]; rfl)).congr ?_
  rw [lineTokens_eq_lines, lineTokens_eq_lines, smallMessage, smallMessage]
  constructor
  · rintro (equal | equal)
    · rw [equal]
    · exact equal.symm
  · exact fun equal => .inr equal.symm

theorem passesIff_contains (mode : expected.messageMatch = .contains) :
    PassesIff library actual expected ¬expected.smallMessage <:+: actual.smallMessage := by
  rw [smallMessage, smallMessage, ← Text.occursIn_iff]
  apply passesIff_of_complaint actualClass expectedClass
  rw [mode, ite_not]
  rfl

theorem passesIff_startsWith (mode : expected.messageMatch = .startsWith) :
    PassesIff library actual expected (expected.smallMessage <+: actual.smallMessage) := by
  rw [smallMessage, smallMessage, ← Text.beginsWith_iff]
  apply passesIff_of_complaint actualClass expectedClass
  rw [mode]
  rfl

end OneClass

/-! ## Messages made of lines -/

theorem smallMessage_eq (e : RaisedException) :
    e.smallMessage = Text.lowercaseFrom false e.message.toList :=
  String.toList_ofList

/-- A message of lines is, in small letters, a message of the lines in small letters. -/
theorem lines_smallMessage {e : RaisedException} {ls : List (List Char)}
    (made : HasLines ls e.message.toList) :
    lines e.smallMessage = ls.map (Text.lowercaseFrom false) := by
  rw [smallMessage_eq, lines_lowercaseFrom, hasLines_iff.mp made]

/-! ## Equal messages -/

/-- The exception as one that is expected with an equal message. -/
def withExactMatch (e : RaisedException) : RaisedException := { e with messageMatch := .exact }

/-- Exceptions of recorded classes match exactly if their classes and lines are equal. -/
theorem compareWith_withExactMatch_iff {actual expected : RaisedException}
    (actualRecorded : actual.className.isSome = true)
    (expectedRecorded : expected.className.isSome = true) :
    actual.compareWith library expected.withExactMatch = .ok none ↔
      actual.className = expected.className ∧
        lines actual.smallMessage = lines expected.smallMessage := by
  obtain ⟨actualClass, actualIs⟩ := Option.isSome_iff_exists.mp actualRecorded
  obtain ⟨expectedClass, expectedIs⟩ := Option.isSome_iff_exists.mp expectedRecorded
  by_cases same : expectedClass = actualClass
  · subst same
    have decided : PassesIff library actual expected.withExactMatch _ :=
      passesIff_exact actualIs expectedIs rfl
    rw [decided.passes_iff, actualIs, expectedIs]
    exact ⟨fun equal => ⟨rfl, equal⟩, And.right⟩
  · have differ : actual.className ≠ expected.className := by
      rw [actualIs, expectedIs]
      exact fun equal => same (Option.some.inj equal).symm
    have failed : actual.compareWith library expected.withExactMatch ≠ .ok none := by
      rw [compareWith, actualIs]
      simp [withExactMatch, expectedIs, same]
    exact ⟨fun passed => absurd passed failed, fun equal => absurd equal.1 differ⟩

/-- Matching exceptions exactly is an equivalence. -/
theorem compareWith_equivalence :
    Equivalence fun a b : { e : RaisedException // e.className.isSome = true } =>
      a.1.compareWith library b.1.withExactMatch = .ok none where
  refl a := (compareWith_withExactMatch_iff a.2 a.2).mpr ⟨rfl, rfl⟩
  symm {a b} matching := by
    obtain ⟨sameClass, sameLines⟩ := (compareWith_withExactMatch_iff a.2 b.2).mp matching
    exact (compareWith_withExactMatch_iff b.2 a.2).mpr ⟨sameClass.symm, sameLines.symm⟩
  trans {a b c} first second := by
    obtain ⟨sameClass, sameLines⟩ := (compareWith_withExactMatch_iff a.2 b.2).mp first
    obtain ⟨sameClass', sameLines'⟩ := (compareWith_withExactMatch_iff b.2 c.2).mp second
    exact (compareWith_withExactMatch_iff a.2 c.2).mpr
      ⟨sameClass.trans sameClass', sameLines.trans sameLines'⟩

/-! ## All ways of matching -/

/-- What the comparison of two exceptions of one class depends on. -/
structure ModeLaw (library : PatternLibrary) (actual expected : RaisedException) : Prop where
  /-- Messages that are alike in small letters and matched in one way get one answer, whatever the
  class. -/
  determined : ∀ {actual' expected' : RaisedException} {className : String},
    actual'.className = some className → expected'.className = some className →
    actual'.smallMessage = actual.smallMessage → expected'.smallMessage = expected.smallMessage →
    expected'.messageMatch = expected.messageMatch →
    actual'.compareWith library expected' = actual.compareWith library expected
  exact : expected.messageMatch = .exact →
    PassesIff library actual expected (lines actual.smallMessage = lines expected.smallMessage)
  /-- Messages made of lines are equal if their lines are. -/
  joined : expected.messageMatch = .exact → ∀ {xs ys : List (List Char)},
    HasLines xs actual.smallMessage → HasLines ys expected.smallMessage →
    PassesIff library actual expected (xs = ys)
  /-- If they are made of lines before they are put into small letters, the lines in small letters
  count. -/
  delivered : expected.messageMatch = .exact → ∀ {xs ys : List (List Char)},
    HasLines xs actual.message.toList → HasLines ys expected.message.toList →
    PassesIff library actual expected
      (xs.map (Text.lowercaseFrom false) = ys.map (Text.lowercaseFrom false))
  contains : expected.messageMatch = .contains →
    PassesIff library actual expected ¬expected.smallMessage <:+: actual.smallMessage
  startsWith : expected.messageMatch = .startsWith →
    PassesIff library actual expected (expected.smallMessage <+: actual.smallMessage)
  /-- What passes as a beginning is contained, and so fails. -/
  opposite : actual.compareWith library { expected with messageMatch := .startsWith } = .ok none →
    ∃ failure, actual.compareWith library { expected with messageMatch := .contains } =
      .ok (some failure)

/-- Two exceptions of one recorded class are compared by their messages in small letters. -/
theorem compareWith_modeLaw (library : PatternLibrary) {actual expected : RaisedException}
    {className : String}
    (actualClass : actual.className = some className)
    (expectedClass : expected.className = some className) :
    ModeLaw library actual expected ∧
      Equivalence fun a b : { e : RaisedException // e.className.isSome = true } =>
        a.1.compareWith library b.1.withExactMatch = .ok none := by
  refine ⟨?_, compareWith_equivalence⟩
  constructor
  case determined =>
    intro actual' expected' className' actualClass' expectedClass' sameActual sameExpected sameMode
    rw [compareWith_eq_map actualClass expectedClass,
      compareWith_eq_map actualClass' expectedClass', sameMode, String.toList_inj.mp sameActual,
      String.toList_inj.mp sameExpected]
  case exact => exact passesIff_exact actualClass expectedClass
  case joined =>
    intro mode xs ys made made'
    have decided : PassesIff library actual expected _ :=
      passesIff_exact actualClass expectedClass mode
    rwa [hasLines_iff.mp made, hasLines_iff.mp made'] at decided
  case delivered =>
    intro mode xs ys made made'
    have decided : PassesIff library actual expected _ :=
      passesIff_exact actualClass expectedClass mode
    rwa [lines_smallMessage made, lines_smallMessage made'] at decided
  case contains => exact passesIff_contains actualClass expectedClass
  case startsWith => exact passesIff_startsWith actualClass expectedClass
  case opposite =>
    intro passed
    have startsWith : PassesIff library actual { expected with messageMatch := .startsWith }
        (expected.smallMessage <+: actual.smallMessage) :=
      passesIff_startsWith actualClass expectedClass rfl
    have contains : PassesIff library actual { expected with messageMatch := .contains }
        ¬expected.smallMessage <:+: actual.smallMessage :=
      passesIff_contains actualClass expectedClass rfl
    have begins := startsWith.passes_iff.mp passed
    rcases contains with ⟨absent, -⟩ | ⟨-, failure, failed, -⟩
    · exact absurd begins.isInfix absent
    · exact ⟨failure, failed⟩

/-- Two lines in letters of either case, with different breaks between and around them. The first
one is a beginning of the message, and so is not to be contained in it. -/
theorem compareWith_modeLaw_two_lines :
    let actual : RaisedException := ⟨some "SQLException", "Line One\r\nLine TWO\n", .exact, 3⟩
    let whole : RaisedException := ⟨some "SQLException", "\nline ONE\n\r\nline two", .exact, 0⟩
    let start : RaisedException := ⟨some "SQLException", "LINE one", .startsWith, 0⟩
    actual.compareWith .standard whole = .ok none ∧ actual.compareWith .standard start = .ok none ∧
      ∃ failure, actual.compareWith .standard { start with messageMatch := .contains } =
        .ok (some failure) := by
  intro actual whole start
  obtain ⟨wholeLaw, -⟩ : ModeLaw .standard actual whole ∧ _ :=
    compareWith_modeLaw .standard rfl rfl
  obtain ⟨startLaw, -⟩ : ModeLaw .standard actual start ∧ _ :=
    compareWith_modeLaw .standard rfl rfl
  have made : HasLines ["Line One".toList, "Line TWO".toList] actual.message.toList :=
    hasLines_iff.mpr (by decide +kernel)
  have made' : HasLines ["line ONE".toList, "line two".toList] whole.message.toList :=
    hasLines_iff.mpr (by decide +kernel)
  have begins : start.smallMessage <+: actual.smallMessage :=
    List.isPrefixOf_iff_prefix.mp (by decide +kernel)
  have passed := (startLaw.startsWith rfl).passes_iff.mpr begins
  exact ⟨(wholeLaw.delivered rfl made made').passes_iff.mpr (by decide +kernel), passed,
    startLaw.opposite passed⟩

end RaisedException
end QueryRegression
