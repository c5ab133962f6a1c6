import QueryRegression.Proofs.CellDecision

/-!
# Date and time cells

Dates, times of day and timestamps get a second chance as texts when they are not equal. So two of
them match if and only if they are written alike, and what matters is how much of a value its text
keeps.

* `Date.toText_injective`: the text of a date keeps the whole date, in every year.
* `TimeOfDay.toText_eq_iff`: the text of a time keeps the minute and the second, where a leap second
  counts as one more, but nothing below the second.
* `Timestamp.toText_eq_iff`: the text of a timestamp keeps the fraction of the second, too.
* `CellPosition.compareCell_dateTimes`: which cells of these types match.
-/

namespace QueryRegression

/-! ## Digits -/

theorem toList_padded (width n : Nat) : (padded width n).toList =
    List.replicate (width - (Nat.toDigits 10 n).length) '0' ++ Nat.toDigits 10 n := by
  have digits : (toString n).toList = Nat.toDigits 10 n := by
    rw [Nat.toString_eq_ofList_toDigits, String.toList_ofList]
  rw [padded, String.toList_append, String.toList_ofList, ← String.length_toList, digits]

theorem isDigit_of_mem_padded {width n : Nat} {c : Char} (member : c ∈ (padded width n).toList) :
    c.isDigit = true := by
  rw [toList_padded, List.mem_append] at member
  rcases member with zero | digit
  · rw [List.eq_of_mem_replicate zero]
    rfl
  · exact Nat.isDigit_of_mem_toDigits (by decide) (by decide) digit

theorem length_padded {width n : Nat} (positive : 0 < width) (small : n < 10 ^ width) :
    (padded width n).toList.length = width := by
  have short : (Nat.toDigits 10 n).length ≤ width :=
    (Nat.length_toDigits_le_iff (by decide) positive).mpr small
  rw [toList_padded, List.length_append, List.length_replicate]
  omega

/-- A padded number is read back from its digits. -/
theorem ofDigitChars_padded (width n : Nat) :
    Nat.ofDigitChars 10 (padded width n).toList 0 = n := by
  rw [toList_padded, Nat.ofDigitChars_append, Nat.ofDigitChars_replicate_zero, Nat.mul_zero,
    Nat.ofDigitChars_ten_toDigits]

theorem padded_injective {width m n : Nat}
    (equal : (padded width m).toList = (padded width n).toList) : m = n := by
  have values := congrArg (Nat.ofDigitChars 10 · 0) equal
  simpa only [ofDigitChars_padded] using values

/-- Texts that are divided by a character they do not hold agree on both sides of it. -/
theorem append_separator_inj {α : Type} {c : α} {left left' right right' : List α}
    (absent : c ∉ left) (absent' : c ∉ left')
    (equal : left ++ c :: right = left' ++ c :: right') : left = left' ∧ right = right' := by
  induction left generalizing left' with
  | nil =>
      cases left' with
      | nil => exact ⟨rfl, (List.cons.inj equal).2⟩
      | cons d left' =>
          rw [(List.cons.inj equal).1] at absent'
          exact absurd List.mem_cons_self absent'
  | cons d left ih =>
      cases left' with
      | nil =>
          rw [← (List.cons.inj equal).1] at absent
          exact absurd List.mem_cons_self absent
      | cons d' left' =>
          obtain ⟨first, rest⟩ := List.cons.inj equal
          obtain ⟨lefts, rights⟩ := ih (fun member => absent (List.mem_cons_of_mem d member))
            (fun member => absent' (List.mem_cons_of_mem d' member)) rest
          exact ⟨by rw [first, lefts], rights⟩

/-! ## Dates -/

namespace Date

theorem digits_yearText (year : Int) :
    (yearText year).toList.filter Char.isDigit = (padded 4 year.natAbs).toList := by
  have digits : (padded 4 year.natAbs).toList.filter Char.isDigit =
      (padded 4 year.natAbs).toList :=
    List.filter_eq_self.mpr fun c member => isDigit_of_mem_padded member
  have sign : (if year < 0 then "-" else if 9999 < year then "+" else "").toList.filter
      Char.isDigit = [] := by
    split
    · decide
    · split <;> decide
  rw [yearText, String.toList_append, List.filter_append, sign, digits, List.nil_append]

theorem minus_mem_yearText_iff {year : Int} : '-' ∈ (yearText year).toList ↔ year < 0 := by
  have noDigit : '-' ∉ (padded 4 year.natAbs).toList := by
    intro member
    exact absurd (isDigit_of_mem_padded member) (by decide)
  rw [yearText, String.toList_append, List.mem_append, or_iff_left noDigit]
  split
  next negative => exact iff_of_true (by decide) negative
  next nonnegative =>
    split
    · exact iff_of_false (by decide) nonnegative
    · exact iff_of_false (by decide) nonnegative

/-- The sign and the digits of a year tell the year. -/
theorem yearText_injective {a b : Int} (equal : (yearText a).toList = (yearText b).toList) :
    a = b := by
  have digits := congrArg (List.filter Char.isDigit) equal
  rw [digits_yearText, digits_yearText] at digits
  have magnitude : a.natAbs = b.natAbs := padded_injective digits
  have sign : a < 0 ↔ b < 0 := by
    rw [← minus_mem_yearText_iff, equal, minus_mem_yearText_iff]
  omega

theorem blank_not_mem_yearText (year : Int) : ' ' ∉ (yearText year).toList := by
  rw [yearText, String.toList_append, List.mem_append, not_or]
  constructor
  · split
    · decide
    · split <;> decide
  · intro member
    exact absurd (isDigit_of_mem_padded member) (by decide)

theorem toList_toText (d : Date) : d.toText.toList = (yearText d.year).toList ++
    ("-".toList ++ (padded 2 d.month).toList ++ ("-".toList ++ (padded 2 d.day).toList)) := by
  simp only [toText, String.toList_append, List.append_assoc]

/-- A month or a day is written with two digits. -/
theorem length_monthAndDay (d : Date) :
    (padded 2 d.month).toList.length = 2 ∧ (padded 2 d.day).toList.length = 2 := by
  have days : daysInMonth d.year d.month ≤ 31 := by
    unfold daysInMonth
    split
    · split <;> decide
    · split <;> decide
  have month := d.month_le
  have day := d.day_le
  exact ⟨length_padded (by decide) (by omega), length_padded (by decide) (by omega)⟩

/-- No two dates are written alike. -/
theorem toText_injective {a b : Date} (equal : a.toText.toList = b.toText.toList) : a = b := by
  obtain ⟨aMonth, aDay⟩ := a.length_monthAndDay
  obtain ⟨bMonth, bDay⟩ := b.length_monthAndDay
  rw [toList_toText, toList_toText] at equal
  obtain ⟨years, monthsAndDays⟩ := List.append_inj' equal (by
    simp only [List.length_append, aMonth, aDay, bMonth, bDay])
  obtain ⟨months, days⟩ := List.append_inj' monthsAndDays (by
    simp only [List.length_append, aDay, bDay])
  have year : a.year = b.year := yearText_injective years
  have month : a.month = b.month := padded_injective (List.append_cancel_left months)
  have day : a.day = b.day := padded_injective (List.append_cancel_left days)
  cases a
  cases b
  cases year
  cases month
  cases day
  rfl

theorem blank_not_mem_toText (d : Date) : ' ' ∉ d.toText.toList := by
  have noDigit : ∀ width n : Nat, ' ' ∉ (padded width n).toList := fun width n member =>
    absurd (isDigit_of_mem_padded member) (by decide)
  have noDash : ' ' ∉ "-".toList := by decide
  simp only [toList_toText, List.mem_append, not_or]
  exact ⟨blank_not_mem_yearText d.year, ⟨noDash, noDigit 2 d.month⟩, noDash, noDigit 2 d.day⟩

end Date

/-! ## Times of day -/

namespace TimeOfDay

/-- The second as it is written: a leap second counts as one more. -/
def shownSecond (t : TimeOfDay) : Nat := t.secondOfDay % 60 + (if t.inLeapSecond then 1 else 0)

/-- The nanoseconds in the second or in the leap second. -/
def fraction (t : TimeOfDay) : Nat := t.nanosecond % 1000000000

/-- Two times show the same minute of the day and the same second. -/
def ShownAlike (t u : TimeOfDay) : Prop :=
  t.secondOfDay / 60 = u.secondOfDay / 60 ∧ t.shownSecond = u.shownSecond

/-- A leap second only ends a minute. -/
def LeapsAtMinuteEnd (t : TimeOfDay) : Prop := t.inLeapSecond = true → t.secondOfDay % 60 = 59

theorem shownSecond_le (t : TimeOfDay) : t.shownSecond ≤ 60 := by
  unfold shownSecond
  split <;> omega

theorem toList_toText (t : TimeOfDay) : t.toText.toList =
    (padded 2 (t.secondOfDay / 3600)).toList ++ (":".toList ++
      (padded 2 (t.secondOfDay / 60 % 60)).toList ++ (":".toList ++
        (padded 2 t.shownSecond).toList)) := by
  simp only [toText, shownSecond, String.toList_append, List.append_assoc]

/-- Hours, minutes and seconds are written with two digits. -/
theorem length_digits (t : TimeOfDay) :
    (padded 2 (t.secondOfDay / 3600)).toList.length = 2 ∧
      (padded 2 (t.secondOfDay / 60 % 60)).toList.length = 2 ∧
      (padded 2 t.shownSecond).toList.length = 2 := by
  have day := t.secondOfDay_lt
  have second := t.shownSecond_le
  exact ⟨length_padded (by decide) (by omega), length_padded (by decide) (by omega),
    length_padded (by decide) (by omega)⟩

theorem length_toText (t : TimeOfDay) : t.toText.toList.length = 8 := by
  obtain ⟨hour, minute, second⟩ := t.length_digits
  rw [toList_toText]
  simp only [List.length_append, hour, minute, second]
  rfl

/-- Two times are written alike if and only if they show the same minute and second. -/
theorem toText_eq_iff {t u : TimeOfDay} :
    t.toText.toList = u.toText.toList ↔ t.ShownAlike u := by
  obtain ⟨tHour, tMinute, tSecond⟩ := t.length_digits
  obtain ⟨uHour, uMinute, uSecond⟩ := u.length_digits
  rw [toList_toText, toList_toText]
  constructor
  · intro equal
    obtain ⟨hours, rest⟩ := List.append_inj equal (tHour.trans uHour.symm)
    obtain ⟨minutes, seconds⟩ := List.append_inj' rest (by
      simp only [List.length_append, tSecond, uSecond])
    have hour := padded_injective hours
    have minute := padded_injective (List.append_cancel_left minutes)
    have second := padded_injective (List.append_cancel_left seconds)
    exact ⟨by omega, second⟩
  · intro alike
    obtain ⟨minute, second⟩ := alike
    have hour : t.secondOfDay / 3600 = u.secondOfDay / 3600 := by omega
    rw [hour, minute, second]

theorem shownSecond_of_leap {t : TimeOfDay} (leap : t.inLeapSecond = true) :
    t.shownSecond = t.secondOfDay % 60 + 1 := by
  rw [shownSecond, if_pos leap]

theorem shownSecond_of_not_leap {t : TimeOfDay} (noLeap : t.inLeapSecond = false) :
    t.shownSecond = t.secondOfDay % 60 := by
  rw [shownSecond, noLeap]
  rfl

/-- Where leap seconds end minutes, the seconds of a minute are all shown differently. -/
theorem shownAlike_iff_of_leapsAtMinuteEnd {t u : TimeOfDay} (tEnds : t.LeapsAtMinuteEnd)
    (uEnds : u.LeapsAtMinuteEnd) :
    t.ShownAlike u ↔ t.secondOfDay = u.secondOfDay ∧ t.inLeapSecond = u.inLeapSecond := by
  unfold ShownAlike
  cases tLeap : t.inLeapSecond <;> cases uLeap : u.inLeapSecond
  · rw [shownSecond_of_not_leap tLeap, shownSecond_of_not_leap uLeap, and_iff_left rfl]
    omega
  -- The leap second is shown as 60, and no other second is.
  · have last := uEnds uLeap
    rw [shownSecond_of_not_leap tLeap, shownSecond_of_leap uLeap]
    exact iff_of_false (by omega) (fun same => nomatch same.2)
  · have last := tEnds tLeap
    rw [shownSecond_of_leap tLeap, shownSecond_of_not_leap uLeap]
    exact iff_of_false (by omega) (fun same => nomatch same.2)
  · rw [shownSecond_of_leap tLeap, shownSecond_of_leap uLeap, and_iff_left rfl]
    omega

/-- The second, the leap second and the fraction are all there is to a time. -/
theorem eq_of_fraction_eq {t u : TimeOfDay} (second : t.secondOfDay = u.secondOfDay)
    (leap : t.inLeapSecond = u.inLeapSecond) (fraction : t.fraction = u.fraction) : t = u := by
  have tBound := t.nanosecond_lt
  have uBound := u.nanosecond_lt
  have leaps : 1000000000 ≤ t.nanosecond ↔ 1000000000 ≤ u.nanosecond :=
    decide_eq_decide.mp leap
  have nanosecond : t.nanosecond = u.nanosecond := by
    unfold TimeOfDay.fraction at fraction
    omega
  cases t
  cases u
  cases second
  cases nanosecond
  rfl

/-! ## Fractions -/

/-- The nanoseconds that a written fraction stands for. -/
def nanosecondsOf (text : List Char) : Nat :=
  Nat.ofDigitChars 10 (text.drop 1) 0 * 10 ^ (10 - text.length)

theorem nanosecondsOf_point {width n : Nat} (positive : 0 < width) (small : n < 10 ^ width) :
    nanosecondsOf ("." ++ padded width n).toList = n * 10 ^ (9 - width) := by
  have length := length_padded positive small
  have point : ("." ++ padded width n).toList = '.' :: (padded width n).toList :=
    String.toList_append
  have places : 10 - (width + 1) = 9 - width := by omega
  rw [nanosecondsOf, point, List.drop_one, List.tail_cons, ofDigitChars_padded, List.length_cons,
    length, places]

/-- The nanoseconds of a fraction are read back from its text. -/
theorem nanosecondsOf_fractionText (t : TimeOfDay) :
    nanosecondsOf t.fractionText.toList = t.fraction := by
  have small : t.fraction < 1000000000 := Nat.mod_lt _ (by decide)
  unfold fractionText
  rw [← fraction]
  dsimp only
  split
  next zero => exact zero.symm
  next =>
    split
    next millis =>
      rw [nanosecondsOf_point (by decide) (by omega)]
      omega
    next =>
      split
      next micros =>
        rw [nanosecondsOf_point (by decide) (by omega)]
        omega
      next =>
        rw [nanosecondsOf_point (by decide) (by omega)]
        omega

theorem fractionText_eq_iff {t u : TimeOfDay} :
    t.fractionText.toList = u.fractionText.toList ↔ t.fraction = u.fraction := by
  constructor
  · intro equal
    have values := congrArg nanosecondsOf equal
    rwa [nanosecondsOf_fractionText, nanosecondsOf_fractionText] at values
  · intro equal
    unfold fractionText
    rw [← fraction, ← fraction, equal]

end TimeOfDay

/-! ## Timestamps -/

/-- Two timestamps are written alike if and only if they are on one day, show the same minute and
second, and have the same fraction. -/
theorem Timestamp.toText_eq_iff {a b : Timestamp} : a.toText = b.toText ↔
    a.date = b.date ∧ a.time.ShownAlike b.time ∧ a.time.fraction = b.time.fraction := by
  have parts : ∀ t : Timestamp, t.toText.toList = t.date.toText.toList ++
      ' ' :: (t.time.toText.toList ++ t.time.fractionText.toList) := by
    intro t
    have blank : " ".toList = [' '] := by decide
    simp only [toText, String.toList_append, List.append_assoc, blank, List.cons_append,
      List.nil_append]
  rw [← TimeOfDay.toText_eq_iff, ← TimeOfDay.fractionText_eq_iff, ← String.toList_inj, parts, parts]
  constructor
  · intro equal
    obtain ⟨dates, times⟩ := append_separator_inj a.date.blank_not_mem_toText
      b.date.blank_not_mem_toText equal
    have lengths := a.time.length_toText.trans b.time.length_toText.symm
    exact ⟨Date.toText_injective dates, List.append_inj times lengths⟩
  · intro equal
    rcases equal with ⟨dates, times, fractions⟩
    rw [dates, times, fractions]

/-! ## Cells -/

namespace Value

/-- Equal dates and times have one text. -/
theorem toText_eq_of_same {a b : Value} (dateTime : a.isDateTime = true)
    (equal : a.same b = true) : a.toText = b.toText := by
  cases SameType.of_same equal with
  | date a b => exact congrArg Date.toText (eq_of_beq equal)
  | time a b => exact congrArg TimeOfDay.toText (eq_of_beq equal)
  | timestamp a b => exact congrArg Timestamp.toText (eq_of_beq equal)
  | _ => cases dateTime

/-- Dates and times agree if and only if they are written alike. -/
theorem agrees_iff_of_isDateTime {policy : Policy} {actual expected : Value}
    (dateTime : actual.isDateTime = true) :
    actual.Agrees policy expected ↔ actual.toText = expected.toText := by
  have noPair : ¬NumericPair actual expected := by
    intro pair
    cases pair <;> cases dateTime
  constructor
  · intro agrees
    cases agrees with
    | numbers pair => exact absurd pair noPair
    | equal _ same => exact toText_eq_of_same dateTime same
    | texts _ _ text => exact text
  · intro text
    exact .texts noPair (.inl dateTime) text

end Value

namespace CellPosition

/-- An actual date or time matches what is written like it. -/
theorem compareCell_of_isDateTime {policy : Policy} {p : CellPosition} {actual expected : Value}
    (dateTime : actual.isDateTime = true) (notNull : expected.isNull = false) :
    p.compareCell policy actual expected = .ok none ↔ actual.toText = expected.toText := by
  have plain : actual.isNull = false ∧ actual.isBinary = false ∧ actual.isLargeObject = false := by
    cases actual <;> first | exact ⟨rfl, rfl, rfl⟩ | cases dateTime
  rw [compareCell_eq_ok_none_iff_agrees plain.1 notNull,
    Value.normalize_of_plain plain.2.1 plain.2.2, ← Value.agrees_iff_of_isDateTime dateTime]
  constructor
  · intro comparable
    rcases comparable with ⟨a, e, forms, agrees⟩
    cases forms
    exact agrees
  · intro agrees
    exact ⟨actual, expected, rfl, agrees⟩

/-- Two dates match if and only if they are equal. Two times match if and only if they show the same
minute and second: nothing below the second counts. Two timestamps match if and only if, moreover,
they have the same date and the same fraction. Where leap seconds end minutes, times so match within
one second, and timestamps only if they are equal. -/
theorem compareCell_dateTimes (policy : Policy) (p : CellPosition) :
    (∀ a e : Date, p.compareCell policy (.date a) (.date e) = .ok none ↔ a = e) ∧
    (∀ a e : TimeOfDay, p.compareCell policy (.time a) (.time e) = .ok none ↔ a.ShownAlike e) ∧
    (∀ a e : Timestamp, p.compareCell policy (.timestamp a) (.timestamp e) = .ok none ↔
      a.date = e.date ∧ a.time.ShownAlike e.time ∧ a.time.fraction = e.time.fraction) ∧
    (∀ a e : TimeOfDay, a.LeapsAtMinuteEnd → e.LeapsAtMinuteEnd →
      (p.compareCell policy (.time a) (.time e) = .ok none ↔
        a.secondOfDay = e.secondOfDay ∧ a.inLeapSecond = e.inLeapSecond)) ∧
    (∀ a e : Timestamp, a.time.LeapsAtMinuteEnd → e.time.LeapsAtMinuteEnd →
      (p.compareCell policy (.timestamp a) (.timestamp e) = .ok none ↔ a = e)) := by
  have times : ∀ a e : TimeOfDay,
      p.compareCell policy (.time a) (.time e) = .ok none ↔ a.ShownAlike e := by
    intro a e
    rw [compareCell_of_isDateTime rfl rfl, ← TimeOfDay.toText_eq_iff]
    exact String.toList_inj.symm
  have timestamps : ∀ a e : Timestamp,
      p.compareCell policy (.timestamp a) (.timestamp e) = .ok none ↔
        a.date = e.date ∧ a.time.ShownAlike e.time ∧ a.time.fraction = e.time.fraction := by
    intro a e
    rw [compareCell_of_isDateTime rfl rfl]
    exact Timestamp.toText_eq_iff
  refine ⟨fun a e => ?_, times, timestamps, fun a e aEnds eEnds => ?_, fun a e aEnds eEnds => ?_⟩
  · rw [compareCell_of_isDateTime rfl rfl]
    constructor
    · intro text
      exact Date.toText_injective (congrArg String.toList text)
    · intro equal
      rw [equal]
  · rw [times, TimeOfDay.shownAlike_iff_of_leapsAtMinuteEnd aEnds eEnds]
  · rw [timestamps, TimeOfDay.shownAlike_iff_of_leapsAtMinuteEnd aEnds eEnds]
    constructor
    · intro parts
      obtain ⟨date, ⟨second, leap⟩, fraction⟩ := parts
      have time := TimeOfDay.eq_of_fraction_eq second leap fraction
      cases a
      cases e
      cases date
      cases time
      rfl
    · intro equal
      rw [equal]
      exact ⟨rfl, ⟨rfl, rfl⟩, rfl⟩

/-- Two times within one second match, although they differ. The leap second at the end of a day
does not match the second before it. -/
theorem compareCell_dateTimes_within_second :
    let p : CellPosition := ⟨1, 1, 1, 1⟩
    let earlier : TimeOfDay := ⟨36000, 100000000, by decide, by decide⟩
    let later : TimeOfDay := ⟨36000, 200000000, by decide, by decide⟩
    let day : Date := ⟨2016, 12, 31, by decide, by decide, by decide, by decide⟩
    let last : Timestamp := ⟨day, 86399, 500000000, by decide, by decide⟩
    let leap : Timestamp := ⟨day, 86399, 1500000000, by decide, by decide⟩
    earlier ≠ later ∧ earlier.LeapsAtMinuteEnd ∧ later.LeapsAtMinuteEnd ∧
      p.compareCell .exact (.time earlier) (.time later) = .ok none ∧
      last.time.LeapsAtMinuteEnd ∧ leap.time.LeapsAtMinuteEnd ∧
      p.compareCell .exact (.timestamp last) (.timestamp leap) ≠ .ok none := by
  intro p earlier later day last leap
  obtain ⟨-, -, -, times, timestamps⟩ := compareCell_dateTimes .exact p
  have earlierEnds : earlier.LeapsAtMinuteEnd := fun inLeap => absurd inLeap (by decide)
  have laterEnds : later.LeapsAtMinuteEnd := fun inLeap => absurd inLeap (by decide)
  have lastEnds : last.time.LeapsAtMinuteEnd := fun inLeap => absurd inLeap (by decide)
  have leapEnds : leap.time.LeapsAtMinuteEnd := fun _ => by decide
  refine ⟨by decide, earlierEnds, laterEnds, ?_, lastEnds, leapEnds, ?_⟩
  · exact (times earlier later earlierEnds laterEnds).mpr (by decide)
  · intro matching
    have same := (timestamps last leap lastEnds leapEnds).mp matching
    exact absurd same (by decide)

end CellPosition
end QueryRegression
