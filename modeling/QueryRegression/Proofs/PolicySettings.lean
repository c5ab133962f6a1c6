import QueryRegression.Policy.Settings
import QueryRegression.Proofs.DecimalNumerals

/-!
# Policies made of settings

A policy is made of three texts, each of which fails in its own way: a divergence that cannot be
used is replaced by zero, a percentage or a minimum that cannot be read is an error, and a positive
percentage overrides the minimum.

* `Text.nonBlank?_eq_some_iff`, `Text.nonBlank?_eq_none_iff`: what is left of a text without the
  white space around it, and when nothing is.
* `Policy.follows_ofSettings`: which settings make no policy, how a policy follows its settings, and
  that white space around a setting has no effect.
-/

namespace QueryRegression

namespace Text

/-! ## White space -/

/-- White space before a text and behind it. -/
structure Margins where
  before : List Char
  behind : List Char
  before_blank : ∀ c ∈ before, isBlank c = true
  behind_blank : ∀ c ∈ behind, isBlank c = true

/-- A text between margins. -/
def Margins.around (m : Margins) (s : String) : String := .ofList (m.before ++ s.toList ++ m.behind)

/-- What is left of a text without the white space around it. -/
structure IsCore (s t : String) : Prop where
  margins : ∃ m : Margins, s = m.around t
  nonempty : t.toList ≠ []
  first : ∀ c ∈ t.toList.head?, isBlank c = false
  last : ∀ c ∈ t.toList.getLast?, isBlank c = false

theorem trimChars_around (m : Margins) (cs : List Char) :
    trimChars (m.before ++ cs ++ m.behind) = trimChars cs := by
  have behind : m.behind.reverse.dropWhile isBlank = [] :=
    List.dropWhile_eq_nil_iff.mpr fun c mem => m.behind_blank c (List.mem_reverse.mp mem)
  rw [trimChars, trimChars, List.append_assoc, List.dropWhile_append_of_pos m.before_blank,
    List.dropWhile_append]
  split
  next empty =>
    rw [List.isEmpty_iff.mp empty, List.dropWhile_eq_nil_iff.mpr m.behind_blank]
  next =>
    rw [List.reverse_append, List.dropWhile_append, behind, List.isEmpty_nil, if_pos rfl]

theorem nonBlank?_around (m : Margins) (s : String) : nonBlank? (m.around s) = nonBlank? s := by
  rw [nonBlank?, nonBlank?, trim, trim, Margins.around, String.toList_ofList, trimChars_around]

theorem dropWhile_blank_of_first {cs : List Char}
    (first : ∀ c ∈ cs.head?, isBlank c = false) : cs.dropWhile isBlank = cs := by
  cases cs with
  | nil => rfl
  | cons c cs => exact List.dropWhile_cons_of_neg (Bool.not_eq_true _ ▸ first c rfl)

/-- Every text is white space around what is trimmed of it, which neither begins nor ends with
white space. -/
theorem exists_around_trim (s : String) :
    (∃ m : Margins, s = m.around (trim s)) ∧
      (∀ c ∈ (trim s).toList.head?, isBlank c = false) ∧
      ∀ c ∈ (trim s).toList.getLast?, isBlank c = false := by
  let begun := s.toList.dropWhile isBlank
  let core := (begun.reverse.dropWhile isBlank).reverse
  let behind := (begun.reverse.takeWhile isBlank).reverse
  have whole : s.toList = s.toList.takeWhile isBlank ++ begun :=
    List.takeWhile_append_dropWhile.symm
  have split : begun = core ++ behind := by
    rw [← List.reverse_append, List.takeWhile_append_dropWhile, List.reverse_reverse]
  have trimmed : (trim s).toList = core := String.toList_ofList
  refine ⟨⟨⟨s.toList.takeWhile isBlank, behind, ?_, ?_⟩, ?_⟩, ?_, ?_⟩
  · exact List.all_eq_true.mp List.all_takeWhile
  · exact fun c mem => List.all_eq_true.mp List.all_takeWhile c (List.mem_reverse.mp mem)
  · rw [Margins.around, trimmed, List.append_assoc, ← split, ← whole, String.ofList_toList]
  · rw [trimmed]
    intro c first
    refine Number.stops_dropWhile isBlank s.toList c ?_
    change c ∈ begun.head?
    rw [split, List.head?_append, Option.mem_def.mp first]
    rfl
  · rw [trimmed]
    intro c last
    rw [List.getLast?_reverse] at last
    exact Number.stops_dropWhile isBlank begun.reverse c last

theorem nonBlank?_eq_some_iff {s t : String} : nonBlank? s = some t ↔ IsCore s t := by
  constructor
  · intro given
    rw [nonBlank?] at given
    split at given
    next => cases given
    next nonempty =>
      obtain rfl := Option.some.inj given
      obtain ⟨margins, first, last⟩ := exists_around_trim s
      refine ⟨margins, fun empty => nonempty ?_, first, last⟩
      rw [String.isEmpty_iff, ← String.toList_eq_nil_iff, empty]
  · rintro ⟨⟨m, rfl⟩, nonempty, first, last⟩
    have kept : trim t = t := by
      have backward : ∀ c ∈ t.toList.reverse.head?, isBlank c = false := by
        rwa [List.head?_reverse]
      rw [trim, trimChars, dropWhile_blank_of_first first, dropWhile_blank_of_first backward,
        List.reverse_reverse, String.ofList_toList]
    rw [nonBlank?_around, nonBlank?, kept, if_neg]
    rwa [String.isEmpty_iff, ← String.toList_eq_nil_iff]

theorem nonBlank?_eq_none_iff {s : String} :
    nonBlank? s = none ↔ ∀ c ∈ s.toList, isBlank c = true := by
  constructor
  · intro missing
    rw [nonBlank?] at missing
    split at missing
    next empty =>
      obtain ⟨⟨m, around⟩, -⟩ := exists_around_trim s
      rw [String.isEmpty_iff, ← String.toList_eq_nil_iff] at empty
      rw [around, Margins.around, String.toList_ofList, empty, List.append_nil]
      exact List.forall_mem_append.mpr ⟨m.before_blank, m.behind_blank⟩
    next => cases missing
  · intro blank
    have dropped : s.toList.dropWhile isBlank = [] := List.dropWhile_eq_nil_iff.mpr blank
    rw [nonBlank?, trim, trimChars, dropped]
    rfl

theorem bind_nonBlank?_around (m : Margins) (setting : Option String) :
    (setting.map m.around).bind nonBlank? = setting.bind nonBlank? := by
  cases setting with
  | none => rfl
  | some s => rw [Option.map_some, Option.bind_some, Option.bind_some, nonBlank?_around]

end Text

namespace Settings

/-! ## Settings as they are written -/

variable {setting : Option String} {t u : String}

/-- A setting is missing, or it is blank. -/
def IsUnset (setting : Option String) : Prop :=
  ∀ s ∈ setting, ∀ c ∈ s.toList, Text.isBlank c = true

/-- A setting is a text, which may have white space around it. -/
def Gives (setting : Option String) (t : String) : Prop := ∃ s ∈ setting, Text.IsCore s t

theorem isUnset_iff : IsUnset setting ↔ setting.bind Text.nonBlank? = none := by
  cases setting with
  | none => exact iff_of_true nofun rfl
  | some s =>
      rw [Option.bind_some, Text.nonBlank?_eq_none_iff]
      exact ⟨fun unset => unset s rfl, fun blank => by rintro _ ⟨⟩; exact blank⟩

theorem gives_iff : Gives setting t ↔ setting.bind Text.nonBlank? = some t := by
  simp only [Gives, Option.mem_def, Option.bind_eq_some_iff, Text.nonBlank?_eq_some_iff]

theorem isUnset_or_gives (setting : Option String) : IsUnset setting ∨ ∃ t, Gives setting t := by
  simp only [isUnset_iff, gives_iff]
  cases setting.bind Text.nonBlank? with
  | none => exact .inl rfl
  | some t => exact .inr ⟨t, rfl⟩

theorem Gives.not_isUnset (given : Gives setting t) : ¬IsUnset setting := by
  rw [isUnset_iff, gives_iff.mp given]
  nofun

theorem Gives.unique (given : Gives setting t) (other : Gives setting u) : t = u :=
  Option.some.inj ((gives_iff.mp given).symm.trans (gives_iff.mp other))

theorem Gives.exists_and_iff {p : String → Prop} (given : Gives setting t) :
    (∃ u, Gives setting u ∧ p u) ↔ p t :=
  ⟨fun ⟨_, other, holds⟩ => given.unique other ▸ holds, fun holds => ⟨t, given, holds⟩⟩

/-- Settings with more white space around those of the comparison. -/
def widened (s : Settings) (divergence percent minimum : Text.Margins) : Settings :=
  { s with
    allowedDivergence := s.allowedDivergence.map divergence.around
    exceedPercent := s.exceedPercent.map percent.around
    minimumTime := s.minimumTime.map minimum.around }

/-- A percentage is given that is no text of a double, or a minimum that is no text of an integer of
64 bits. -/
def IsFaulty (s : Settings) : Prop :=
  (∃ t, Gives s.exceedPercent t ∧ ¬Binary.IsText t.toList) ∨
    ∃ t, Gives s.minimumTime t ∧
      ¬∃ n : Int, Number.WritesInteger t.toList n ∧ -2 ^ 63 ≤ n ∧ n < 2 ^ 63

end Settings

open Number Settings

namespace Policy

/-! ## What is made of a setting -/

/-- How a divergence follows its setting. -/
structure DivergenceFollows (setting : Option String) (d : Decimal) : Prop where
  nonneg : 0 ≤ d.toRat
  unset : IsUnset setting → d = .zero
  unread : ∀ {t}, Gives setting t → Decimal.ofText? t = none → d = .zero
  read : ∀ {t e}, Gives setting t → Decimal.ofText? t = some e →
    d = if e.toRat < 0 then .zero else e
  /-- A numeral that a decimal can hold is taken as it is. -/
  exact : ∀ {t n}, Gives setting t → Numeral.Writes t.toList n → n.Fits → d.toRat = max n.value 0
  /-- Nothing else than a numeral is taken for a divergence. -/
  near : d = .zero ∨ ∃ t n, Gives setting t ∧ Numeral.Writes t.toList n ∧
    |d.toRat - n.value| < 1 / 10 ^ d.scale

/-- How a percentage follows its setting. -/
structure PercentFollows (setting : Option String) (percent : Binary64) : Prop where
  unset : IsUnset setting → percent = .zero
  read : ∀ {t}, Gives setting t → Binary.ofText? t = some percent

/-- How a minimum of times follows its setting and the percentage. -/
structure MinimumFollows (setting : Option String) (percent : Binary64) (minimum : Int) : Prop where
  /-- A positive percentage turns the check of times on. -/
  nonneg : Binary.zero.lt percent = true → 0 ≤ minimum
  unset : IsUnset setting → minimum = if Binary.zero.lt percent = true then 1 else -1
  written : ∀ {t n}, Gives setting t → WritesInteger t.toList n →
    minimum = if Binary.zero.lt percent = true ∧ n < 0 then 1 else n

/-- How a policy follows settings. -/
structure Follows (p : Policy) (s : Settings) : Prop where
  divergence : DivergenceFollows s.allowedDivergence p.allowedDivergence
  percent : PercentFollows s.exceedPercent p.exceedPercent
  minimum : MinimumFollows s.minimumTime p.exceedPercent p.minimumTime

section

variable {setting : Option String} {t : String}

theorem exists_error_iff {ε α : Type} {made : Except ε α} :
    (∃ e, made = .error e) ↔ ¬∃ a, made = .ok a := by
  cases made <;> simp

theorem readDivergence_unset (unset : IsUnset setting) : (readDivergence setting).1 = .zero := by
  rw [readDivergence, isUnset_iff.mp unset]

theorem readDivergence_unread (given : Gives setting t) (unread : Decimal.ofText? t = none) :
    (readDivergence setting).1 = .zero := by
  rw [readDivergence, gives_iff.mp given]
  dsimp only
  rw [unread]

theorem readDivergence_read {d : Decimal} (given : Gives setting t)
    (read : Decimal.ofText? t = some d) :
    (readDivergence setting).1 = if d.toRat < 0 then .zero else d := by
  rw [readDivergence, gives_iff.mp given]
  dsimp only
  rw [read]
  dsimp only
  simp only [Decimal.isNegative_iff]
  split <;> rfl

/-- Where nothing is read, the divergence is zero. -/
theorem divergenceFollows_of_unread
    (unread : ∀ {t}, Gives setting t → Decimal.ofText? t = none) :
    DivergenceFollows setting .zero where
  nonneg := Decimal.toRat_zero.ge
  unset _ := rfl
  unread _ _ := rfl
  read given read := nomatch (unread given).symm.trans read
  exact given writes fits := by
    obtain ⟨e, read, -⟩ := Numeral.exists_ofChars?_of_fits writes fits
    cases (unread given).symm.trans read
  near := .inl rfl

/-- Where a decimal is read, it is the divergence unless it is negative. -/
theorem divergenceFollows_of_read {d : Decimal} (given : Gives setting t)
    (read : Decimal.ofText? t = some d) :
    DivergenceFollows setting (if d.toRat < 0 then .zero else d) where
  nonneg := by
    split
    next => exact Decimal.toRat_zero.ge
    next nonneg => exact le_of_not_gt nonneg
  unset unset := absurd unset given.not_isUnset
  unread other unread := by
    cases given.unique other
    cases read.symm.trans unread
  read other read' := by
    cases given.unique other
    rw [Option.some.inj (read.symm.trans read')]
  exact other writes fits := by
    cases given.unique other
    obtain ⟨e, read', worth⟩ := Numeral.exists_ofChars?_of_fits writes fits
    obtain rfl := Option.some.inj (read.symm.trans read')
    rw [← worth]
    split
    next negative => rw [Decimal.toRat_zero, max_eq_right negative.le]
    next nonneg => rw [max_eq_left (le_of_not_gt nonneg)]
  near := by
    split
    next => exact .inl rfl
    next =>
      obtain ⟨n, writes, close⟩ := Numeral.exists_writes read
      exact .inr ⟨t, n, given, writes, close⟩

/-- A divergence follows its setting. -/
theorem divergenceFollows (setting : Option String) :
    DivergenceFollows setting (readDivergence setting).1 := by
  rcases isUnset_or_gives setting with unset | ⟨t, given⟩
  · rw [readDivergence_unset unset]
    exact divergenceFollows_of_unread fun other => absurd unset other.not_isUnset
  · cases read : Decimal.ofText? t with
    | none =>
        rw [readDivergence_unread given read]
        exact divergenceFollows_of_unread fun other => given.unique other ▸ read
    | some d =>
        rw [readDivergence_read given read]
        exact divergenceFollows_of_read given read

theorem readPercent_unset (unset : IsUnset setting) : readPercent setting = .ok .zero := by
  rw [readPercent, isUnset_iff.mp unset]

theorem readPercent_eq_ok_iff {percent : Binary64} (given : Gives setting t) :
    readPercent setting = .ok percent ↔ Binary.ofText? t = some percent := by
  rw [readPercent, gives_iff.mp given]
  dsimp only
  cases (Binary.ofText? t : Option Binary64) <;> simp

/-- A percentage follows its setting. -/
theorem percentFollows {percent : Binary64} (made : readPercent setting = .ok percent) :
    PercentFollows setting percent where
  unset unset := Except.ok.inj (made.symm.trans (readPercent_unset unset))
  read given := (readPercent_eq_ok_iff given).mp made

theorem readPercent_eq_error_iff : (∃ e, readPercent setting = .error e) ↔
    ∃ t, Gives setting t ∧ ¬Binary.IsText t.toList := by
  rcases isUnset_or_gives setting with unset | ⟨t, given⟩
  · rw [readPercent_unset unset]
    exact iff_of_false nofun fun ⟨_, other, _⟩ => other.not_isUnset unset
  · rw [given.exists_and_iff, ← Binary.isSome_ofChars?_iff (f := .double), exists_error_iff]
    simp only [readPercent_eq_ok_iff given, ← Option.isSome_iff_exists]
    rfl

theorem readMinimum_unset (unset : IsUnset setting) : readMinimum setting = .ok (-1) := by
  rw [readMinimum, isUnset_iff.mp unset]

theorem readMinimum_eq_ok_iff {n : Int} (given : Gives setting t) :
    readMinimum setting = .ok n ↔ WritesInteger t.toList n ∧ -2 ^ 63 ≤ n ∧ n < 2 ^ 63 := by
  have read : readMinimum setting = (signed 63 t.toList).mapError fun fault =>
      .configuration (.invalidMinimum t fault) := by rw [readMinimum, gives_iff.mp given]
  have parsed : signed 63 t.toList = .ok n ↔
      WritesInteger t.toList n ∧ -2 ^ 63 ≤ n ∧ n < 2 ^ 63 := signed_eq_ok_iff
  rw [read, ← parsed]
  cases signed 63 t.toList <;> simp [Except.mapError]

theorem readMinimum_eq_error_iff : (∃ e, readMinimum setting = .error e) ↔
    ∃ t, Gives setting t ∧ ¬∃ n : Int, WritesInteger t.toList n ∧ -2 ^ 63 ≤ n ∧ n < 2 ^ 63 := by
  rcases isUnset_or_gives setting with unset | ⟨t, given⟩
  · rw [readMinimum_unset unset]
    exact iff_of_false nofun fun ⟨_, other, _⟩ => other.not_isUnset unset
  · rw [given.exists_and_iff, exists_error_iff]
    simp only [readMinimum_eq_ok_iff given]

/-- A minimum follows its setting, which a positive percentage overrides if it is negative. -/
theorem minimumFollows {n : Int} (percent : Binary64) (made : readMinimum setting = .ok n) :
    MinimumFollows setting percent (if Binary.zero.lt percent ∧ n < 0 then 1 else n) where
  nonneg positive := by
    split
    next => decide
    next kept => exact Int.not_lt.mp fun negative => kept ⟨positive, negative⟩
  unset unset := by
    cases made.symm.trans (readMinimum_unset unset)
    simp only [Int.reduceNeg, Int.reduceLT, and_true]
  written given writes := by
    rw [((readMinimum_eq_ok_iff given).mp made).1.unique writes]

end

/-! ## Policies -/

variable (s : Settings)

theorem ofSettings_eq_error_iff :
    (∃ e, ofSettings s = .error e) ↔
      (∃ e, readPercent s.exceedPercent = .error e) ∨
        ∃ e, readMinimum s.minimumTime = .error e := by
  rw [ofSettings]
  cases readPercent s.exceedPercent with
  | error e => exact iff_of_true ⟨e, rfl⟩ (.inl ⟨e, rfl⟩)
  | ok percent =>
      cases readMinimum s.minimumTime with
      | error e => exact iff_of_true ⟨e, rfl⟩ (.inr ⟨e, rfl⟩)
      | ok minimum => exact iff_of_false nofun (by rintro (⟨_, ⟨⟩⟩ | ⟨_, ⟨⟩⟩))

/-- White space around the settings has no effect. -/
theorem ofSettings_widened (divergence percent minimum : Text.Margins) :
    ofSettings (s.widened divergence percent minimum) = ofSettings s := by
  simp only [ofSettings, readDivergence, readPercent, readMinimum, Settings.widened,
    Text.bind_nonBlank?_around]

/-- Another divergence changes that of the policy and nothing else. -/
theorem ofSettings_divergence (divergence : Option String) :
    ofSettings { s with allowedDivergence := divergence } =
      (ofSettings s).map fun p =>
        { p with allowedDivergence := (readDivergence divergence).1 } := by
  rw [ofSettings, ofSettings]
  cases readPercent s.exceedPercent with
  | error e => rfl
  | ok percent => cases readMinimum s.minimumTime <;> rfl

/-- A policy follows the settings that it is made of. -/
theorem follows_of_made {p : Policy} (made : ofSettings s = .ok p) : p.Follows s := by
  rw [ofSettings] at made
  cases percent : readPercent s.exceedPercent with
  | error e =>
      rw [percent] at made
      cases made
  | ok x =>
      cases minimum : readMinimum s.minimumTime with
      | error e =>
          rw [percent, minimum] at made
          cases made
      | ok n =>
          rw [percent, minimum] at made
          cases made
          exact ⟨divergenceFollows _, percentFollows percent, minimumFollows x minimum⟩

/-- There is no policy if and only if a percentage or a minimum is given that is no text of its
kind; the divergence has no part in that. Otherwise the policy follows its settings, and white space
around them changes neither a policy nor an error. -/
theorem follows_ofSettings :
    ((∃ e, ofSettings s = .error e) ↔ s.IsFaulty) ∧
      (∀ divergence e, ofSettings { s with allowedDivergence := divergence } = .error e ↔
        ofSettings s = .error e) ∧
      (∀ p, ofSettings s = .ok p → p.Follows s) ∧
      ∀ divergence percent minimum,
        ofSettings (s.widened divergence percent minimum) = ofSettings s := by
  refine ⟨?_, fun divergence e => ?_, fun p => follows_of_made s, ofSettings_widened s⟩
  · rw [ofSettings_eq_error_iff, readPercent_eq_error_iff, readMinimum_eq_error_iff]
    rfl
  · rw [ofSettings_divergence]
    cases ofSettings s with
    | error e' => rfl
    | ok p => exact iff_of_false nofun nofun

-- A zero with a sign is not negative, and an exponent is part of a numeral.
example : (readDivergence (some " -0.0")).1 = ⟨0, 1, by decide, by decide⟩ ∧
    (readDivergence (some "1e-3\n")).1 = ⟨1, 3, by decide, by decide⟩ := by decide

end Policy
end QueryRegression
