import Mathlib.Data.Finset.Card
import Mathlib.Data.Finset.Range
import QueryRegression.Regex

/-!
# What a search finds

`Regex.Matches` says, by the form of a pattern, which part of a text it matches; a part is given by
the places before and behind it. `Regex.search_iff` says that a search finds a pattern if and only
if it matches some part of the text.

A search computes with sets of places, held in the bits of numbers. `Follows` is what ties such a
computation to a relation of places, and there is one lemma for each form of a pattern. The one for
repetition rests on an invariant of `reachable`: of the places reached so far, only those reached by
the last step can lead to new ones.
-/

namespace QueryRegression.Regex

open Text

/-! ## Matches -/

/-- The character before a place. -/
def before? (text : List Char) : Nat → Option Char
  | 0 => none
  | i + 1 => text[i]?

/-- Whether a place is such an edge, by the characters of words that stand before and behind it. -/
def WordEdge.IsBetween (before behind : Bool) : WordEdge → Prop
  | .boundary => before ≠ behind
  | .noBoundary => before = behind
  | .start => before = false ∧ behind = true
  | .stop => before = true ∧ behind = false
  | .startHalf => before = false
  | .stopHalf => behind = false

/-- What an assertion says of a place in a text. -/
def Assertion.Holds (text : List Char) (i : Nat) : Assertion → Prop
  | .textStart => i = 0
  | .textEnd => i = text.length
  | .lineStart => i = 0 ∨ before? text i = some '\n'
  | .lineEnd => i = text.length ∨ text[i]? = some '\n'
  | .returnLineStart =>
    i = 0 ∨ before? text i = some '\n' ∨ before? text i = some '\r' ∧ text[i]? ≠ some '\n'
  | .returnLineEnd =>
    i = text.length ∨ text[i]? = some '\r' ∨ text[i]? = some '\n' ∧ before? text i ≠ some '\r'
  | .word edge unicode =>
    let isWord := (if unicode then wordSet else asciiWordSet).contains
    edge.IsBetween ((before? text i).any isWord) (text[i]?.any isWord)

/-- The given number of steps of a relation. -/
def Chain (r : Nat → Nat → Prop) : Nat → Nat → Nat → Prop
  | 0, i, j => i = j
  | n + 1, i, j => ∃ k, r i k ∧ Chain r n k j

/-- A pattern matches the part of a text between two places. -/
def Matches (text : List Char) : Regex → Nat → Nat → Prop
  | .empty, i, j => i = j
  | .set members, i, j => (∃ c, text[i]? = some c ∧ members.contains c = true) ∧ j = i + 1
  | .assert assertion, i, j => (i ≤ text.length ∧ assertion.Holds text i) ∧ i = j
  | .seq first second, i, j => ∃ k, first.Matches text i k ∧ second.Matches text k j
  | .alt first second, i, j => first.Matches text i j ∨ second.Matches text i j
  | .many body least most, i, j =>
    ∃ n, least ≤ n ∧ (∀ m, most = some m → n ≤ m) ∧ Chain (body.Matches text) n i j

/-- A pattern matches some part of a text. -/
def Occurs (r : Regex) (text : List Char) : Prop := ∃ i j, i ≤ text.length ∧ r.Matches text i j

/-- No repetition has a lower bound above its upper one. -/
def IsFormed : Regex → Prop
  | .seq first second | .alt first second => first.IsFormed ∧ second.IsFormed
  | .many body least most => body.IsFormed ∧ ∀ m, most = some m → least ≤ m
  | _ => True

/-! ## Steps of a relation -/

theorem chain_add {r : Nat → Nat → Prop} {m n i j : Nat} :
    Chain r (m + n) i j ↔ ∃ k, Chain r m i k ∧ Chain r n k j := by
  induction m generalizing i with
  | zero => simp [Chain]
  | succ m ih =>
      rw [Nat.succ_add, Chain]
      simp only [ih, Chain]
      constructor
      · rintro ⟨first, step, k, front, back⟩
        exact ⟨k, ⟨first, step, front⟩, back⟩
      · rintro ⟨k, ⟨first, step, front⟩, back⟩
        exact ⟨first, step, k, front, back⟩

/-- Steps do not lead out of a set that is closed under one step. -/
theorem chain_mem {r : Nat → Nat → Prop} {s : Nat}
    (closed : ∀ i j, s.testBit i = true → r i j → s.testBit j = true) {n i j : Nat}
    (atStart : s.testBit i = true) (chain : Chain r n i j) : s.testBit j = true := by
  induction n generalizing i with
  | zero =>
      cases chain
      exact atStart
  | succ n ih =>
      obtain ⟨k, first, rest⟩ := chain
      exact ih (closed i k atStart first) rest

/-! ## Sets of places -/

theorem testBit_placesBefore (p : Char → Bool) (text : List Char) (i : Nat) :
    (placesBefore p text).testBit i = text[i]?.any p := by
  induction text generalizing i with
  | nil => simp [placesBefore]
  | cons c text ih =>
      cases i with
      | zero =>
          rw [placesBefore, Nat.testBit_zero]
          cases h : p c <;> simp [h]
      | succ i =>
          have half : (2 * placesBefore p text + if p c = true then 1 else 0) / 2 =
              placesBefore p text := by split <;> omega
          rw [placesBefore, Nat.testBit_succ, half, ih]
          rfl

theorem testBit_shift (s i : Nat) :
    (s <<< 1).testBit i = true ↔ ∃ k, i = k + 1 ∧ s.testBit k = true := by
  rw [Nat.testBit_shiftLeft]
  cases i with
  | zero => simp
  | succ i => simp

theorem testBit_withoutPlaces (s t i : Nat) :
    (withoutPlaces s t).testBit i = (s.testBit i && !t.testBit i) := by
  rw [withoutPlaces, Nat.testBit_xor, Nat.testBit_and]
  cases s.testBit i <;> cases t.testBit i <;> rfl

theorem testBit_allPlaces (length i : Nat) :
    (allPlaces length).testBit i = decide (i ≤ length) := by
  rw [allPlaces, Nat.testBit_two_pow_sub_one]
  exact decide_eq_decide.mpr Nat.lt_succ_iff

theorem exists_testBit_iff {s : Nat} : (∃ i, s.testBit i = true) ↔ s ≠ 0 := by
  constructor
  · rintro ⟨i, bit⟩ rfl
    simp at bit
  · exact fun nonzero => Nat.exists_testBit_of_ne_zero nonzero

/-! ## Assertions -/

theorem any_eq_iff {c : Option Char} {d : Char} : c.any (· == d) = true ↔ c = some d := by
  cases c <;> simp

theorem testBit_placesBehind (p : Char → Bool) (text : List Char) (i : Nat) :
    (placesBefore p text <<< 1).testBit i = (before? text i).any p := by
  cases i with
  | zero => simp [before?]
  | succ i => simp [before?, testBit_placesBefore]

theorem le_of_before? {text : List Char} {i : Nat} {p : Char → Bool}
    (found : (before? text i).any p = true) : i ≤ text.length := by
  cases i with
  | zero => exact Nat.zero_le _
  | succ i =>
      obtain ⟨c, at_, -⟩ := (Option.any_eq_true _ _).mp found
      exact (List.getElem?_eq_some_iff.mp at_).1

theorem le_of_behind {text : List Char} {i : Nat} {p : Char → Bool}
    (found : text[i]?.any p = true) : i ≤ text.length := by
  obtain ⟨c, at_, -⟩ := (Option.any_eq_true _ _).mp found
  exact Nat.le_of_lt (List.getElem?_eq_some_iff.mp at_).1

theorem testBit_wordPlaces (p : Char → Bool) (text : List Char) (edge : WordEdge) (i : Nat) :
    (wordPlaces (allPlaces text.length) (placesBefore p text) edge).testBit i = true ↔
      i ≤ text.length ∧ edge.IsBetween ((before? text i).any p) (text[i]?.any p) := by
  have before : (before? text i).any p = true → i ≤ text.length := le_of_before?
  have behind : text[i]?.any p = true → i ≤ text.length := le_of_behind
  have bits := testBit_placesBefore p text i
  have shifted := testBit_placesBehind p text i
  generalize (before? text i).any p = b at before shifted ⊢
  generalize text[i]?.any p = c at behind bits ⊢
  cases edge <;>
    simp only [wordPlaces, WordEdge.IsBetween, testBit_withoutPlaces, Nat.testBit_xor,
      testBit_allPlaces, bits, shifted] <;>
    cases b <;> cases c <;> simp_all

/-- The places at which an assertion holds. -/
theorem testBit_assertionPlaces (text : List Char) (assertion : Assertion) (i : Nat) :
    (assertionPlaces text assertion).testBit i = true ↔
      i ≤ text.length ∧ assertion.Holds text i := by
  have before : ∀ {c}, before? text i = some c → i ≤ text.length := fun found =>
    le_of_before? (any_eq_iff.mpr found)
  have behind : ∀ {c}, text[i]? = some c → i ≤ text.length := fun found =>
    le_of_behind (any_eq_iff.mpr found)
  have start : (1).testBit i = true ↔ i = 0 := by simp [Nat.testBit_one_eq_true_iff_self_eq_zero]
  have stop : (2 ^ text.length).testBit i = true ↔ i = text.length := by
    rw [Nat.testBit_two_pow, decide_eq_true_iff, eq_comm]
  cases assertion with
  | textStart =>
      rw [assertionPlaces, start, Assertion.Holds]
      grind
  | textEnd =>
      rw [assertionPlaces, stop, Assertion.Holds]
      grind
  | lineStart =>
      rw [assertionPlaces, Nat.testBit_or, Bool.or_eq_true, start, testBit_placesBehind, any_eq_iff,
        Assertion.Holds]
      grind
  | lineEnd =>
      rw [assertionPlaces, Nat.testBit_or, Bool.or_eq_true, stop, testBit_placesBefore, any_eq_iff,
        Assertion.Holds]
      grind
  | returnLineStart =>
      simp only [assertionPlaces, Nat.testBit_or, Bool.or_eq_true, start, testBit_withoutPlaces,
        Bool.and_eq_true, Bool.not_eq_true', ← Bool.not_eq_true, testBit_placesBehind,
        testBit_placesBefore, any_eq_iff, Assertion.Holds]
      grind
  | returnLineEnd =>
      simp only [assertionPlaces, Nat.testBit_or, Bool.or_eq_true, stop, testBit_withoutPlaces,
        Bool.and_eq_true, Bool.not_eq_true', ← Bool.not_eq_true, testBit_placesBehind,
        testBit_placesBefore, any_eq_iff, Assertion.Holds]
      grind
  | word edge unicode => exact testBit_wordPlaces _ text edge i

/-! ## Steps of sets of places -/

/-- All places of a set lie below a bound. -/
def Within (bound s : Nat) : Prop := ∀ i, s.testBit i = true → i < bound

/-- A step of sets of places follows a relation of places below a bound. -/
structure Follows (bound : Nat) (step : Nat → Nat) (r : Nat → Nat → Prop) : Prop where
  lt : ∀ {i j}, i < bound → r i j → j < bound
  testBit : ∀ {s}, Within bound s → ∀ j,
    (step s).testBit j = true ↔ ∃ i, s.testBit i = true ∧ r i j

section Steps

variable {bound : Nat} {step : Nat → Nat} {r : Nat → Nat → Prop} (follows : Follows bound step r)
include follows

theorem Follows.within {s : Nat} (within : Within bound s) : Within bound (step s) := by
  intro j bit
  obtain ⟨i, atStart, related⟩ := (follows.testBit within j).mp bit
  exact follows.lt (within i atStart) related

theorem Follows.chain_lt {n i j : Nat} (below : i < bound) (chain : Chain r n i j) : j < bound := by
  induction n generalizing i with
  | zero =>
      cases chain
      exact below
  | succ n ih =>
      obtain ⟨k, first, rest⟩ := chain
      exact ih (follows.lt below first) rest

theorem follows_repeated (n : Nat) : Follows bound (repeated step n) (Chain r n) where
  lt := follows.chain_lt
  testBit := by
    induction n with
    | zero => simp [repeated, Chain]
    | succ n ih =>
        intro s within j
        rw [repeated]
        split
        next zero => simp [zero]
        next =>
          rw [ih (follows.within within)]
          simp only [follows.testBit within, Chain]
          constructor
          · rintro ⟨k, ⟨i, atStart, first⟩, rest⟩
            exact ⟨i, atStart, k, first, rest⟩
          · rintro ⟨i, atStart, k, first, rest⟩
            exact ⟨k, ⟨i, atStart, first⟩, rest⟩

end Steps

/-! ## The frontier of a search -/

/-- What holds while places are searched: of the places reached, only the last ones can lead to
places that are not reached. -/
structure Frontier (bound : Nat) (r : Nat → Nat → Prop) (reached last : Nat) : Prop where
  within : Within bound reached
  last_le : ∀ i, last.testBit i = true → reached.testBit i = true
  closed : ∀ i j, reached.testBit i = true → last.testBit i = false → r i j →
    reached.testBit j = true

theorem Frontier.start {bound : Nat} (r : Nat → Nat → Prop) {s : Nat} (within : Within bound s) :
    Frontier bound r s s where
  within := within
  last_le _ bit := bit
  closed i j atStart notLast := by
    rw [atStart] at notLast
    cases notLast

section Frontier

variable {bound : Nat} {step : Nat → Nat} {r : Nat → Nat → Prop} (follows : Follows bound step r)
  {reached last : Nat} (frontier : Frontier bound r reached last)
include follows frontier

/-- A place is fresh if it is not reached yet, and the last ones lead to it. -/
theorem Frontier.testBit_fresh (j : Nat) :
    (withoutPlaces (step last) reached).testBit j = true ↔
      (∃ i, last.testBit i = true ∧ r i j) ∧ reached.testBit j = false := by
  have within : Within bound last := fun i bit => frontier.within i (frontier.last_le i bit)
  rw [testBit_withoutPlaces, Bool.and_eq_true, Bool.not_eq_true', follows.testBit within]

/-- One step leads from reached places to reached or fresh ones. -/
theorem Frontier.step_mem {i j : Nat} (atStart : reached.testBit i = true) (related : r i j) :
    (reached ||| withoutPlaces (step last) reached).testBit j = true := by
  rw [Nat.testBit_or, Bool.or_eq_true, frontier.testBit_fresh follows]
  by_cases old : reached.testBit j = true
  · exact .inl old
  · by_cases isLast : last.testBit i = true
    · exact .inr ⟨⟨i, isLast, related⟩, Bool.not_eq_true _ ▸ old⟩
    · exact absurd (frontier.closed i j atStart (Bool.not_eq_true _ ▸ isLast) related) old

theorem Frontier.next :
    Frontier bound r (reached ||| withoutPlaces (step last) reached)
      (withoutPlaces (step last) reached) where
  within := by
    intro j bit
    rw [Nat.testBit_or, Bool.or_eq_true, frontier.testBit_fresh follows] at bit
    rcases bit with old | ⟨⟨i, isLast, related⟩, -⟩
    · exact frontier.within j old
    · exact follows.lt (frontier.within i (frontier.last_le i isLast)) related
  last_le i bit := by rw [Nat.testBit_or, bit, Bool.or_true]
  closed i j atStart notFresh related := by
    rw [Nat.testBit_or, notFresh, Bool.or_false] at atStart
    exact frontier.step_mem follows atStart related

end Frontier

section Reachable

variable {bound : Nat} {step : Nat → Nat} {r : Nat → Nat → Prop} (follows : Follows bound step r)
include follows

/-- Without fresh places, nothing leads out of those reached. -/
theorem Frontier.closed_of_idle {reached last : Nat} (frontier : Frontier bound r reached last)
    (idle : withoutPlaces (step last) reached = 0) {i j : Nat} (atStart : reached.testBit i = true)
    (related : r i j) : reached.testBit j = true := by
  have found := frontier.step_mem follows atStart related
  rwa [idle, Nat.or_zero] at found

/-- The places that a limited number of steps leads to. -/
theorem testBit_reachable (n : Nat) {reached last : Nat}
    (frontier : Frontier bound r reached last) (j : Nat) :
    (reachable step n reached last).testBit j = true ↔
      ∃ k ≤ n, ∃ i, reached.testBit i = true ∧ Chain r k i j := by
  induction n generalizing reached last with
  | zero => simp [reachable, Chain]
  | succ n ih =>
      rw [reachable]
      split
      next idle =>
        constructor
        · exact fun bit => ⟨0, Nat.zero_le _, j, bit, rfl⟩
        · rintro ⟨k, -, i, atStart, chain⟩
          exact chain_mem (fun _ _ => frontier.closed_of_idle follows idle) atStart chain
      next =>
        rw [ih (frontier.next follows)]
        constructor
        · rintro ⟨k, le, i, atStart, chain⟩
          rw [Nat.testBit_or, Bool.or_eq_true, frontier.testBit_fresh follows] at atStart
          rcases atStart with old | ⟨⟨first, isLast, related⟩, -⟩
          · exact ⟨k, Nat.le_succ_of_le le, i, old, chain⟩
          · exact ⟨k + 1, Nat.succ_le_succ le, first, frontier.last_le first isLast, i, related,
              chain⟩
        · rintro ⟨k, le, i, atStart, chain⟩
          cases k with
          | zero =>
              refine ⟨0, Nat.zero_le n, i, ?_, chain⟩
              rw [Nat.testBit_or, atStart, Bool.true_or]
          | succ k =>
              obtain ⟨second, related, rest⟩ := chain
              exact ⟨k, Nat.le_of_succ_le_succ le, second,
                frontier.step_mem follows atStart related, rest⟩

/-- So many places as the bound says are enough steps: each one that finds a fresh place leaves one
place less to be reached. -/
theorem reachable_closed (n : Nat) {reached last : Nat} (frontier : Frontier bound r reached last)
    (enough : bound ≤ n + ((Finset.range bound).filter (reached.testBit · = true)).card) :
    ∀ i j, (reachable step n reached last).testBit i = true → r i j →
      (reachable step n reached last).testBit j = true := by
  induction n generalizing reached last with
  | zero =>
      intro i j atStart related
      rw [Nat.zero_add] at enough
      have all : (Finset.range bound).filter (reached.testBit · = true) = Finset.range bound :=
        Finset.eq_of_subset_of_card_le (Finset.filter_subset _ _) (by rwa [Finset.card_range])
      have below := follows.lt (frontier.within i atStart) related
      rw [← Finset.mem_range, ← all] at below
      exact (Finset.mem_filter.mp below).2
  | succ n ih =>
      rw [reachable]
      split
      next idle => exact fun i j => frontier.closed_of_idle follows idle
      next found =>
        refine ih (frontier.next follows) ?_
        obtain ⟨j, fresh⟩ := exists_testBit_iff.mpr found
        obtain ⟨-, new⟩ := (frontier.testBit_fresh follows j).mp fresh
        have below : j < bound := (frontier.next follows).within j
          ((frontier.next follows).last_le j fresh)
        have more : (Finset.range bound).filter (reached.testBit · = true) ⊂
            (Finset.range bound).filter
              ((reached ||| withoutPlaces (step last) reached).testBit · = true) := by
          refine Finset.ssubset_iff_of_subset ?_ |>.mpr ⟨j, ?_, ?_⟩
          · refine Finset.monotone_filter_right _ fun i _ bit => ?_
            rw [Nat.testBit_or, bit, Bool.true_or]
          · rw [Finset.mem_filter, Finset.mem_range, Nat.testBit_or, fresh, Bool.or_true]
            exact ⟨below, rfl⟩
          · rw [Finset.mem_filter, new]
            exact fun both => Bool.false_ne_true both.2
        have := Finset.card_lt_card more
        omega

/-- The places that any number of steps leads to. -/
theorem testBit_reachable_all {s : Nat} (within : Within bound s) (j : Nat) :
    (reachable step bound s s).testBit j = true ↔
      ∃ k i, s.testBit i = true ∧ Chain r k i j := by
  have frontier := Frontier.start r within
  have sound := testBit_reachable follows bound frontier
  constructor
  · intro bit
    obtain ⟨k, -, i, atStart, chain⟩ := (sound j).mp bit
    exact ⟨k, i, atStart, chain⟩
  · rintro ⟨k, i, atStart, chain⟩
    exact chain_mem (reachable_closed follows bound frontier (Nat.le_add_right _ _))
      ((sound i).mpr ⟨0, Nat.zero_le _, i, atStart, rfl⟩) chain

end Reachable

/-! ## Patterns -/

/-- The plan of a pattern follows its matches. -/
theorem follows_ends (text : List Char) {r : Regex} (formed : r.IsFormed) :
    Follows (text.length + 1) ((r.plan text).ends (text.length + 1)) (r.Matches text) := by
  induction r with
  | empty => exact ⟨fun below same => same ▸ below, by simp [plan, Plan.ends, Matches]⟩
  | set members =>
      constructor
      · rintro i j below ⟨⟨c, at_, -⟩, rfl⟩
        exact Nat.succ_lt_succ (List.getElem?_eq_some_iff.mp at_).1
      · intro s within j
        simp only [plan, Plan.ends, testBit_shift, Nat.testBit_and, testBit_placesBefore,
          Bool.and_eq_true, Option.any_eq_true, Matches]
        constructor
        · rintro ⟨k, rfl, atStart, reads⟩
          exact ⟨k, atStart, reads, rfl⟩
        · rintro ⟨k, atStart, reads, rfl⟩
          exact ⟨k, rfl, atStart, reads⟩
  | assert assertion =>
      constructor
      · rintro i j below ⟨-, rfl⟩
        exact below
      · intro s within j
        simp only [plan, Plan.ends, Nat.testBit_and, Bool.and_eq_true, testBit_assertionPlaces,
          Matches]
        constructor
        · rintro ⟨atStart, holds⟩
          exact ⟨j, atStart, holds, rfl⟩
        · rintro ⟨i, atStart, holds, rfl⟩
          exact ⟨atStart, holds⟩
  | seq first second ihFirst ihSecond =>
      have front := ihFirst formed.1
      have back := ihSecond formed.2
      constructor
      · rintro i j below ⟨k, left, right⟩
        exact back.lt (front.lt below left) right
      · intro s within j
        simp only [plan, Plan.ends, back.testBit (front.within within), front.testBit within,
          Matches]
        constructor
        · rintro ⟨k, ⟨i, atStart, left⟩, right⟩
          exact ⟨i, atStart, k, left, right⟩
        · rintro ⟨i, atStart, k, left, right⟩
          exact ⟨k, ⟨i, atStart, left⟩, right⟩
  | alt first second ihFirst ihSecond =>
      have left := ihFirst formed.1
      have right := ihSecond formed.2
      constructor
      · rintro i j below (one | other)
        · exact left.lt below one
        · exact right.lt below other
      · intro s within j
        simp only [plan, Plan.ends, Nat.testBit_or, Bool.or_eq_true, left.testBit within,
          right.testBit within, Matches]
        constructor
        · rintro (⟨i, atStart, one⟩ | ⟨i, atStart, other⟩)
          · exact ⟨i, atStart, .inl one⟩
          · exact ⟨i, atStart, .inr other⟩
        · rintro ⟨i, atStart, one | other⟩
          · exact .inl ⟨i, atStart, one⟩
          · exact .inr ⟨i, atStart, other⟩
  | many body least most ih =>
      have follows := ih formed.1
      have first := follows_repeated follows least
      constructor
      · rintro i j below ⟨n, -, -, chain⟩
        exact follows.chain_lt below chain
      · intro s within j
        have started := first.within within
        rw [plan, Plan.ends]
        cases most with
        | none =>
            simp only [Option.elim_none, testBit_reachable_all follows started,
              first.testBit within, Matches]
            constructor
            · rintro ⟨k, middle, ⟨i, atStart, front⟩, back⟩
              exact ⟨i, atStart, least + k, Nat.le_add_right _ _, nofun,
                chain_add.mpr ⟨middle, front, back⟩⟩
            · rintro ⟨i, atStart, n, enough, -, chain⟩
              obtain ⟨k, rfl⟩ := Nat.exists_eq_add_of_le enough
              obtain ⟨middle, front, back⟩ := chain_add.mp chain
              exact ⟨k, middle, ⟨i, atStart, front⟩, back⟩
        | some m =>
            have ordered : least ≤ m := formed.2 m rfl
            simp only [Option.elim_some, testBit_reachable follows _ (Frontier.start _ started),
              first.testBit within, Matches]
            constructor
            · rintro ⟨k, le, middle, ⟨i, atStart, front⟩, back⟩
              refine ⟨i, atStart, least + k, Nat.le_add_right _ _, ?_,
                chain_add.mpr ⟨middle, front, back⟩⟩
              rintro _ ⟨⟩
              omega
            · rintro ⟨i, atStart, n, enough, few, chain⟩
              obtain ⟨k, rfl⟩ := Nat.exists_eq_add_of_le enough
              obtain ⟨middle, front, back⟩ := chain_add.mp chain
              have most := few m rfl
              exact ⟨k, by omega, middle, ⟨i, atStart, front⟩, back⟩

/-- A search finds a pattern if and only if it matches some part of the text. -/
theorem search_iff {r : Regex} (formed : r.IsFormed) (text : List Char) :
    r.search text = true ↔ r.Occurs text := by
  have within : Within (text.length + 1) (allPlaces text.length) := fun i bit => by
    rw [testBit_allPlaces, decide_eq_true_iff] at bit
    exact Nat.lt_succ_of_le bit
  rw [search, bne_iff_ne, ← exists_testBit_iff, Occurs]
  simp only [(follows_ends text formed).testBit within, testBit_allPlaces, decide_eq_true_iff]
  exact exists_comm

end QueryRegression.Regex
