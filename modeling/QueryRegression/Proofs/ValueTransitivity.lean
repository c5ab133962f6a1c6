import QueryRegression.Proofs.BinaryRounding
import QueryRegression.Proofs.ValueOrder

/-!
# Where the order of values is no order

`Value.sortCompare` compares two values of one kind by a rule of their own, where both follow it,
and otherwise by what values of the kind have in common: numbers as doubles, everything else as
text. Both ways are orders, but they need not agree, so a value that follows another rule can link
two values in the wrong direction.

* `Value.sortCompare_of_rule_eq`, `Value.sortCompare_of_rule_ne`: the two ways to compare.
* `Value.sortCompare_eq_gt_iff`: the exact condition under which `a ≤ b` and `b ≤ c`, but `c < a`.
-/

namespace QueryRegression.Value

/-! ## Rules -/

/-- A rule by which values are compared that both follow it. -/
inductive Rule where
  | null
  | boolean
  /-- Integers of any width. -/
  | whole
  /-- Floating-point numbers of both widths, as doubles. -/
  | binary
  | decimal
  | text
  | date
  | time
  | timestamp
  | bytes
  | boxedBytes
  | largeObject
deriving DecidableEq

/-- The rule that a value follows. -/
def rule : Value → Rule
  | .null => .null
  | .boolean _ => .boolean
  | .tinyInt _ | .smallInt _ | .integer _ | .bigInt _ => .whole
  | .float _ | .double _ => .binary
  | .decimal _ => .decimal
  | .text _ => .text
  | .date _ => .date
  | .time _ => .time
  | .timestamp _ => .timestamp
  | .bytes _ => .bytes
  | .boxedBytes _ => .boxedBytes
  | .largeObject _ _ => .largeObject

/-- The place of a value among those of its kind that follow other rules. -/
def commonKey (v : Value) : List Int :=
  match v.approximate? with
  | some x => [x.rank]
  | none => v.toText.toList.map fun c => (c.toNat : Int)

variable {a b c : Value}

theorem kindRank_eq_of_rule_eq (same : a.rule = b.rule) : a.kindRank = b.kindRank := by
  cases a <;> cases b <;> first | rfl | cases same

theorem compare_singleton (m n : Int) : compare [m] [n] = compare m n := by
  rw [List.compare_cons_cons, List.compare_nil_nil, Ordering.then_eq]

/-- Values of different kinds compare as their kinds. -/
theorem sortCompare_of_kindRank_ne (differ : a.kindRank ≠ b.kindRank) :
    a.sortCompare b = compare a.kindRank b.kindRank := by
  unfold sortCompare
  cases ranks : compare a.kindRank b.kindRank with
  | eq => exact absurd (Std.LawfulEqOrd.eq_of_compare ranks) differ
  | lt => rfl
  | gt => rfl

theorem sortCompare_of_kindRank_eq (same : a.kindRank = b.kindRank) :
    a.sortCompare b = kindCompare a b := by
  rw [sortCompare, same, Std.ReflOrd.compare_self, Ordering.eq_then]

/-- Values of one rule compare by their own keys. -/
theorem sortCompare_of_rule_eq (same : a.rule = b.rule) :
    a.sortCompare b = compare a.kindKey b.kindKey := by
  rw [sortCompare_of_kindRank_eq (kindRank_eq_of_rule_eq same)]
  cases a <;> cases b <;> try cases same
  case largeObject => rfl
  all_goals first
    | exact kindCompare_eq_compare_kindKey (by constructor)
    | exact (compare_singleton _ _).symm

theorem isSome_approximate? (v : Value) : v.approximate?.isSome = (v.kindRank == 2) := by
  cases v <;> rfl

theorem rule_eq_whole_of_whole? {v : Value} {n : Int} (number : v.whole? = some n) :
    v.rule = .whole := by
  cases v <;> first | rfl | cases number

/-- The mixed comparison is that of the common keys, unless both values are integers. -/
theorem mixedCompare_eq_compare_commonKey (kinds : a.kindRank = b.kindRank)
    (differ : a.rule ≠ b.rule) : a.mixedCompare b = compare a.commonKey b.commonKey := by
  have numbers : a.approximate?.isSome = b.approximate?.isSome := by
    rw [isSome_approximate?, isSome_approximate?, kinds]
  have texts : compare (a.toText.toList.map fun c => (c.toNat : Int))
      (b.toText.toList.map fun c => (c.toNat : Int)) = compare a.toText b.toText :=
    (compare_map compare_codePoint _ _).trans (compare_toList _ _)
  unfold mixedCompare
  split
  next m n first second =>
    have same := (rule_eq_whole_of_whole? first).trans (rule_eq_whole_of_whole? second).symm
    exact absurd same differ
  next =>
    unfold commonKey
    cases first : a.approximate? with
    | none =>
        cases second : b.approximate? with
        | none => exact texts.symm
        | some y => rw [first, second] at numbers; cases numbers
    | some x =>
        cases second : b.approximate? with
        | none => rw [first, second] at numbers; cases numbers
        | some y => exact (compare_singleton _ _).symm

/-- Values of one kind, but of different rules, compare by their common keys. -/
theorem sortCompare_of_rule_ne (kinds : a.kindRank = b.kindRank) (differ : a.rule ≠ b.rule) :
    a.sortCompare b = compare a.commonKey b.commonKey := by
  rw [sortCompare_of_kindRank_eq kinds, ← mixedCompare_eq_compare_commonKey kinds differ]
  -- Where a rule of its own applies, both values follow it.
  fun_cases kindCompare a b with
  | case11 => rfl
  | _ => exact absurd rfl differ

/-! ## Integers as doubles -/

theorem keys_of_whole {v : Value} (integer : v.rule = .whole) :
    ∃ n : Int, v.kindKey = [n] ∧ v.commonKey = [(Binary.ofInt n : Binary64).rank] := by
  cases v <;> first | (cases integer; done) | exact ⟨_, rfl, rfl⟩

theorem commonKey_of_binary {v : Value} (number : v.rule = .binary) : v.commonKey = v.kindKey := by
  cases v <;> first | (cases number; done) | rfl

theorem compare_singleton_ne_gt {m n : Int} : compare [m] [n] ≠ .gt ↔ m ≤ n := by
  rw [compare_singleton, ne_eq, Ordering.ne_gt_iff_isLE, Std.isLE_compare]

/-- Integers and floating-point numbers keep the order of their rule as doubles. -/
theorem commonKey_le_of_kindKey_le (numbers : a.rule = .whole ∨ a.rule = .binary)
    (same : a.rule = b.rule) (le : compare a.kindKey b.kindKey ≠ .gt) :
    compare a.commonKey b.commonKey ≠ .gt := by
  rcases numbers with integer | number
  · obtain ⟨m, own, common⟩ := keys_of_whole integer
    obtain ⟨n, own', common'⟩ := keys_of_whole (same.symm.trans integer)
    rw [own, own', compare_singleton_ne_gt] at le
    rw [common, common', compare_singleton_ne_gt]
    exact Binary.rank_ofInt_le le
  · rw [commonKey_of_binary number, commonKey_of_binary (same.symm.trans number)]
    exact le

/-! ## Transitivity -/

theorem key_trans {x y z : List Int} (xy : compare x y ≠ .gt) (yz : compare y z ≠ .gt) :
    compare x z ≠ .gt := by
  rw [ne_eq, Ordering.ne_gt_iff_isLE] at xy yz ⊢
  exact Std.TransOrd.isLE_trans xy yz

theorem key_antisymm {x y : List Int} (xy : compare x y ≠ .gt) (yx : compare y x ≠ .gt) :
    x = y := by
  rw [ne_eq, Ordering.ne_gt_iff_isLE] at xy yx
  exact Std.LawfulEqOrd.eq_of_compare (Std.OrientedCmp.isLE_antisymm xy yx)

/-- The value in the middle follows another rule than the outer ones, and their own rule turns those
round. Integers are turned round only if all three are the same double. -/
structure OuterTurned (a b c : Value) : Prop where
  kinds : a.kindRank = b.kindRank
  outer : a.rule = c.rule
  middle : b.rule ≠ a.rule
  turned : compare a.kindKey c.kindKey = .gt
  tied : a.rule = .whole → a.commonKey = b.commonKey ∧ b.commonKey = c.commonKey

/-- The value in the middle shares its rule with one outer value only, and what all three have in
common turns the outer ones round. This happens neither to integers nor to floating-point
numbers. -/
structure CommonTurned (a b c : Value) : Prop where
  kinds : a.kindRank = b.kindRank ∧ b.kindRank = c.kindRank
  outer : a.rule ≠ c.rule
  middle : b.rule = a.rule ∨ b.rule = c.rule
  uneven : b.rule ≠ .whole ∧ b.rule ≠ .binary
  turned : compare a.commonKey c.commonKey = .gt

theorem kinds_eq_of_turned {a b c : Value} (ab : a.sortCompare b ≠ .gt) (bc : b.sortCompare c ≠ .gt)
    (turned : a.sortCompare c = .gt) : a.kindRank = b.kindRank ∧ b.kindRank = c.kindRank := by
  have kinds : ∀ {x y : Value}, x.sortCompare y ≠ .gt → x.kindRank ≤ y.kindRank := by
    intro x y le
    by_cases same : x.kindRank = y.kindRank
    · omega
    · rw [sortCompare_of_kindRank_ne same, ne_eq, Ordering.ne_gt_iff_isLE, Std.isLE_compare] at le
      exact le
  have back : c.kindRank ≤ a.kindRank := by
    refine kinds ?_
    rw [sortCompare_swap, turned]
    nofun
  have forth := kinds ab
  have forth' := kinds bc
  omega

/-- A value in the middle that follows another rule than the outer ones compares with both by what
they have in common. -/
theorem outerTurned_of_turned {a b c : Value} (kinds : a.kindRank = b.kindRank)
    (outer : a.rule = c.rule) (middle : b.rule ≠ a.rule) (ab : a.sortCompare b ≠ .gt)
    (bc : b.sortCompare c ≠ .gt) (turned : a.sortCompare c = .gt) : OuterTurned a b c := by
  rw [sortCompare_of_rule_ne kinds middle.symm] at ab
  rw [sortCompare_of_rule_ne (kinds.symm.trans (kindRank_eq_of_rule_eq outer)) (outer ▸ middle)]
    at bc
  rw [sortCompare_of_rule_eq outer] at turned
  refine ⟨kinds, outer, middle, turned, fun integer => ?_⟩
  have back : compare c.kindKey a.kindKey ≠ .gt := by
    rw [Std.OrientedOrd.eq_swap, turned]
    nofun
  have ca := commonKey_le_of_kindKey_le (.inl (outer ▸ integer)) outer.symm back
  exact ⟨key_antisymm ab (key_trans bc ca), key_antisymm bc (key_trans ca ab)⟩

/-- Integers and floating-point numbers do not turn round what they have in common with others. -/
theorem commonTurned_of_turned {a b c : Value} (kinds : a.kindRank = b.kindRank)
    (kinds' : b.kindRank = c.kindRank) (outer : a.rule ≠ c.rule) (ab : a.sortCompare b ≠ .gt)
    (bc : b.sortCompare c ≠ .gt) (turned : a.sortCompare c = .gt) : CommonTurned a b c := by
  rw [sortCompare_of_rule_ne (kinds.trans kinds') outer] at turned
  have notBoth : compare a.commonKey b.commonKey ≠ .gt → compare b.commonKey c.commonKey ≠ .gt →
      False := fun first second => key_trans first second turned
  by_cases left : b.rule = a.rule
  · rw [sortCompare_of_rule_eq left.symm] at ab
    rw [sortCompare_of_rule_ne kinds' (left ▸ outer)] at bc
    refine ⟨⟨kinds, kinds'⟩, outer, .inl left, ⟨fun integer => ?_, fun number => ?_⟩, turned⟩
    · exact notBoth (commonKey_le_of_kindKey_le (.inl (left ▸ integer)) left.symm ab) bc
    · exact notBoth (commonKey_le_of_kindKey_le (.inr (left ▸ number)) left.symm ab) bc
  · rw [sortCompare_of_rule_ne kinds (Ne.symm left)] at ab
    by_cases right : b.rule = c.rule
    · rw [sortCompare_of_rule_eq right] at bc
      refine ⟨⟨kinds, kinds'⟩, outer, .inr right, ⟨fun integer => ?_, fun number => ?_⟩, turned⟩
      · exact notBoth ab (commonKey_le_of_kindKey_le (.inl integer) right bc)
      · exact notBoth ab (commonKey_le_of_kindKey_le (.inr number) right bc)
    · rw [sortCompare_of_rule_ne kinds' right] at bc
      exact (notBoth ab bc).elim

/-- Of three values that ascend from one to the next, the last one comes before the first one if and
only if they are of one kind, exactly two of them follow one rule, and the third one links these two
in the wrong direction. -/
theorem sortCompare_eq_gt_iff {a b c : Value} (ab : a.sortCompare b ≠ .gt)
    (bc : b.sortCompare c ≠ .gt) :
    a.sortCompare c = .gt ↔ OuterTurned a b c ∨ CommonTurned a b c := by
  constructor
  · intro turned
    obtain ⟨kinds, kinds'⟩ := kinds_eq_of_turned ab bc turned
    by_cases outer : a.rule = c.rule
    · by_cases middle : b.rule = a.rule
      · rw [sortCompare_of_rule_eq middle.symm] at ab
        rw [sortCompare_of_rule_eq (middle.trans outer)] at bc
        rw [sortCompare_of_rule_eq outer] at turned
        exact absurd turned (key_trans ab bc)
      · exact .inl (outerTurned_of_turned kinds outer middle ab bc turned)
    · exact .inr (commonTurned_of_turned kinds kinds' outer ab bc turned)
  · rintro (turned | turned)
    · rw [sortCompare_of_rule_eq turned.outer]
      exact turned.turned
    · rw [sortCompare_of_rule_ne (turned.kinds.1.trans turned.kinds.2) turned.outer]
      exact turned.turned

/-- Two integers beyond the precision of doubles, and the double that both are as doubles. -/
theorem sortCompare_eq_gt_of_tie :
    let a : Value := .bigInt 9007199254740993
    let b : Value := .double (.ofNat 9007199254740992)
    let c : Value := .bigInt 9007199254740992
    a.sortCompare b ≠ .gt ∧ b.sortCompare c ≠ .gt ∧ a.sortCompare c = .gt := by
  intro a b c
  have ab : a.sortCompare b ≠ .gt := by decide +kernel
  have bc : b.sortCompare c ≠ .gt := by decide +kernel
  have turned : OuterTurned a b c := by
    refine ⟨rfl, rfl, by decide, by decide +kernel, fun _ => ?_⟩
    decide +kernel
  exact ⟨ab, bc, (sortCompare_eq_gt_iff ab bc).mpr (.inl turned)⟩

end QueryRegression.Value
