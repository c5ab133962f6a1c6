import QueryRegression.Value.Order

/-!
# The order of values, by keys

`Value.sortCompare` switches its rule from pair to pair, so it is no order of all values. Two facts
about it are proved here.

* `Value.sortCompare_exchange`: exchanging the values reverses the result, for any two values, and
  every value is equal to itself.
* `Value.sortCompare_eq_compare_sortKey`: on the values of one type, with nulls among them, it is
  the lexicographic order of the integer lists `Value.sortKey`. So it is a total order of the keys
  of a column that holds values of one type.
-/

namespace QueryRegression

/-! ## Comparison of images -/

theorem compareOfLessAndEq_map {α β : Type} [LT α] [DecidableLT α] [DecidableEq α] [LT β]
    [DecidableLT β] [DecidableEq β] {f : α → β} (lt : ∀ a b, f a < f b ↔ a < b)
    (injective : ∀ a b, f a = f b ↔ a = b) (a b : α) :
    compareOfLessAndEq (f a) (f b) = compareOfLessAndEq a b := by
  simp only [compareOfLessAndEq, lt, injective]

/-- Lists compare as their images if their elements do. -/
theorem compare_map {α β : Type} [Ord α] [Ord β] {f : α → β}
    (elements : ∀ a b, compare (f a) (f b) = compare a b) (xs ys : List α) :
    compare (xs.map f) (ys.map f) = compare xs ys := by
  induction xs generalizing ys with
  | nil => cases ys <;> rfl
  | cons x xs ih =>
      cases ys with
      | nil => rfl
      | cons y ys => simp only [List.map_cons, List.compare_cons_cons, elements, ih]

theorem compare_natCast (m n : Nat) : compare (m : Int) n = compare m n :=
  compareOfLessAndEq_map (fun _ _ => Int.ofNat_lt) (fun _ _ => Int.ofNat_inj) m n

theorem compare_codePoint (c d : Char) : compare (c.toNat : Int) d.toNat = compare c d :=
  compareOfLessAndEq_map (f := fun c : Char => (c.toNat : Int)) (fun _ _ => Int.ofNat_lt)
    (fun _ _ => by rw [Int.ofNat_inj, Char.toNat_inj]) c d

theorem compare_byte (a b : UInt8) : compare (a.toNat : Int) b.toNat = compare a b :=
  compareOfLessAndEq_map (f := fun a : UInt8 => (a.toNat : Int)) (fun _ _ => Int.ofNat_lt)
    (fun _ _ => by rw [Int.ofNat_inj, UInt8.toNat_inj]) a b

theorem compare_signedByte (a b : Int8) : compare a.toInt b.toInt = compare a b :=
  compareOfLessAndEq_map (f := Int8.toInt) (fun _ _ => Int8.lt_iff_toInt_lt.symm)
    (fun _ _ => Int8.toInt_inj) a b

theorem compare_mul_right {m n k : Int} (pos : 0 < k) :
    compare (m * k) (n * k) = compare m n :=
  compareOfLessAndEq_map (f := fun m : Int => m * k) (fun _ _ => Int.mul_lt_mul_right pos)
    (fun _ _ => Int.mul_eq_mul_right_iff (Int.ne_of_gt pos)) m n

/-- Texts compare character by character. -/
theorem compare_toList (s t : String) : compare s.toList t.toList = compare s t := by
  have chars : ∀ cs ds : List Char, compare cs ds = compareOfLessAndEq cs ds := by
    intro cs
    induction cs with
    | nil => intro ds; cases ds <;> rfl
    | cons c cs ih =>
        intro ds
        cases ds with
        | nil => rfl
        | cons d ds =>
            rw [List.compare_cons_cons, ih]
            simp only [compareOfLessAndEq, compare, List.cons_lt_cons_iff, List.cons.injEq]
            by_cases less : c < d
            · simp [less]
            · by_cases equal : c = d
              · simp [equal]
              · simp [less, equal]
  rw [chars]
  exact compareOfLessAndEq_map (f := String.toList) (fun _ _ => Iff.rfl)
    (fun _ _ => String.toList_inj) s t

/-- Decimals compare as their values in units of the last place that a decimal can have. -/
theorem Decimal.compare_eq_compare (a b : Decimal) :
    a.compare b = Ord.compare (a.coefficient * 10 ^ (maxScale - a.scale))
      (b.coefficient * 10 ^ (maxScale - b.scale)) := by
  have widen : ∀ (c : Int) (m n : Nat), c * 10 ^ m * 10 ^ n = c * 10 ^ (m + n) := fun c m n => by
    rw [Int.mul_assoc, ← Int.pow_add]
  have left : b.scale + (maxScale - b.scale) + (maxScale - a.scale) =
      maxScale - a.scale + maxScale := by
    have := b.scale_le
    unfold maxScale
    omega
  have right : a.scale + (maxScale - b.scale) + (maxScale - a.scale) =
      maxScale - b.scale + maxScale := by
    have := a.scale_le
    unfold maxScale
    omega
  have positive : ∀ n : Nat, (0 : Int) < 10 ^ n := fun n => Int.pow_pos (by decide)
  calc a.compare b
      = Ord.compare (a.coefficient * 10 ^ b.scale * 10 ^ (maxScale - b.scale) *
          10 ^ (maxScale - a.scale)) (b.coefficient * 10 ^ a.scale * 10 ^ (maxScale - b.scale) *
          10 ^ (maxScale - a.scale)) := by
        rw [compare_mul_right (positive _), compare_mul_right (positive _)]
        rfl
    _ = Ord.compare (a.coefficient * 10 ^ (maxScale - a.scale) * 10 ^ maxScale)
          (b.coefficient * 10 ^ (maxScale - b.scale) * 10 ^ maxScale) := by
        rw [widen, widen, widen, widen, widen, widen, ← Nat.add_assoc, ← Nat.add_assoc, left, right]
    _ = _ := compare_mul_right (positive _)

namespace Value

/-! ## Keys -/

/-- The place of a value among those of its type. -/
def kindKey : Value → List Int
  | .null => []
  | .boolean v => [v.toInt]
  | .tinyInt v => [v.toInt]
  | .smallInt v => [v.toInt]
  | .integer v => [v.toInt]
  | .bigInt v => [v.toInt]
  | .float v => [(v.convert : Binary64).rank]
  | .double v => [v.rank]
  | .decimal v => [v.coefficient * 10 ^ (Decimal.maxScale - v.scale)]
  | .text v => v.toList.map fun c => (c.toNat : Int)
  | .date v => [v.year, v.month, v.day]
  | .time v => [v.secondOfDay, v.nanosecond]
  | .timestamp v =>
    [v.date.year, v.date.month, v.date.day, v.time.secondOfDay, v.time.nanosecond]
  | .bytes v => v.map fun b => (b.toNat : Int)
  | .boxedBytes v => v.map Int8.toInt
  | .largeObject _ _ => []

/-- The place of a value in the order of a column. -/
def sortKey (v : Value) : List Int := v.kindRank :: v.kindKey

/-- Two values have one type. -/
inductive SameType : Value → Value → Prop
  | null : SameType .null .null
  | boolean (a b : Bool) : SameType (.boolean a) (.boolean b)
  | tinyInt (a b : Int8) : SameType (.tinyInt a) (.tinyInt b)
  | smallInt (a b : Int16) : SameType (.smallInt a) (.smallInt b)
  | integer (a b : Int32) : SameType (.integer a) (.integer b)
  | bigInt (a b : Int64) : SameType (.bigInt a) (.bigInt b)
  | float (a b : Binary32) : SameType (.float a) (.float b)
  | double (a b : Binary64) : SameType (.double a) (.double b)
  | decimal (a b : Decimal) : SameType (.decimal a) (.decimal b)
  | text (a b : String) : SameType (.text a) (.text b)
  | date (a b : Date) : SameType (.date a) (.date b)
  | time (a b : TimeOfDay) : SameType (.time a) (.time b)
  | timestamp (a b : Timestamp) : SameType (.timestamp a) (.timestamp b)
  | bytes (a b : List UInt8) : SameType (.bytes a) (.bytes b)
  | boxedBytes (a b : List Int8) : SameType (.boxedBytes a) (.boxedBytes b)
  | largeObject (kind : LargeObjectKind) (a b : LargeObject) :
    SameType (.largeObject kind a) (.largeObject kind b)

/-- The name of its type tells a value's type. -/
theorem SameType.of_typeName_eq {a b : Value} (same : a.typeName = b.typeName) :
    SameType a b := by
  cases a <;> cases b <;> try first | constructor | (simp [typeName] at same; done)
  -- What is left has a large object on at least one side, and its kind is in the name.
  case largeObject.largeObject kind _ kind' _ =>
    cases kind <;> cases kind' <;>
      first | constructor | simp [typeName, LargeObjectKind.name] at same
  all_goals
    simp only [typeName, LargeObjectKind.name] at same
    split at same <;> simp at same

theorem kindCompare_eq_compare_kindKey {a b : Value} (same : SameType a b) :
    kindCompare a b = compare a.kindKey b.kindKey := by
  have single : ∀ m n : Int, compare [m] [n] = compare m n := fun m n => by
    rw [List.compare_cons_cons, List.compare_nil_nil, Ordering.then_eq]
  cases same with
  | null => rfl
  | boolean a b => cases a <;> cases b <;> rfl
  | tinyInt a b => exact (single _ _).symm
  | smallInt a b => exact (single _ _).symm
  | integer a b => exact (single _ _).symm
  | bigInt a b => exact (single _ _).symm
  | float a b => exact (single _ _).symm
  | double a b => exact (single _ _).symm
  | decimal a b => exact (Decimal.compare_eq_compare a b).trans (single _ _).symm
  | text a b => exact (compare_toList a b).symm.trans (compare_map compare_codePoint _ _).symm
  | date a b =>
      simp only [kindCompare, kindKey, Date.compare, List.compare_cons_cons, List.compare_nil_nil,
        compare_natCast, Ordering.then_eq]
  | time a b =>
      simp only [kindCompare, kindKey, TimeOfDay.compare, List.compare_cons_cons,
        List.compare_nil_nil, compare_natCast, Ordering.then_eq]
  | timestamp a b =>
      simp only [kindCompare, kindKey, Timestamp.compare, Date.compare, TimeOfDay.compare,
        List.compare_cons_cons, List.compare_nil_nil, compare_natCast, Ordering.then_eq,
        Ordering.then_assoc]
  | bytes a b => exact (compare_map compare_byte a b).symm
  | boxedBytes a b => exact (compare_map compare_signedByte a b).symm
  | largeObject kind a b => rfl

theorem isNull_iff {v : Value} : v.isNull = true ↔ v = .null := by
  cases v <;> simp [isNull]

theorem kindRank_eq_zero_iff {v : Value} : v.kindRank = 0 ↔ v = .null := by
  cases v <;> simp [kindRank]

/-- A value that may stand in a column of the type of the given name. -/
def InColumn (typeName : String) (v : Value) : Prop := v.isNull = true ∨ v.typeName = typeName

/-- Two values of one column have one type, or exactly one of them is null. -/
theorem InColumn.sameType {typeName : String} {a b : Value} (first : InColumn typeName a)
    (second : InColumn typeName b) : a.kindRank ≠ b.kindRank ∨ SameType a b := by
  by_cases left : a = .null
  · by_cases right : b = .null
    · rw [left, right]
      exact .inr .null
    · rw [kindRank_eq_zero_iff.mpr left]
      exact .inl fun equal => right (kindRank_eq_zero_iff.mp equal.symm)
  · by_cases right : b = .null
    · rw [kindRank_eq_zero_iff.mpr right]
      exact .inl fun equal => left (kindRank_eq_zero_iff.mp equal)
    · have named := first.resolve_left fun null => left (isNull_iff.mp null)
      have named' := second.resolve_left fun null => right (isNull_iff.mp null)
      exact .inr (.of_typeName_eq (named.trans named'.symm))

/-- Within a column of one type, values are ordered by their keys. -/
theorem sortCompare_eq_compare_sortKey {typeName : String} {a b : Value}
    (first : InColumn typeName a) (second : InColumn typeName b) :
    a.sortCompare b = compare a.sortKey b.sortKey := by
  rw [sortCompare, sortKey, sortKey, List.compare_cons_cons, compare_natCast]
  rcases first.sameType second with differ | same
  · cases ranks : compare a.kindRank b.kindRank with
    | eq => exact absurd (Std.LawfulEqOrd.eq_of_compare ranks) differ
    | lt => rfl
    | gt => rfl
  · rw [kindCompare_eq_compare_kindKey same]

/-! ## Exchange -/

theorem mixedCompare_swap (a b : Value) : a.mixedCompare b = (b.mixedCompare a).swap := by
  have doubles : ∀ x y : Binary64, x.totalCompare y = (y.totalCompare x).swap := fun x y =>
    Std.OrientedOrd.eq_swap (α := Int)
  unfold mixedCompare
  cases a.whole? with
  | some m =>
      cases b.whole? with
      | some n => exact Std.OrientedOrd.eq_swap
      | none =>
          cases a.approximate? <;> cases b.approximate? <;>
            first | exact doubles _ _ | exact Std.OrientedOrd.eq_swap
  | none =>
      cases b.whole? <;> cases a.approximate? <;> cases b.approximate? <;>
        first | exact doubles _ _ | exact Std.OrientedOrd.eq_swap

theorem kindCompare_swap (a b : Value) : kindCompare a b = (kindCompare b a).swap := by
  -- Where a rule of its own applies, both values have one type, and keys decide.
  have keyed : SameType a b → SameType b a → kindCompare a b = (kindCompare b a).swap := by
    intro forth back
    rw [kindCompare_eq_compare_kindKey forth, kindCompare_eq_compare_kindKey back]
    exact Std.OrientedOrd.eq_swap
  fun_cases kindCompare a b with
  | case1 => rfl
  | case2 x y => exact keyed (.boolean x y) (.boolean y x)
  | case3 x y => exact keyed (.decimal x y) (.decimal y x)
  | case4 x y => exact keyed (.text x y) (.text y x)
  | case5 x y => exact keyed (.date x y) (.date y x)
  | case6 x y => exact keyed (.time x y) (.time y x)
  | case7 x y => exact keyed (.timestamp x y) (.timestamp y x)
  | case8 x y => exact keyed (.bytes x y) (.bytes y x)
  | case9 x y => exact keyed (.boxedBytes x y) (.boxedBytes y x)
  | case10 => rfl
  | case11 =>
      have mixed : kindCompare b a = b.mixedCompare a := by
        fun_cases kindCompare b a with
        | case10 =>
            rename_i noObjects
            exact (noObjects _ _ _ _ rfl rfl).elim
        | _ => simp_all
      rw [mixed, mixedCompare_swap]

/-- Exchanging two values reverses their comparison. -/
theorem sortCompare_swap (a b : Value) : a.sortCompare b = (b.sortCompare a).swap := by
  have ranks : compare a.kindRank b.kindRank = (compare b.kindRank a.kindRank).swap :=
    Std.OrientedOrd.eq_swap
  rw [sortCompare, sortCompare, Ordering.swap_then, ← ranks, ← kindCompare_swap]

instance : Std.OrientedCmp sortCompare := ⟨fun {a b} => sortCompare_swap a b⟩

/-- The comparison of values is consistent under exchange: the exchanged values compare the other
way round, and every value is equal to itself, whatever their types. -/
theorem sortCompare_exchange (a b : Value) :
    b.sortCompare a = (a.sortCompare b).swap ∧ a.sortCompare a = .eq :=
  ⟨sortCompare_swap b a, Std.ReflCmp.compare_self⟩

end Value
end QueryRegression
