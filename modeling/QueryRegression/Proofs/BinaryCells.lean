import QueryRegression.Proofs.Base64Encoding
import QueryRegression.Proofs.SelfComparison

/-!
# Binary cells

Bytes reach a comparison in three forms, and are expected in three forms. On the actual side they
are encoded to be comparable, on the expected side to be shown as text.

* `Value.HoldsBytes`, `Value.ShowsBytes`: the forms of an actual and of an expected value.
* `CellPosition.compareCell_binary`: cells of bytes match if and only if the bytes are the same.
-/

namespace QueryRegression

/-! ## Forms of bytes -/

/-- The signed numbers of the same bits. -/
def boxBytes (bytes : List UInt8) : List Int8 := bytes.map UInt8.toInt8

theorem unboxBytes_boxBytes (bytes : List UInt8) : unboxBytes (boxBytes bytes) = bytes := by
  rw [unboxBytes, boxBytes, List.map_map]
  have same : Int8.toUInt8 ∘ UInt8.toInt8 = id := funext UInt8.toUInt8_toInt8
  rw [same, List.map_id]

namespace Value

/-- An actual value of the given bytes: the bytes, the same as signed numbers, or a binary object
that reads as them. -/
inductive HoldsBytes (content : List UInt8) : Value → Prop
  | bytes : HoldsBytes content (.bytes content)
  | boxedBytes : HoldsBytes content (.boxedBytes (boxBytes content))
  | blob (o : LargeObject) (read : o.readBytes = .ok content) :
    HoldsBytes content (.largeObject .blob o)

/-- An expected value of the given bytes: the bytes, the same as signed numbers, or a text that
encodes them. -/
inductive ShowsBytes (content : List UInt8) : Value → Prop
  | bytes : ShowsBytes content (.bytes content)
  | boxedBytes : ShowsBytes content (.boxedBytes (boxBytes content))
  | text (s : String) (encoding : Text.Base64.IsEncoding content s.toList) :
    ShowsBytes content (.text s)

variable {x y : List UInt8} {actual expected : Value}

/-- Bytes on the actual side are compared as their encoding. -/
theorem HoldsBytes.textForm? (holds : HoldsBytes x actual) :
    actual.textForm? = .ok (some (Text.Base64.encode x)) := by
  cases holds with
  | bytes => rfl
  | boxedBytes => rw [Value.textForm?, unboxBytes_boxBytes]
  | blob o read =>
      rw [Value.textForm?, readLargeObject, read]
      rfl

/-- Bytes on the expected side are shown as their encoding. -/
theorem ShowsBytes.asText (shows : ShowsBytes y expected) :
    expected.asText = .text (Text.Base64.encode y) := by
  cases shows with
  | bytes => rfl
  | boxedBytes =>
      rw [Value.asText, toText, unboxBytes_boxBytes]
      · exact nofun
      · exact nofun
  | text s encoding =>
      rw [Text.Base64.isEncoding_iff] at encoding
      rw [Value.asText, Text.Base64.encode, ← encoding, String.ofList_toList]

theorem ShowsBytes.isNull (shows : ShowsBytes y expected) : expected.isNull = false := by
  cases shows <;> rfl

end Value

/-! ## Cells -/

/-- Cells of bytes match if and only if the bytes are the same, in whichever form they were
delivered and whichever is expected. -/
theorem CellPosition.compareCell_binary (policy : Policy) (p : CellPosition) {x y : List UInt8}
    {actual expected : Value} (holds : actual.HoldsBytes x) (shows : expected.ShowsBytes y) :
    p.compareCell policy actual expected = .ok none ↔ x = y := by
  rw [← Value.matches_iff p, Value.matches_iff_asText_eq holds.textForm? shows.isNull,
    shows.asText, Value.text.injEq]
  constructor
  · intro encodings
    exact (Text.Base64.encode_injective encodings).symm
  · intro same
    rw [same]

/-- A binary object that reads as two bytes matches the same bytes as signed numbers, and does not
match a text that encodes other ones. -/
theorem CellPosition.compareCell_binary_two_bytes :
    let p : CellPosition := ⟨1, 1, 1, 1⟩
    let blob : Value := .largeObject .blob ⟨7, .ok [104, 255]⟩
    blob.HoldsBytes [104, 255] ∧ (Value.boxedBytes [104, -1]).ShowsBytes [104, 255] ∧
      p.compareCell .exact blob (.boxedBytes [104, -1]) = .ok none ∧
      (Value.text "aP4=").ShowsBytes [104, 254] ∧
      p.compareCell .exact blob (.text "aP4=") ≠ .ok none := by
  intro p blob
  have holds : blob.HoldsBytes [104, 255] := .blob _ rfl
  have boxed : (Value.boxedBytes [104, -1]).ShowsBytes [104, 255] := .boxedBytes
  have encoding : Text.Base64.IsEncoding [104, 254] "aP4=".toList :=
    Text.Base64.isEncoding_iff.mpr (by decide)
  have text : (Value.text "aP4=").ShowsBytes [104, 254] := .text _ encoding
  refine ⟨holds, boxed, (compareCell_binary .exact p holds boxed).mpr rfl, text, ?_⟩
  intro matching
  have same := (compareCell_binary .exact p holds text).mp matching
  exact absurd same (by decide)

end QueryRegression
