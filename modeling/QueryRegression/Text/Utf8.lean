/-!
# Reading UTF-8

`decode` reads a byte sequence as text. Where it is not well formed, the fault names the number of
bytes before the first ill-formed sequence and how long that sequence is: the bytes that could
still have begun a character, but at least one. A sequence that the end of the input cuts off is
incomplete.
-/

namespace QueryRegression.Text.Utf8

/-- Why bytes are not well-formed UTF-8. -/
inductive Fault where
  /-- `length` bytes from the given index on are no beginning of a character. -/
  | invalid (length index : Nat)
  /-- The input ends inside the character that begins at the index. -/
  | incomplete (index : Nat)
deriving DecidableEq

/-- The wording of a fault. -/
def Fault.message : Fault → String
  | .invalid length index => s!"invalid utf-8 sequence of {length} bytes from index {index}"
  | .incomplete index => s!"incomplete utf-8 byte sequence from index {index}"

/-- What the first byte of a character beyond ASCII promises. -/
structure Lead where
  /-- The number of bytes that follow. -/
  count : Nat
  /-- The bounds of the byte that follows first. -/
  low : Nat
  high : Nat
  /-- The bits of the code point in the first byte. -/
  bits : Nat

/-- The promise of a first byte from `0x80` on; `none` if no character begins with it. -/
def lead? (b : Nat) : Option Lead :=
  if b < 0xC2 then none
  else if b < 0xE0 then some ⟨1, 0x80, 0xBF, b - 0xC0⟩
  else if b = 0xE0 then some ⟨2, 0xA0, 0xBF, 0⟩
  else if b = 0xED then some ⟨2, 0x80, 0x9F, 0xD⟩
  else if b < 0xF0 then some ⟨2, 0x80, 0xBF, b - 0xE0⟩
  else if b = 0xF0 then some ⟨3, 0x90, 0xBF, 0⟩
  else if b < 0xF4 then some ⟨3, 0x80, 0xBF, b - 0xF0⟩
  else if b = 0xF4 then some ⟨3, 0x80, 0x8F, 4⟩
  else none

/-- Reads `count` bytes that follow a first byte, the first of them within the bounds. The result
is the code point, or the number of bytes read when one was wrong, or `none` there at the end of
the input. -/
def follow (count low high bits : Nat) (read : Nat) : List UInt8 → Except (Option Nat) Nat
  | rest =>
    match count, rest with
    | 0, _ => .ok bits
    | _ + 1, [] => .error none
    | n + 1, b :: rest =>
      if low ≤ b.toNat ∧ b.toNat ≤ high then
        follow n 0x80 0xBF (bits * 64 + b.toNat % 64) (read + 1) rest
      else .error (some read)

/-- Reads the bytes from the given index on. -/
def decodeFrom (index : Nat) : List UInt8 → Except Fault (List Char)
  | [] => .ok []
  | b :: rest =>
    if b.toNat < 0x80 then do
      return Char.ofNat b.toNat :: (← decodeFrom (index + 1) rest)
    else
      match lead? b.toNat with
      | none => .error (.invalid 1 index)
      | some lead =>
        match follow lead.count lead.low lead.high lead.bits 1 rest with
        | .error none => .error (.incomplete index)
        | .error (some read) => .error (.invalid read index)
        | .ok code => do
          return Char.ofNat code :: (← decodeFrom (index + 1 + lead.count) (rest.drop lead.count))
termination_by bytes => bytes.length
decreasing_by
  · simp only [List.length_cons]; omega
  · simp only [List.length_cons, List.length_drop]; omega

/-- The text that the bytes spell. -/
def decode (bytes : List UInt8) : Except Fault String := do
  return .ofList (← decodeFrom 0 bytes)

end QueryRegression.Text.Utf8
