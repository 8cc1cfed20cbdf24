/-
Printlet.CodeUnit.Varint — numbers in as few bytes as they need.

A number is written in groups of seven bits, least significant first, one group a byte; every byte but
the last has its high bit set. A reader is told how many bytes a number may take and how large the last
of these may be, which bounds the number. It accepts more groups than needed, as long as they fit.
-/
import Printlet.Bytes.Basic

namespace Printlet

/-- Why bytes are not the image of a unit. -/
inductive ImageError where
  | unexpectedEnd
  | badVarint
  | badText
  | badTag
  deriving DecidableEq, Repr

/-- What a complaint about an image says. -/
def ImageError.message : ImageError → String
  | .unexpectedEnd => "Hit the end of buffer, expected more data"
  | .badVarint =>
    "Found a varint that didn't terminate. Is the usize too big for this platform?"
  | .badText => "Tried to parse invalid utf-8"
  | .badTag => "Serde Deserialization Error"

namespace Varint

/-- How many bytes a number may take, and the largest last byte if it takes them all. -/
structure Width where
  bytes : Nat
  last : Nat
  deriving DecidableEq, Repr

/-- Numbers of sixteen bits. -/
def word16 : Width := ⟨3, 3⟩

/-- Numbers of thirty-two bits. -/
def word32 : Width := ⟨5, 15⟩

/-- Numbers of sixty-four bits. -/
def word64 : Width := ⟨10, 1⟩

/-- A number as bytes. -/
def encode (n : Nat) : Bytes :=
  if n < 128 then [UInt8.ofNat n] else UInt8.ofNat (n % 128 + 128) :: encode (n / 128)
termination_by n

/-- Reads at most `left` groups, of which the last possible one is at most `last`. -/
def decodeGroups (last : Nat) : (left : Nat) → Bytes → Except ImageError (Nat × Bytes)
  | 0, _ => .error .badVarint
  | _ + 1, [] => .error .unexpectedEnd
  | left + 1, b :: bs =>
    if b.toNat < 128 then
      if left = 0 && last < b.toNat then .error .badVarint else .ok (b.toNat, bs)
    else
      match decodeGroups last left bs with
      | .ok (n, rest) => .ok (b.toNat - 128 + 128 * n, rest)
      | .error e => .error e

/-- The number at the front of a row of bytes, and the rest. -/
def decode (width : Width) (bs : Bytes) : Except ImageError (Nat × Bytes) :=
  decodeGroups width.last width.bytes bs

end Varint

end Printlet
