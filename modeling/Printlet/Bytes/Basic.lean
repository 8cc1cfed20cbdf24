/-
Printlet.Bytes.Basic — rows of bytes.

Numbers of a fixed width are written with the least significant byte first; texts are written in
UTF-8. Readers take a row of bytes and return what is left of it, and refuse a row that is too short.
-/

namespace Printlet

/-- A row of bytes. -/
abbrev Bytes := List UInt8

namespace Bytes

/-- The first `n` bytes and the rest, if there are that many. -/
def split? : Nat → Bytes → Option (Bytes × Bytes)
  | 0, bs => some ([], bs)
  | _ + 1, [] => none
  | n + 1, b :: bs => (split? n bs).map fun (front, rest) => (b :: front, rest)

/-- Splitting off takes the asked number of bytes, and loses none. -/
theorem length_of_split? {n : Nat} {bs front rest : Bytes}
    (h : split? n bs = some (front, rest)) : front.length = n ∧ front ++ rest = bs := by
  induction n generalizing bs front with
  | zero => simp_all [split?]
  | succ n ih =>
    cases bs with
    | nil => simp [split?] at h
    | cons b bs =>
      simp only [split?, Option.map_eq_some_iff] at h
      obtain ⟨⟨front, rest⟩, read, same⟩ := h
      obtain ⟨rfl, rfl⟩ := by simpa using same
      obtain ⟨size, whole⟩ := ih read
      simp [size, whole]

/-! ## Numbers -/

/-- The lowest `width` bytes of a number, least significant first. -/
def ofNat : (width : Nat) → Nat → Bytes
  | 0, _ => []
  | width + 1, n => UInt8.ofNat (n % 256) :: ofNat width (n / 256)

/-- The number that a row of bytes denotes, least significant first. -/
def toNat : Bytes → Nat
  | [] => 0
  | b :: bs => b.toNat + 256 * toNat bs

/-- A number of `width` bytes at the front of a row, and the rest. -/
def readNat? (width : Nat) (bs : Bytes) : Option (Nat × Bytes) :=
  (split? width bs).map fun (front, rest) => (toNat front, rest)

/-- Reading a number takes its width off the front. -/
theorem length_of_readNat? {width n : Nat} {bs rest : Bytes}
    (h : readNat? width bs = some (n, rest)) : rest.length + width = bs.length := by
  simp only [readNat?, Option.map_eq_some_iff] at h
  obtain ⟨⟨front, rest⟩, read, same⟩ := h
  obtain ⟨rfl, rfl⟩ := by simpa using same
  obtain ⟨size, rfl⟩ := length_of_split? read
  simp only [List.length_append]
  omega

/-! ## Texts -/

/-- A text in UTF-8. -/
def ofText (s : String) : Bytes :=
  s.toUTF8.data.toList

/-- The text that a row of bytes spells in UTF-8, if it spells one. -/
def toText? (bs : Bytes) : Option String :=
  String.fromUTF8? ⟨bs.toArray⟩

end Bytes

end Printlet
