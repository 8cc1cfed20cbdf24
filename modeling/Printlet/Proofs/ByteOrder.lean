/-
Printlet.Proofs.ByteOrder — texts in the order of their bytes.

Two texts compare by the first character in which they differ, their bytes in UTF-8
by the first byte. Both give the same order (`Bytes.ofText_lt`). A character is
written as its number to the base 64, most significant digits first, with a first
byte that is the larger the more digits follow (`utf8EncodeChar_eq`). So of two
characters the first bytes decide (`lead_le`), or else the first digit that differs
(`digits_append_lt`).
-/
import Mathlib.Data.String.Basic
import Mathlib.Tactic.SplitIfs
import Printlet.Bytes.Basic

namespace Printlet

namespace Bytes

/-! ## Digits -/

/-- The first byte decides, unless it is the same. -/
theorem cons_ofNat_lt {a b : Nat} {s t : Bytes} (hb : b < 256) (hle : a ≤ b) (h : a = b → s < t) :
    UInt8.ofNat a :: s < UInt8.ofNat b :: t := by
  rw [List.cons_lt_cons_iff]
  rcases Nat.lt_or_eq_of_le hle with hlt | rfl
  · refine .inl ?_
    rw [UInt8.lt_iff_toNat_lt, UInt8.toNat_ofNat', UInt8.toNat_ofNat']
    omega
  · exact .inr ⟨rfl, h rfl⟩

/-- The last `k` digits of a number to the base 64, each in a byte. -/
def digits : (k : Nat) → Nat → Bytes
  | 0, _ => []
  | k + 1, v => UInt8.ofNat (v / 64 ^ k % 64 + 128) :: digits k v

/-- Of equally many digits the first that differs decides. -/
theorem digits_append_lt {k v w : Nat} (h : v % 64 ^ k < w % 64 ^ k) (s t : Bytes) :
    digits k v ++ s < digits k w ++ t := by
  induction k with
  | zero => simp [Nat.mod_one] at h
  | succ k ih =>
    rw [Nat.mod_pow_succ, Nat.mod_pow_succ] at h
    have hw : w % 64 ^ k < 64 ^ k := Nat.mod_lt _ (Nat.pow_pos (by decide))
    rw [digits, digits, List.cons_append, List.cons_append]
    apply cons_ofNat_lt (by omega)
    · rw [Nat.add_le_add_iff_right]
      refine Nat.le_of_not_lt fun hlt => ?_
      have hmul := Nat.mul_le_mul_left (64 ^ k) hlt
      rw [Nat.mul_succ] at hmul
      omega
    · intro heq
      rw [Nat.add_right_cancel heq] at h
      exact ih (Nat.lt_of_add_lt_add_right h)

/-! ## Characters -/

/-- How many bytes follow the first byte of a character. -/
def following (v : Nat) : Nat :=
  if v ≤ 0x7f then 0 else if v ≤ 0x7ff then 1 else if v ≤ 0xffff then 2 else 3

/-- The first byte of a character: the leading digits to the base 64, behind a mark
that tells how many digits follow. -/
def lead (v : Nat) : Nat :=
  if v ≤ 0x7f then v else if v ≤ 0x7ff then 0xc0 + v / 64
  else if v ≤ 0xffff then 0xe0 + v / 64 ^ 2 else 0xf0 + v / 64 ^ 3

theorem lt_of_valid (c : Char) : c.val.toNat < 0x110000 := by
  rcases c.valid with hlow | ⟨-, hhigh⟩ <;> omega

theorem utf8EncodeChar_eq (c : Char) :
    String.utf8EncodeChar c =
      UInt8.ofNat (lead c.val.toNat) :: digits (following c.val.toNat) c.val.toNat := by
  have hvalid := lt_of_valid c
  simp only [String.utf8EncodeChar, lead, following]
  generalize c.val.toNat = v at hvalid
  split_ifs
  · simp [digits]
  · have hmask : v / 64 % 32 = v / 64 := by omega
    simp [digits, hmask, Nat.add_comm]
  · have hmask : v / 4096 % 16 = v / 4096 := by omega
    simp [digits, hmask, Nat.add_comm]
  · have hmask : v / 262144 % 8 = v / 262144 := by omega
    simp [digits, hmask, Nat.add_comm]

/-- First bytes are in the order of the characters, and two that are the same stand
for the same leading digits. -/
theorem lead_le {v w : Nat} (h : v < w) (hw : w < 0x110000) :
    lead v ≤ lead w ∧ lead w < 256 ∧ (lead v = lead w →
      following v = following w ∧ v / 64 ^ following v = w / 64 ^ following v) := by
  simp only [lead, following]
  split_ifs <;> omega

/-- Of two characters the smaller one has the smaller bytes, whatever follows. -/
theorem utf8EncodeChar_append_lt {c d : Char} (h : c < d) (s t : Bytes) :
    String.utf8EncodeChar c ++ s < String.utf8EncodeChar d ++ t := by
  have hlt : c.val.toNat < d.val.toNat := UInt32.lt_iff_toNat_lt.mp (Char.lt_def.mp h)
  have hvalid := lt_of_valid d
  rw [utf8EncodeChar_eq, utf8EncodeChar_eq, List.cons_append, List.cons_append]
  generalize c.val.toNat = v at hlt
  generalize d.val.toNat = w at hlt hvalid
  obtain ⟨hle, hbyte, hsame⟩ := lead_le hlt hvalid
  refine cons_ofNat_lt hbyte hle fun heq => ?_
  obtain ⟨hcount, hfront⟩ := hsame heq
  rw [← hcount]
  apply digits_append_lt
  have hv := Nat.div_add_mod v (64 ^ following v)
  have hw := Nat.div_add_mod w (64 ^ following v)
  rw [hfront] at hv
  omega

/-! ## Texts -/

theorem flatMap_utf8EncodeChar_lt {cs ds : List Char} (h : cs < ds) :
    cs.flatMap String.utf8EncodeChar < ds.flatMap String.utf8EncodeChar := by
  induction cs generalizing ds with
  | nil =>
    cases ds with
    | nil => exact absurd h (List.lt_irrefl [])
    | cons d ds =>
      rw [List.flatMap_nil, List.flatMap_cons]
      cases hbytes : String.utf8EncodeChar d with
      | nil => exact absurd hbytes String.utf8EncodeChar_ne_nil
      | cons b bs => exact List.nil_lt_cons _ _
  | cons c cs ih =>
    cases ds with
    | nil => exact absurd h (List.not_lt_nil _)
    | cons d ds =>
      rw [List.flatMap_cons, List.flatMap_cons]
      rcases List.cons_lt_cons_iff.mp h with hlt | ⟨rfl, hrest⟩
      · exact utf8EncodeChar_append_lt hlt _ _
      · exact List.append_left_lt (ih hrest)

theorem ofText_eq_flatMap (text : String) :
    ofText text = text.toList.flatMap String.utf8EncodeChar := by
  rw [ofText, String.toUTF8_eq_toByteArray, ← String.utf8Encode_toList, List.utf8Encode,
    List.data_toByteArray]

/-- **UTF-8 keeps the order.** -/
theorem ofText_lt {s t : String} (h : s < t) : ofText s < ofText t := by
  rw [ofText_eq_flatMap, ofText_eq_flatMap]
  exact flatMap_utf8EncodeChar_lt (String.lt_iff_toList_lt.mp h)

end Bytes

end Printlet
