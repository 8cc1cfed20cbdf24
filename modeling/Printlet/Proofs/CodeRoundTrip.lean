/-
Printlet.Proofs.CodeRoundTrip — code survives being written as bytes.

`Bytes.readNat?_ofNat` reads a number of fixed width back from the front of a
row, with anything behind it. From it comes `decode?_encode_append` for one
instruction and `decodeAll_encodeAll` for a whole text: what was written is
read back, each instruction at the offset where the sizes of those before it
add up. `placeFrom` is that layout, and `getElem?_placeFrom` says the offset
outright.
-/
import Mathlib.Algebra.Group.Nat.Defs
import Printlet.Instruction.Encoding

namespace Printlet

/-! ## Numbers of fixed width -/

namespace Bytes

theorem split?_append (front rest : Bytes) :
    split? front.length (front ++ rest) = some (front, rest) := by
  induction front with
  | nil => rfl
  | cons b front ih => simp [split?, ih]

@[simp] theorem length_ofNat (width n : Nat) : (ofNat width n).length = width := by
  induction width generalizing n with
  | zero => rfl
  | succ width ih => simp [ofNat, ih]

theorem toNat_ofNat (width n : Nat) (h : n < 256 ^ width) : toNat (ofNat width n) = n := by
  induction width generalizing n with
  | zero =>
    have hz : n = 0 := by simpa using h
    rw [hz]; rfl
  | succ width ih =>
    have hrest : n / 256 < 256 ^ width := by
      rw [Nat.div_lt_iff_lt_mul (by decide), ← Nat.pow_succ]
      exact h
    rw [ofNat, toNat, ih (n / 256) hrest]
    have hbyte : (UInt8.ofNat (n % 256)).toNat = n % 256 := by
      rw [UInt8.toNat_ofNat']
      omega
    rw [hbyte]
    omega

/-- A number that fits its width is read back from the front of any row. -/
theorem readNat?_ofNat (width n : Nat) (rest : Bytes) (h : n < 256 ^ width) :
    readNat? width (ofNat width n ++ rest) = some (n, rest) := by
  have hsplit := split?_append (ofNat width n) rest
  rw [length_ofNat] at hsplit
  simp only [readNat?, hsplit, Option.map_some, toNat_ofNat width n h]

end Bytes

namespace Instruction

/-! ## One instruction -/

theorem code_lt (i : Instruction) : i.code < 256 ^ 2 := by
  cases i with
  | arith op => cases op <;> decide
  | _ => simp [code]

/-- The code of an instruction tells its operand apart from what follows. -/
theorem decodeOperand?_operandBytes (i : Instruction) (rest : Bytes) :
    decodeOperand? i.code (i.operandBytes ++ rest) = some (i, rest) := by
  cases i with
  | pushInt value =>
    have h : value.toUInt64.toNat < 256 ^ 8 := UInt64.toNat_lt _
    simp only [code, operandBytes, decodeOperand?, Bytes.readNat?_ofNat _ _ _ h, Option.map_some]
    rw [UInt64.ofNat_toNat]
    rfl
  | pushConst index =>
    have h : index.toNat < 256 ^ 4 := UInt32.toNat_lt _
    simp only [code, operandBytes, decodeOperand?, Bytes.readNat?_ofNat _ _ _ h, Option.map_some,
      UInt32.ofNat_toNat]
  | loadLocal slot =>
    have h : slot.toNat < 256 ^ 2 := UInt16.toNat_lt _
    simp only [code, operandBytes, decodeOperand?, Bytes.readNat?_ofNat _ _ _ h, Option.map_some,
      UInt16.ofNat_toNat]
  | storeLocal slot =>
    have h : slot.toNat < 256 ^ 2 := UInt16.toNat_lt _
    simp only [code, operandBytes, decodeOperand?, Bytes.readNat?_ofNat _ _ _ h, Option.map_some,
      UInt16.ofNat_toNat]
  | arith op => cases op <;> rfl
  | getStdout => rfl
  | println => rfl
  | ret => rfl

/-- A written instruction is read back from the front of any row. -/
theorem decode?_encode_append (i : Instruction) (rest : Bytes) :
    decode? (i.encode ++ rest) = some (i, rest) := by
  rw [encode, List.append_assoc, decode?, Bytes.readNat?_ofNat 2 i.code _ i.code_lt]
  exact decodeOperand?_operandBytes i rest

theorem length_encode (i : Instruction) : i.encode.length = i.size := by
  cases i <;> simp [encode, operandBytes, size]

/-! ## Whole texts -/

/-- Code with the offset of each instruction, the first at `offset`. -/
def placeFrom (offset : Nat) : List Instruction → List Placed
  | [] => []
  | i :: code => (offset, i) :: placeFrom (offset + i.size) code

/-- The number of bytes of some code. -/
def sizeAll : List Instruction → Nat
  | [] => 0
  | i :: code => i.size + sizeAll code

theorem length_encodeAll (code : List Instruction) : (encodeAll code).length = sizeAll code := by
  induction code with
  | nil => rfl
  | cons i code ih =>
    rw [encodeAll, List.flatMap_cons, List.length_append, length_encode, sizeAll, ← ih, encodeAll]

theorem map_snd_placeFrom (offset : Nat) (code : List Instruction) :
    (placeFrom offset code).map Prod.snd = code := by
  induction code generalizing offset with
  | nil => rfl
  | cons i code ih => rw [placeFrom, List.map_cons, ih]

/-- Each instruction stands where the sizes of those before it add up. -/
theorem getElem?_placeFrom (offset : Nat) (code : List Instruction) (k : Nat) :
    (placeFrom offset code)[k]? =
      code[k]?.map fun i => (offset + sizeAll (code.take k), i) := by
  induction code generalizing offset k with
  | nil => simp [placeFrom]
  | cons i code ih =>
    cases k with
    | zero => simp [placeFrom, sizeAll]
    | succ k =>
      have hsum : offset + sizeAll (i :: code.take k) =
          offset + i.size + sizeAll (code.take k) := by
        rw [sizeAll, Nat.add_assoc]
      rw [placeFrom, List.getElem?_cons_succ, List.getElem?_cons_succ, List.take_succ_cons, hsum]
      exact ih (offset + i.size) k

theorem encodeAll_cons (i : Instruction) (code : List Instruction) :
    encodeAll (i :: code) = i.encode ++ encodeAll code :=
  List.flatMap_cons

/-- Code that starts with an instruction is read from there on. -/
theorem decodeFrom_of_decode? (offset : Nat) {bs rest : Bytes} {i : Instruction}
    (h : decode? bs = some (i, rest)) :
    decodeFrom offset bs =
      match decodeFrom (offset + i.size) rest with
      | .ok placed => .ok ((offset, i) :: placed)
      | .error stuck => .error stuck := by
  have hne : ¬ bs.isEmpty = true := by
    intro hempty
    rw [List.isEmpty_iff.mp hempty] at h
    cases h
  rw [decodeFrom, if_neg hne]
  split
  next hnone => rw [h] at hnone; cases hnone
  next j rest' hsome =>
    rw [h] at hsome
    cases hsome
    rfl

theorem decodeFrom_of_decode?_none (offset : Nat) {bs : Bytes} (hne : ¬ bs.isEmpty = true)
    (h : decode? bs = none) : decodeFrom offset bs = .error offset := by
  rw [decodeFrom, if_neg hne]
  split
  next => rfl
  next hsome => rw [h] at hsome; cases hsome

theorem decodeFrom_encodeAll (offset : Nat) (code : List Instruction) :
    decodeFrom offset (encodeAll code) = .ok (placeFrom offset code) := by
  induction code generalizing offset with
  | nil => rw [decodeFrom]; rfl
  | cons i code ih =>
    rw [encodeAll_cons, decodeFrom_of_decode? offset (decode?_encode_append i (encodeAll code)), ih]
    rfl

/-- A written text is read back whole. -/
theorem decodeAll_encodeAll (code : List Instruction) :
    decodeAll (encodeAll code) = .ok (placeFrom 0 code) :=
  decodeFrom_encodeAll 0 code

/-! ## What is read was written -/

end Instruction

namespace Bytes

theorem toNat_lt (bs : Bytes) : toNat bs < 256 ^ bs.length := by
  induction bs with
  | nil => exact Nat.one_pos
  | cons b bs ih =>
    have hb := b.toNat_lt
    rw [toNat, List.length_cons, Nat.pow_succ]
    omega

theorem ofNat_toNat (bs : Bytes) : ofNat bs.length (toNat bs) = bs := by
  induction bs with
  | nil => rfl
  | cons b bs ih =>
    have hb := b.toNat_lt
    have hlow : (b.toNat + 256 * toNat bs) % 256 = b.toNat := by omega
    have hhigh : (b.toNat + 256 * toNat bs) / 256 = toNat bs := by omega
    rw [List.length_cons, toNat, ofNat, hlow, hhigh, ih, UInt8.ofNat_toNat]

/-- A number that is read stands at the front of the row, written at its width. -/
theorem readNat?_sound {width n : Nat} {bs rest : Bytes} (h : readNat? width bs = some (n, rest)) :
    bs = ofNat width n ++ rest ∧ n < 256 ^ width := by
  obtain ⟨⟨front, rest'⟩, hsplit, heq⟩ := Option.map_eq_some_iff.mp h
  cases heq
  obtain ⟨rfl, rfl⟩ := length_of_split? hsplit
  rw [ofNat_toNat]
  exact ⟨rfl, toNat_lt front⟩

end Bytes

namespace Instruction

theorem decodeOperand?_sound {n : Nat} {bs rest : Bytes} {i : Instruction}
    (h : decodeOperand? n bs = some (i, rest)) : i.code = n ∧ bs = i.operandBytes ++ rest := by
  unfold decodeOperand? at h
  split at h
  case h_1 =>
    obtain ⟨⟨value, rest'⟩, hread, heq⟩ := Option.map_eq_some_iff.mp h
    cases heq
    obtain ⟨rfl, hlt⟩ := Bytes.readNat?_sound hread
    have hvalue : (UInt64.ofNat value).toInt64.toUInt64.toNat = value :=
      UInt64.toNat_ofNat_of_lt' hlt
    rw [operandBytes, hvalue]
    exact ⟨rfl, rfl⟩
  case h_2 =>
    obtain ⟨⟨index, rest'⟩, hread, heq⟩ := Option.map_eq_some_iff.mp h
    cases heq
    obtain ⟨rfl, hlt⟩ := Bytes.readNat?_sound hread
    rw [operandBytes, UInt32.toNat_ofNat_of_lt' hlt]
    exact ⟨rfl, rfl⟩
  case h_3 | h_4 =>
    obtain ⟨⟨slot, rest'⟩, hread, heq⟩ := Option.map_eq_some_iff.mp h
    cases heq
    obtain ⟨rfl, hlt⟩ := Bytes.readNat?_sound hread
    rw [operandBytes, UInt16.toNat_ofNat_of_lt' hlt]
    exact ⟨rfl, rfl⟩
  case h_12 => cases h
  all_goals
    cases h
    exact ⟨rfl, rfl⟩

/-- An instruction that is read stands at the front of the row. -/
theorem decode?_sound {bs rest : Bytes} {i : Instruction} (h : decode? bs = some (i, rest)) :
    bs = i.encode ++ rest := by
  simp only [decode?, Option.bind_eq_bind, Option.bind_eq_some_iff] at h
  obtain ⟨⟨n, body⟩, hcode, hoperand⟩ := h
  obtain ⟨rfl, -⟩ := Bytes.readNat?_sound hcode
  obtain ⟨rfl, rfl⟩ := decodeOperand?_sound hoperand
  rw [encode, List.append_assoc]

/-- What reading can end with: the whole row is code, or code stands before bytes
that start no instruction. -/
theorem decodeFrom_sound (offset : Nat) (bs : Bytes) :
    match decodeFrom offset bs with
    | .ok placed => ∃ code, bs = encodeAll code ∧ placed = placeFrom offset code
    | .error stuck => ∃ code rest, bs = encodeAll code ++ rest ∧ rest ≠ [] ∧
        decode? rest = none ∧ stuck = offset + sizeAll code := by
  induction offset, bs using decodeFrom.induct with
  | case1 offset bs hempty =>
    rw [decodeFrom, if_pos hempty]
    exact ⟨[], List.isEmpty_iff.mp hempty, rfl⟩
  | case2 offset bs hempty hnone =>
    rw [decodeFrom_of_decode?_none offset hempty hnone]
    exact ⟨[], bs, rfl, fun hnil => hempty (List.isEmpty_iff.mpr hnil), hnone, rfl⟩
  | case3 offset bs hempty i rest hsome _ placed hrest ih =>
    rw [hrest] at ih
    rw [decodeFrom_of_decode? offset hsome, hrest]
    obtain ⟨code, rfl, rfl⟩ := ih
    exact ⟨i :: code, by rw [encodeAll_cons, decode?_sound hsome], rfl⟩
  | case4 offset bs hempty i rest hsome _ stuck hrest ih =>
    rw [hrest] at ih
    rw [decodeFrom_of_decode? offset hsome, hrest]
    obtain ⟨code, tail, rfl, hne, hnone, rfl⟩ := ih
    refine ⟨i :: code, tail, ?_, hne, hnone, ?_⟩
    · rw [encodeAll_cons, List.append_assoc, decode?_sound hsome]
    · rw [sizeAll, Nat.add_assoc]

/-- A text is read as code if and only if it is that code, written. -/
theorem decodeAll_eq_ok_iff {text : Bytes} {placed : List Placed} :
    decodeAll text = .ok placed ↔ ∃ code, text = encodeAll code ∧ placed = placeFrom 0 code := by
  constructor
  · intro h
    have hsound := decodeFrom_sound 0 text
    rw [show decodeFrom 0 text = .ok placed from h] at hsound
    exact hsound
  · rintro ⟨code, rfl, rfl⟩
    exact decodeAll_encodeAll code

/-- Where reading gets stuck there are bytes left. -/
theorem lt_length_of_decodeAll_error {text : Bytes} {stuck : Nat}
    (h : decodeAll text = .error stuck) : stuck < text.length := by
  have hsound := decodeFrom_sound 0 text
  rw [show decodeFrom 0 text = .error stuck from h] at hsound
  obtain ⟨code, rest, rfl, hne, -, rfl⟩ := hsound
  have hrest := List.length_pos_iff.mpr hne
  rw [List.length_append, length_encodeAll]
  omega

theorem add_size_le_of_mem_placeFrom {offset place : Nat} {i : Instruction}
    {code : List Instruction} (h : (place, i) ∈ placeFrom offset code) :
    place + i.size ≤ offset + sizeAll code := by
  induction code generalizing offset with
  | nil => cases h
  | cons j code ih =>
    rw [sizeAll]
    rcases List.mem_cons.mp h with heq | hrest
    · cases heq
      omega
    · have hle := ih hrest
      omega

theorem sizeOfCode?_code (i : Instruction) : sizeOfCode? i.code = some i.size := by
  cases i with
  | arith op => cases op <;> rfl
  | _ => rfl

/-- **Code and text.** Writing and reading are inverse to each other between rows
of instructions and the texts that can be read. The `k`-th instruction stands
where the sizes of those before it add up, within the text; where reading gets
stuck there are bytes left; and one instruction is told apart from whatever
follows it, its size being that of its bytes and of its code. -/
theorem encodeAll_decodeAll_inverse :
    (∀ code : List Instruction, ∃ placed, decodeAll (encodeAll code) = .ok placed ∧
      placed.map Prod.snd = code ∧
      ∀ k : Nat, placed[k]? = code[k]?.map fun i => (sizeAll (code.take k), i)) ∧
    (∀ text placed, decodeAll text = .ok placed →
      encodeAll (placed.map Prod.snd) = text ∧
      ∀ place i, (place, i) ∈ placed → place + i.size ≤ text.length) ∧
    (∀ text stuck, decodeAll text = .error stuck → stuck < text.length) ∧
    ∀ (i : Instruction) (rest : Bytes), decode? (i.encode ++ rest) = some (i, rest) ∧
      i.encode.length = i.size ∧ sizeOfCode? i.code = some i.size := by
  refine ⟨fun code => ?_, fun text placed h => ?_, fun text stuck h => ?_, fun i rest => ?_⟩
  · refine ⟨placeFrom 0 code, decodeAll_encodeAll code, map_snd_placeFrom 0 code, fun k => ?_⟩
    simpa using getElem?_placeFrom 0 code k
  · obtain ⟨code, rfl, rfl⟩ := decodeAll_eq_ok_iff.mp h
    refine ⟨by rw [map_snd_placeFrom], fun place i hmem => ?_⟩
    rw [length_encodeAll]
    simpa using add_size_le_of_mem_placeFrom hmem
  · exact lt_length_of_decodeAll_error h
  · exact ⟨decode?_encode_append i rest, length_encode i, sizeOfCode?_code i⟩

/-- The smallest number and the largest index, in a text that is read. -/
theorem encodeAll_decodeAll_inverse_extremes :
    ∃ placed, decodeAll [0, 0, 0, 0, 0, 0, 0, 0, 0, 128, 1, 0, 255, 255, 255, 255, 10, 0] =
        .ok placed ∧
      placed = [(0, .pushInt (-9223372036854775808)), (10, .pushConst 4294967295), (16, .ret)] ∧
      encodeAll (placed.map Prod.snd) =
        [0, 0, 0, 0, 0, 0, 0, 0, 0, 128, 1, 0, 255, 255, 255, 255, 10, 0] := by
  have hread : decodeAll [0, 0, 0, 0, 0, 0, 0, 0, 0, 128, 1, 0, 255, 255, 255, 255, 10, 0] =
      .ok [(0, .pushInt (-9223372036854775808)), (10, .pushConst 4294967295), (16, .ret)] :=
    decodeAll_eq_ok_iff.mpr
      ⟨[.pushInt (-9223372036854775808), .pushConst 4294967295, .ret], by decide, by decide⟩
  exact ⟨_, hread, rfl, (encodeAll_decodeAll_inverse.2.1 _ _ hread).1⟩

end Instruction

end Printlet
