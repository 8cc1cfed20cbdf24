/-
Printlet.Proofs.Truncation — bytes that stop too early.

Two formats are read from the front: code, one instruction after the other, and
images, one field after the other. In both, bytes that are read stay read if more
follow, and bytes that are cut short cannot be read.

* Code. `eq_append_of_encodeAll_append`: where some code starts a text, every code
  that the text holds starts with it, so the boundaries of a part of a text are
  boundaries of the whole. `decodeAll_error_longest`: reading gets stuck at the end
  of the longest part that can be read.
* Images. `Needs reader bytes` says that the reader hits the end wherever `bytes`
  are cut. It is closed under doing one reader after another (`Needs.bind`), so it
  goes through a unit field by field, beside `Reads`.
  `CodeUnit.ofImage_truncated`: a unit is never read from a part of its image.
-/
import Mathlib.Order.Bounds.Basic
import Printlet.Proofs.EngineSteps
import Printlet.Proofs.ImageRoundTrip

namespace Printlet

/-! ## 1. Code -/

namespace Instruction

/-- A part of an instruction is not an instruction. -/
theorem decode?_of_cut {i : Instruction} {front back : Bytes} (hi : i.encode = front ++ back)
    (hback : back ≠ []) : decode? front = none := by
  cases hread : decode? front with
  | none => rfl
  | some found =>
    obtain ⟨j, rest⟩ := found
    have hwhole : decode? i.encode = some (i, []) := by
      simpa using decode?_encode_append i []
    -- read on, the same bytes would hold `j` with the cut-off part behind it
    rw [hi, decode?_sound hread, List.append_assoc, decode?_encode_append] at hwhole
    simp [hback] at hwhole

/-- Code that starts a text starts all code that the text holds. -/
theorem eq_append_of_encodeAll_append {front code : List Instruction} {bytes : Bytes}
    (h : encodeAll front ++ bytes = encodeAll code) :
    ∃ back, code = front ++ back ∧ bytes = encodeAll back := by
  induction front generalizing code with
  | nil => exact ⟨code, rfl, h⟩
  | cons i front ih =>
    have hread := decode?_encode_append i (encodeAll front ++ bytes)
    rw [← List.append_assoc, ← encodeAll_cons, h] at hread
    cases code with
    | nil => cases hread
    | cons j code =>
      rw [encodeAll_cons, decode?_encode_append, Option.some.injEq, Prod.mk.injEq] at hread
      obtain ⟨rfl, -⟩ := hread
      rw [encodeAll_cons, encodeAll_cons, List.append_assoc, List.append_cancel_left_eq] at h
      obtain ⟨back, rfl, rfl⟩ := ih h
      exact ⟨back, rfl, rfl⟩

/-- Reading gets stuck behind code that is followed by something else. -/
theorem decodeFrom_encodeAll_append (offset : Nat) (code : List Instruction) {rest : Bytes}
    (hne : rest ≠ []) (hrest : decode? rest = none) :
    decodeFrom offset (encodeAll code ++ rest) = .error (offset + sizeAll code) := by
  induction code generalizing offset with
  | nil => exact decodeFrom_of_decode?_none offset (by simpa [encodeAll] using hne) hrest
  | cons i code ih =>
    have hread := decode?_encode_append i (encodeAll code ++ rest)
    rw [encodeAll_cons, List.append_assoc, decodeFrom_of_decode? offset hread, ih]
    simp [sizeAll, Nat.add_assoc]

theorem decodeAll_eq_error_iff {text : Bytes} {stuck : Nat} :
    decodeAll text = .error stuck ↔ ∃ code rest, text = encodeAll code ++ rest ∧ rest ≠ [] ∧
      decode? rest = none ∧ stuck = sizeAll code := by
  constructor
  · intro h
    have hsound := decodeFrom_sound 0 text
    rw [show decodeFrom 0 text = .error stuck from h] at hsound
    simpa using hsound
  · rintro ⟨code, rest, rfl, hne, hrest, rfl⟩
    simpa [decodeAll] using decodeFrom_encodeAll_append 0 code hne hrest

/-- No part of a text that goes on behind the place where reading gets stuck can be
read. -/
theorem le_of_decodeAll_take {code : List Instruction} {rest : Bytes} {n : Nat}
    {placed : List Placed} (hne : rest ≠ []) (hrest : decode? rest = none)
    (h : decodeAll ((encodeAll code ++ rest).take n) = .ok placed) : n ≤ sizeAll code := by
  by_contra hlt
  obtain ⟨whole, hwhole, -⟩ := decodeAll_eq_ok_iff.mp h
  rw [List.take_append, List.take_of_length_le (by rw [length_encodeAll]; omega),
    length_encodeAll] at hwhole
  obtain ⟨back, -, hback⟩ := eq_append_of_encodeAll_append hwhole
  cases back with
  | nil =>
    have hzero : n - sizeAll code = 0 ∨ rest = [] := List.take_eq_nil_iff.mp hback
    rcases hzero with hzero | hnil
    · omega
    · exact hne hnil
  | cons j back =>
    -- the bytes behind the code would start with an instruction
    rw [encodeAll_cons] at hback
    rw [← List.take_append_drop (n - sizeAll code) rest, hback, List.append_assoc,
      decode?_encode_append] at hrest
    cases hrest

theorem isGreatest_of_decodeAll_error {text : Bytes} {stuck : Nat}
    (h : decodeAll text = .error stuck) :
    IsGreatest {n | ∃ placed, decodeAll (text.take n) = .ok placed} stuck := by
  obtain ⟨code, rest, rfl, hne, hrest, rfl⟩ := decodeAll_eq_error_iff.mp h
  constructor
  · refine ⟨placeFrom 0 code, ?_⟩
    rw [← length_encodeAll, List.take_left]
    exact decodeAll_encodeAll code
  · rintro n ⟨placed, hplaced⟩
    exact le_of_decodeAll_take hne hrest hplaced

/-- A text that is cut within an instruction is read up to that instruction. -/
theorem decodeAll_take_encodeAll {code : List Instruction} {k cut : Nat} {i : Instruction}
    (hk : code[k]? = some i) (hstart : sizeAll (code.take k) < cut)
    (hstop : cut < sizeAll (code.take k) + i.size) :
    decodeAll ((encodeAll code).take cut) = .error (sizeAll (code.take k)) := by
  obtain ⟨hlt, rfl⟩ := List.getElem?_eq_some_iff.mp hk
  have hcode : encodeAll code =
      encodeAll (code.take k) ++ (code[k].encode ++ encodeAll (code.drop (k + 1))) := by
    rw [← encodeAll_cons, List.getElem_cons_drop, encodeAll, encodeAll, encodeAll,
      ← List.flatMap_append, List.take_append_drop]
  have hcut : (encodeAll code).take cut = encodeAll (code.take k) ++
      code[k].encode.take (cut - sizeAll (code.take k)) := by
    rw [hcode, List.take_append, List.take_of_length_le (by rw [length_encodeAll]; omega),
      length_encodeAll, List.take_append_of_le_length (by rw [length_encode]; omega)]
  have hlong : code[k].encode.length = code[k].size := length_encode _
  rw [decodeAll_eq_error_iff]
  refine ⟨_, _, hcut, ?_, decode?_of_cut (List.take_append_drop _ _).symm ?_, rfl⟩
  · rw [Ne, List.take_eq_nil_iff, ← List.length_eq_zero_iff]
    omega
  · rw [Ne, List.drop_eq_nil_iff]
    omega

/-- **Where reading gets stuck.** Reading gets stuck within a text, at the end of the
longest part that can be read and nowhere else, and no instruction starts there. So
code that is cut within an instruction is read up to the start of that
instruction. -/
theorem decodeAll_error_longest :
    (∀ (text : Bytes) (stuck : Nat), decodeAll text = .error stuck ↔
      stuck < text.length ∧
        IsGreatest {n | ∃ placed, decodeAll (text.take n) = .ok placed} stuck) ∧
    (∀ (text : Bytes) (stuck : Nat), decodeAll text = .error stuck →
      decode? (text.drop stuck) = none) ∧
    ∀ (code : List Instruction) (k cut : Nat) (i : Instruction), code[k]? = some i →
      sizeAll (code.take k) < cut → cut < sizeAll (code.take k) + i.size →
      decodeAll ((encodeAll code).take cut) = .error (sizeAll (code.take k)) := by
  refine ⟨fun text stuck => ⟨fun h => ?_, ?_⟩, fun text stuck h => ?_,
    fun code k cut i => decodeAll_take_encodeAll⟩
  · exact ⟨lt_length_of_decodeAll_error h, isGreatest_of_decodeAll_error h⟩
  · rintro ⟨hlt, hstuck⟩
    cases hread : decodeAll text with
    | ok placed =>
      have hle := hstuck.2 ⟨placed, by rw [List.take_length]; exact hread⟩
      omega
    | error other => rw [(isGreatest_of_decodeAll_error hread).unique hstuck]
  · obtain ⟨code, rest, rfl, -, hrest, rfl⟩ := decodeAll_eq_error_iff.mp h
    rwa [← length_encodeAll, List.drop_left]

/-- The operand of a number is cut after three of its eight bytes. -/
theorem decodeAll_error_longest_number :
    decodeAll [8, 0, 0, 0, 7, 0, 0] = .error 2 ∧ decode? [0, 0, 7, 0, 0] = none ∧
      IsGreatest {n | ∃ placed, decodeAll (([8, 0, 0, 0, 7, 0, 0] : Bytes).take n) = .ok placed}
        2 := by
  obtain ⟨hlongest, hnone, hcut⟩ := decodeAll_error_longest
  have hstuck : decodeAll [8, 0, 0, 0, 7, 0, 0] = .error 2 :=
    hcut [.getStdout, .pushInt 7, .println] 1 7 _ rfl (by decide) (by decide)
  exact ⟨hstuck, hnone _ _ hstuck, ((hlongest _ _).mp hstuck).2⟩

end Instruction

/-! ## 2. Images -/

theorem Bytes.split?_of_lt {n : Nat} {bs : Bytes} (h : bs.length < n) : split? n bs = none := by
  induction n generalizing bs with
  | zero => cases h
  | succ n ih =>
    cases bs with
    | nil => rfl
    | cons b bs => simp [split?, ih (Nat.lt_of_succ_lt_succ h)]

/-- All groups of a number but the last ask for another one. -/
theorem Varint.decodeGroups_take_encode (last left n cut : Nat) (hlast : last < 128)
    (h : n < 128 ^ left * (last + 1)) (hcut : cut < (encode n).length) :
    decodeGroups last (left + 1) ((encode n).take cut) = .error .unexpectedEnd := by
  induction left generalizing n cut with
  | zero =>
    have hn : n < last + 1 := by simpa using h
    rw [encode_of_lt (by omega)] at hcut ⊢
    have hzero : cut = 0 := Nat.lt_one_iff.mp hcut
    simp [hzero, decodeGroups]
  | succ left ih =>
    by_cases hsmall : n < 128
    · rw [encode_of_lt hsmall] at hcut ⊢
      have hzero : cut = 0 := Nat.lt_one_iff.mp hcut
      simp [hzero, decodeGroups]
    · have hbyte : (UInt8.ofNat (n % 128 + 128)).toNat = n % 128 + 128 := by
        rw [UInt8.toNat_ofNat']
        omega
      have hrest : n / 128 < 128 ^ left * (last + 1) := by
        rw [Nat.div_lt_iff_lt_mul (by decide)]
        calc n < 128 ^ (left + 1) * (last + 1) := h
          _ = 128 ^ left * (last + 1) * 128 := by rw [Nat.pow_succ]; ac_rfl
      rw [encode_of_le (Nat.le_of_not_lt hsmall)] at hcut ⊢
      cases cut with
      | zero => simp [decodeGroups]
      | succ cut =>
        rw [List.take_succ_cons, decodeGroups, hbyte, if_neg (by omega),
          ih (n / 128) cut hrest (Nat.lt_of_succ_lt_succ hcut)]

namespace Image

variable {α β : Type}

/-- Wherever these bytes are cut, the reader hits the end. -/
def Needs (reader : Reader α) (bytes : Bytes) : Prop :=
  ∀ n < bytes.length, reader (bytes.take n) = .error .unexpectedEnd

theorem needs_nil (reader : Reader α) : Needs reader [] := by
  intro n hn
  cases hn

/-- A cut falls among the bytes of the first reader, or the first reader takes its
own and the cut falls among those of the second. -/
theorem Needs.bind {reader : Reader α} {next : α → Reader β} {front back : Bytes} {a : α}
    (ha : Needs reader front) (hread : Reads reader front a) (hb : Needs (next a) back) :
    Needs (reader >>= next) (front ++ back) := by
  intro n hn
  show (do let (a, bs) ← reader ((front ++ back).take n); next a bs) = _
  by_cases hfront : n < front.length
  · rw [List.take_append_of_le_length (Nat.le_of_lt hfront), ha n hfront]
    rfl
  · rw [List.length_append] at hn
    rw [List.take_append, List.take_of_length_le (Nat.le_of_not_lt hfront), hread]
    exact hb (n - front.length) (by omega)

/-- What is made of a value that has been read needs no more bytes. -/
theorem Needs.bind_nil {reader : Reader α} {next : α → Reader β} {bytes : Bytes}
    (h : Needs reader bytes) : Needs (reader >>= next) bytes := by
  intro n hn
  show (do let (a, bs) ← reader (bytes.take n); next a bs) = _
  rw [h n hn]
  rfl

/-! ### Fields -/

theorem needs_number {width : Varint.Width} {n : Nat} (hbytes : 0 < width.bytes)
    (hlast : width.last < 128) (h : n < width.bound) :
    Needs (readNumber width) (Varint.encode n) := by
  obtain ⟨bytes, last⟩ := width
  obtain ⟨left, rfl⟩ : ∃ left, bytes = left + 1 := ⟨bytes - 1, by simp only at hbytes; omega⟩
  exact fun cut hcut => Varint.decodeGroups_take_encode last left n cut hlast h hcut

theorem needs_length {n : Nat} (h : n < 2 ^ 64) :
    Needs (readNumber Varint.word64) (Varint.encode n) :=
  needs_number (by decide) (by decide) h

theorem needs_word (w : UInt16) : Needs readWord (Varint.encode w.toNat) :=
  (needs_number (by decide) (by decide) w.toNat_lt).bind_nil

theorem needs_exactly (bytes : Bytes) : Needs (readExactly bytes.length) bytes := by
  intro n hn
  rw [readExactly, Bytes.split?_of_lt (by simp [hn])]

theorem needs_block {bytes : Bytes} (h : bytes.length < 2 ^ 64) : Needs readBlock (block bytes) :=
  (needs_length h).bind (reads_length h) (needs_exactly bytes)

/-- The bytes of a text are counted before they are looked at. -/
theorem needs_text {s : String} (h : (Bytes.ofText s).length < 2 ^ 64) : Needs readText (text s) :=
  (needs_block h).bind_nil

theorem needs_constant {s : String} (h : (Bytes.ofText s).length < 2 ^ 64) :
    Needs readConstant (constant s) := by
  have htag : 0 < Varint.word32.bound := by decide
  refine (needs_number (by decide) (by decide) htag).bind
    (reads_number (by decide) (by decide) htag) ?_
  rw [if_pos rfl]
  exact needs_text h

theorem needs_constants {cs : List String} (h : ∀ s ∈ cs, (Bytes.ofText s).length < 2 ^ 64) :
    Needs (readConstants cs.length) (cs.flatMap constant) := by
  induction cs with
  | nil => exact needs_nil _
  | cons s cs ih =>
    rw [List.flatMap_cons]
    have hs := h s List.mem_cons_self
    have hrest := ih fun t ht => h t (List.mem_cons_of_mem s ht)
    exact (needs_constant hs).bind (reads_constant hs) hrest.bind_nil

theorem needs_version (v : Version) : Needs readVersion (version v) := by
  rw [version, List.append_assoc]
  exact (needs_word v.major).bind (reads_word v.major)
    ((needs_word v.minor).bind (reads_word v.minor) (needs_word v.patch).bind_nil)

theorem needs_procedure {p : Procedure} (hname : (Bytes.ofText p.name).length < 2 ^ 64)
    (htext : p.text.length < 2 ^ 64) : Needs readProcedure (procedure p) := by
  rw [procedure, List.append_assoc, List.append_assoc]
  exact (needs_text hname).bind (reads_text hname) ((needs_word p.maxStack).bind
    (reads_word p.maxStack) ((needs_word p.maxLocals).bind (reads_word p.maxLocals)
      (needs_block htext).bind_nil))

theorem needs_unit {u : CodeUnit} (h : u.Sized) : Needs readUnit u.toImage := by
  rw [CodeUnit.toImage, List.append_assoc, List.append_assoc]
  exact (needs_version u.version).bind (reads_version u.version) ((needs_text h.name).bind
    (reads_text h.name) ((needs_procedure h.entry h.text).bind (reads_procedure h.entry h.text)
      ((needs_length h.count).bind (reads_length h.count) (needs_constants h.constants).bind_nil)))

end Image

/-- **Truncated images.** No proper part of the image of a unit, taken from its front,
is an image: whoever reads it hits the end. An engine that is asked to install it
says so, and stays as it is. -/
theorem CodeUnit.ofImage_truncated {u : CodeUnit} (hu : u.Sized) {n : Nat}
    (hn : n < u.toImage.length) :
    ofImage (u.toImage.take n) = .error .unexpectedEnd ∧
      ∀ engine : Engine,
        engine.install (u.toImage.take n) = .error (.image .unexpectedEnd) ∧
        engine.handle (.install (u.toImage.take n)) = engine ∧
        ∀ names, engine.loadAndInvoke (u.toImage.take n) names =
          (.error (.load (.image .unexpectedEnd)), engine) := by
  have hread : ofImage (u.toImage.take n) = .error .unexpectedEnd := by
    rw [ofImage, Image.needs_unit hu n hn]
  have hinstall : ∀ engine : Engine,
      engine.install (u.toImage.take n) = .error (.image .unexpectedEnd) := by
    intro engine
    rw [Engine.install, hread]
  refine ⟨hread, fun engine => ⟨hinstall engine, ?_, fun names => ?_⟩⟩
  · rw [Engine.handle, hinstall]
  · rw [Engine.loadAndInvoke, hinstall]

/-- The cut falls between the two bytes of the last character of the last constant. -/
theorem CodeUnit.ofImage_truncated_edges :
    ofImage (edges.toImage.take (edges.toImage.length - 1)) = .error .unexpectedEnd ∧
      (Engine.new {}).install (edges.toImage.take (edges.toImage.length - 1)) =
        .error (.image .unexpectedEnd) := by
  have hcut : edges.toImage.length - 1 < edges.toImage.length := by decide +kernel
  obtain ⟨hread, hengine⟩ := ofImage_truncated sized_edges hcut
  exact ⟨hread, (hengine _).1⟩

end Printlet
