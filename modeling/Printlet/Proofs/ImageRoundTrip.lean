/-
Printlet.Proofs.ImageRoundTrip — a unit is read back from its image.

`Reads reader bytes value` says that a reader takes exactly `bytes` off the
front, whatever follows, and makes `value` of them. It is closed under doing
one reader after another (`Reads.bind`), so the round trip of a unit is put
together along the fields of its image, each from the round trip of numbers.
A number is read back at every width that it fits (`decode_encode_append`);
lengths are written at sixty-four bits, which is all that `CodeUnit.Sized`
asks of a unit.
-/
import Printlet.CodeUnit.Image
import Printlet.Proofs.CodeRoundTrip

namespace Printlet

/-! ## Numbers -/

namespace Varint

/-- The first number that does not fit. -/
def Width.bound (width : Width) : Nat :=
  128 ^ (width.bytes - 1) * (width.last + 1)

theorem encode_of_lt {n : Nat} (h : n < 128) : encode n = [UInt8.ofNat n] := by
  rw [encode, if_pos h]

theorem encode_of_le {n : Nat} (h : 128 ≤ n) :
    encode n = UInt8.ofNat (n % 128 + 128) :: encode (n / 128) := by
  rw [encode, if_neg (Nat.not_lt.mpr h)]

/-- The groups of a number are read back, if it needs no more than are left and
its last group is within the bound. -/
theorem decodeGroups_encode (last left n : Nat) (rest : Bytes) (hlast : last < 128)
    (h : n < 128 ^ left * (last + 1)) :
    decodeGroups last (left + 1) (encode n ++ rest) = .ok (n, rest) := by
  induction left generalizing n with
  | zero =>
    have hn : n < last + 1 := by simpa using h
    have hbyte : (UInt8.ofNat n).toNat = n := by
      rw [UInt8.toNat_ofNat']
      omega
    rw [encode_of_lt (by omega), List.singleton_append, decodeGroups, hbyte, if_pos (by omega),
      if_neg (by simp; omega)]
  | succ left ih =>
    by_cases hsmall : n < 128
    · have hbyte : (UInt8.ofNat n).toNat = n := by
        rw [UInt8.toNat_ofNat']
        omega
      rw [encode_of_lt hsmall, List.singleton_append, decodeGroups, hbyte, if_pos hsmall,
        if_neg (by simp)]
    · have hbyte : (UInt8.ofNat (n % 128 + 128)).toNat = n % 128 + 128 := by
        rw [UInt8.toNat_ofNat']
        omega
      have hrest : n / 128 < 128 ^ left * (last + 1) := by
        rw [Nat.div_lt_iff_lt_mul (by decide)]
        calc n < 128 ^ (left + 1) * (last + 1) := h
          _ = 128 ^ left * (last + 1) * 128 := by rw [Nat.pow_succ]; ac_rfl
      rw [encode_of_le (Nat.le_of_not_lt hsmall), List.cons_append, decodeGroups, hbyte,
        if_neg (by omega), ih (n / 128) hrest]
      dsimp only
      congr 2
      omega

/-- A number is read back at every width that it fits. -/
theorem decode_encode_append (width : Width) (n : Nat) (rest : Bytes)
    (hbytes : 0 < width.bytes) (hlast : width.last < 128) (h : n < width.bound) :
    decode width (encode n ++ rest) = .ok (n, rest) := by
  obtain ⟨bytes, last⟩ := width
  obtain ⟨left, rfl⟩ : ∃ left, bytes = left + 1 := ⟨bytes - 1, by simp only at hbytes; omega⟩
  exact decodeGroups_encode last left n rest hlast h

end Varint

/-! ## Texts -/

theorem Bytes.toText?_ofText (s : String) : toText? (ofText s) = some s := by
  have hbytes : (⟨(ofText s).toArray⟩ : ByteArray) = s.toUTF8 := by
    simp [ofText]
  rw [toText?, hbytes, String.fromUTF8?, String.toUTF8_eq_toByteArray, dif_pos s.isValidUTF8]
  rfl

/-! ## Readers -/

namespace Image

/-- The reader takes exactly these bytes off the front and makes this of them. -/
def Reads {α : Type} (reader : Reader α) (bytes : Bytes) (value : α) : Prop :=
  ∀ rest, reader (bytes ++ rest) = .ok (value, rest)

variable {α β : Type}

theorem Reads.pure (value : α) : Reads (pure value) [] value :=
  fun _ => rfl

/-- One reader after another reads one row of bytes after another. -/
theorem Reads.bind {reader : Reader α} {next : α → Reader β} {front back : Bytes} {a : α} {b : β}
    (ha : Reads reader front a) (hb : Reads (next a) back b) :
    Reads (reader >>= next) (front ++ back) b := by
  intro rest
  show (do let (a, bs) ← reader (front ++ back ++ rest); next a bs) = _
  rw [List.append_assoc, ha (back ++ rest)]
  exact hb rest

/-- What is made of a value that has been read may take no more bytes. -/
theorem Reads.bind_nil {reader : Reader α} {next : α → Reader β} {bytes : Bytes} {a : α} {b : β}
    (ha : Reads reader bytes a) (hb : Reads (next a) [] b) : Reads (reader >>= next) bytes b := by
  have h := ha.bind hb
  rwa [List.append_nil] at h

/-! ## Fields -/

theorem reads_number {width : Varint.Width} {n : Nat} (hbytes : 0 < width.bytes)
    (hlast : width.last < 128) (h : n < width.bound) :
    Reads (readNumber width) (Varint.encode n) n :=
  fun rest => Varint.decode_encode_append width n rest hbytes hlast h

theorem reads_length {n : Nat} (h : n < 2 ^ 64) :
    Reads (readNumber Varint.word64) (Varint.encode n) n :=
  reads_number (by decide) (by decide) h

theorem reads_word (w : UInt16) : Reads readWord (Varint.encode w.toNat) w := by
  have hnumber : Reads (readNumber Varint.word16) (Varint.encode w.toNat) w.toNat :=
    reads_number (by decide) (by decide) w.toNat_lt
  refine hnumber.bind_nil ?_
  rw [UInt16.ofNat_toNat]
  exact .pure w

theorem reads_exactly (bytes : Bytes) : Reads (readExactly bytes.length) bytes bytes := by
  intro rest
  rw [readExactly, Bytes.split?_append]

theorem reads_block {bytes : Bytes} (h : bytes.length < 2 ^ 64) :
    Reads readBlock (block bytes) bytes :=
  (reads_length h).bind (reads_exactly bytes)

theorem reads_text {s : String} (h : (Bytes.ofText s).length < 2 ^ 64) :
    Reads readText (text s) s := by
  refine (reads_block h).bind_nil ?_
  rw [Bytes.toText?_ofText]
  exact .pure s

theorem reads_constant {s : String} (h : (Bytes.ofText s).length < 2 ^ 64) :
    Reads readConstant (constant s) s := by
  have htag : Reads (readNumber Varint.word32) (Varint.encode 0) 0 :=
    reads_number (by decide) (by decide) (by decide)
  refine htag.bind ?_
  rw [if_pos rfl]
  exact reads_text h

theorem reads_constants {cs : List String} (h : ∀ s ∈ cs, (Bytes.ofText s).length < 2 ^ 64) :
    Reads (readConstants cs.length) (cs.flatMap constant) cs := by
  induction cs with
  | nil => exact .pure []
  | cons s cs ih =>
    rw [List.flatMap_cons]
    have hfirst := reads_constant (h s List.mem_cons_self)
    have hrest := ih fun t ht => h t (List.mem_cons_of_mem s ht)
    exact hfirst.bind (hrest.bind_nil (.pure (s :: cs)))

theorem reads_version (v : Version) : Reads readVersion (version v) v := by
  rw [version, List.append_assoc]
  exact (reads_word v.major).bind
    ((reads_word v.minor).bind ((reads_word v.patch).bind_nil (.pure v)))

theorem reads_procedure {p : Procedure} (hname : (Bytes.ofText p.name).length < 2 ^ 64)
    (htext : p.text.length < 2 ^ 64) : Reads readProcedure (procedure p) p := by
  rw [procedure, List.append_assoc, List.append_assoc]
  exact (reads_text hname).bind ((reads_word p.maxStack).bind
    ((reads_word p.maxLocals).bind ((reads_block htext).bind_nil (.pure p))))

end Image

/-! ## Units -/

/-- Each length in a unit can be written with sixty-four bits. -/
structure CodeUnit.Sized (u : CodeUnit) : Prop where
  name : (Bytes.ofText u.name).length < 2 ^ 64
  entry : (Bytes.ofText u.entry.name).length < 2 ^ 64
  text : u.entry.text.length < 2 ^ 64
  count : u.constants.length < 2 ^ 64
  constants : ∀ s ∈ u.constants, (Bytes.ofText s).length < 2 ^ 64

theorem Image.reads_unit {u : CodeUnit} (h : u.Sized) : Reads readUnit u.toImage u := by
  rw [CodeUnit.toImage, List.append_assoc, List.append_assoc]
  exact (reads_version u.version).bind ((reads_text h.name).bind
    ((reads_procedure h.entry h.text).bind
      ((reads_length h.count).bind ((reads_constants h.constants).bind_nil (.pure u)))))

/-- A unit is read back from its image, also with bytes after it. -/
theorem CodeUnit.ofImage_toImage_append {u : CodeUnit} (h : u.Sized) (rest : Bytes) :
    CodeUnit.ofImage (u.toImage ++ rest) = .ok u := by
  rw [CodeUnit.ofImage, Image.reads_unit h rest]

theorem CodeUnit.ofImage_toImage {u : CodeUnit} (h : u.Sized) :
    CodeUnit.ofImage u.toImage = .ok u := by
  have hrest := ofImage_toImage_append h []
  rwa [List.append_nil] at hrest

/-! ## Images tell units apart -/

/-- No image is the beginning of the image of another unit. -/
theorem CodeUnit.eq_of_isPrefix_toImage {u v : CodeUnit} (hu : u.Sized) (hv : v.Sized)
    (h : u.toImage <+: v.toImage) : u = v := by
  obtain ⟨rest, hrest⟩ := h
  have hread := ofImage_toImage_append hu rest
  rw [hrest, ofImage_toImage hv] at hread
  exact (Except.ok.inj hread).symm

/-- **Images.** A unit is read back from its image, whatever follows it; so two
units have different images, and neither is the beginning of the other. -/
theorem CodeUnit.toImage_separates {u : CodeUnit} (hu : u.Sized) :
    (∀ rest, ofImage (u.toImage ++ rest) = .ok u) ∧
      ∀ v : CodeUnit, v.Sized → u ≠ v →
        u.toImage ≠ v.toImage ∧ ¬ u.toImage <+: v.toImage ∧ ¬ v.toImage <+: u.toImage := by
  refine ⟨ofImage_toImage_append hu, fun v hv hne => ⟨?_, ?_, ?_⟩⟩
  · intro heq
    exact hne (eq_of_isPrefix_toImage hu hv ⟨[], by rw [heq, List.append_nil]⟩)
  · exact fun h => hne (eq_of_isPrefix_toImage hu hv h)
  · exact fun h => hne (eq_of_isPrefix_toImage hv hu h).symm

/-- Words and lengths at the edges of one, two and three groups of seven bits. -/
def CodeUnit.edges : CodeUnit :=
  ⟨⟨65535, 128, 127⟩, "π∞", ⟨"main", 16383, 16384, List.replicate 128 10⟩, ["", "ü"]⟩

theorem CodeUnit.sized_edges : edges.Sized := by
  constructor <;> decide +kernel

theorem CodeUnit.toImage_separates_edges :
    ofImage (edges.toImage ++ [0, 255]) = .ok edges ∧
      ¬ edges.toImage <+: CodeUnit.toImage ⟨edges.version, edges.name, edges.entry, []⟩ := by
  have hsized : CodeUnit.Sized ⟨edges.version, edges.name, edges.entry, []⟩ := by
    constructor <;> decide +kernel
  have h := toImage_separates sized_edges
  exact ⟨h.1 [0, 255], (h.2 _ hsized (by decide)).2.1⟩

end Printlet
