/-
Printlet.Proofs.Listings — what a listing tells about its unit.

A listing can be read back. `Listing.procedure` is given the names that stand
in the two header lines and finds the rest: the declared sizes behind the
names, and one instruction in each line that follows. Reading is written as an
inverse, part by part:

* `Listing.number_append` — digits, also with zeros in front, up to the first
  other character;
* `Listing.value_append` — an operand behind its sign or its mark;
* `Listing.placed?_row` — a line, whatever constant is shown in it;
* `Listing.splitOn_body` — the lines, none of which a constant can break;
* `Listing.procedure_listing` — the whole.

So two units that are listed alike have the same procedure.
-/
import Printlet.CodeUnit.Listing
import Printlet.Proofs.CodeRoundTrip
import Printlet.Proofs.Lexing

namespace Printlet

/-! ## 1. Lines stay whole -/

namespace Text

theorem newline_notMem_toDigits (base : Nat) (hbase : 1 < base) (n : Nat) :
    '\n' ∉ Nat.toDigits base n := by
  induction n using Nat.strongRecOn with
  | ind n ih =>
    have hdigit : ∀ d : Nat, '\n' ≠ d.digitChar := fun d => (Nat.digitChar_ne '\n' rfl).symm
    rw [Nat.toDigits_eq_if hbase]
    split
    next =>
      rw [List.mem_singleton]
      exact hdigit n
    next hge =>
      have hlt : n / base < n := Nat.div_lt_self (by omega) hbase
      rw [List.mem_append, List.mem_singleton, not_or]
      exact ⟨ih (n / base) hlt, hdigit (n % base)⟩

/-- A line end is escaped, and no escape has one in it. -/
theorem newline_notMem_escape (c : Char) : '\n' ∉ escape c := by
  by_cases hc : c = '\n'
  · subst hc
    decide
  · have hdigits := newline_notMem_toDigits 16 (by decide) c.toNat
    have hself : '\n' ≠ c := fun h => hc h.symm
    unfold escape
    split_ifs
    all_goals simp [hself, hdigits]

theorem newline_notMem_quoted (s : String) : '\n' ∉ (quoted s).toList := by
  rw [quoted, String.toList_ofList, List.mem_cons, List.mem_append, List.mem_flatMap,
    List.mem_singleton]
  rintro (h | ⟨c, -, hc⟩ | h)
  · cases h
  · exact newline_notMem_escape c hc
  · cases h

end Text

/-! ## 2. Numbers -/

namespace Listing

/-- The number at the front of a text. -/
def number (cs : List Char) : Nat :=
  Nat.ofDigitChars 10 (cs.takeWhile (·.isDigit)) 0

/-- What stands behind the number at the front of a text. -/
def pastNumber (cs : List Char) : List Char :=
  cs.dropWhile (·.isDigit)

/-- The number in a text, with the sign in front of it. -/
def value (cs : List Char) : Int :=
  let mark := cs.takeWhile fun c => !c.isDigit
  let rest := cs.dropWhile fun c => !c.isDigit
  if '-' ∈ mark then -(number rest : Int) else number rest

/-- Digits that make a number. Zeros may stand in front. -/
structure Decimal (digits : List Char) (n : Nat) : Prop where
  ne_nil : digits ≠ []
  digit : ∀ c ∈ digits, c.isDigit = true
  sum : Nat.ofDigitChars 10 digits 0 = n

/-- No digit follows. -/
def Stops (rest : List Char) : Prop :=
  ∀ c ∈ rest.head?, c.isDigit = false

theorem stops_cons {c : Char} (h : c.isDigit = false) (rest : List Char) : Stops (c :: rest) := by
  intro d hd
  obtain rfl := Option.some.inj hd
  exact h

variable {digits mark rest : List Char} {n : Nat}

theorem decimal_toDigits (n : Nat) : Decimal (Nat.toDigits 10 n) n where
  ne_nil := Nat.toDigits_ne_nil
  digit := fun _ hc => Nat.isDigit_of_mem_toDigits (by decide) (by decide) hc
  sum := Nat.ofDigitChars_ten_toDigits

theorem toList_offset (n : Nat) : (offset n).toList =
    List.replicate (4 - (toString n).length) '0' ++ Nat.toDigits 10 n := by
  rw [offset, String.toList_append, String.toList_ofList, Nat.toString_eq_repr, Nat.toList_repr]

theorem decimal_offset (n : Nat) : Decimal (offset n).toList n where
  ne_nil := by simp [toList_offset]
  digit := by
    intro c hc
    rw [toList_offset, List.mem_append] at hc
    rcases hc with hzero | hdigit
    · rw [List.eq_of_mem_replicate hzero]
      rfl
    · exact (decimal_toDigits n).digit c hdigit
  sum := by
    rw [toList_offset, Nat.ofDigitChars_append, Nat.ofDigitChars_replicate_zero, Nat.mul_zero]
    exact (decimal_toDigits n).sum

theorem Decimal.newline_notMem (h : Decimal digits n) : '\n' ∉ digits := fun hmem =>
  absurd (h.digit _ hmem) (by decide)

theorem number_append (h : Decimal digits n) (hrest : Stops rest) :
    number (digits ++ rest) = n ∧ pastNumber (digits ++ rest) = rest := by
  obtain ⟨htake, hdrop⟩ := run_exact h.digit hrest
  exact ⟨by rw [number, htake, h.sum], hdrop⟩

theorem value_append (hmark : ∀ c ∈ mark, c.isDigit = false) (h : Decimal digits n)
    (hrest : Stops rest) :
    value (mark ++ (digits ++ rest)) = if '-' ∈ mark then -(n : Int) else n := by
  have hstop : ∀ c ∈ (digits ++ rest).head?, (!c.isDigit) = false := by
    obtain ⟨d, ds, rfl⟩ := List.exists_cons_of_ne_nil h.ne_nil
    intro c hc
    obtain rfl := Option.some.inj hc
    rw [h.digit d List.mem_cons_self]
    rfl
  have hinside : ∀ c ∈ mark, (!c.isDigit) = true := by
    intro c hc
    rw [hmark c hc]
    rfl
  obtain ⟨htake, hdrop⟩ := run_exact hinside hstop
  rw [value, htake, hdrop, (number_append h hrest).1]

end Listing

/-! ## 3. Instructions -/

namespace Instruction

/-- The operand of an instruction as a number. -/
def operand : Instruction → Int
  | .pushInt value => value.toInt
  | .pushConst index => index.toNat
  | .loadLocal slot => slot.toNat
  | .storeLocal slot => slot.toNat
  | _ => 0

/-- An instruction with another operand. -/
def withOperand : Instruction → Int → Instruction
  | .pushInt _, n => .pushInt (Int64.ofInt n)
  | .pushConst _, n => .pushConst (UInt32.ofNat n.toNat)
  | .loadLocal _, n => .loadLocal (UInt16.ofNat n.toNat)
  | .storeLocal _, n => .storeLocal (UInt16.ofNat n.toNat)
  | i, _ => i

/-- How the operand of an instruction is shown. -/
def operandText : Instruction → String
  | .pushInt value => " " ++ toString value.toInt
  | .pushConst index => " #" ++ toString index.toNat
  | .loadLocal slot => " " ++ toString slot.toNat
  | .storeLocal slot => " " ++ toString slot.toNat
  | _ => ""

theorem display_eq (i : Instruction) : i.display = i.mnemonic ++ i.operandText := by
  cases i with
  | pushInt value => exact String.append_assoc
  | pushConst index => exact String.append_assoc
  | loadLocal slot => exact String.append_assoc
  | storeLocal slot => exact String.append_assoc
  | _ => exact String.append_empty.symm

theorem withOperand_operand (i : Instruction) (n : Int) :
    (i.withOperand n).withOperand i.operand = i := by
  cases i with
  | pushInt value => exact congrArg pushInt (Int64.ofInt_toInt value)
  | pushConst index => exact congrArg pushConst UInt32.ofNat_toNat
  | loadLocal slot => exact congrArg loadLocal UInt16.ofNat_toNat
  | storeLocal slot => exact congrArg storeLocal UInt16.ofNat_toNat
  | _ => rfl

/-- The instructions, with no operand to speak of. -/
def kinds : List Instruction :=
  [.pushInt 0, .pushConst 0, .loadLocal 0, .storeLocal 0, .arith .add, .arith .sub, .arith .mul,
    .arith .div, .getStdout, .println, .ret]

/-- The instruction that a word calls. -/
def ofMnemonic? (word : String) : Option Instruction :=
  kinds.find? fun i => i.mnemonic = word

theorem ofMnemonic?_mnemonic (i : Instruction) :
    ofMnemonic? i.mnemonic = some (i.withOperand 0) := by
  cases i with
  | arith op => cases op <;> rfl
  | _ => rfl

/-- A name has no blank in it and no line end. -/
theorem mnemonic_plain (i : Instruction) : ∀ c ∈ i.mnemonic.toList, c ≠ ' ' ∧ c ≠ '\n' := by
  have hfound := ofMnemonic?_mnemonic i
  have hkind : i.withOperand 0 ∈ kinds := List.mem_of_find?_eq_some hfound
  have hname : (i.withOperand 0).mnemonic = i.mnemonic := by
    rw [ofMnemonic?] at hfound
    have hsame := List.find?_some hfound
    exact of_decide_eq_true hsame
  have hplain : kinds.all (fun i => i.mnemonic.toList.all fun c => c ≠ ' ' ∧ c ≠ '\n') = true := rfl
  have hall := List.all_eq_true.mp hplain _ hkind
  rw [hname, List.all_eq_true] at hall
  exact fun c hc => of_decide_eq_true (hall c hc)

end Instruction

namespace Listing

/-- What stands between the name of an instruction and the digits of its operand. -/
def marks : List (List Char) :=
  [[' '], [' ', '#'], [' ', '-']]

theorem exists_cons_of_mem_marks {mark : List Char} (h : mark ∈ marks) :
    ∃ sign, mark = ' ' :: sign ∧ ∀ c ∈ sign, c = '#' ∨ c = '-' := by
  simp only [marks, List.mem_cons, List.not_mem_nil, or_false] at h
  rcases h with rfl | rfl | rfl
  · exact ⟨[], rfl, by simp⟩
  · exact ⟨['#'], rfl, by simp⟩
  · exact ⟨['-'], rfl, by simp⟩

/-- A mark has no digit in it and no line end. -/
theorem mark_plain {mark : List Char} (h : mark ∈ marks) :
    ∀ c ∈ mark, c.isDigit = false ∧ c ≠ '\n' := by
  obtain ⟨sign, rfl, hsign⟩ := exists_cons_of_mem_marks h
  intro c hc
  rcases List.mem_cons.mp hc with rfl | hc
  · decide
  · rcases hsign c hc with rfl | rfl <;> decide

/-- An operand as it is shown: a mark and digits. -/
def Shows (text : List Char) (operand : Int) : Prop :=
  ∃ mark ∈ marks, ∃ n : Nat, text = mark ++ Nat.toDigits 10 n ∧
    operand = if '-' ∈ mark then -(n : Int) else n

theorem shows_nat (front : String) (hfront : front.toList ∈ marks) (hsign : '-' ∉ front.toList)
    (n : Nat) : Shows (front ++ toString n).toList n := by
  refine ⟨front.toList, hfront, n, ?_, (if_neg hsign).symm⟩
  rw [String.toList_append, Nat.toString_eq_repr, Nat.toList_repr]

theorem shows_int (value : Int) : Shows (" " ++ toString value).toList value := by
  rw [Int.toString_eq_repr, Int.repr_eq_if]
  split
  next hpos =>
    have hshows := shows_nat " " (by decide) (by decide) value.toNat
    rwa [Int.toNat_of_nonneg hpos] at hshows
  next hneg =>
    refine ⟨[' ', '-'], by decide, (-value).toNat, ?_, ?_⟩
    · rw [String.toList_append, String.toList_append, Nat.toList_repr]
      rfl
    · rw [if_pos (by decide), Int.toNat_of_nonneg (by omega), Int.neg_neg]

/-- An instruction shows its operand, or it has none and nothing is shown behind it. -/
theorem shows_operand (i : Instruction) : Shows i.operandText.toList i.operand ∨
    i.operandText = "" ∧ i.operand = 0 ∧ ∀ constants, remark constants i = "" := by
  cases i with
  | pushInt value => exact .inl (shows_int value.toInt)
  | pushConst index => exact .inl (shows_nat " #" (by decide) (by decide) index.toNat)
  | loadLocal slot => exact .inl (shows_nat " " (by decide) (by decide) slot.toNat)
  | storeLocal slot => exact .inl (shows_nat " " (by decide) (by decide) slot.toNat)
  | _ => exact .inr ⟨rfl, rfl, fun _ => rfl⟩

/-! ## 4. Lines -/

/-- The line of an instruction, without its end. -/
def row (constants : List String) (placed : Placed) : String :=
  offset placed.1 ++ "  " ++ placed.2.display ++ remark constants placed.2

theorem line_eq (constants : List String) (placed : Placed) :
    line constants placed = row constants placed ++ "\n" := rfl

/-- What stands behind the name of an instruction. -/
def behind (constants : List String) (i : Instruction) : List Char :=
  i.operandText.toList ++ (remark constants i).toList

theorem toList_row (constants : List String) (placed : Placed) :
    (row constants placed).toList = (offset placed.1).toList ++
      ([' ', ' '] ++ (placed.2.mnemonic.toList ++ behind constants placed.2)) := by
  rw [row, Instruction.display_eq, behind]
  simp only [String.toList_append, List.append_assoc]
  rfl

theorem remark_cases (constants : List String) (i : Instruction) :
    remark constants i = "" ∨ ∃ s, remark constants i = "  ; " ++ Text.quoted s := by
  cases i with
  | pushConst index =>
    cases hconst : constants[index.toNat]? with
    | none => exact .inl (by simp only [remark, hconst])
    | some s => exact .inr ⟨s, by simp only [remark, hconst]⟩
  | _ => exact .inl rfl

theorem stops_remark (constants : List String) (i : Instruction) :
    Stops (remark constants i).toList := by
  rcases remark_cases constants i with hnone | ⟨s, hsome⟩
  · rw [hnone]
    intro c hc
    cases hc
  · rw [hsome, String.toList_append]
    exact stops_cons rfl _

theorem newline_notMem_remark (constants : List String) (i : Instruction) :
    '\n' ∉ (remark constants i).toList := by
  rcases remark_cases constants i with hnone | ⟨s, hsome⟩
  · rw [hnone]
    exact List.not_mem_nil
  · rw [hsome, String.toList_append, List.mem_append, not_or]
    exact ⟨by decide, Text.newline_notMem_quoted s⟩

theorem newline_notMem_operandText (i : Instruction) : '\n' ∉ i.operandText.toList := by
  rcases shows_operand i with hshows | ⟨hnone, -⟩
  · obtain ⟨mark, hmark, n, htext, -⟩ := hshows
    rw [htext, List.mem_append, not_or]
    exact ⟨fun hmem => (mark_plain hmark _ hmem).2 rfl, (decimal_toDigits n).newline_notMem⟩
  · rw [hnone]
    exact List.not_mem_nil

/-- Whatever the constants are, a line does not break. -/
theorem newline_notMem_row (constants : List String) (placed : Placed) :
    '\n' ∉ (row constants placed).toList := by
  rw [toList_row, behind]
  simp only [List.mem_append, not_or]
  exact ⟨(decimal_offset placed.1).newline_notMem, by decide,
    fun hmem => (placed.2.mnemonic_plain _ hmem).2 rfl,
    newline_notMem_operandText placed.2, newline_notMem_remark constants placed.2⟩

/-- A blank stands behind the name of an instruction, or nothing. -/
theorem head?_behind (constants : List String) (i : Instruction) :
    ∀ c ∈ (behind constants i).head?, c = ' ' := by
  rw [behind]
  rcases shows_operand i with hshows | ⟨hnone, -, hremark⟩
  · obtain ⟨mark, hmark, n, htext, -⟩ := hshows
    obtain ⟨sign, rfl, -⟩ := exists_cons_of_mem_marks hmark
    rw [htext]
    intro c hc
    exact (Option.some.inj hc).symm
  · rw [hnone, hremark]
    intro c hc
    cases hc

theorem value_behind (constants : List String) (i : Instruction) :
    value (behind constants i) = i.operand := by
  rw [behind]
  rcases shows_operand i with hshows | ⟨hnone, hzero, hremark⟩
  · have hstops := stops_remark constants i
    obtain ⟨mark, hmark, n, htext, hoperand⟩ := hshows
    have hplain : ∀ c ∈ mark, c.isDigit = false := fun c hc => (mark_plain hmark c hc).1
    rw [htext, List.append_assoc, value_append hplain (decimal_toDigits n) hstops, hoperand]
  · rw [hnone, hremark, hzero]
    rfl

/-- Reads a line. -/
def placed? (cs : List Char) : Option Placed :=
  let shown := (pastNumber cs).drop 2
  let word := String.ofList (shown.takeWhile (· ≠ ' '))
  (Instruction.ofMnemonic? word).map fun kind =>
    (number cs, kind.withOperand (value (shown.dropWhile (· ≠ ' '))))

theorem placed?_row (constants : List String) (placed : Placed) :
    placed? (row constants placed).toList = some placed := by
  obtain ⟨place, i⟩ := placed
  have hstops : Stops ([' ', ' '] ++ (i.mnemonic.toList ++ behind constants i)) := stops_cons rfl _
  obtain ⟨hnumber, hpast⟩ := number_append (decimal_offset place) hstops
  have hinside : ∀ c ∈ i.mnemonic.toList, decide (c ≠ ' ') = true := fun c hc =>
    decide_eq_true (i.mnemonic_plain c hc).1
  have hend : ∀ c ∈ (behind constants i).head?, decide (c ≠ ' ') = false := by
    intro c hc
    rw [head?_behind constants i c hc]
    rfl
  obtain ⟨hword, hbehind⟩ := run_exact hinside hend
  have hshown : ([' ', ' '] ++ (i.mnemonic.toList ++ behind constants i)).drop 2 =
      i.mnemonic.toList ++ behind constants i := rfl
  rw [toList_row, placed?, hnumber, hpast, hshown, hword, hbehind, String.ofList_toList,
    Instruction.ofMnemonic?_mnemonic, Option.map_some, value_behind,
    Instruction.withOperand_operand]

/-- All lines, each with its end. -/
def body (constants : List String) (code : List Placed) : List Char :=
  code.flatMap fun placed => (row constants placed).toList ++ ['\n']

theorem toList_join_line (constants : List String) (code : List Placed) :
    (String.join (code.map (line constants))).toList = body constants code := by
  rw [String.toList_join, List.flatMap_map, body]
  refine congrArg (fun f => code.flatMap f) (funext fun placed => ?_)
  rw [line_eq, String.toList_append]
  rfl

/-- There is one line for each instruction. -/
theorem splitOn_body (constants : List String) (code : List Placed) :
    (body constants code).splitOn '\n' =
      code.map (fun placed => (row constants placed).toList) ++ [[]] := by
  induction code with
  | nil => rfl
  | cons placed code ih =>
    rw [body, List.flatMap_cons, List.append_assoc, List.singleton_append,
      List.splitOn_append_cons_self_of_not_mem (newline_notMem_row constants placed), ← body, ih]
    rfl

/-- The instructions of a row of lines. -/
def code (cs : List Char) : List Placed :=
  (cs.splitOn '\n').filterMap placed?

theorem code_body (constants : List String) (placed : List Placed) :
    code (body constants placed) = placed := by
  have hread : (placed? ∘ fun placed => (row constants placed).toList) = some := by
    funext placed
    rw [Function.comp_apply, placed?_row]
  -- behind the last line end there is nothing to read
  have hlast : [[]].filterMap placed? = [] := by decide
  rw [code, splitOn_body, List.filterMap_append, List.filterMap_map, hread, List.filterMap_some,
    hlast, List.append_nil]

/-! ## 5. Whole listings -/

/-- The header lines up to the first of the two sizes. -/
def opening (names : UnitNames) : String :=
  "unit " ++ names.unit ++ "\n" ++ "proc " ++ names.entry ++ " (max_stack "

/-- What stands between the two sizes. -/
def between : String := ", max_locals "

/-- Reads the procedure of a unit with the given names. -/
def procedure (names : UnitNames) (listing : List Char) : Procedure :=
  let fromStack := listing.drop (opening names).toList.length
  let fromLocals := (pastNumber fromStack).drop between.toList.length
  { name := names.entry
    maxStack := UInt16.ofNat (number fromStack)
    maxLocals := UInt16.ofNat (number fromLocals)
    text := Instruction.encodeAll ((code ((pastNumber fromLocals).drop 2)).map Prod.snd) }

theorem toList_header (u : CodeUnit) : (header u).toList =
    (opening ⟨u.name, u.entry.name⟩).toList ++ (Nat.toDigits 10 u.entry.maxStack.toNat ++
      (between.toList ++ (Nat.toDigits 10 u.entry.maxLocals.toNat ++ [')', '\n']))) := by
  have hshape : header u = "unit " ++ u.name ++ "\n" ++ ("proc " ++ u.entry.name ++
      " (max_stack " ++ u.entry.maxStack.toNat.repr ++ between ++
      u.entry.maxLocals.toNat.repr ++ ")\n") := rfl
  rw [hshape, opening]
  simp only [String.toList_append, Nat.toList_repr, List.append_assoc]
  rfl

theorem listing_of_decodeAll {u : CodeUnit} {placed : List Placed}
    (h : Instruction.decodeAll u.entry.text = .ok placed) :
    u.listing = header u ++ String.join (placed.map (line u.constants)) := by
  simp only [CodeUnit.listing, h]

/-- **A listing is read back.** -/
theorem procedure_listing {u : CodeUnit} {placed : List Placed}
    (h : Instruction.decodeAll u.entry.text = .ok placed) :
    procedure ⟨u.name, u.entry.name⟩ u.listing.toList = u.entry := by
  obtain ⟨instructions, htext, hplaced⟩ := Instruction.decodeAll_eq_ok_iff.mp h
  have hlisting : u.listing.toList = (opening ⟨u.name, u.entry.name⟩).toList ++
      (Nat.toDigits 10 u.entry.maxStack.toNat ++ (between.toList ++
        (Nat.toDigits 10 u.entry.maxLocals.toNat ++
          ([')', '\n'] ++ body u.constants placed)))) := by
    rw [listing_of_decodeAll h, String.toList_append, toList_header, toList_join_line]
    simp only [List.append_assoc]
  have hend : Stops ([')', '\n'] ++ body u.constants placed) := stops_cons rfl _
  obtain ⟨hlocals, hbody⟩ := number_append (decimal_toDigits u.entry.maxLocals.toNat) hend
  have hbetween : Stops (between.toList ++ (Nat.toDigits 10 u.entry.maxLocals.toNat ++
      ([')', '\n'] ++ body u.constants placed))) := stops_cons rfl _
  obtain ⟨hstack, hrest⟩ := number_append (decimal_toDigits u.entry.maxStack.toNat) hbetween
  have hdrop : ([')', '\n'] ++ body u.constants placed).drop 2 = body u.constants placed := rfl
  rw [procedure, hlisting, List.drop_left, hstack, hrest, List.drop_left, hlocals, hbody, hdrop,
    code_body, hplaced, Instruction.map_snd_placeFrom, ← htext, UInt16.ofNat_toNat,
    UInt16.ofNat_toNat]

end Listing

/-- **A listing determines the code.** Units with the same names that are listed
alike have the same sizes and the same code; and behind the header lines stands
one line for each instruction, in order, whatever the constants are. -/
theorem CodeUnit.listing_determines :
    (∀ (u v : CodeUnit) (placed placed' : List Placed), u.name = v.name →
      u.entry.name = v.entry.name → Instruction.decodeAll u.entry.text = .ok placed →
      Instruction.decodeAll v.entry.text = .ok placed' → u.listing = v.listing →
      u.entry.maxStack = v.entry.maxStack ∧ u.entry.maxLocals = v.entry.maxLocals ∧
        u.entry.text = v.entry.text) ∧
    ∀ (u : CodeUnit) (placed : List Placed), Instruction.decodeAll u.entry.text = .ok placed →
      ∃ lines, u.listing = Listing.header u ++ lines ∧
        lines.toList.splitOn '\n' =
          placed.map (fun p => (Listing.row u.constants p).toList) ++ [[]] := by
  constructor
  · intro u v placed placed' hname hentry hu hv hsame
    have hread : u.entry = v.entry := by
      rw [← Listing.procedure_listing hu, ← Listing.procedure_listing hv, hname, hentry, hsame]
    rw [hread]
    exact ⟨rfl, rfl, rfl⟩
  · intro u placed hu
    refine ⟨_, Listing.listing_of_decodeAll hu, ?_⟩
    rw [Listing.toList_join_line, Listing.splitOn_body]

/-- A unit that prints its first constant. -/
def CodeUnit.printingFirst (constants : List String) : CodeUnit :=
  { version := .current
    name := "p"
    entry := ⟨"main", 2, 0, Instruction.encodeAll [.getStdout, .pushConst 0, .println, .ret]⟩
    constants }

/-- Constants that are not used do not show, and the line end in the first one
makes no line: there are four, and what follows the last is empty. -/
theorem CodeUnit.listing_determines_printingFirst :
    (printingFirst ["a\nb"]).listing = "unit p\n" ++ "proc main (max_stack 2, max_locals 0)\n" ++
      "0000  get_stdout\n" ++ "0002  push_const #0  ; \"a\\nb\"\n" ++ "0008  println\n" ++
      "0010  return\n" ∧
    (printingFirst ["a\nb"]).listing = (printingFirst ["a\nb", "c"]).listing ∧
    (printingFirst ["a\nb"]).entry.text = (printingFirst ["a\nb", "c"]).entry.text ∧
    ∃ lines, (printingFirst ["a\nb"]).listing = Listing.header (printingFirst ["a\nb"]) ++ lines ∧
      (lines.toList.splitOn '\n').length = 5 := by
  have hdecode : ∀ constants, Instruction.decodeAll (printingFirst constants).entry.text =
      .ok (Instruction.placeFrom 0 [.getStdout, .pushConst 0, .println, .ret]) := fun _ =>
    Instruction.decodeAll_encodeAll _
  have hsame : (printingFirst ["a\nb"]).listing = (printingFirst ["a\nb", "c"]).listing := by
    rw [Listing.listing_of_decodeAll (hdecode ["a\nb"]),
      Listing.listing_of_decodeAll (hdecode ["a\nb", "c"])]
    decide +kernel
  obtain ⟨hdetermines, hlines⟩ := listing_determines
  obtain ⟨-, -, htext⟩ := hdetermines (printingFirst ["a\nb"]) (printingFirst ["a\nb", "c"]) _ _
    rfl rfl (hdecode ["a\nb"]) (hdecode ["a\nb", "c"]) hsame
  obtain ⟨lines, hlisting, hsplit⟩ := hlines (printingFirst ["a\nb"]) _ (hdecode ["a\nb"])
  refine ⟨?_, hsame, htext, lines, hlisting, ?_⟩
  · rw [Listing.listing_of_decodeAll (hdecode ["a\nb"])]
    decide +kernel
  · rw [hsplit, List.length_append, List.length_map]
    rfl

end Printlet
