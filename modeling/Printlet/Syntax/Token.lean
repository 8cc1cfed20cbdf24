/-
Printlet.Syntax.Token — the words and signs of a source text.

A source is a row of tokens with trivia (blanks, line ends, comments) before, between and after them.
`scan` finds the tokens from left to right, each with the bytes it covers, and stops at the end of the
text or at the first character that starts no token. It always takes the longest token: `print1` is a
name, `printx` too, and `1x` is a number followed by a name. A pair of slashes starts a comment wherever
a token could start, so a division sign is never followed by a second slash.
-/
import Printlet.Source.Span
import Printlet.Syntax.Tree

namespace Printlet

/-- A word or sign of the language. A number is its value, a text is kept with its quotes. -/
inductive Token where
  | printWord
  | letWord
  | assign
  | semicolon
  | openParen
  | closeParen
  | sum (op : SumOp)
  | product (op : ProductOp)
  | int (value : Nat)
  | text (literal : String)
  | name (name : String)
  deriving DecidableEq, Repr

/-- A token and the bytes that it covers. -/
structure Lexeme where
  token : Token
  span : Span
  deriving DecidableEq, Repr

/-! ## Characters -/

/-- A blank between tokens. -/
def isBlank (c : Char) : Bool :=
  c = ' ' || c = '\t' || c = '\n' || c = '\r'

/-- A character that ends a comment. -/
def endsComment (c : Char) : Bool :=
  c = '\n' || c = '\r'

/-- A decimal digit. -/
def isDigit (c : Char) : Bool :=
  '0' ≤ c && c ≤ '9'

/-- A character that may start a name. -/
def startsName (c : Char) : Bool :=
  ('a' ≤ c && c ≤ 'z') || ('A' ≤ c && c ≤ 'Z') || c = '_'

/-- A character that may stand in a name. -/
def inName (c : Char) : Bool :=
  startsName c || isDigit c

/-- The number that a row of digits denotes. -/
def digitsValue (ds : List Char) : Nat :=
  ds.foldl (fun n d => 10 * n + (d.toNat - '0'.toNat)) 0

/-! ## Trivia -/

/-- Splits the trivia off the front of a text. The flag says whether a comment is open. -/
def splitTrivia : Bool → List Char → List Char × List Char
  | _, [] => ([], [])
  | true, c :: cs =>
    let (trivia, rest) := splitTrivia (!endsComment c) cs
    (c :: trivia, rest)
  | false, '/' :: '/' :: cs =>
    let (trivia, rest) := splitTrivia true cs
    ('/' :: '/' :: trivia, rest)
  | false, c :: cs =>
    if isBlank c then
      let (trivia, rest) := splitTrivia false cs
      (c :: trivia, rest)
    else ([], c :: cs)

/-- Trivia and rest make up the text. -/
theorem splitTrivia_append (comment : Bool) (cs : List Char) :
    (splitTrivia comment cs).1 ++ (splitTrivia comment cs).2 = cs := by
  fun_induction splitTrivia comment cs <;> simp_all

/-! ## Tokens -/

/-- The token that a word spells. -/
def Token.ofWord (word : String) : Token :=
  if word = "print" then .printWord
  else if word = "let" then .letWord
  else .name word

/-- The token that a single sign stands for. -/
def Token.ofSign? (c : Char) : Option Token :=
  if c = '=' then some .assign
  else if c = ';' then some .semicolon
  else if c = '(' then some .openParen
  else if c = ')' then some .closeParen
  else if c = '+' then some (.sum .add)
  else if c = '-' then some (.sum .sub)
  else if c = '*' then some (.product .mul)
  else if c = '/' then some (.product .div)
  else none

/-- The token at the front of a text that starts with no trivia, with its spelling and what follows
it. -/
def Token.read? : List Char → Option (Token × List Char × List Char)
  | [] => none
  | c :: cs =>
    match Token.ofSign? c with
    | some sign => some (sign, [c], cs)
    | none =>
      if isDigit c then
        let digits := c :: cs.takeWhile isDigit
        some (.int (digitsValue digits), digits, cs.dropWhile isDigit)
      else if startsName c then
        let word := c :: cs.takeWhile inName
        some (.ofWord (String.ofList word), word, cs.dropWhile inName)
      else if c = '"' then
        match cs.dropWhile (· ≠ '"') with
        | [] => none
        | q :: rest =>
          let literal := c :: (cs.takeWhile (· ≠ '"') ++ [q])
          some (.text (String.ofList literal), literal, rest)
      else none

/-- Spelling and rest make up the text, and the spelling is not empty. -/
theorem Token.read?_append {cs spelling rest : List Char} {t : Token}
    (h : Token.read? cs = some (t, spelling, rest)) : spelling ++ rest = cs ∧ spelling ≠ [] := by
  cases cs with
  | nil => simp [Token.read?] at h
  | cons c cs =>
    simp only [Token.read?] at h
    split at h
    · -- a sign
      obtain ⟨rfl, rfl, rfl⟩ := by simpa using h
      simp
    · split at h
      · -- a number
        obtain ⟨rfl, rfl, rfl⟩ := by simpa using h
        simp
      · split at h
        · -- a word
          obtain ⟨rfl, rfl, rfl⟩ := by simpa using h
          simp
        · split at h
          · -- a text
            split at h
            · simp at h
            · rename_i q tail closing
              have whole := List.takeWhile_append_dropWhile (p := (· ≠ '"')) (l := cs)
              obtain ⟨rfl, rfl, rfl⟩ := by simpa using h
              rw [closing] at whole
              simpa using whole
          · simp at h

/-! ## Scanning -/

/-- What scanning finds: the lexemes, the offset after the trivia that follows the last one, and
whether that is the end of the text. -/
structure Scan where
  lexemes : List Lexeme
  stop : Nat
  complete : Bool
  deriving DecidableEq, Repr

/-- What follows the first token is shorter than the text. -/
theorem Scan.rest_length_lt {cs trivia text spelling rest : List Char} {t : Token}
    (split : splitTrivia false cs = (trivia, text))
    (read : Token.read? text = some (t, spelling, rest)) : rest.length < cs.length := by
  have whole := splitTrivia_append false cs
  obtain ⟨parts, nonempty⟩ := Token.read?_append read
  have := List.length_pos_iff.mpr nonempty
  rw [split, ← parts] at whole
  rw [← whole]
  simp only [List.length_append]
  omega

/-- Scans a text whose first character stands at byte `offset`. -/
def Scan.ofChars (offset : Nat) (cs : List Char) : Scan :=
  match split : splitTrivia false cs with
  | (trivia, text) =>
    let start := offset + Source.byteLength trivia
    match read : Token.read? text with
    | none => ⟨[], start, text.isEmpty⟩
    | some (token, spelling, rest) =>
      have : rest.length < cs.length := Scan.rest_length_lt split read
      let stop := start + Source.byteLength spelling
      let scan := Scan.ofChars stop rest
      ⟨⟨token, ⟨start, stop⟩⟩ :: scan.lexemes, scan.stop, scan.complete⟩
termination_by cs.length

/-- Scans a source. -/
def Scan.ofSource (source : String) : Scan :=
  Scan.ofChars 0 source.toList

end Printlet
