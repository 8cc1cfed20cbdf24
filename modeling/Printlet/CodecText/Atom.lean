/-
Printlet.CodecText.Atom — the smallest parts of the text of a declaration.

A text is a row of atoms: words, lifetimes, literals, signs and brackets, with gaps and comments between
them. Where an atom could be read in two ways the longer kinds win: what starts a literal is one, so
`r"x"` is a text and `r#x` a word, and `'a'` is a character and `'a` a lifetime. A point belongs to a
number unless a word or a second point comes next: `2.` is a number, `2..` and `2.x` are not.

A sign is joined to what follows if that starts with a sign too. A comment in between parts them. A
comment that documents something is not skipped but stands for an attribute.
-/
import Printlet.Text.Blank
import Printlet.Text.Quoted

namespace Printlet

namespace CodecText

/-- The smallest parts of a text. -/
inductive Atom where
  | word (text : String)
  | lifetime (text : String)
  | literal (text : String)
  | sign (c : Char) (joined : Bool)
  | opening (c : Char)
  | closing (c : Char)
  deriving DecidableEq, Repr

/-! ## Characters -/

/-- Whether a character separates atoms. -/
def isGap (c : Char) : Bool :=
  Text.isBlank c || c = '\u200e' || c = '\u200f'

/-- Whether a character is a sign. -/
def isSign (c : Char) : Bool :=
  "~!@#$%^&*-=+|;:,<.>/?'".toList.contains c

/-- Whether a word can hold a character. -/
def inWord (c : Char) : Bool :=
  c.isAlphanum || c = '_' || (0x80 ≤ c.toNat && !isGap c)

/-- Whether a word can start with a character. -/
def startsWord (c : Char) : Bool :=
  inWord c && !c.isDigit

/-- Whether a character stands among the digits of a decimal number. -/
def inDecimal (c : Char) : Bool :=
  c.isDigit || c = '_'

/-! ## Lengths

How many characters an atom takes. -/

/-- A word, which may have the mark of a reserved word in front. -/
def wordLength : List Char → Nat
  | 'r' :: '#' :: cs =>
    if cs.head?.any startsWord then 2 + (cs.takeWhile inWord).length else 1
  | cs => (cs.takeWhile inWord).length

/-- A quoted text behind its opening quote, with the closing one. -/
def quotedLength : List Char → Nat
  | [] => 0
  | '\\' :: _ :: cs => 2 + quotedLength cs
  | c :: cs => if c = '"' then 1 else 1 + quotedLength cs

/-- A text without escapes behind its opening quote; it ends with a quote and a number of marks. -/
def rawLength (marks : Nat) : List Char → Nat
  | [] => 0
  | c :: cs =>
    if c = '"' && cs.take marks = List.replicate marks '#' then 1 + marks else 1 + rawLength marks cs

/-- A text without escapes, behind the letter that announces it. -/
def rawText? (cs : List Char) : Option Nat :=
  let marks := (cs.takeWhile (· = '#')).length
  match cs.drop marks with
  | '"' :: rest => some (marks + 1 + rawLength marks rest)
  | _ => none

/-- A character behind its opening quote, with the closing one. -/
def characterLength? : List Char → Option Nat
  | '\\' :: _ :: cs =>
    let rest := (cs.takeWhile (· ≠ '\'')).length
    if cs[rest]? = some '\'' then some (3 + rest) else none
  | _ :: '\'' :: _ => some 2
  | _ => none

/-- The exponent of a number behind its letter: there may be a sign, and there is a digit. -/
def exponentLength? (cs : List Char) : Option Nat :=
  let gap := (cs.takeWhile (· = '_')).length
  let mark := if (cs.drop gap).head?.any (fun c => c = '+' || c = '-') then 1 else 0
  let digits := (cs.drop (gap + mark)).takeWhile inDecimal
  if digits.any Char.isDigit then some (gap + mark + digits.length) else none

/-- A number with a point or an exponent. -/
def fractionLength? (cs : List Char) : Option Nat :=
  let whole := (cs.takeWhile inDecimal).length
  match cs.drop whole with
  | '.' :: rest =>
    if rest.head?.any (fun c => c = '.' || startsWord c) then none
    else
      let digits := (rest.takeWhile inDecimal).length
      let plain := whole + 1 + digits
      match rest.drop digits with
      | e :: more =>
        if e = 'e' || e = 'E' then some (plain + ((exponentLength? more).map (1 + ·)).getD 0)
        else some plain
      | [] => some plain
  | e :: more =>
    if e = 'e' || e = 'E' then (exponentLength? more).map (whole + 1 + ·) else none
  | [] => none

/-- A number. Without a point or an exponent it looks like a word that starts with a digit. -/
def numberLength (cs : List Char) : Nat :=
  (fractionLength? cs).getD (cs.takeWhile inWord).length

/-- A literal without the name of its type, if one is in front. -/
def plainLiteral? : List Char → Option Nat
  | '"' :: cs => some (1 + quotedLength cs)
  | '\'' :: cs => (characterLength? cs).map (1 + ·)
  | 'b' :: '\'' :: cs => (characterLength? cs).map (2 + ·)
  | 'b' :: '"' :: cs => some (2 + quotedLength cs)
  | 'c' :: '"' :: cs => some (2 + quotedLength cs)
  | 'b' :: 'r' :: cs => (rawText? cs).map (2 + ·)
  | 'c' :: 'r' :: cs => (rawText? cs).map (2 + ·)
  | 'r' :: cs => (rawText? cs).map (1 + ·)
  | c :: cs => if c.isDigit then some (numberLength (c :: cs)) else none
  | [] => none

/-- A literal, if one is in front. The name of its type can follow directly. -/
def literal? (cs : List Char) : Option Nat :=
  (plainLiteral? cs).map fun length =>
    match cs.drop length with
    | c :: rest => if startsWord c then length + 1 + (rest.takeWhile inWord).length else length
    | [] => length

/-- The length of what is left of a comment, in which `depth` comments are open. -/
def commentLength : (depth : Nat) → List Char → Nat
  | _, [] => 0
  | depth, '*' :: '/' :: cs => if depth ≤ 1 then 2 else 2 + commentLength (depth - 1) cs
  | depth, '/' :: '*' :: cs => 2 + commentLength (depth + 1) cs
  | depth, _ :: cs => 1 + commentLength depth cs

/-! ## Comments -/

/-- Whether a comment starts here. -/
def startsComment : List Char → Bool
  | '/' :: '/' :: _ => true
  | '/' :: '*' :: _ => true
  | _ => false

/-- The attribute that a comment stands for, if it documents what follows or, with `inner`, what it is
in. -/
def documentation (inner : Bool) (text : List Char) : List Atom :=
  [.sign '#' false] ++ (if inner then [.sign '!' false] else []) ++
  [ .opening '[', .word "doc", .sign '=' false, .literal (Text.quoted (String.ofList text))
  , .closing ']' ]

/-- What a comment to the end of the line stands for. -/
def lineComment (text : List Char) : List Atom :=
  let text := if text.getLast? = some '\r' then text.dropLast else text
  match text with
  | '/' :: '/' :: '/' :: '/' :: _ => []
  | '/' :: '/' :: '/' :: rest => documentation false rest
  | '/' :: '/' :: '!' :: rest => documentation true rest
  | _ => []

/-- What a comment between marks stands for. -/
def blockComment (text : List Char) : List Atom :=
  let inside (rest : List Char) := rest.take (rest.length - 2)
  match text with
  | '/' :: '*' :: '*' :: '/' :: _ => []
  | '/' :: '*' :: '*' :: '*' :: _ => []
  | '/' :: '*' :: '*' :: rest => documentation false (inside rest)
  | '/' :: '*' :: '!' :: rest => documentation true (inside rest)
  | _ => []

/-! ## Atoms -/

/-- The atoms at the front of a text that is not empty, and how many characters they take. A gap takes
one character and a comment all of its own. -/
def atomsAt (c : Char) (cs : List Char) : List Atom × Nat :=
  let text := c :: cs
  let piece (length : Nat) := String.ofList (text.take length)
  if isGap c then ([], 1)
  else if startsComment text then
    if cs.head? = some '/' then
      let length := (text.takeWhile (· ≠ '\n')).length
      (lineComment (text.take length), length)
    else
      let length := 2 + commentLength 1 (cs.drop 1)
      (blockComment (text.take length), length)
  else if c = '(' || c = '[' || c = '\x7b' then ([.opening c], 1)
  else if c = ')' || c = ']' || c = '\x7d' then ([.closing c], 1)
  else
    match literal? text with
    | some length => ([.literal (piece length)], length)
    | none =>
      if c = '\'' then ([.lifetime (piece (1 + wordLength cs))], 1 + wordLength cs)
      else if inWord c then ([.word (piece (wordLength text))], wordLength text)
      else ([.sign c (cs.head?.any isSign && !startsComment cs)], 1)

/-- The atoms of a text, of which the first characters are to be skipped. -/
def atoms : (skip : Nat) → List Char → List Atom
  | _, [] => []
  | skip + 1, _ :: cs => atoms skip cs
  | 0, c :: cs =>
    let (front, length) := atomsAt c cs
    front ++ atoms (length - 1) cs

end CodecText

end Printlet
