/-
Printlet.Script.ValuePattern — whether a text is a pattern for values.

A filter can ask for a value by a pattern. Here it only matters whether the pattern is one: a filter with
a broken pattern cannot be read at all. In a pattern

* round brackets come in pairs, and what starts with a question mark behind the opening one names the group
  or sets flags;
* a star, a plus sign and a question mark repeat what is in front of them, so there is something in front;
* square brackets hold a class of characters, which is not empty and has no range that runs backwards;
* a backslash takes the meaning from a sign, or stands for a character by letter or by number.

Patterns compare characters one by one. They know no classes of letters and digits, no words and no cases,
so the escapes and the flag for these are refused. A pattern in a filter cannot hold a closing brace; hence
an opening brace, which would count repetitions, is never closed.
-/
import Printlet.Text.Alphanumeric

namespace Printlet

namespace ValuePattern

/-! ## Escapes -/

/-- Whether a character is a hexadecimal digit. -/
def isHex (c : Char) : Bool :=
  c.isDigit || ('a' ≤ c && c ≤ 'f') || ('A' ≤ c && c ≤ 'F')

/-- The value of a hexadecimal digit. -/
def hexValue (c : Char) : Nat :=
  if c.isDigit then c.toNat - '0'.toNat
  else if 'a' ≤ c then c.toNat - 'a'.toNat + 10
  else c.toNat - 'A'.toNat + 10

/-- The character that hexadecimal digits number. -/
def ofHex? (digits : List Char) : Option Char :=
  let n := digits.foldl (fun n c => 16 * n + hexValue c) 0
  if h : n.isValidChar then some (Char.ofNatAux n h) else none

/-- How many digits number a character behind a letter. -/
def hexLength? (c : Char) : Option Nat :=
  match c with
  | 'x' => some 2
  | 'u' => some 4
  | 'U' => some 8
  | _ => none

/-- The characters that have a letter of their own. -/
def controls : List (Char × Char) :=
  [ ('a', '\x07'), ('f', '\x0c'), ('t', '\t'), ('n', '\n'), ('r', '\r'), ('v', '\x0b') ]

/-- The character that is escaped behind a backslash, and how many characters that takes. -/
def escaped? : List Char → Option (Char × Nat)
  | [] => none
  | c :: cs =>
    match hexLength? c, controls.lookup c with
    | some length, _ =>
      let digits := cs.take length
      if digits.length = length && digits.all isHex then
        (ofHex? digits).map fun d => (d, 1 + length)
      else none
    | none, some control => some (control, 1)
    | none, none =>
      if c.toNat < 0x80 && !c.isAlphanum && c ≠ '<' && c ≠ '>' then some (c, 1) else none

/-- The character at the front of a class, escaped or not, and how many characters that takes. -/
def classMember? : List Char → Option (Char × Nat)
  | [] => none
  | '\\' :: cs => (escaped? cs).map fun (c, length) => (c, 1 + length)
  | c :: _ => some (c, 1)

/-! ## Classes -/

/-- What has been read of a class: nothing, the mark that it is negated, dashes only, or more. -/
inductive ClassState where
  | opened
  | negated
  | dashes
  | filled
  deriving DecidableEq, Repr

/-- The names of classes in a class. -/
def classNames : List String :=
  [ "alnum", "alpha", "ascii", "blank", "cntrl", "digit", "graph", "lower", "print", "punct", "space"
  , "upper", "word", "xdigit" ]

/-- The length of a named class, behind its opening bracket. -/
def namedClass? (cs : List Char) : Option Nat :=
  match cs with
  | ':' :: rest =>
    let name := rest.takeWhile fun c => c ≠ ':'
    let plain := if name.head? = some '^' then name.drop 1 else name
    let closed := (rest.drop name.length).take 2 = [':', ']']
    if closed && classNames.contains (String.ofList plain) then some (name.length + 3) else none
  | _ => none

/-- The length of a member of a class or of a range of members, if it does not run backwards. -/
def classRange? (cs : List Char) : Option Nat := do
  let (first, length) ← classMember? cs
  match cs.drop length with
  | '-' :: c :: rest =>
    if c = ']' || c = '-' then return length
    let (last, more) ← classMember? (c :: rest)
    if first ≤ last then return length + 1 + more else none
  | _ => return length

/-- The length of a class behind its opening bracket, of which the first characters are to be skipped and
in which `depth` further classes are open. -/
def classLength? : (skip depth : Nat) → ClassState → List Char → Option Nat
  | _, _, _, [] => none
  | skip + 1, depth, state, _ :: cs => (classLength? skip depth state cs).map (1 + ·)
  | 0, depth, state, c :: cs =>
    if c = '^' && state = .opened then (classLength? 0 depth .negated cs).map (1 + ·)
    else if c = '-' && state ≠ .filled then (classLength? 0 depth .dashes cs).map (1 + ·)
    else if c = ']' && (state = .dashes || state = .filled) then
      match depth with
      | 0 => some 1
      | depth + 1 => (classLength? 0 depth .filled cs).map (1 + ·)
    else if c = '[' then
      match namedClass? cs with
      | some length => (classLength? length depth .filled cs).map (1 + ·)
      | none => (classLength? 0 (depth + 1) .opened cs).map (1 + ·)
    else if (c = '&' || c = '-' || c = '~') && cs.head? = some c then
      (classLength? 1 depth .filled cs).map (1 + ·)
    else
      match classRange? (c :: cs) with
      | some length => (classLength? (length - 1) depth .filled cs).map (1 + ·)
      | none => none

/-! ## Patterns -/

/-- Whether a word can name a group. -/
def isGroupName (name : List Char) : Bool :=
  match name with
  | [] => false
  | c :: cs =>
    (Text.isAlphanumeric c || c = '_') && !c.isDigit &&
    cs.all fun c => Text.isAlphanumeric c || ['_', '.', '[', ']'].contains c

/-- Whether letters set and unset flags. -/
def areFlags (flags : List Char) : Bool :=
  let set := flags.takeWhile (· ≠ '-')
  let unset := flags.drop set.length
  let letters := flags.filter (· ≠ '-')
  !letters.isEmpty && !set.contains 'i' && unset.length ≠ 1 && flags.count '-' ≤ 1 &&
  letters.all (fun c => letters.count c = 1 && "imsUuxR".toList.contains c)

/-- What starts a group, behind its opening bracket: how many characters that takes, and whether the group
stays open. Flags alone are no group. -/
def groupStart? (cs : List Char) : Option (Nat × Bool) :=
  let named (marks : Nat) (rest : List Char) :=
    let name := rest.takeWhile (· ≠ '>')
    if isGroupName name && rest[name.length]? = some '>' then some (marks + name.length + 1, true)
    else none
  match cs with
  | '?' :: ':' :: _ => some (2, true)
  | '?' :: 'P' :: '<' :: rest => named 3 rest
  | '?' :: '<' :: rest => named 2 rest
  | '?' :: rest =>
    let flags := rest.takeWhile fun c => c ≠ ':' && c ≠ ')'
    match areFlags flags, rest[flags.length]? with
    | true, some ':' => some (flags.length + 2, true)
    | true, some ')' => some (flags.length + 2, false)
    | _, _ => none
  | _ => some (0, true)

/-- Whether a text is a pattern, if its first characters are skipped, `depth` groups are open, and
`operand` says whether there is something to repeat. -/
def accepts : (skip depth : Nat) → (operand : Bool) → List Char → Bool
  | _, depth, _, [] => depth = 0
  | skip + 1, depth, operand, _ :: cs => accepts skip depth operand cs
  | 0, depth, operand, c :: cs =>
    match c with
    | '(' =>
      match groupStart? cs with
      | some (length, true) => accepts length (depth + 1) false cs
      | some (length, false) => accepts length depth false cs
      | none => false
    | ')' => 0 < depth && accepts 0 (depth - 1) true cs
    | '|' => accepts 0 depth false cs
    | '[' =>
      match classLength? 0 0 .opened cs with
      | some length => accepts length depth true cs
      | none => false
    | '\\' =>
      match cs with
      | 'A' :: _ => accepts 1 depth true cs
      | 'z' :: _ => accepts 1 depth true cs
      | _ =>
        match escaped? cs with
        | some (_, length) => accepts length depth true cs
        | none => false
    | '\x7b' => false
    | c => if ['*', '+', '?'].contains c then operand && accepts 0 depth true cs
      else accepts 0 depth true cs

/-! ## Values -/

/-- Whether a text without its sign is a number. -/
def isNumber (cs : List Char) : Bool :=
  let mantissa := cs.takeWhile fun c => c ≠ 'e' && c ≠ 'E'
  let digits := mantissa.filter Char.isDigit
  let plain := !digits.isEmpty && mantissa.all (fun c => c.isDigit || c = '.') &&
    mantissa.count '.' ≤ 1
  match cs.drop mantissa.length with
  | [] => plain
  | _ :: exponent =>
    let digits := if exponent.head?.any (fun c => c = '+' || c = '-') then exponent.drop 1 else exponent
    plain && !digits.isEmpty && digits.all Char.isDigit

/-- Whether a text asks for a value: it is a number with a plus sign, or a pattern. -/
def isValid (text : List Char) : Bool :=
  match text with
  | '+' :: cs =>
    isNumber cs || ["INF", "INFINITY", "NAN"].contains (String.ofList cs).toUpper
  | cs => accepts 0 0 false cs

end ValuePattern

end Printlet
