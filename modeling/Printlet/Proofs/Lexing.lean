/-
Printlet.Proofs.Lexing — which texts spell which tokens.

`Spells tokens text` is the lexical grammar, said without the scanner: trivia
stands before each token and at the end, each token is written in one of its
ways, a word is not followed by a character that would belong to it, and a
division sign not by a second slash. Nothing is said of longest matches, and
nothing of what may stand next to a number.

How the proof goes. Both functions of the scanner split a text at one place,
and each split is found if it is asked for: `splitTrivia_eq_iff` for trivia,
`Token.read?_sound` and `Token.read?_complete` for a token. So the scanner finds
the only row that a text can spell. `Located` is `Spells` with places:

* `Scan.located` — what is scanned to the end is spelled by the text, each
  lexeme at its bytes;
* `Located.scan` — a row that a text spells is what is scanned, if no two numbers
  stand side by side in it (`12` spells the row of `1` and `2`, too);
* `Scan.liesIn` — also of a text that is not scanned to the end, each lexeme
  covers the bytes of its own spelling.
-/
import Mathlib.Data.List.Chain
import Mathlib.Data.List.TakeWhile
import Printlet.Syntax.Token

namespace Printlet

/-! ## 1. The lexical grammar -/

/-- Nothing follows, or a character that ends a comment. -/
def EndsLine (cs : List Char) : Prop :=
  ∀ c ∈ cs.head?, c = '\n' ∨ c = '\r'

/-- Blanks and comments, with `after` behind them. A comment goes on to the end
of its line or of the text. -/
inductive Trivia (after : List Char) : List Char → Prop
  | nil : Trivia after []
  | blank {c : Char} {cs : List Char} (hc : c = ' ' ∨ c = '\t' ∨ c = '\n' ∨ c = '\r')
      (rest : Trivia after cs) : Trivia after (c :: cs)
  | comment {body cs : List Char} (hbody : ∀ c ∈ body, c ≠ '\n' ∧ c ≠ '\r')
      (hend : EndsLine (cs ++ after)) (rest : Trivia after cs) :
      Trivia after ('/' :: '/' :: (body ++ cs))

/-- A character that may stand in a name: a letter, a digit or a low line. -/
def NameChar (c : Char) : Prop :=
  c.isAlphanum = true ∨ c = '_'

/-- A name starts with no digit and is not one of the two words of the language. -/
def IsName (s : String) : Prop :=
  (∃ c cs, s.toList = c :: cs ∧ (c.isAlpha = true ∨ c = '_') ∧ ∀ d ∈ cs, NameChar d) ∧
    s ≠ "print" ∧ s ≠ "let"

/-- A text literal has quotes at its ends and none between them. -/
def IsLiteral (s : String) : Prop :=
  ∃ inner, s.toList = '"' :: (inner ++ ['"']) ∧ '"' ∉ inner

namespace Token

/-- The ways to write a token. A number may have zeros in front. -/
def Written : Token → List Char → Prop
  | .printWord, cs => cs = "print".toList
  | .letWord, cs => cs = "let".toList
  | .assign, cs => cs = ['=']
  | .semicolon, cs => cs = [';']
  | .openParen, cs => cs = ['(']
  | .closeParen, cs => cs = [')']
  | .sum .add, cs => cs = ['+']
  | .sum .sub, cs => cs = ['-']
  | .product .mul, cs => cs = ['*']
  | .product .div, cs => cs = ['/']
  | .int value, cs => cs ≠ [] ∧ (∀ c ∈ cs, c.isDigit = true) ∧ Nat.ofDigitChars 10 cs 0 = value
  | .text literal, cs => cs = literal.toList
  | .name s, cs => cs = s.toList

/-- What may stand directly behind a token. -/
def StopsBefore : Token → List Char → Prop
  | .printWord, rest => ∀ c ∈ rest.head?, ¬ NameChar c
  | .letWord, rest => ∀ c ∈ rest.head?, ¬ NameChar c
  | .name _, rest => ∀ c ∈ rest.head?, ¬ NameChar c
  | .product .div, rest => ∀ c ∈ rest.head?, c ≠ '/'
  | _, _ => True

end Token

/-- The text spells the tokens, with trivia before each of them and at the end. -/
inductive Spells : List Token → List Char → Prop
  | nil {trivia : List Char} (h : Trivia [] trivia) : Spells [] trivia
  | cons {t : Token} {ts : List Token} {trivia word rest : List Char}
      (front : Trivia (word ++ rest) trivia) (written : t.Written word)
      (stops : t.StopsBefore rest) (back : Spells ts rest) :
      Spells (t :: ts) (trivia ++ (word ++ rest))

/-! ## 2. Characters -/

theorem isDigit_eq (c : Char) : isDigit c = c.isDigit := rfl

theorem isAlpha_eq (c : Char) :
    c.isAlpha = (('A' ≤ c && c ≤ 'Z') || ('a' ≤ c && c ≤ 'z')) := by
  have hupper : c.isUpper = decide ('A' ≤ c ∧ c ≤ 'Z') := rfl
  have hlower : c.isLower = ('a' ≤ c && c ≤ 'z') := rfl
  show (c.isUpper || c.isLower) = _
  rw [hupper, hlower, Bool.decide_and]

theorem startsName_eq (c : Char) : startsName c = (c.isAlpha || c = '_') := by
  rw [isAlpha_eq, startsName, Bool.or_comm (_ && _)]

theorem inName_eq (c : Char) : inName c = (c.isAlphanum || c = '_') := by
  rw [inName, startsName_eq, isDigit_eq, Char.isAlphanum, Bool.or_assoc, Bool.or_assoc,
    Bool.or_comm (decide _)]

theorem startsName_iff (c : Char) : startsName c = true ↔ c.isAlpha = true ∨ c = '_' := by
  simp [startsName_eq]

theorem inName_iff (c : Char) : inName c = true ↔ NameChar c := by
  simp [inName_eq, NameChar]

theorem isBlank_iff (c : Char) : isBlank c = true ↔ c = ' ' ∨ c = '\t' ∨ c = '\n' ∨ c = '\r' := by
  simp [isBlank, or_assoc]

theorem endsComment_iff (c : Char) : endsComment c = true ↔ c = '\n' ∨ c = '\r' := by
  simp [endsComment]

theorem isBlank_of_endsComment {c : Char} (h : endsComment c = true) : isBlank c = true := by
  rw [endsComment_iff] at h
  rw [isBlank_iff]
  exact .inr (.inr h)

/-- A longest run is found where it ends. -/
theorem run_exact {p : Char → Bool} {front rest : List Char} (inside : ∀ c ∈ front, p c = true)
    (stop : ∀ c ∈ rest.head?, p c = false) :
    (front ++ rest).takeWhile p = front ∧ (front ++ rest).dropWhile p = rest := by
  rw [List.takeWhile_append_of_pos inside, List.dropWhile_append_of_pos inside]
  cases rest with
  | nil => simp
  | cons c rest =>
    have hc : p c = false := stop c rfl
    simp [hc]

theorem head?_dropWhile_eq_false {p : Char → Bool} (cs : List Char) :
    ∀ c ∈ (cs.dropWhile p).head?, p c = false := by
  intro c hc
  have h := List.head?_dropWhile_not p cs
  rw [Option.mem_def.mp hc] at h
  exact h

/-! ## 3. Trivia -/

/-- Neither a blank nor a comment stands at the front. -/
def NoTrivia (cs : List Char) : Prop :=
  (∀ c ∈ cs.head?, isBlank c = false) ∧ ¬ ['/', '/'] <+: cs

/-- The rest of a comment, and trivia behind it. -/
def InComment (after cs : List Char) : Prop :=
  ∃ body later, cs = body ++ later ∧ (∀ c ∈ body, c ≠ '\n' ∧ c ≠ '\r') ∧
    EndsLine (later ++ after) ∧ Trivia after later

theorem splitTrivia_comment (c : Char) (cs : List Char) :
    splitTrivia true (c :: cs) =
      (c :: (splitTrivia (!endsComment c) cs).1, (splitTrivia (!endsComment c) cs).2) := rfl

theorem splitTrivia_slashes (cs : List Char) :
    splitTrivia false ('/' :: '/' :: cs) =
      ('/' :: '/' :: (splitTrivia true cs).1, (splitTrivia true cs).2) := rfl

theorem splitTrivia_blank {c : Char} (h : isBlank c = true) (cs : List Char) :
    splitTrivia false (c :: cs) =
      (c :: (splitTrivia false cs).1, (splitTrivia false cs).2) := by
  have hslash : c ≠ '/' := by
    rintro rfl
    cases h
  rw [splitTrivia.eq_4 _ _ fun _ hc _ => hslash hc, if_pos h]

theorem splitTrivia_of_noTrivia {cs : List Char} (h : NoTrivia cs) :
    splitTrivia false cs = ([], cs) := by
  cases cs with
  | nil => rfl
  | cons c cs =>
    have hblank : ¬ isBlank c = true := by simp [h.1 c rfl]
    have hslashes : ∀ tail, c = '/' → cs = '/' :: tail → False := by
      rintro tail rfl rfl
      exact h.2 ⟨tail, rfl⟩
    rw [splitTrivia.eq_4 _ _ hslashes, if_neg hblank]

/-- What is split off is trivia, and none is left. -/
theorem splitTrivia_sound (inside : Bool) (cs : List Char) :
    (match inside with
      | true => InComment (splitTrivia inside cs).2 (splitTrivia inside cs).1
      | false => Trivia (splitTrivia inside cs).2 (splitTrivia inside cs).1) ∧
    NoTrivia (splitTrivia inside cs).2 := by
  induction inside, cs using splitTrivia.induct with
  | case1 inside =>
    have hnone : NoTrivia [] := ⟨by simp, by simp⟩
    cases inside with
    | true => exact ⟨⟨[], [], rfl, by simp, by simp [EndsLine, splitTrivia], .nil⟩, hnone⟩
    | false => exact ⟨.nil, hnone⟩
  | case2 c cs trivia rest _ ih =>
    rw [splitTrivia_comment]
    cases hend : endsComment c with
    | true =>
      -- the line end is a blank, and the comment has no more characters
      rw [hend] at ih
      have hc := (endsComment_iff c).mp hend
      refine ⟨⟨[], _, rfl, by simp, ?_, .blank (.inr (.inr hc)) ih.1⟩, ih.2⟩
      intro d hd
      cases hd
      exact hc
    | false =>
      rw [hend] at ih
      obtain ⟨⟨body, later, hcs, hbody, hline, htrivia⟩, hnone⟩ := ih
      refine ⟨⟨c :: body, later, ?_, ?_, hline, htrivia⟩, hnone⟩
      · exact congrArg (c :: ·) hcs
      · have hc : c ≠ '\n' ∧ c ≠ '\r' := by simpa [endsComment] using hend
        exact List.forall_mem_cons.mpr ⟨hc, hbody⟩
  | case3 cs trivia rest _ ih =>
    rw [splitTrivia_slashes]
    obtain ⟨⟨body, later, hcs, hbody, hline, htrivia⟩, hnone⟩ := ih
    refine ⟨?_, hnone⟩
    rw [hcs]
    exact .comment hbody hline htrivia
  | case4 c cs _ hblank trivia rest _ ih =>
    rw [splitTrivia_blank hblank]
    exact ⟨.blank ((isBlank_iff c).mp hblank) ih.1, ih.2⟩
  | case5 c cs hslashes hblank =>
    have hnone : NoTrivia (c :: cs) := by
      refine ⟨?_, ?_⟩
      · intro d hd
        cases hd
        simpa using hblank
      · rintro ⟨tail, htail⟩
        cases htail
        exact hslashes tail rfl rfl
    rw [splitTrivia_of_noTrivia hnone]
    exact ⟨.nil, hnone⟩

/-- At the end of a line a comment is over. -/
theorem splitTrivia_endsLine {cs : List Char} (h : EndsLine cs) :
    splitTrivia true cs = splitTrivia false cs := by
  cases cs with
  | nil => rfl
  | cons c cs =>
    have hend : endsComment c = true := (endsComment_iff c).mpr (h c rfl)
    rw [splitTrivia_comment, splitTrivia_blank (isBlank_of_endsComment hend), hend]
    rfl

/-- A comment is split off up to the end of its line. -/
theorem splitTrivia_body {body : List Char} (hbody : ∀ c ∈ body, c ≠ '\n' ∧ c ≠ '\r')
    (cs : List Char) :
    splitTrivia true (body ++ cs) =
      (body ++ (splitTrivia true cs).1, (splitTrivia true cs).2) := by
  induction body with
  | nil => rfl
  | cons c body ih =>
    obtain ⟨hc, hrest⟩ := List.forall_mem_cons.mp hbody
    have hend : endsComment c = false := by simp [endsComment, hc]
    rw [List.cons_append, splitTrivia_comment, hend, Bool.not_false, ih hrest]
    rfl

theorem splitTrivia_complete {trivia rest : List Char} (h : Trivia rest trivia)
    (hnone : NoTrivia rest) : splitTrivia false (trivia ++ rest) = (trivia, rest) := by
  induction h with
  | nil => exact splitTrivia_of_noTrivia hnone
  | blank hc _ ih => rw [List.cons_append, splitTrivia_blank ((isBlank_iff _).mpr hc), ih]
  | @comment body cs hbody hend _ ih =>
    show splitTrivia false ('/' :: '/' :: (body ++ cs ++ rest)) = _
    rw [splitTrivia_slashes, List.append_assoc, splitTrivia_body hbody,
      splitTrivia_endsLine hend, ih]

/-- **Trivia.** A text is split after its trivia, and at no other place. -/
theorem splitTrivia_eq_iff {cs trivia rest : List Char} :
    splitTrivia false cs = (trivia, rest) ↔
      cs = trivia ++ rest ∧ Trivia rest trivia ∧ NoTrivia rest := by
  constructor
  · intro h
    have hwhole := splitTrivia_append false cs
    have hsound := splitTrivia_sound false cs
    rw [h] at hwhole hsound
    exact ⟨hwhole.symm, hsound⟩
  · rintro ⟨rfl, htrivia, hnone⟩
    exact splitTrivia_complete htrivia hnone

/-- Trivia does not start as a name or a number does. -/
theorem Trivia.head {after trivia : List Char} (h : Trivia after trivia) :
    ∀ c ∈ trivia.head?, c.isDigit = false := by
  intro c hc
  cases h with
  | nil => cases hc
  | blank hblank _ =>
    cases hc
    rcases hblank with rfl | rfl | rfl | rfl <;> rfl
  | comment =>
    cases hc
    rfl

/-! ## 4. Tokens -/

namespace Token

/-- A token that scanning can give: names and literals are what they should be. -/
def Valid : Token → Prop
  | .name s => IsName s
  | .text literal => IsLiteral literal
  | _ => True

/-- The token is a number. -/
def IsInt : Token → Prop
  | .int _ => True
  | _ => False

/-- What follows a number is no digit. -/
def DigitsStop (t : Token) (rest : List Char) : Prop :=
  t.IsInt → ∀ c ∈ rest.head?, c.isDigit = false

/-- The character of a sign. -/
def sign? : Token → Option Char
  | .assign => some '='
  | .semicolon => some ';'
  | .openParen => some '('
  | .closeParen => some ')'
  | .sum .add => some '+'
  | .sum .sub => some '-'
  | .product .mul => some '*'
  | .product .div => some '/'
  | _ => none

theorem ofSign?_eq_some_iff {c : Char} {t : Token} : ofSign? c = some t ↔ t.sign? = some c := by
  constructor
  · intro h
    grind [ofSign?, sign?]
  · intro h
    unfold sign? at h
    split at h <;> cases h <;> rfl

theorem written_iff_of_sign? {t : Token} {c : Char} (h : t.sign? = some c) (cs : List Char) :
    t.Written cs ↔ cs = [c] := by
  unfold sign? at h
  split at h <;> cases h <;> rfl

theorem valid_of_sign? {t : Token} {c : Char} (h : t.sign? = some c) : t.Valid := by
  unfold sign? at h
  split at h <;> cases h <;> trivial

/-- A character that may stand in a name is no sign. -/
theorem ofSign?_of_inName {c : Char} (h : inName c = true) : ofSign? c = none := by
  cases hsign : ofSign? c with
  | none => rfl
  | some t =>
    have hc := ofSign?_eq_some_iff.mp hsign
    unfold sign? at hc
    split at hc <;> cases hc <;> cases h

theorem inName_of_isDigit {c : Char} (h : isDigit c = true) : inName c = true := by
  rw [inName, h, Bool.or_true]

theorem inName_of_startsName {c : Char} (h : startsName c = true) : inName c = true := by
  rw [inName, h, Bool.true_or]

theorem isDigit_eq_false_of_startsName {c : Char} (h : startsName c = true) :
    isDigit c = false := by
  have hA : 'A'.val.toNat = 65 := rfl
  have ha : 'a'.val.toNat = 97 := rfl
  have h9 : '9'.val.toNat = 57 := rfl
  simp only [startsName, Bool.or_eq_true, Bool.and_eq_true, decide_eq_true_eq, isDigit,
    Bool.and_eq_false_iff, decide_eq_false_iff_not, Char.le_def, UInt32.le_iff_toNat_le] at h ⊢
  rcases h with (hlower | hupper) | rfl
  · omega
  · omega
  · exact .inr (by decide)

/-! ### What is read is a token -/

theorem not_nameChar_of_inName {rest : List Char} (h : ∀ c ∈ rest.head?, inName c = false) :
    ∀ c ∈ rest.head?, ¬ NameChar c := by
  intro c hc hname
  rw [← inName_iff, h c hc] at hname
  cases hname

/-- A word is one of the two of the language, or a name. -/
theorem ofWord_sound {c : Char} {cs rest : List Char} (hc : startsName c = true)
    (hcs : ∀ d ∈ cs, inName d = true) (hrest : ∀ d ∈ rest.head?, inName d = false) :
    (ofWord (String.ofList (c :: cs))).Written (c :: cs) ∧
      (ofWord (String.ofList (c :: cs))).Valid ∧
      (ofWord (String.ofList (c :: cs))).StopsBefore rest ∧
      (ofWord (String.ofList (c :: cs))).DigitsStop rest := by
  have hstops := not_nameChar_of_inName hrest
  unfold ofWord
  split
  next hprint =>
    refine ⟨?_, trivial, hstops, fun h => h.elim⟩
    show c :: cs = "print".toList
    rw [← hprint, String.toList_ofList]
  next hprint =>
    split
    next hlet =>
      refine ⟨?_, trivial, hstops, fun h => h.elim⟩
      show c :: cs = "let".toList
      rw [← hlet, String.toList_ofList]
    next hlet =>
      refine ⟨String.toList_ofList.symm, ?_, hstops, fun h => h.elim⟩
      refine ⟨⟨c, cs, String.toList_ofList, (startsName_iff c).mp hc, ?_⟩, hprint, hlet⟩
      intro d hd
      exact (inName_iff d).mp (hcs d hd)

theorem read?_sound {cs word rest : List Char} {t : Token}
    (h : read? cs = some (t, word, rest)) (hnone : NoTrivia cs) :
    t.Written word ∧ t.Valid ∧ t.StopsBefore rest ∧ t.DigitsStop rest := by
  cases cs with
  | nil => cases h
  | cons c cs =>
    simp only [read?] at h
    split at h
    next sign hsign =>
      cases h
      rw [ofSign?_eq_some_iff] at hsign
      refine ⟨(written_iff_of_sign? hsign _).mpr rfl, valid_of_sign? hsign, ?_, ?_⟩
      · unfold StopsBefore
        split
        any_goals trivial
        -- a second slash would have been a comment
        cases hsign
        rintro d hd rfl
        obtain ⟨tail, htail⟩ := List.head?_eq_some_iff.mp hd
        exact hnone.2 ⟨tail, by rw [htail]; rfl⟩
      · intro hint
        unfold sign? at hsign
        split at hsign <;> first | exact hint.elim | cases hsign
    next =>
      split at h
      next hdigit =>
        cases h
        refine ⟨⟨by simp, ?_, rfl⟩, trivial, trivial, fun _ => head?_dropWhile_eq_false cs⟩
        refine List.forall_mem_cons.mpr ⟨hdigit, fun d hd => ?_⟩
        exact List.mem_takeWhile_imp hd
      next =>
        split at h
        next hstarts =>
          cases h
          exact ofWord_sound hstarts (fun d hd => List.mem_takeWhile_imp hd)
            (head?_dropWhile_eq_false cs)
        next =>
          split at h
          next hquote =>
            split at h
            next => cases h
            next q tail htail =>
              cases h
              have hq : q = '"' := by
                have hfirst := head?_dropWhile_eq_false (p := (· ≠ '"')) cs q
                rw [htail] at hfirst
                simpa using hfirst rfl
              refine ⟨String.toList_ofList.symm, ?_, trivial, fun hint => hint.elim⟩
              refine ⟨cs.takeWhile (· ≠ '"'), ?_, ?_⟩
              · rw [String.toList_ofList, hquote, hq]
              · intro hmem
                have hne := List.mem_takeWhile_imp hmem
                simp at hne
          next => cases h

/-! ### Every token is read -/

theorem read?_word {c : Char} {cs rest : List Char} (hc : startsName c = true)
    (hcs : ∀ d ∈ cs, inName d = true) (hrest : ∀ d ∈ rest.head?, inName d = false) :
    read? (c :: cs ++ rest) = some (ofWord (String.ofList (c :: cs)), c :: cs, rest) := by
  obtain ⟨htake, hdrop⟩ := run_exact hcs hrest
  simp only [List.cons_append, read?, ofSign?_of_inName (inName_of_startsName hc),
    isDigit_eq_false_of_startsName hc, hc, htake, hdrop]
  simp

theorem inName_eq_false {rest : List Char} (h : ∀ c ∈ rest.head?, ¬ NameChar c) :
    ∀ c ∈ rest.head?, inName c = false := by
  intro c hc
  have hnot := h c hc
  rw [← inName_iff] at hnot
  simpa using hnot

theorem read?_complete {t : Token} {word rest : List Char} (hwritten : t.Written word)
    (hvalid : t.Valid) (hstops : t.StopsBefore rest) (hdigits : t.DigitsStop rest) :
    read? (word ++ rest) = some (t, word, rest) := by
  have hsign : ∀ c, t.sign? = some c → read? (word ++ rest) = some (t, word, rest) := by
    intro c hc
    rw [(written_iff_of_sign? hc word).mp hwritten]
    simp only [List.singleton_append, read?, ofSign?_eq_some_iff.mpr hc]
  cases t with
  | assign | semicolon | openParen | closeParen => exact hsign _ rfl
  | sum op => cases op <;> exact hsign _ rfl
  | product op => cases op <;> exact hsign _ rfl
  | printWord =>
    have hinside : ∀ c ∈ ['r', 'i', 'n', 't'], inName c = true :=
      List.all_eq_true.mp rfl
    have hread := read?_word (show startsName 'p' = true from rfl) hinside (inName_eq_false hstops)
    rw [show word = ['p', 'r', 'i', 'n', 't'] from hwritten, hread]
    rfl
  | letWord =>
    have hinside : ∀ c ∈ ['e', 't'], inName c = true :=
      List.all_eq_true.mp rfl
    have hread := read?_word (show startsName 'l' = true from rfl) hinside (inName_eq_false hstops)
    rw [show word = ['l', 'e', 't'] from hwritten, hread]
    rfl
  | name s =>
    obtain ⟨⟨c, cs, hs, hc, hcs⟩, hprint, hlet⟩ := hvalid
    have hword : word = c :: cs := by
      rw [← hs]
      exact hwritten
    have htoken : ofWord (String.ofList (c :: cs)) = .name s := by
      rw [← hs, String.ofList_toList, ofWord, if_neg hprint, if_neg hlet]
    rw [hword, read?_word ((startsName_iff c).mpr hc) (fun d hd => (inName_iff d).mpr (hcs d hd))
      (inName_eq_false hstops), htoken]
  | int value =>
    obtain ⟨hne, hall, hvalue⟩ := hwritten
    cases word with
    | nil => exact absurd rfl hne
    | cons c cs =>
      obtain ⟨hc, hcs⟩ := List.forall_mem_cons.mp hall
      have hdigit : isDigit c = true := hc
      obtain ⟨htake, hdrop⟩ := run_exact (p := isDigit) hcs (hdigits trivial)
      simp only [List.cons_append, read?, ofSign?_of_inName (inName_of_isDigit hdigit), hdigit,
        htake, hdrop]
      rw [← hvalue]
      rfl
  | text literal =>
    obtain ⟨inner, hliteral, hinner⟩ := hvalid
    have hword : word = '"' :: (inner ++ ['"']) := by
      rw [← hliteral]
      exact hwritten
    have hinside : ∀ c ∈ inner, decide (c ≠ '"') = true := by
      intro c hc
      have hne : c ≠ '"' := fun h => hinner (h ▸ hc)
      exact decide_eq_true hne
    have hquote : ∀ c ∈ ('"' :: rest).head?, decide (c ≠ '"') = false := by
      intro c hc
      cases hc
      rfl
    obtain ⟨htake, hdrop⟩ := run_exact hinside hquote
    rw [hword]
    show read? ('"' :: (inner ++ ['"'] ++ rest)) = _
    rw [List.append_assoc, List.singleton_append]
    simp only [read?]
    rw [htake, hdrop]
    show some (text (String.ofList ('"' :: (inner ++ ['"']))), '"' :: (inner ++ ['"']), rest) = _
    rw [← hliteral, String.ofList_toList]

end Token

/-! ## 5. Whole texts -/

theorem Source.byteLength_append (front back : List Char) :
    byteLength (front ++ back) = byteLength front + byteLength back := by
  induction front with
  | nil => exact (Nat.zero_add _).symm
  | cons c front ih => rw [List.cons_append, byteLength_cons, byteLength_cons, ih, Nat.add_assoc]

namespace Scan

variable {cs trivia text word rest : List Char} {t : Token}

theorem ofChars_of_read? (offset : Nat) (hsplit : splitTrivia false cs = (trivia, text))
    (hread : Token.read? text = some (t, word, rest)) :
    ofChars offset cs =
      let start := offset + Source.byteLength trivia
      let stop := start + Source.byteLength word
      let scan := ofChars stop rest
      ⟨⟨t, ⟨start, stop⟩⟩ :: scan.lexemes, scan.stop, scan.complete⟩ := by
  rw [ofChars]
  split
  next hsplit' =>
    rw [hsplit] at hsplit'
    cases hsplit'
    split
    next hread' => rw [hread] at hread'; cases hread'
    next hread' => rw [hread] at hread'; cases hread'; rfl

theorem ofChars_of_read?_none (offset : Nat) (hsplit : splitTrivia false cs = (trivia, text))
    (hread : Token.read? text = none) :
    ofChars offset cs = ⟨[], offset + Source.byteLength trivia, text.isEmpty⟩ := by
  rw [ofChars]
  split
  next hsplit' =>
    rw [hsplit] at hsplit'
    cases hsplit'
    split
    next => rfl
    next hread' => rw [hread] at hread'; cases hread'

end Scan

/-- The text, whose first character stands at byte `offset`, spells the lexemes:
it spells their tokens, and each of them covers the bytes of its spelling. -/
inductive Located : Nat → List Lexeme → List Char → Prop
  | nil {offset : Nat} {trivia : List Char} (h : Trivia [] trivia) : Located offset [] trivia
  | cons {offset : Nat} {t : Token} {lexemes : List Lexeme} {trivia word rest : List Char}
      (front : Trivia (word ++ rest) trivia) (written : t.Written word) (valid : t.Valid)
      (stops : t.StopsBefore rest)
      (back : Located (offset + Source.byteLength trivia + Source.byteLength word) lexemes rest) :
      Located offset
        (⟨t, ⟨offset + Source.byteLength trivia,
          offset + Source.byteLength trivia + Source.byteLength word⟩⟩ :: lexemes)
        (trivia ++ (word ++ rest))

theorem Located.spells {offset : Nat} {lexemes : List Lexeme} {cs : List Char}
    (h : Located offset lexemes cs) : Spells (lexemes.map (·.token)) cs := by
  induction h with
  | nil h => exact .nil h
  | cons front written valid stops _ ih => exact .cons front written stops ih

theorem Spells.located {ts : List Token} {cs : List Char} (h : Spells ts cs)
    (hvalid : ∀ t ∈ ts, t.Valid) (offset : Nat) :
    ∃ lexemes, Located offset lexemes cs ∧ lexemes.map (·.token) = ts := by
  induction h generalizing offset with
  | nil h => exact ⟨[], .nil h, rfl⟩
  | @cons t ts trivia word rest front written stops back ih =>
    obtain ⟨ht, hts⟩ := List.forall_mem_cons.mp hvalid
    obtain ⟨lexemes, hback, htokens⟩ :=
      ih hts (offset + Source.byteLength trivia + Source.byteLength word)
    exact ⟨_, .cons front written ht stops hback, congrArg (t :: ·) htokens⟩

/-- All tokens of a row that is spelled can be written. -/
theorem Located.valid {offset : Nat} {lexemes : List Lexeme} {cs : List Char}
    (h : Located offset lexemes cs) : ∀ t ∈ lexemes.map (·.token), t.Valid := by
  induction h with
  | nil => simp
  | cons front written valid stops _ ih => exact List.forall_mem_cons.mpr ⟨valid, ih⟩

namespace Scan

variable {cs : List Char}

/-- **Soundness.** What is scanned to the end is spelled by the text, at its
places, and the end is that of the text. -/
theorem located {offset : Nat} (h : (ofChars offset cs).complete = true) :
    Located offset (ofChars offset cs).lexemes cs ∧
      (ofChars offset cs).stop = offset + Source.byteLength cs := by
  induction offset, cs using ofChars.induct with
  | case1 offset cs trivia text hsplit hread =>
    rw [ofChars_of_read?_none offset hsplit hread] at h ⊢
    obtain ⟨rfl, htrivia, -⟩ := splitTrivia_eq_iff.mp hsplit
    obtain rfl : text = [] := List.isEmpty_iff.mp h
    rw [List.append_nil]
    exact ⟨.nil htrivia, rfl⟩
  | case2 offset cs trivia text hsplit start t word rest hread _ stop ih =>
    rw [ofChars_of_read? offset hsplit hread] at h ⊢
    obtain ⟨rfl, htrivia, hnone⟩ := splitTrivia_eq_iff.mp hsplit
    obtain ⟨hwritten, hvalid, hstops, -⟩ := Token.read?_sound hread hnone
    obtain ⟨rfl, -⟩ := Token.read?_append hread
    obtain ⟨hback, hstop⟩ := ih h
    refine ⟨.cons htrivia hwritten hvalid hstops hback, hstop.trans ?_⟩
    simp only [stop, start, Source.byteLength_append, Nat.add_assoc]

theorem spells {offset : Nat} (h : (ofChars offset cs).complete = true) :
    Spells ((ofChars offset cs).lexemes.map (·.token)) cs :=
  (located h).1.spells

end Scan

/-- The lexeme covers a spelling of its token, in a text whose first character
stands at byte `offset`. -/
def Lexeme.LiesIn (lexeme : Lexeme) (offset : Nat) (cs : List Char) : Prop :=
  ∃ front word rest, cs = front ++ (word ++ rest) ∧
    lexeme.token.Written word ∧ lexeme.token.Valid ∧
    lexeme.span = ⟨offset + Source.byteLength front,
      offset + Source.byteLength front + Source.byteLength word⟩

/-- **Places.** Every lexeme covers the bytes of its spelling. -/
theorem Scan.liesIn (offset : Nat) (cs : List Char) :
    ∀ lexeme ∈ (Scan.ofChars offset cs).lexemes, lexeme.LiesIn offset cs := by
  induction offset, cs using Scan.ofChars.induct with
  | case1 offset cs trivia text hsplit hread =>
    rw [ofChars_of_read?_none offset hsplit hread]
    intro lexeme h
    cases h
  | case2 offset cs trivia text hsplit start t word rest hread _ stop ih =>
    rw [ofChars_of_read? offset hsplit hread]
    obtain ⟨rfl, -, hnone⟩ := splitTrivia_eq_iff.mp hsplit
    obtain ⟨hwritten, hvalid, -, -⟩ := Token.read?_sound hread hnone
    obtain ⟨rfl, -⟩ := Token.read?_append hread
    refine List.forall_mem_cons.mpr ⟨⟨trivia, word, rest, rfl, hwritten, hvalid, rfl⟩, ?_⟩
    intro lexeme h
    obtain ⟨front, word', rest', rfl, hwritten', hvalid', hspan⟩ := ih lexeme h
    refine ⟨trivia ++ (word ++ front), word', rest', by simp, hwritten', hvalid', ?_⟩
    rw [hspan, Source.byteLength_append, Source.byteLength_append]
    simp only [stop, start, Nat.add_assoc]

/-! ### A row that is spelled is found -/

/-- Only a number starts with a digit. -/
theorem Token.Written.starts {t : Token} {word : List Char} (h : t.Written word)
    (hvalid : t.Valid) (hint : ¬ t.IsInt) : ∃ c cs, word = c :: cs ∧ c.isDigit = false := by
  cases t with
  | assign | semicolon | openParen | closeParen => exact ⟨_, _, h, rfl⟩
  | sum op => cases op <;> exact ⟨_, _, h, rfl⟩
  | product op => cases op <;> exact ⟨_, _, h, rfl⟩
  | printWord => exact ⟨'p', "rint".toList, h, rfl⟩
  | letWord => exact ⟨'l', "et".toList, h, rfl⟩
  | int value => exact absurd trivial hint
  | text literal =>
    obtain ⟨inner, hliteral, -⟩ := hvalid
    exact ⟨'"', _, h.trans hliteral, rfl⟩
  | name s =>
    obtain ⟨⟨c, cs, hs, hc, -⟩, -⟩ := hvalid
    exact ⟨c, cs, h.trans hs, isDigit_eq_false_of_startsName ((startsName_iff c).mpr hc)⟩

/-- A text whose first token is no number starts with no digit. -/
theorem Spells.starts {ts : List Token} {cs : List Char} (h : Spells ts cs)
    (hvalid : ∀ t ∈ ts, t.Valid) (hint : ∀ t ∈ ts.head?, ¬ t.IsInt) :
    ∀ c ∈ cs.head?, c.isDigit = false := by
  cases h with
  | nil htrivia => exact htrivia.head
  | @cons t ts trivia word rest front written stops back =>
    obtain ⟨d, tail, rfl, hd⟩ := written.starts (hvalid t List.mem_cons_self) (hint t rfl)
    cases trivia with
    | nil =>
      intro c hc
      cases hc
      exact hd
    | cons b trivia => exact front.head

theorem NoTrivia.of_read? {cs word rest : List Char} {t : Token}
    (h : Token.read? cs = some (t, word, rest)) (hstops : t.StopsBefore rest) : NoTrivia cs := by
  cases cs with
  | nil => cases h
  | cons c cs =>
    refine ⟨?_, ?_⟩
    · intro d hd
      cases hd
      cases hblank : isBlank c with
      | false => rfl
      | true =>
        rw [isBlank_iff] at hblank
        rcases hblank with rfl | rfl | rfl | rfl <;> cases h
    · rintro ⟨tail, htail⟩
      cases htail
      cases h
      exact hstops '/' rfl rfl

/-- **Completeness.** The lexemes that a text spells are what is scanned, to the
end, if no two numbers stand side by side among them. -/
theorem Located.scan {offset : Nat} {lexemes : List Lexeme} {cs : List Char}
    (h : Located offset lexemes cs)
    (hapart : (lexemes.map (·.token)).IsChain fun t u => ¬ (t.IsInt ∧ u.IsInt)) :
    Scan.ofChars offset cs = ⟨lexemes, offset + Source.byteLength cs, true⟩ := by
  induction h with
  | @nil offset trivia htrivia =>
    have hsplit : splitTrivia false trivia = (trivia, []) :=
      splitTrivia_eq_iff.mpr ⟨(List.append_nil _).symm, htrivia, by simp [NoTrivia]⟩
    exact Scan.ofChars_of_read?_none offset hsplit rfl
  | @cons offset t lexemes trivia word rest front written valid stops back ih =>
    have hvalid : ∀ u ∈ lexemes.map (·.token), u.Valid := back.valid
    have hdigits : t.DigitsStop rest := by
      intro hint
      refine back.spells.starts hvalid fun u hu hint' => ?_
      obtain ⟨tail, htail⟩ := List.head?_eq_some_iff.mp hu
      rw [List.map_cons, htail] at hapart
      exact (List.isChain_cons_cons.mp hapart).1 ⟨hint, hint'⟩
    have hread := Token.read?_complete written valid stops hdigits
    have hsplit := splitTrivia_complete front (NoTrivia.of_read? hread stops)
    rw [Scan.ofChars_of_read? offset hsplit hread]
    dsimp only
    rw [ih hapart.of_cons]
    simp only [Source.byteLength_append, Nat.add_assoc]

theorem Scan.tokens_of_spells {ts : List Token} {cs : List Char} (h : Spells ts cs)
    (hvalid : ∀ t ∈ ts, t.Valid) (hapart : ts.IsChain fun t u => ¬ (t.IsInt ∧ u.IsInt))
    (offset : Nat) :
    (Scan.ofChars offset cs).lexemes.map (·.token) = ts ∧
      (Scan.ofChars offset cs).complete = true := by
  obtain ⟨lexemes, hlocated, rfl⟩ := h.located hvalid offset
  rw [hlocated.scan hapart]
  exact ⟨rfl, rfl⟩

end Printlet
