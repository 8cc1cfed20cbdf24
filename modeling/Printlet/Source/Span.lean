/-
Printlet.Source.Span — places in a source text.

Places are byte offsets into the UTF-8 form of the text. A span is the bytes from `start` up to, not
including, `stop`.
-/

namespace Printlet

/-- A stretch of a source, in bytes. -/
structure Span where
  start : Nat
  stop : Nat
  deriving DecidableEq, Repr, Inhabited

namespace Source

/-- Bytes that a run of characters takes in UTF-8. -/
def byteLength (cs : List Char) : Nat :=
  cs.foldr (fun c n => c.utf8Size + n) 0

theorem byteLength_cons (c : Char) (cs : List Char) :
    byteLength (c :: cs) = c.utf8Size + byteLength cs := rfl

/-- The characters that lie before byte offset `n`. -/
def before (n : Nat) : List Char → List Char
  | [] => []
  | c :: cs => if n = 0 then [] else c :: before (n - c.utf8Size) cs

/-- The characters from byte offset `n` on. -/
def after (n : Nat) : List Char → List Char
  | [] => []
  | c :: cs => if n = 0 then c :: cs else after (n - c.utf8Size) cs

theorem before_byteLength (front back : List Char) :
    before (byteLength front) (front ++ back) = front := by
  induction front with
  | nil =>
    cases back with
    | nil => rfl
    | cons c back => exact if_pos rfl
  | cons c front ih =>
    have hpos := c.utf8Size_pos
    rw [byteLength_cons, List.cons_append, before, if_neg (by omega), Nat.add_sub_cancel_left, ih]

theorem after_byteLength (front back : List Char) :
    after (byteLength front) (front ++ back) = back := by
  induction front with
  | nil =>
    cases back with
    | nil => rfl
    | cons c back => exact if_pos rfl
  | cons c front ih =>
    have hpos := c.utf8Size_pos
    rw [byteLength_cons, List.cons_append, after, if_neg (by omega), Nat.add_sub_cancel_left, ih]

/-- Whether byte offset `n` lies between two characters, or at either end. -/
def isBoundary (n : Nat) : List Char → Bool
  | [] => n = 0
  | c :: cs => n = 0 || (c.utf8Size ≤ n && isBoundary (n - c.utf8Size) cs)

/-- The span between two offsets, if it lies in the source and cuts no character. -/
def span? (source : String) (start stop : Nat) : Option Span :=
  let cs := source.toList
  if start ≤ stop && isBoundary start cs && isBoundary stop cs then some ⟨start, stop⟩ else none

end Source

/-- The text under a span. -/
def Span.text (span : Span) (source : String) : String :=
  String.ofList (Source.before (span.stop - span.start) (Source.after span.start source.toList))

end Printlet
