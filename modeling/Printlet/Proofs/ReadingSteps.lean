/-
Printlet.Proofs.ReadingSteps — reading as steps.

`Reading.Step` lists what one lexeme can do to a state, once, and is all that
`Reading.next` does (`step_of_next`, `Step.next`). A run is a row of steps
(`exists_step_of_run`, `Step.run`). A statement may end, or the text, where
`statements?` has an answer; so a program that is read is the row of statements
after its last lexeme (`Program.ofScan_eq_ok`).
-/
import Printlet.Syntax.Parse

namespace Printlet

/-! ## Steps -/

/-- The literal or name that a lexeme is. -/
def Lexeme.leaf? (lexeme : Lexeme) : Option (Factor Span) :=
  match lexeme.token with
  | .int value => some (.int lexeme.span (Int64.ofNat value))
  | .text literal => some (.text lexeme.span literal)
  | .name name => some (.name lexeme.span name)
  | _ => none

namespace Reading

/-- The statements up to here, latest first, if the last of them may end before
the offset `next`. -/
def statements? (reading : Reading) (next : Nat) : Option (List (Statement Span)) :=
  match reading with
  | .boundary done _ => some done
  | .operator draft last =>
    if draft.groups.isEmpty then some (draft.close last next) else none
  | _ => none

/-- Whether a statement has been read whose semicolon could still come. -/
def isUnclosed : Reading → Bool
  | .operator _ _ => true
  | _ => false

/-- What a lexeme can do to a state. -/
inductive Step (lexeme : Lexeme) : Reading → Reading → Prop
  | print {reading : Reading} {done : List (Statement Span)}
      (token : lexeme.token = .printWord)
      (whole : reading.statements? lexeme.span.start = some done) :
      Step lexeme reading (.operand (Draft.start done (.print lexeme.span.start)))
  | letWord {reading : Reading} {done : List (Statement Span)}
      (token : lexeme.token = .letWord)
      (whole : reading.statements? lexeme.span.start = some done) :
      Step lexeme reading (.binding done lexeme.span.start reading.isUnclosed)
  | name {done : List (Statement Span)} {start : Nat} {unclosed : Bool} {name : String}
      (token : lexeme.token = .name name) :
      Step lexeme (.binding done start unclosed) (.bound done start unclosed name)
  | assign {done : List (Statement Span)} {start : Nat} {unclosed : Bool} {name : String}
      (token : lexeme.token = .assign) :
      Step lexeme (.bound done start unclosed name) (.operand (Draft.start done (.bind start name)))
  | leaf {draft : Draft} {factor : Factor Span} (token : lexeme.leaf? = some factor) :
      Step lexeme (.operand draft) (.operator draft factor)
  | openParen {draft : Draft} (token : lexeme.token = .openParen) :
      Step lexeme (.operand draft)
        (.operand ⟨draft.done, draft.head, (lexeme.span.start, draft.left) :: draft.groups,
          LeftPart.empty⟩)
  | product {draft : Draft} {last : Factor Span} {op : ProductOp}
      (token : lexeme.token = .product op) :
      Step lexeme (.operator draft last)
        (.operand ⟨draft.done, draft.head, draft.groups,
          ⟨draft.left.terms, (last, op) :: draft.left.factors⟩⟩)
  | sum {draft : Draft} {last : Factor Span} {op : SumOp} (token : lexeme.token = .sum op) :
      Step lexeme (.operator draft last)
        (.operand ⟨draft.done, draft.head, draft.groups,
          ⟨(draft.left.closeTerm last lexeme.span.start, op) :: draft.left.terms, []⟩⟩)
  | closeParen {done : List (Statement Span)} {head : Head} {start : Nat} {outer left : LeftPart}
      {groups : List (Nat × LeftPart)} {last : Factor Span} (token : lexeme.token = .closeParen) :
      Step lexeme (.operator ⟨done, head, (start, outer) :: groups, left⟩ last)
        (.operator ⟨done, head, groups, outer⟩
          (.group ⟨start, lexeme.span.stop⟩ (left.close last lexeme.span.start)))
  | semicolon {draft : Draft} {last : Factor Span} {done : List (Statement Span)}
      (token : lexeme.token = .semicolon)
      (whole : (operator draft last).statements? lexeme.span.start = some done) :
      Step lexeme (.operator draft last) (.boundary done lexeme.span.stop)

variable {reading reading' : Reading} {lexeme : Lexeme}

/-- A statement may end after its semicolon, or after an operand outside all
parentheses. -/
theorem statements?_eq_some {next : Nat} {done : List (Statement Span)}
    (h : reading.statements? next = some done) :
    (∃ stop, reading = .boundary done stop) ∨
      ∃ draft last, reading = .operator draft last ∧ draft.groups = [] ∧
        done = draft.close last next := by
  cases reading with
  | boundary done' stop =>
    cases h
    exact .inl ⟨stop, rfl⟩
  | binding | bound | operand => cases h
  | operator draft last =>
    simp only [statements?] at h
    split at h
    next hgroups =>
      cases h
      exact .inr ⟨draft, last, rfl, List.isEmpty_iff.mp hgroups, rfl⟩
    next => cases h

theorem step_of_startStatement (reading : Reading) {done : List (Statement Span)}
    (h : startStatement done reading.isUnclosed lexeme = some reading')
    (whole : reading.statements? lexeme.span.start = some done) :
    Step lexeme reading reading' := by
  unfold startStatement at h
  split at h
  next token =>
    cases h
    exact .print token whole
  next token =>
    cases h
    exact .letWord token whole
  next => cases h

theorem step_of_takeOperand {draft : Draft} (h : takeOperand draft lexeme = some reading') :
    Step lexeme (.operand draft) reading' := by
  unfold takeOperand at h
  split at h
  next token =>
    cases h
    exact .leaf (by rw [Lexeme.leaf?, token])
  next token =>
    cases h
    exact .leaf (by rw [Lexeme.leaf?, token])
  next token =>
    cases h
    exact .leaf (by rw [Lexeme.leaf?, token])
  next token =>
    cases h
    exact .openParen token
  next => cases h

theorem step_of_takeOperator {draft : Draft} {last : Factor Span}
    (h : takeOperator draft last lexeme = some reading') :
    Step lexeme (.operator draft last) reading' := by
  obtain ⟨done, head, groups, left⟩ := draft
  unfold takeOperator at h
  split at h
  next token =>
    cases h
    exact .product token
  next token =>
    cases h
    exact .sum token
  next token hgroups =>
    cases hgroups
    cases h
    exact .closeParen token
  next token hgroups =>
    cases hgroups
    cases h
    exact .semicolon token rfl
  next token hgroups =>
    cases hgroups
    exact step_of_startStatement (.operator _ last) h rfl
  next token hgroups =>
    cases hgroups
    exact step_of_startStatement (.operator _ last) h rfl
  next => cases h

theorem step_of_next (h : reading.next lexeme = some reading') : Step lexeme reading reading' := by
  cases reading with
  | boundary done stop => exact step_of_startStatement (.boundary done stop) h rfl
  | binding done start unclosed =>
    simp only [next] at h
    split at h
    next token =>
      cases h
      exact .name token
    next => cases h
  | bound done start unclosed name =>
    simp only [next] at h
    split at h
    next token =>
      cases h
      exact .assign token
    next => cases h
  | operand draft => exact step_of_takeOperand h
  | operator draft last => exact step_of_takeOperator h

/-- A statement that may end does so before the first word of another. -/
theorem next_of_statements? {done : List (Statement Span)}
    (token : lexeme.token = .printWord ∨ lexeme.token = .letWord)
    (whole : reading.statements? lexeme.span.start = some done) :
    reading.next lexeme = startStatement done reading.isUnclosed lexeme := by
  rcases statements?_eq_some whole with ⟨stop, rfl⟩ | ⟨draft, last, rfl, hgroups, rfl⟩
  · rfl
  · rcases token with token | token
    · simp only [next, takeOperator, token, hgroups]
      rfl
    · simp only [next, takeOperator, token, hgroups]
      rfl

theorem Step.next (h : Step lexeme reading reading') : reading.next lexeme = some reading' := by
  cases h with
  | print token whole =>
    rw [next_of_statements? (.inl token) whole, startStatement, token]
  | letWord token whole =>
    rw [next_of_statements? (.inr token) whole, startStatement, token]
  | name token | assign token => rw [Reading.next, token]
  | @leaf draft factor token =>
    rw [Reading.next, takeOperand]
    unfold Lexeme.leaf? at token
    split at token <;> cases token <;> simp [*]
  | openParen token => rw [Reading.next, takeOperand, token]
  | product token | sum token | closeParen token => rw [Reading.next, takeOperator, token]
  | semicolon token whole =>
    rcases statements?_eq_some whole with ⟨stop, heq⟩ | ⟨draft, last, heq, hgroups, rfl⟩
    · cases heq
    · cases heq
      simp only [Reading.next, takeOperator, token, hgroups]

/-! ## Runs -/

theorem exists_step_of_run {lexemes : List Lexeme}
    (h : reading.run (lexeme :: lexemes) = .ok reading') :
    ∃ middle, Step lexeme reading middle ∧ middle.run lexemes = .ok reading' := by
  rw [run] at h
  split at h
  next middle hnext => exact ⟨middle, step_of_next hnext, h⟩
  next => cases h

theorem Step.run {middle : Reading} (h : Step lexeme reading middle) (lexemes : List Lexeme) :
    reading.run (lexeme :: lexemes) = middle.run lexemes := by
  rw [Reading.run, h.next]

theorem run_append {front : List Lexeme} {middle : Reading} (h : reading.run front = .ok middle)
    (back : List Lexeme) : reading.run (front ++ back) = middle.run back := by
  induction front generalizing reading with
  | nil =>
    cases h
    rfl
  | cons lexeme front ih =>
    obtain ⟨next, hstep, hrest⟩ := exists_step_of_run h
    rw [List.cons_append, hstep.run, ih hrest]

theorem finish_eq {stop last : Nat} {statements : List (Statement Span)}
    (h : reading.finish stop = some (statements, last)) :
    ∃ done, reading.statements? stop = some done ∧ statements = done.reverse := by
  cases reading with
  | boundary done stop' =>
    cases h
    exact ⟨done, rfl, rfl⟩
  | binding | bound | operand => cases h
  | operator draft last' =>
    simp only [finish] at h
    split at h
    next hgroups =>
      cases h
      exact ⟨draft.close last' stop, if_pos hgroups, rfl⟩
    next => cases h

theorem exists_finish {stop : Nat} {done : List (Statement Span)}
    (h : reading.statements? stop = some done) :
    ∃ last, reading.finish stop = some (done.reverse, last) := by
  rcases statements?_eq_some h with ⟨last, rfl⟩ | ⟨draft, last, rfl, hgroups, rfl⟩
  · exact ⟨last, rfl⟩
  · exact ⟨stop, if_pos (List.isEmpty_iff.mpr hgroups)⟩

end Reading

/-! ## Whole sources -/

namespace Program

/-- A program is read from its lexemes, and then from what is known at the end. -/
theorem ofScan_eq_bind (scan : Scan) :
    ∃ start next, ofScan scan = ((Reading.boundary [] start).run scan.lexemes >>= next) ∧
      ∀ reading statements stop, scan.complete = true →
        reading.finish scan.stop = some (statements, stop) →
        next reading = .ok ⟨⟨start, stop⟩, statements⟩ :=
  ⟨_, _, rfl, fun _ _ _ hcomplete hfinish => by simp only [hcomplete, hfinish]⟩

theorem ofScan_eq_ok {scan : Scan} {tree : Program Span} (h : ofScan scan = .ok tree) :
    scan.complete = true ∧ ∃ start reading done,
      (Reading.boundary [] start).run scan.lexemes = .ok reading ∧
        reading.statements? scan.stop = some done ∧ tree.statements = done.reverse := by
  simp only [ofScan, bind, Except.bind] at h
  split at h
  next => cases h
  next reading hrun =>
    split at h
    next statements stop hcomplete hfinish =>
      cases h
      obtain ⟨done, hwhole, rfl⟩ := Reading.finish_eq hfinish
      exact ⟨hcomplete, _, reading, done, hrun, hwhole, rfl⟩
    next => cases h

/-- Reading a source is reading its lexemes, none of them a number that does not
fit, and numbering the tree. -/
theorem parse_eq_ok_iff {source : String} {parsed : Parsed} :
    parse source = .ok parsed ↔ ∃ tree, ofScan (Scan.ofSource source) = .ok tree ∧
      (∀ lexeme ∈ (Scan.ofSource source).lexemes, lexeme.token.isOversized = false) ∧
      parsed = ⟨tree.number, tree.labels⟩ := by
  have hfits : (Scan.ofSource source).lexemes.find? (·.token.isOversized) = none ↔
      ∀ lexeme ∈ (Scan.ofSource source).lexemes, lexeme.token.isOversized = false := by
    simp [List.find?_eq_none]
  simp only [parse, bind, Except.bind]
  constructor
  · intro h
    split at h
    next => cases h
    next tree htree =>
      split at h
      next => cases h
      next hnone =>
        cases h
        exact ⟨tree, htree, hfits.mp hnone, rfl⟩
  · rintro ⟨tree, htree, hall, rfl⟩
    simp only [htree, hfits.mpr hall]

end Program

end Printlet
