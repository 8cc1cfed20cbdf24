/-
Printlet.Proofs.Oversized — numbers that do not fit.

`Derives` is the grammar on tokens, with numbers of any size. All that it derives
is read (`Derives.reads`, one case for each rule), so a text whose tokens are
derived can only fail for a number that is too large, and does so for the first
of them (`Program.parse_oversized`).
-/
import Printlet.Proofs.Parsing

namespace Printlet

/-! ## 1. The grammar on tokens -/

/-- What a row of tokens can be. -/
inductive Category where
  | program
  | statement
  | expression
  | term
  | factor

/-- The rows of tokens of each category. A number may be of any size. -/
inductive Derives : Category → List Token → Prop
  | empty : Derives .program []
  | statement {ts us : List Token} (first : Derives .statement ts) (rest : Derives .program us) :
      Derives .program (ts ++ us)
  | closed {ts us : List Token} (first : Derives .statement ts) (rest : Derives .program us) :
      Derives .program (ts ++ .semicolon :: us)
  | print {ts : List Token} (value : Derives .expression ts) :
      Derives .statement (.printWord :: ts)
  | bind (s : String) {ts : List Token} (value : Derives .expression ts) :
      Derives .statement (.letWord :: .name s :: .assign :: ts)
  | ofTerm {ts : List Token} (term : Derives .term ts) : Derives .expression ts
  | sum (op : SumOp) {ts us : List Token} (left : Derives .expression ts)
      (right : Derives .term us) : Derives .expression (ts ++ .sum op :: us)
  | ofFactor {ts : List Token} (factor : Derives .factor ts) : Derives .term ts
  | product (op : ProductOp) {ts us : List Token} (left : Derives .term ts)
      (right : Derives .factor us) : Derives .term (ts ++ .product op :: us)
  | group {ts : List Token} (inner : Derives .expression ts) :
      Derives .factor (.openParen :: (ts ++ [.closeParen]))
  | int (value : Nat) : Derives .factor [.int value]
  | text (literal : String) : Derives .factor [.text literal]
  | name (s : String) : Derives .factor [.name s]

/-! ## 2. What is derived is read -/

namespace Reading

/-- The text may end here, or a statement start. -/
def Open (reading : Reading) : Prop :=
  ∃ shapes, reading.Ready shapes

/-- After an operand outside all parentheses a statement may end. -/
theorem open_operator {draft : Draft} (last : Factor Span) (hgroups : draft.groups = []) :
    (operator draft last).Open := by
  have hvalue : ∀ next, (draft.left.close last next).shape = (draft.left.close last 0).shape := by
    intro next
    simp only [LeftPart.shape_close, LeftPart.shape_closeTerm]
  refine ⟨_, @ready_operator draft last hgroups
    (draft.head.close (draft.left.close last 0)).shape ?_⟩
  intro next
  cases draft.head with
  | print start => exact congrArg (Statement.print ()) (hvalue next)
  | bind start name => exact congrArg (Statement.bind () name) (hvalue next)

end Reading

/-- What the lexemes of each category do to a state. An operand only adds to the
chain that it stands in. -/
def Category.Reads : Category → List Lexeme → Prop
  | .program, lexemes => ∀ reading : Reading, reading.Open →
      ∃ reading', reading.run lexemes = .ok reading' ∧ reading'.Open
  | .statement, lexemes => ∀ reading : Reading, reading.Open →
      ∃ draft last, reading.run lexemes = .ok (.operator draft last) ∧ draft.groups = []
  | .expression, lexemes | .term, lexemes | .factor, lexemes => ∀ draft : Draft,
      ∃ left last, (Reading.operand draft).run lexemes =
        .ok (.operator ⟨draft.done, draft.head, draft.groups, left⟩ last)

namespace Derives

/-- A literal or a name is read as an operand. -/
theorem reads_leaf {lexeme : Lexeme} {f : Factor Span} (h : lexeme.leaf? = some f) :
    Category.factor.Reads [lexeme] :=
  fun draft => ⟨draft.left, f, (Reading.Step.leaf h).run []⟩

/-- **What is derived is read**, whatever the state and the places are. -/
theorem reads {c : Category} {ts : List Token} (h : Derives c ts) :
    ∀ lexemes : List Lexeme, lexemes.map (·.token) = ts → c.Reads lexemes := by
  induction h with
  | empty =>
    intro lexemes htokens reading hopen
    rw [List.map_eq_nil_iff.mp htokens]
    exact ⟨reading, rfl, hopen⟩
  | statement _ _ ihfirst ihrest =>
    intro lexemes htokens reading hopen
    obtain ⟨front, back, rfl, hfront, hback⟩ := List.map_eq_append_iff.mp htokens
    obtain ⟨draft, last, hrun, hgroups⟩ := ihfirst front hfront reading hopen
    obtain ⟨reading', hrun', hopen'⟩ := ihrest back hback _ (Reading.open_operator last hgroups)
    exact ⟨reading', by rw [Reading.run_append hrun, hrun'], hopen'⟩
  | closed _ _ ihfirst ihrest =>
    intro lexemes htokens reading hopen
    obtain ⟨front, rest, rfl, hfront, hrest⟩ := List.map_eq_append_iff.mp htokens
    obtain ⟨semicolon, back, rfl, htoken, hback⟩ := List.map_eq_cons_iff.mp hrest
    obtain ⟨draft, last, hrun, hgroups⟩ := ihfirst front hfront reading hopen
    obtain ⟨shapes, hready⟩ := Reading.open_operator last hgroups
    obtain ⟨done, hwhole, hdone⟩ := hready semicolon.span.start
    have hstep := Reading.Step.semicolon htoken hwhole
    obtain ⟨reading', hrun', hopen'⟩ := ihrest back hback (.boundary done semicolon.span.stop)
      ⟨shapes, fun _ => ⟨done, rfl, hdone⟩⟩
    exact ⟨reading', by rw [Reading.run_append hrun, hstep.run, hrun'], hopen'⟩
  | print _ ih =>
    intro lexemes htokens reading hopen
    obtain ⟨word, rest, rfl, hword, hrest⟩ := List.map_eq_cons_iff.mp htokens
    obtain ⟨shapes, hready⟩ := hopen
    obtain ⟨done, hwhole, -⟩ := hready word.span.start
    have hstep := Reading.Step.print hword hwhole
    obtain ⟨left, last, hrun⟩ := ih rest hrest (Draft.start done (.print word.span.start))
    exact ⟨_, last, by rw [hstep.run, hrun], rfl⟩
  | bind s _ ih =>
    intro lexemes htokens reading hopen
    obtain ⟨word, rest, rfl, hword, hrest⟩ := List.map_eq_cons_iff.mp htokens
    obtain ⟨name, rest, rfl, hname, hrest⟩ := List.map_eq_cons_iff.mp hrest
    obtain ⟨assign, rest, rfl, hassign, hrest⟩ := List.map_eq_cons_iff.mp hrest
    obtain ⟨shapes, hready⟩ := hopen
    obtain ⟨done, hwhole, -⟩ := hready word.span.start
    have hlet := Reading.Step.letWord hword hwhole
    have hbinding : Reading.Step name
        (.binding done word.span.start reading.isUnclosed) _ := .name hname
    have hbound : Reading.Step assign
        (.bound done word.span.start reading.isUnclosed s) _ := .assign hassign
    obtain ⟨left, last, hrun⟩ := ih rest hrest (Draft.start done (.bind word.span.start s))
    exact ⟨_, last, by rw [hlet.run, hbinding.run, hbound.run, hrun], rfl⟩
  | ofTerm _ ih | ofFactor _ ih => exact ih
  | sum op _ _ ihleft ihright =>
    intro lexemes htokens draft
    obtain ⟨front, rest, rfl, hfront, hrest⟩ := List.map_eq_append_iff.mp htokens
    obtain ⟨sign, back, rfl, hsign, hback⟩ := List.map_eq_cons_iff.mp hrest
    obtain ⟨left, last, hrun⟩ := ihleft front hfront draft
    have hstep : Reading.Step sign
        (.operator ⟨draft.done, draft.head, draft.groups, left⟩ last) _ := .sum hsign
    obtain ⟨left', last', hrun'⟩ := ihright back hback
      ⟨draft.done, draft.head, draft.groups,
        ⟨(left.closeTerm last sign.span.start, op) :: left.terms, []⟩⟩
    exact ⟨left', last', by rw [Reading.run_append hrun, hstep.run, hrun']⟩
  | product op _ _ ihleft ihright =>
    intro lexemes htokens draft
    obtain ⟨front, rest, rfl, hfront, hrest⟩ := List.map_eq_append_iff.mp htokens
    obtain ⟨sign, back, rfl, hsign, hback⟩ := List.map_eq_cons_iff.mp hrest
    obtain ⟨left, last, hrun⟩ := ihleft front hfront draft
    have hstep : Reading.Step sign
        (.operator ⟨draft.done, draft.head, draft.groups, left⟩ last) _ := .product hsign
    obtain ⟨left', last', hrun'⟩ := ihright back hback
      ⟨draft.done, draft.head, draft.groups, ⟨left.terms, (last, op) :: left.factors⟩⟩
    exact ⟨left', last', by rw [Reading.run_append hrun, hstep.run, hrun']⟩
  | group _ ih =>
    intro lexemes htokens draft
    obtain ⟨first, rest, rfl, hfirst, hrest⟩ := List.map_eq_cons_iff.mp htokens
    obtain ⟨inner, back, rfl, hinner, hback⟩ := List.map_eq_append_iff.mp hrest
    obtain ⟨last, rfl, hlast⟩ := List.map_eq_singleton_iff.mp hback
    have hopened : Reading.Step first (.operand draft) _ := .openParen hfirst
    obtain ⟨left, operand, hrun⟩ := ih inner hinner
      ⟨draft.done, draft.head, (first.span.start, draft.left) :: draft.groups, LeftPart.empty⟩
    have hclosed : Reading.Step last (.operator ⟨draft.done, draft.head,
        (first.span.start, draft.left) :: draft.groups, left⟩ operand) _ := .closeParen hlast
    exact ⟨draft.left, _, by rw [hopened.run, Reading.run_append hrun, hclosed.run]; rfl⟩
  | int value | text literal | name s =>
    intro lexemes htokens
    obtain ⟨lexeme, rfl, htoken⟩ := List.map_eq_singleton_iff.mp htokens
    exact reads_leaf (by rw [Lexeme.leaf?, htoken])

/-- The tokens of a program are scanned from any text that spells them. -/
theorem scan {source : String} {lexemes : List Lexeme} (hlocated : Located 0 lexemes source.toList)
    (h : Derives .program (lexemes.map (·.token))) :
    Scan.ofSource source = ⟨lexemes, Source.byteLength source.toList, true⟩ := by
  obtain ⟨reading, hrun, -⟩ := h.reads lexemes rfl (.boundary [] 0) ⟨[], Reading.ready_start 0⟩
  have hscan := hlocated.scan (Reading.isChain_of_run hrun)
  rwa [Nat.zero_add] at hscan

/-- A text that spells the tokens of a program is read as far as trees go. -/
theorem exists_ofScan {source : String} {lexemes : List Lexeme}
    (hlocated : Located 0 lexemes source.toList)
    (h : Derives .program (lexemes.map (·.token))) :
    ∃ tree, Program.ofScan (Scan.ofSource source) = .ok tree := by
  obtain ⟨start, next, hbind, hnext⟩ := Program.ofScan_eq_bind (Scan.ofSource source)
  rw [h.scan hlocated] at hbind hnext ⊢
  obtain ⟨reading, hrun, shapes, hready⟩ :=
    h.reads lexemes rfl (.boundary [] start) ⟨[], Reading.ready_start start⟩
  obtain ⟨done, hwhole, -⟩ := hready (Source.byteLength source.toList)
  obtain ⟨stop, hfinish⟩ := Reading.exists_finish hwhole
  refine ⟨⟨⟨start, stop⟩, done.reverse⟩, ?_⟩
  rw [hbind, hrun]
  exact hnext reading done.reverse stop rfl hfinish

end Derives

/-! ## 3. Numbers that do not fit -/

theorem Token.isOversized_iff {t : Token} :
    t.isOversized = true ↔ ∃ value, t = .int value ∧ 9223372036854775807 < value := by
  cases t with
  | int value =>
    have hlarge : (Token.int value).isOversized = true ↔ maxLiteral < value := decide_eq_true_iff
    simpa [maxLiteral] using hlarge
  | _ => simp [Token.isOversized]

namespace Program

/-- A text that is read up to its numbers fails for the first that does not fit. -/
theorem parse_of_find? {source : String} {tree : Program Span} {first : Lexeme}
    (htree : ofScan (Scan.ofSource source) = .ok tree)
    (hfirst : (Scan.ofSource source).lexemes.find? (·.token.isOversized) = some first) :
    parse source = .error (.oversized first.span) := by
  simp only [parse, bind, Except.bind, htree, hfirst]

/-- **Numbers that do not fit.** A text that spells the tokens of a program, with
numbers of any size, fails to be read if and only if one of the numbers is above
the largest that fits. The complaint is then about the first of these, and points
at exactly its bytes. -/
theorem parse_oversized {source : String} {lexemes : List Lexeme}
    (hlocated : Located 0 lexemes source.toList)
    (hderives : Derives .program (lexemes.map (·.token))) :
    ((∃ e, parse source = .error e) ↔
      ∃ lexeme ∈ lexemes, ∃ value, lexeme.token = .int value ∧ 9223372036854775807 < value) ∧
    ∀ e, parse source = .error e →
      ∃ before first after value, lexemes = before ++ first :: after ∧
        first.token = .int value ∧ 9223372036854775807 < value ∧
        (∀ lexeme ∈ before, ∀ v, lexeme.token = .int v → v ≤ 9223372036854775807) ∧
        e.place = .range first.span ∧
        e.message = "invalid integer literal: number too large to fit in target type" := by
  obtain ⟨tree, htree⟩ := hderives.exists_ofScan hlocated
  have hlexemes : (Scan.ofSource source).lexemes = lexemes := by rw [hderives.scan hlocated]
  cases hfind : lexemes.find? (·.token.isOversized) with
  | none =>
    have hfits : ∀ lexeme ∈ lexemes, lexeme.token.isOversized = false := by
      simpa [List.find?_eq_none] using hfind
    have hparse : parse source = .ok ⟨tree.number, tree.labels⟩ :=
      parse_eq_ok_iff.mpr ⟨tree, htree, by rwa [hlexemes], rfl⟩
    rw [hparse]
    refine ⟨⟨?_, ?_⟩, ?_⟩
    · rintro ⟨e, he⟩
      cases he
    · rintro ⟨lexeme, hmem, hlarge⟩
      rw [← Token.isOversized_iff, hfits lexeme hmem] at hlarge
      cases hlarge
    · intro e he
      cases he
  | some first =>
    have hparse := parse_of_find? htree (by rwa [hlexemes])
    obtain ⟨hlarge, before, after, hrow, hbefore⟩ := List.find?_eq_some_iff_append.mp hfind
    obtain ⟨value, htoken, hvalue⟩ := Token.isOversized_iff.mp hlarge
    refine ⟨⟨fun _ => ⟨first, List.mem_of_find?_eq_some hfind, value, htoken, hvalue⟩,
      fun _ => ⟨_, hparse⟩⟩, ?_⟩
    intro e he
    rw [hparse] at he
    cases he
    refine ⟨before, first, after, value, hrow, htoken, hvalue, ?_, rfl, rfl⟩
    intro lexeme hmem v hv
    have hfits := hbefore lexeme hmem
    apply Nat.le_of_not_lt
    intro hlarge
    rw [Token.isOversized_iff.mpr ⟨v, hv, hlarge⟩] at hfits
    cases hfits

end Program

/-- Zeros in front of the largest number that fits, one more than it in
parentheses, and a larger one in a second statement. -/
def Source.large : String :=
  "print 0009223372036854775807 * (1 + 9223372036854775808); print 99999999999999999999"

/-- The lexemes of that source. -/
def Source.largeLexemes : List Lexeme :=
  [⟨.printWord, ⟨0, 5⟩⟩, ⟨.int 9223372036854775807, ⟨6, 28⟩⟩, ⟨.product .mul, ⟨29, 30⟩⟩,
    ⟨.openParen, ⟨31, 32⟩⟩, ⟨.int 1, ⟨32, 33⟩⟩, ⟨.sum .add, ⟨34, 35⟩⟩,
    ⟨.int 9223372036854775808, ⟨36, 55⟩⟩, ⟨.closeParen, ⟨55, 56⟩⟩, ⟨.semicolon, ⟨56, 57⟩⟩,
    ⟨.printWord, ⟨58, 63⟩⟩, ⟨.int 99999999999999999999, ⟨64, 84⟩⟩]

theorem Program.parse_oversized_large :
    ∃ e before first after, parse Source.large = .error e ∧
      Source.largeLexemes = before ++ first :: after ∧ e.place = .range first.span ∧
      first.span = ⟨36, 55⟩ ∧
      ∀ lexeme ∈ before, ∀ v, lexeme.token = .int v → v ≤ 9223372036854775807 := by
  have hscan : Scan.ofSource Source.large = ⟨Source.largeLexemes, 84, true⟩ := by decide +kernel
  have hlocated : Located 0 Source.largeLexemes Source.large.toList := by
    have hcomplete : (Scan.ofSource Source.large).complete = true := by rw [hscan]
    have hlocated := (Scan.located hcomplete).1
    rwa [← Scan.ofSource, hscan] at hlocated
  have hgroup : Derives .factor
      [.openParen, .int 1, .sum .add, .int 9223372036854775808, .closeParen] :=
    .group (.sum .add (.ofTerm (.ofFactor (.int 1))) (.ofFactor (.int 9223372036854775808)))
  have hproduct : Derives .statement
      [.printWord, .int 9223372036854775807, .product .mul, .openParen, .int 1, .sum .add,
        .int 9223372036854775808, .closeParen] :=
    .print (.ofTerm (.product .mul (.ofFactor (.int 9223372036854775807)) hgroup))
  have hlast : Derives .program [.printWord, .int 99999999999999999999] :=
    .statement (.print (.ofTerm (.ofFactor (.int 99999999999999999999)))) .empty
  have hparse : parse Source.large = .error (.oversized ⟨36, 55⟩) := by
    rw [parse, hscan]
    rfl
  obtain ⟨-, hfirst⟩ := parse_oversized hlocated (.closed hproduct hlast)
  obtain ⟨before, first, after, value, hrow, -, -, hbefore, hplace, -⟩ := hfirst _ hparse
  have hspan : (⟨36, 55⟩ : Span) = first.span := Place.range.inj hplace
  exact ⟨_, before, first, after, hparse, hrow, hplace, hspan.symm, hbefore⟩

end Printlet
