/-
Printlet.Proofs.Nesting — how the spans of a source lie in it and in one another.

The lexemes of a source stand one behind the other (`InOrder`), so the nodes that
are read from them do. `Node.Placed` is what follows for one node: its span lies
in the source and cuts no character, it holds the spans of the parts, these are
disjoint and in order, and under a factor stands what the factor says. Every node
of a source that is read is placed, and the numbers of the nodes count them in
the order of the walk (`Program.spans_of_parse`).
-/
import Printlet.Proofs.Extents

namespace Printlet

/-! ## 1. Lexemes in order -/

/-- The lexemes are not empty and stand one behind the other, before `stop`. -/
inductive InOrder : List Lexeme → Nat → Prop
  | nil {stop : Nat} : InOrder [] stop
  | cons {lexeme : Lexeme} {lexemes : List Lexeme} {stop : Nat}
      (own : lexeme.span.start < lexeme.span.stop)
      (gap : lexeme.span.stop ≤ firstStart lexemes stop) (rest : InOrder lexemes stop) :
      InOrder (lexeme :: lexemes) stop

namespace InOrder

variable {lexemes front back : List Lexeme} {stop : Nat}

theorem firstStart_le (h : InOrder lexemes stop) : firstStart lexemes stop ≤ stop := by
  induction h with
  | nil => simp
  | cons own gap _ ih =>
    simp only [firstStart_cons]
    omega

theorem of_append (h : InOrder (front ++ back) stop) :
    InOrder front (firstStart back stop) ∧ InOrder back stop := by
  induction front with
  | nil => exact ⟨.nil, h⟩
  | cons lexeme front ih =>
    rw [List.cons_append] at h
    cases h with
    | cons own gap rest =>
      obtain ⟨hfront, hback⟩ := ih rest
      rw [firstStart_append] at gap
      exact ⟨.cons own gap hfront, hback⟩

end InOrder

theorem Token.Written.ne_nil {t : Token} {word : List Char} (h : t.Written word)
    (hvalid : t.Valid) : word ≠ [] := by
  by_cases hint : t.IsInt
  · cases t with
    | int value => exact h.1
    | _ => cases hint
  · obtain ⟨c, cs, rfl, -⟩ := h.starts hvalid hint
    simp

theorem Source.byteLength_pos {cs : List Char} (h : cs ≠ []) : 0 < Source.byteLength cs := by
  cases cs with
  | nil => exact absurd rfl h
  | cons c cs => exact Nat.lt_of_lt_of_le c.utf8Size_pos (Nat.le_add_right _ _)

theorem Located.inOrder {offset : Nat} {lexemes : List Lexeme} {cs : List Char}
    (h : Located offset lexemes cs) :
    offset ≤ firstStart lexemes (offset + Source.byteLength cs) ∧
      InOrder lexemes (offset + Source.byteLength cs) := by
  induction h with
  | nil => exact ⟨Nat.le_add_right _ _, .nil⟩
  | @cons offset t lexemes trivia word rest front written valid stops back ih =>
    have hword := Source.byteLength_pos (written.ne_nil valid)
    have hlength : offset + Source.byteLength (trivia ++ (word ++ rest)) =
        offset + Source.byteLength trivia + Source.byteLength word + Source.byteLength rest := by
      simp only [Source.byteLength_append]
      omega
    obtain ⟨hgap, hrest⟩ := ih
    rw [hlength]
    refine ⟨Nat.le_add_right _ _, .cons ?_ hgap hrest⟩
    simpa using hword

/-! ## 2. Nodes in order -/

/-- One span lies in another. -/
def Span.Contains (outer inner : Span) : Prop :=
  outer.start ≤ inner.start ∧ inner.stop ≤ outer.stop

/-- One span ends before another starts. -/
def Span.Precedes (first second : Span) : Prop :=
  first.stop ≤ second.start

namespace Node

variable {n : Node Span} {ns : List (Node Span)} {lexemes : List Lexeme} {next : Nat}

/-- A chain starts no later than its last part. -/
theorem Covers.firstStart_le_last {front : List Lexeme} (h : n.Covers lexemes next)
    (horder : InOrder (front ++ lexemes) next) :
    firstStart (front ++ lexemes) next ≤ n.label.start := by
  rw [h.start_eq, firstStart_append]
  exact horder.of_append.1.firstStart_le

/-- A node is not empty and ends before what follows. -/
theorem Covers.bounds (h : n.Covers lexemes next) (horder : InOrder lexemes next) :
    n.label.start < n.label.stop ∧ n.label.stop ≤ next := by
  induction h with
  | @leaf f lexeme next token =>
    cases horder with
    | cons own gap _ =>
      unfold Lexeme.leaf? at token
      split at token <;> cases token <;> exact ⟨own, gap⟩
  | @group e first last lexemes next hfirst hlast inner ih =>
    cases horder with
    | cons own gap rest =>
      obtain ⟨hinner, hrest⟩ := rest.of_append
      cases hrest with
      | cons own' gap' _ =>
        have hle := hinner.firstStart_le
        simp only [firstStart_append, firstStart_cons, firstStart_nil] at gap gap' hle
        simp only [Node.label, Factor.label]
        omega
  | @term pieces last lexemes next front signs back ihf ihb =>
    obtain ⟨hlast, hnext⟩ := ihb horder.of_append.2
    have hfirst := back.firstStart_le_last horder
    simp only [Node.label, Term.label] at hlast hnext hfirst ⊢
    split <;> omega
  | @expression pieces last lexemes next front signs back ihf ihb =>
    obtain ⟨hlast, hnext⟩ := ihb horder.of_append.2
    have hfirst := back.firstStart_le_last horder
    simp only [Node.label, Expression.label] at hlast hnext hfirst ⊢
    split <;> omega
  | @print e word lexemes next hword value ih =>
    have horder : InOrder ([word] ++ lexemes) next := horder
    obtain ⟨hlast, hnext⟩ := ih horder.of_append.2
    have hfirst := value.firstStart_le_last horder
    exact ⟨Nat.lt_of_le_of_lt hfirst hlast, hnext⟩
  | @bind s e word name assign lexemes next hword hname hassign value ih =>
    have horder : InOrder ([word, name, assign] ++ lexemes) next := horder
    obtain ⟨hlast, hnext⟩ := ih horder.of_append.2
    have hfirst := value.firstStart_le_last horder
    exact ⟨Nat.lt_of_le_of_lt hfirst hlast, hnext⟩

/-- Nodes that are read one behind the other have their spans in order. -/
theorem AllCover.ordered (h : AllCover ns lexemes next) (horder : InOrder lexemes next) :
    (ns.map label).Pairwise Span.Precedes ∧
      ∀ n ∈ ns, firstStart lexemes next ≤ n.label.start ∧ n.label.stop ≤ next := by
  induction h with
  | nil => simp
  | @cons n ns front own back next hn rest ih =>
    obtain ⟨hfront, hown⟩ := horder.of_append
    obtain ⟨hown, hback⟩ := hown.of_append
    obtain ⟨hstart, hstop⟩ := hn.bounds hown
    obtain ⟨hpairs, hbounds⟩ := ih hback
    have hle := hfront.firstStart_le
    have hnext := hback.firstStart_le
    have hbegin := hn.start_eq
    simp only [firstStart_append] at hle ⊢
    constructor
    · rw [List.map_cons, List.pairwise_cons]
      refine ⟨?_, hpairs⟩
      intro span hspan
      obtain ⟨m, hm, rfl⟩ := List.mem_map.mp hspan
      exact Nat.le_trans hstop (hbounds m hm).1
    · intro m hm
      rcases List.mem_cons.mp hm with rfl | hm
      · omega
      · have hbound := hbounds m hm
        omega

/-- No part of a chain ends behind the chain, which ends with its last part or,
if it is the only one, with what follows. -/
theorem stop_le_chain {front : List (Node Span)} {last m : Node Span} {next : Nat}
    (hpairs : ((front ++ [last]).map label).Pairwise Span.Precedes)
    (hlast : last.label.start < last.label.stop ∧ last.label.stop ≤ next)
    (hm : m ∈ front ++ [last]) (single : Bool) :
    m.label.stop ≤ if single then next else last.label.stop := by
  have hstop : m.label.stop ≤ last.label.stop := by
    rw [List.map_append, List.pairwise_append] at hpairs
    rcases List.mem_append.mp hm with hm | hm
    · have hprecedes : m.label.stop ≤ last.label.start :=
        hpairs.2.2 _ (List.mem_map_of_mem hm) _ List.mem_cons_self
      omega
    · rw [List.mem_singleton.mp hm]
  split <;> omega

/-- A node holds its parts. -/
theorem Covers.contains (h : n.Covers lexemes next) (horder : InOrder lexemes next)
    {m : Node Span} (hm : m ∈ n.parts) : n.label.Contains m.label := by
  obtain ⟨hpairs, hbounds⟩ := h.parts.ordered horder
  refine ⟨h.start_eq ▸ (hbounds m hm).1, ?_⟩
  cases h with
  | @leaf f lexeme next token =>
    unfold Lexeme.leaf? at token
    split at token <;> cases token <;> cases hm
  | @group e first last lexemes next hfirst hlast inner =>
    have horder : InOrder ([first] ++ (lexemes ++ [last])) next := horder
    obtain ⟨hinner, hrest⟩ := horder.of_append.2.of_append
    have hstop := (inner.bounds hinner).2
    cases hrest with
    | cons own _ _ =>
      cases List.mem_singleton.mp hm
      exact Nat.le_trans hstop (Nat.le_of_lt own)
  | @term pieces last lexemes next front signs back =>
    have hlast := back.bounds horder.of_append.2
    rw [Node.parts, List.map_append] at hpairs hm
    exact stop_le_chain hpairs hlast hm pieces.isEmpty
  | @expression pieces last lexemes next front signs back =>
    have hlast := back.bounds horder.of_append.2
    rw [Node.parts, List.map_append] at hpairs hm
    exact stop_le_chain hpairs hlast hm pieces.isEmpty
  | print | bind =>
    cases List.mem_singleton.mp hm
    exact Nat.le_refl _

end Node

/-- A program ends behind its start and behind its statements. -/
theorem Statement.RowCovers.le_stop {ss : List (Statement Span)} {lexemes : List Lexeme}
    {next stop : Nat} (h : RowCovers ss lexemes next stop) (horder : InOrder lexemes next) :
    firstStart lexemes next ≤ stop ∧ ∀ s ∈ ss, s.label.stop ≤ stop := by
  cases h with
  | nil => simp
  | unclosed before last =>
    have hparts := (Statement.RowCovers.unclosed before last).parts
    refine ⟨horder.firstStart_le, ?_⟩
    intro s hs
    exact ((hparts.ordered horder).2 _ (List.mem_map_of_mem hs)).2
  | @closed ss s front lexemes semicolon next stop before last hsemicolon =>
    have hparts := (Statement.RowCovers.unclosed before last).parts
    rw [← List.append_assoc] at horder ⊢
    obtain ⟨hfront, hsemi⟩ := horder.of_append
    cases hsemi with
    | cons own gap _ =>
      have hstart := hfront.firstStart_le
      rw [firstStart_append]
      refine ⟨Nat.le_trans hstart (Nat.le_of_lt own), ?_⟩
      intro s hs
      have hbound := ((hparts.ordered hfront).2 _ (List.mem_map_of_mem hs)).2
      exact Nat.le_trans hbound (Nat.le_of_lt own)

/-! ## 3. Places in the text -/

namespace Source

theorem isBoundary_byteLength (front back : List Char) :
    isBoundary (byteLength front) (front ++ back) = true := by
  induction front with
  | nil => cases back <;> simp [byteLength, isBoundary]
  | cons c front ih =>
    simp [byteLength_cons, isBoundary, ih]

/-- Between two places, the earlier one first, lies a span. -/
theorem span?_eq_some {source : String} {span : Span} (hle : span.start ≤ span.stop)
    (hstart : isBoundary span.start source.toList = true)
    (hstop : isBoundary span.stop source.toList = true) :
    span? source span.start span.stop = some span := by
  simp [span?, hle, hstart, hstop]

end Source

/-- The text under a span that is given by the text before it. -/
theorem Span.text_eq {source : String} {front word rest : List Char} {span : Span}
    (hsource : source.toList = front ++ (word ++ rest))
    (hstart : span.start = Source.byteLength front)
    (hstop : span.stop = Source.byteLength front + Source.byteLength word) :
    (span.text source).toList = word := by
  rw [Span.text, hsource, hstart, hstop, Nat.add_sub_cancel_left, Source.after_byteLength,
    Source.before_byteLength, String.toList_ofList]

namespace Lexeme

variable {lexeme : Lexeme} {source : String}

theorem boundaries (h : lexeme.LiesIn 0 source.toList) :
    Source.isBoundary lexeme.span.start source.toList = true ∧
      Source.isBoundary lexeme.span.stop source.toList = true := by
  obtain ⟨front, word, rest, hsource, -, -, hspan⟩ := h
  rw [hspan, hsource]
  have hstop := Source.isBoundary_byteLength (front ++ word) rest
  rw [Source.byteLength_append, List.append_assoc] at hstop
  simpa using ⟨Source.isBoundary_byteLength front (word ++ rest), hstop⟩

/-- A lexeme covers its spelling. -/
theorem written_text (h : lexeme.LiesIn 0 source.toList) :
    lexeme.token.Written (lexeme.span.text source).toList := by
  obtain ⟨front, word, rest, hsource, hwritten, -, hspan⟩ := h
  rw [Span.text_eq hsource (by simp [hspan]) (by simp [hspan])]
  exact hwritten

end Lexeme

/-- What stands under a factor: the literal, the name, digits that denote the
number, or something in parentheses. -/
def Factor.IsText {α : Type} : Factor α → List Char → Prop
  | .text _ literal, cs => cs = literal.toList
  | .name _ s, cs => cs = s.toList
  | .int _ value, cs =>
    cs ≠ [] ∧ (∀ c ∈ cs, c.isDigit = true) ∧ (Nat.ofDigitChars 10 cs 0 : Int) = value.toInt
  | .group _ _, cs => ∃ inner, cs = '(' :: (inner ++ [')'])

theorem Factor.isText_relabel {α β : Type} (g : α → β) (f : Factor α) (cs : List Char) :
    (f.relabel g).IsText cs ↔ f.IsText cs := by
  cases f <;> simp [Factor.relabel, Factor.IsText]

/-- Two parentheses, one behind the other, and the text between them. -/
theorem text_between {source : String} {first last : Lexeme}
    (hfirst : first.LiesIn 0 source.toList) (hlast : last.LiesIn 0 source.toList)
    (hopen : first.token = .openParen) (hclose : last.token = .closeParen)
    (hle : first.span.stop ≤ last.span.start) :
    ∃ inner, (Span.text ⟨first.span.start, last.span.stop⟩ source).toList =
      '(' :: (inner ++ [')']) := by
  obtain ⟨front, word, rest, hsource, hwritten, -, hspan⟩ := hfirst
  obtain ⟨front', word', rest', hsource', hwritten', -, hspan'⟩ := hlast
  rw [hopen] at hwritten
  rw [hclose] at hwritten'
  obtain rfl : word = ['('] := hwritten
  obtain rfl : word' = [')'] := hwritten'
  have hopened : Source.byteLength ['('] = 1 := rfl
  rw [hspan, hspan'] at hle
  simp only [Nat.zero_add, hopened] at hle
  -- The text before the second parenthesis is longer, so it goes on behind the first.
  rcases List.append_eq_append_iff.mp (hsource.symm.trans hsource') with
    ⟨middle, rfl, hmiddle⟩ | ⟨middle, rfl, -⟩
  · cases middle with
    | nil =>
      rw [List.append_nil] at hle
      omega
    | cons c inner =>
      obtain rfl : '(' = c := (List.cons.inj hmiddle).1
      have hwhole : source.toList = front ++ ('(' :: (inner ++ [')']) ++ rest') := by
        simpa using hsource'
      exact ⟨inner, Span.text_eq hwhole (by simp [hspan])
        (by simp [hspan', ← Source.byteLength_append])⟩
  · rw [Source.byteLength_append] at hle
    omega

/-! ## 4. Nodes in their place -/

/-- The span of a node lies in the source and cuts no character. It holds the
spans of the parts, which are disjoint and in order. Under a factor stands what
the factor says. -/
structure Node.Placed (n : Node Span) (source : String) : Prop where
  whole : Source.span? source n.label.start n.label.stop = some n.label
  contains : ∀ m ∈ n.parts, n.label.Contains m.label
  ordered : (n.parts.map Node.label).Pairwise Span.Precedes
  text : ∀ f, n = .factor f → f.IsText (n.label.text source).toList

/-- The lexemes of a text and its end, as a scan gives them. -/
structure Source.Carries (source : String) (lexemes : List Lexeme) (stop : Nat) : Prop where
  order : InOrder lexemes stop
  lies : ∀ lexeme ∈ lexemes, lexeme.LiesIn 0 source.toList
  fits : ∀ lexeme ∈ lexemes, lexeme.token.isOversized = false
  stop_eq : stop = Source.byteLength source.toList

namespace Source.Carries

variable {source : String} {lexemes : List Lexeme} {stop : Nat}

theorem isBoundary_stop (h : Source.Carries source lexemes stop) :
    Source.isBoundary stop source.toList = true := by
  simpa [h.stop_eq] using Source.isBoundary_byteLength source.toList []

theorem isBoundary_firstStart (h : Source.Carries source lexemes stop) {back : List Lexeme}
    (hback : ∀ lexeme ∈ back, lexeme ∈ lexemes) :
    Source.isBoundary (firstStart back stop) source.toList = true := by
  cases back with
  | nil => exact h.isBoundary_stop
  | cons lexeme back =>
    exact (Lexeme.boundaries (h.lies lexeme (hback lexeme List.mem_cons_self))).1

end Source.Carries

namespace Node

variable {source : String} {lexemes : List Lexeme} {stop : Nat} {n : Node Span}

/-- Under a factor stands what it says. -/
theorem Covers.isText {f : Factor Span} {next : Nat} (h : (Node.factor f).Covers lexemes next)
    (horder : InOrder lexemes next) (hlies : ∀ lexeme ∈ lexemes, lexeme.LiesIn 0 source.toList)
    (hfits : ∀ lexeme ∈ lexemes, lexeme.token.isOversized = false) :
    f.IsText (f.label.text source).toList := by
  cases h with
  | @leaf f lexeme _ token =>
    have hwritten := Lexeme.written_text (hlies lexeme List.mem_cons_self)
    have hsize := hfits lexeme List.mem_cons_self
    unfold Lexeme.leaf? at token
    split at token
    next value htoken =>
      cases token
      rw [htoken] at hwritten hsize
      obtain ⟨hne, hdigits, hvalue⟩ := hwritten
      refine ⟨hne, hdigits, ?_⟩
      rw [Reading.toInt_ofNat_of_fits hsize, ← hvalue]
      rfl
    next literal htoken =>
      cases token
      rw [htoken] at hwritten
      exact hwritten
    next s htoken =>
      cases token
      rw [htoken] at hwritten
      exact hwritten
    next => cases token
  | @group e first last lexemes _ hfirst hlast inner =>
    have hle : first.span.stop ≤ last.span.start := by
      cases horder with
      | cons _ gap rest =>
        have hbound := rest.of_append.1.firstStart_le
        simp only [firstStart_append, firstStart_cons] at gap hbound
        omega
    exact text_between (hlies first (by simp)) (hlies last (by simp)) hfirst hlast hle

theorem Inside.placed (h : n.Inside lexemes stop) (hcarries : Source.Carries source lexemes stop) :
    n.Placed source := by
  obtain ⟨front, own, back, rfl, hcovers⟩ := h
  obtain ⟨horder, hback⟩ := hcarries.order.of_append.2.of_append
  obtain ⟨hstart, hstop⟩ := hcovers.bounds horder
  obtain ⟨first, last, hfirst, hlast, hbegin, hend⟩ := hcovers.extent
  have hown : ∀ lexeme ∈ own, lexeme.LiesIn 0 source.toList := fun lexeme hmem =>
    hcarries.lies lexeme (by simp [hmem])
  refine ⟨Source.span?_eq_some (Nat.le_of_lt hstart) ?_ ?_, fun m hm => hcovers.contains horder hm,
    (hcovers.parts.ordered horder).1, ?_⟩
  · rw [hbegin]
    exact (Lexeme.boundaries (hown first (List.mem_of_head? hfirst))).1
  · rw [hend]
    split
    · exact hcarries.isBoundary_firstStart fun lexeme hmem => by simp [hmem]
    · exact (Lexeme.boundaries (hown last (List.mem_of_getLast? hlast))).2
  · rintro f rfl
    exact hcovers.isText horder hown fun lexeme hmem => hcarries.fits lexeme (by simp [hmem])

end Node

/-- A program ends at the end of the text or with a semicolon. -/
theorem Statement.RowCovers.stop_cases {ss : List (Statement Span)} {lexemes : List Lexeme}
    {next stop : Nat} (h : RowCovers ss lexemes next stop) :
    stop = next ∨ ∃ lexeme ∈ lexemes, stop = lexeme.span.stop := by
  cases h with
  | nil | unclosed => exact .inl rfl
  | @closed _ _ _ _ semicolon => exact .inr ⟨semicolon, by simp, rfl⟩

theorem Program.Covers.placed {p : Program Span} {source : String} {lexemes : List Lexeme}
    {stop : Nat} (h : p.Covers lexemes stop) (hcarries : Source.Carries source lexemes stop) :
    (Node.program p).Placed source := by
  obtain ⟨hle, hstops⟩ := h.statements.le_stop hcarries.order
  obtain ⟨hpairs, hbounds⟩ := h.statements.parts.ordered hcarries.order
  rw [← h.start] at hle
  refine ⟨Source.span?_eq_some hle ?_ ?_, ?_, hpairs, ?_⟩
  · show Source.isBoundary p.label.start source.toList = true
    rw [h.start]
    exact hcarries.isBoundary_firstStart fun _ hmem => hmem
  · show Source.isBoundary p.label.stop source.toList = true
    rcases h.statements.stop_cases with hstop | ⟨lexeme, hmem, hstop⟩
    · rw [hstop]
      exact hcarries.isBoundary_stop
    · rw [hstop]
      exact (Lexeme.boundaries (hcarries.lies lexeme hmem)).2
  · intro m hm
    have hstart := (hbounds m hm).1
    obtain ⟨s, hs, rfl⟩ := List.mem_map.mp hm
    rw [← h.start] at hstart
    exact ⟨hstart, hstops s hs⟩
  · intro f hf
    cases hf

/-- Every node of a program that is read is in its place. -/
theorem Program.placed_of_parse {source : String} {tree : Program Span}
    (h : ofScan (Scan.ofSource source) = .ok tree)
    (hfits : ∀ lexeme ∈ (Scan.ofSource source).lexemes, lexeme.token.isOversized = false)
    {n : Node Span} (hn : (Node.program tree).Below n) : n.Placed source := by
  obtain ⟨hcomplete, -⟩ := ofScan_eq_ok h
  obtain ⟨hlocated, hstop⟩ := Scan.located hcomplete
  have hcovers := covers_of_ofScan h
  have hcarries : Source.Carries source (Scan.ofSource source).lexemes
      (Scan.ofSource source).stop := by
    refine ⟨?_, Scan.liesIn 0 source.toList, hfits, ?_⟩
    · rw [Scan.ofSource, hstop]
      exact hlocated.inOrder.2
    · simpa [Scan.ofSource] using hstop
  cases hn with
  | root => exact hcovers.placed hcarries
  | part above hpart => exact (hcovers.inside above hpart).placed hcarries

namespace Program

/-- **Numbers and spans.** The nodes of a source that is read are numbered from
zero on in the order of the walk, and every span is that of a node. The span of a node
lies in the source and cuts no character; it holds the spans of the parts, and
these are disjoint and in the order of the source. Under a factor stands the
literal, the name, digits that denote the number, or something in parentheses. -/
theorem spans_of_parse {source : String} {parsed : Parsed} (h : parse source = .ok parsed) :
    parsed.program.labels = List.range parsed.spans.length ∧
      (∀ i < parsed.spans.length, ∃ n, (Node.program parsed.program).Below n ∧ n.label = i) ∧
      ∀ n, (Node.program parsed.program).Below n →
        ∃ (span : Span) (inner : List Span), parsed.spans[n.label]? = some span ∧
          Source.span? source span.start span.stop = some span ∧
          n.parts.map (parsed.spans[·.label]?) = inner.map some ∧
          (∀ part ∈ inner, span.Contains part) ∧ inner.Pairwise Span.Precedes ∧
          ∀ f, n = .factor f → f.IsText (span.text source).toList := by
  obtain ⟨tree, htree, hfits, rfl⟩ := parse_eq_ok_iff.mp h
  refine ⟨tree.labels_number, ?_, ?_⟩
  · intro i hi
    apply below_of_mem_labels
    rw [tree.labels_number]
    exact List.mem_range.mpr hi
  intro n hn
  obtain ⟨m, hm, heq⟩ := exists_node_of_number hn
  obtain ⟨hwhole, hcontains, hordered, htext⟩ := placed_of_parse htree hfits hm
  have hspan : tree.labels[n.label]? = some m.label := by
    simpa using congrArg Node.label heq
  have hparts : n.parts.map (tree.labels[·.label]?) = (m.parts.map Node.label).map some := by
    have hlabels := congrArg (fun k => k.parts.map Node.label) heq
    simpa [Function.comp_def] using hlabels
  refine ⟨m.label, m.parts.map Node.label, hspan, hwhole, hparts, ?_, hordered, ?_⟩
  · intro part hpart
    obtain ⟨k, hk, rfl⟩ := List.mem_map.mp hpart
    exact hcontains k hk
  · rintro f rfl
    cases m with
    | factor f' =>
      have hfactor : f.relabel (tree.labels[·]?) = f'.relabel some := Node.factor.inj heq
      rw [← f.isText_relabel (tree.labels[·]?), hfactor, f'.isText_relabel]
      exact htext f' rfl
    | program | statement | expression | term => cases heq

/-- The quotient `6 / (3 - 3)` behind a comment with a letter of two bytes. -/
theorem spans_of_parse_quotient :
    Parsed.dividing.program.labels = List.range 15 ∧
      (∃ (span : Span) (inner : List Span), Parsed.dividing.spans[7]? = some span ∧
        Source.span? "print 2 // é\nprint 6 / (3 - 3)" span.start span.stop = some span ∧
        [some ⟨20, 21⟩, some ⟨24, 31⟩] = inner.map some ∧
        (∀ part ∈ inner, span.Contains part) ∧ inner.Pairwise Span.Precedes) ∧
      ∃ (span : Span) (inner : List Char), Parsed.dividing.spans[9]? = some span ∧
        (span.text "print 2 // é\nprint 6 / (3 - 3)").toList = '(' :: (inner ++ [')']) := by
  obtain ⟨hlabels, -, hspans⟩ := spans_of_parse Parsed.parse_dividing
  have hterm : (Node.program Parsed.dividing.program).Below (.term (.mk 7 [.int 8 6,
      .group 9 (.mk 10 [.mk 11 [.int 12 3] [], .mk 13 [.int 14 3] []] [.sub])] [.div])) :=
    .part (.part (.part .root (.tail _ (.head _))) (.head _)) (.head _)
  refine ⟨hlabels, ?_, ?_⟩
  · obtain ⟨span, inner, hspan, hwhole, hparts, hcontains, hordered, -⟩ := hspans _ hterm
    exact ⟨span, inner, hspan, hwhole, hparts, hcontains, hordered⟩
  · obtain ⟨span, -, hspan, -, -, -, -, htext⟩ := hspans _ (.part hterm (.tail _ (.head _)))
    obtain ⟨inner, hinner⟩ := htext _ rfl
    exact ⟨span, inner, hspan, hinner⟩

end Program

end Printlet
