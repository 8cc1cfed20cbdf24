/-
Printlet.Proofs.Sites — the places at which a tree can be refused.

The compiler may refuse a tree at four kinds of place: a chain, a text literal, a
name, a binding. `Program.sites` lists these places in the order of a walk
through the tree, a chain before its operands and a binding after its value.
`Site.Flawed` says what is wrong with a place, given those before it; it knows
nothing of slots or code. `Site.firstFlaw?` is the walk as a function, with the
names declared so far, and `firstFlaw?_spec` reads the first flawed place off it.

`Program.need` is how deep a stack the tree asks for.
-/
import Mathlib.Data.Finset.Card
import Printlet.Compiler.Compile
import Printlet.Proofs.Rows
import Printlet.Proofs.Scope

namespace Printlet

/-! ## Places -/

/-- A place of a tree at which the compiler may refuse it. -/
inductive Site where
  /-- An expression or a term, with the numbers of its operands and operators. -/
  | chain (node : Nat) (chain : Chain) (operands operators : Nat)
  /-- A text literal. -/
  | text (node : Nat) (literal : String)
  /-- A name that is looked up. -/
  | name (node : Nat) (name : String)
  /-- A name that is bound. -/
  | bind (node : Nat) (name : String)

mutual

/-- The places of an expression. -/
def Expression.sites : Expression Nat → List Site
  | .mk node ts ops => .chain node .expression ts.length ops.length :: Term.sitesOfAll ts

/-- The places of a term. -/
def Term.sites : Term Nat → List Site
  | .mk node fs ops => .chain node .term fs.length ops.length :: Factor.sitesOfAll fs

/-- The places of a factor. -/
def Factor.sites : Factor Nat → List Site
  | .group _ inner => inner.sites
  | .int _ _ => []
  | .text node literal => [.text node literal]
  | .name node name => [.name node name]

/-- The places of a row of terms, from left to right. -/
def Term.sitesOfAll : List (Term Nat) → List Site
  | [] => []
  | t :: ts => t.sites ++ Term.sitesOfAll ts

/-- The places of a row of factors, from left to right. -/
def Factor.sitesOfAll : List (Factor Nat) → List Site
  | [] => []
  | f :: fs => f.sites ++ Factor.sitesOfAll fs

end

/-- The places of a statement. A name is bound after its value. -/
def Statement.sites : Statement Nat → List Site
  | .print _ value => value.sites
  | .bind node name value => value.sites ++ [.bind node name]

/-- The places of a program. -/
def Program.sites (p : Program Nat) : List Site :=
  p.statements.flatMap Statement.sites

/-! ## How much of the stack a tree needs -/

section Need

variable {α : Type}

mutual

/-- How many entries an expression needs: its first term starts on the stack as it
was, the others above one entry. -/
def Expression.need : Expression α → Nat
  | .mk _ [] _ => 0
  | .mk _ (t :: ts) _ => max t.need (Term.needRest ts)

/-- How many entries the further terms of an expression need. -/
def Term.needRest : List (Term α) → Nat
  | [] => 0
  | t :: ts => max (1 + t.need) (Term.needRest ts)

/-- How many entries a term needs. -/
def Term.need : Term α → Nat
  | .mk _ [] _ => 0
  | .mk _ (f :: fs) _ => max f.need (Factor.needRest fs)

/-- How many entries the further factors of a term need. -/
def Factor.needRest : List (Factor α) → Nat
  | [] => 0
  | f :: fs => max (1 + f.need) (Factor.needRest fs)

/-- How many entries a factor needs. -/
def Factor.need : Factor α → Nat
  | .group _ inner => inner.need
  | .int _ _ => 1
  | .text _ _ => 1
  | .name _ _ => 1

end

/-- How many entries a statement needs. What is printed lies above the stream. -/
def Statement.need : Statement α → Nat
  | .print _ value => 1 + value.need
  | .bind _ _ value => value.need

/-- How many entries the statements of a row need at most. -/
def Statement.needAll : List (Statement α) → Nat
  | [] => 0
  | s :: ss => max s.need (Statement.needAll ss)

/-- How many entries a program needs. -/
def Program.need (p : Program α) : Nat :=
  Statement.needAll p.statements

end Need

/-! ## Flaws -/

namespace Site

/-- The name that is bound at a place. -/
def bound? : Site → Option String
  | .bind _ fresh => some fresh
  | _ => none

/-- The names that are bound at a row of places, each as often as it is bound. -/
def bound (sites : List Site) : List String :=
  sites.filterMap bound?

/-- Whether a place is a text literal. -/
def isText : Site → Bool
  | .text _ _ => true
  | _ => false

/-- What is wrong with a place that comes after others. -/
inductive Flawed (before : List Site) : Site → CompileError → Prop
  | shape {node : Nat} {chain : Chain} {operands operators : Nat}
      (h : operands ≠ operators + 1) :
      Flawed before (.chain node chain operands operators)
        (.defect node (.malformed chain operands operators))
  | quotes {node : Nat} {literal : String} (h : ∀ text, literal ≠ "\"" ++ text ++ "\"") :
      Flawed before (.text node literal) (.defect node (.unquoted literal))
  | undeclared {node : Nat} {name : String} (h : name ∉ bound before) :
      Flawed before (.name node name) (.undeclared node name)
  | slots {node : Nat} {name : String} (h : name ∉ bound before)
      (hfull : 65535 ≤ (bound before).toFinset.card) :
      Flawed before (.bind node name) (.tooManyLocals node name)

/-- One thing at most is wrong with a place. -/
theorem Flawed.unique {before : List Site} {site : Site} {e e' : CompileError}
    (h : Flawed before site e) (h' : Flawed before site e') : e = e' := by
  cases h <;> cases h' <;> rfl

/-! The same as a function, with the row of declared names in place of the places
before. -/

/-- The row of names after a place. -/
def extend (names : List String) : Site → List String
  | .bind _ fresh => Scope.extend names fresh
  | _ => names

/-- The row of names after a row of places. -/
def declared (sites : List Site) : List String :=
  sites.foldl extend []

/-- What is wrong with a place, if anything. -/
def flaw? (names : List String) : Site → Option CompileError
  | .chain node kind operands operators =>
    if operands = operators + 1 then none
    else some (.defect node (.malformed kind operands operators))
  | .text node literal =>
    if (unquote? literal).isSome then none else some (.defect node (.unquoted literal))
  | .name node known => if known ∈ names then none else some (.undeclared node known)
  | .bind node fresh =>
    if fresh ∈ names ∨ names.length < Scope.capacity then none
    else some (.tooManyLocals node fresh)

/-- What is wrong with the first flawed place, if there is one. -/
def firstFlaw? (names : List String) : List Site → Option CompileError
  | [] => none
  | site :: sites => (site.flaw? names).or (firstFlaw? (site.extend names) sites)

theorem firstFlaw?_append (names : List String) (front back : List Site) :
    firstFlaw? names (front ++ back) =
      (firstFlaw? names front).or (firstFlaw? (front.foldl extend names) back) := by
  induction front generalizing names with
  | nil => simp [firstFlaw?]
  | cons site front ih => simp [firstFlaw?, ih, Option.or_assoc]

theorem declared_append (before : List Site) (site : Site) :
    declared (before ++ [site]) = site.extend (declared before) := by
  simp [declared]

theorem bound_append (before : List Site) (site : Site) :
    bound (before ++ [site]) = bound before ++ (bound? site).toList := by
  simp only [bound, List.filterMap_append]
  cases hbound : bound? site <;> simp [hbound]

/-- The row of declared names holds each bound name once. -/
theorem declared_spec (sites : List Site) :
    (declared sites).Nodup ∧ ∀ name, name ∈ declared sites ↔ name ∈ bound sites := by
  induction sites using List.reverseRecOn with
  | nil => simp [declared, bound]
  | append_singleton before site ih =>
    obtain ⟨hnodup, hmem⟩ := ih
    rw [declared_append, bound_append]
    cases site with
    | bind node fresh =>
      simp only [extend, Scope.extend, bound?, Option.toList_some, List.mem_append,
        List.mem_singleton]
      split
      next hold =>
        refine ⟨hnodup, fun name => ?_⟩
        rw [hmem]
        refine ⟨.inl, fun h => h.elim id ?_⟩
        rintro rfl
        exact (hmem name).mp hold
      next hnew =>
        refine ⟨List.nodup_append.mpr ⟨hnodup, List.nodup_singleton _, ?_⟩, fun name => ?_⟩
        · intro x hx y hy
          rintro rfl
          exact hnew (List.mem_singleton.mp hy ▸ hx)
        · simp [hmem]
    | _ => simpa [extend, bound?] using ⟨hnodup, hmem⟩

theorem length_declared (sites : List Site) :
    (declared sites).length = (bound sites).toFinset.card := by
  obtain ⟨hnodup, hmem⟩ := declared_spec sites
  rw [← List.toFinset_card_of_nodup hnodup]
  congr 1
  ext name
  simp [hmem]

end Site

/-- A literal can be stripped of its quotes just if it is a text between quotes. -/
theorem unquote?_eq_some_iff {literal text : String} :
    unquote? literal = some text ↔ literal = "\"" ++ text ++ "\"" := by
  have hlist : literal = "\"" ++ text ++ "\"" ↔ literal.toList = '"' :: (text.toList ++ ['"']) := by
    rw [← String.toList_inj]
    simp
  rw [hlist, unquote?]
  split
  next rest hrest =>
    rw [hrest, List.cons.injEq]
    simp only [true_and]
    rcases List.eq_nil_or_concat rest with rfl | ⟨inner, c, rfl⟩
    · simp
    · by_cases hc : c = '"'
      · subst hc
        simp [← String.toList_inj]
      · simp [hc]
  next hother =>
    refine ⟨fun h => (by cases h), fun h => absurd h (hother _)⟩

namespace Site

/-- The function finds what the relation says. -/
theorem flaw?_eq_some_iff {before : List Site} {site : Site} {e : CompileError} :
    site.flaw? (declared before) = some e ↔ Flawed before site e := by
  have hmem := (declared_spec before).2
  have hlength := length_declared before
  constructor
  · intro h
    cases site with
    | chain node chain operands operators =>
      simp only [flaw?] at h
      split at h
      next => cases h
      next hshape => cases h; exact .shape hshape
    | text node literal =>
      simp only [flaw?] at h
      split at h
      next => cases h
      next hquotes =>
        cases h
        refine .quotes fun text htext => hquotes ?_
        rw [unquote?_eq_some_iff.mpr htext]
        rfl
    | name node name =>
      simp only [flaw?] at h
      split at h
      next => cases h
      next hout =>
        cases h
        exact .undeclared fun hbound => hout ((hmem name).mpr hbound)
    | bind node name =>
      simp only [flaw?] at h
      split at h
      next => cases h
      next hfull =>
        cases h
        obtain ⟨hout, hroom⟩ := not_or.mp hfull
        refine .slots (fun hbound => hout ((hmem name).mpr hbound)) ?_
        rw [← hlength]
        exact Nat.le_of_not_lt hroom
  · intro h
    cases h with
    | shape hshape => simp [flaw?, hshape]
    | @quotes node literal hquotes =>
      have hnone : unquote? literal = none := by
        cases htext : unquote? literal with
        | none => rfl
        | some text => exact absurd (unquote?_eq_some_iff.mp htext) (hquotes text)
      simp [flaw?, hnone]
    | @undeclared node name hout => simp [flaw?, hmem, hout]
    | @slots node name hout hfull =>
      have hroom : ¬ (declared before).length < Scope.capacity := by
        rw [hlength]
        exact Nat.not_lt.mpr hfull
      simp [flaw?, hmem, hout, hroom]

/-- **The walk finds the first flaw.** -/
theorem firstFlaw?_spec {before sites : List Site} (hclean : Row.Clean Flawed before) :
    (firstFlaw? (declared before) sites = none → Row.Clean Flawed (before ++ sites)) ∧
      ∀ e, firstFlaw? (declared before) sites = some e → Row.First Flawed (before ++ sites) e := by
  induction sites generalizing before with
  | nil => simpa [firstFlaw?] using hclean
  | cons site sites ih =>
    rw [firstFlaw?]
    cases hflaw : site.flaw? (declared before) with
    | some e =>
      have hflawed := flaw?_eq_some_iff.mp hflaw
      have hfirst : Row.First Flawed (before ++ site :: sites) e :=
        ⟨before.length, site, by simp, by simpa using hflawed, by simpa using hclean⟩
      simpa using hfirst
    | none =>
      have hfine : ∀ e, ¬ Flawed before site e := by
        intro e hflawed
        rw [flaw?_eq_some_iff.mpr hflawed] at hflaw
        cases hflaw
      have hrest := ih (hclean.append hfine)
      rw [declared_append, List.append_assoc] at hrest
      exact hrest

end Site

end Printlet
