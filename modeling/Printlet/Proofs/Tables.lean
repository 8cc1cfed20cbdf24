/-
Printlet.Proofs.Tables — scopes that grow and are copied.

Names are declared and looked up in scopes, and scopes are copied, in any order
and any number of them. `ScopeCall.perform` is one such call, with its answer;
`Tables` keeps the scopes together with their histories: for each scope the
declarations that were made in it and in those it was copied from, with the
answer that each one got. A history does not look into a scope, so it is what
the scope is measured by.

`Scope.Remembers` ties the two together: the slots are the answers, handed out
in the order of first declaration, without a gap. Every call keeps it
(`Tables.Sound.perform`), and no call on one scope shows in another.
-/
import Mathlib.Data.List.Induction
import Mathlib.Data.List.Nodup
import Printlet.Proofs.Scope

namespace Printlet

/-! ## 1. Calls -/

/-- What can be asked of scopes, which are numbered as they come. -/
inductive ScopeCall where
  | create
  | copy (table : Nat)
  | declare (table : Nat) (name : String)
  | resolve (table : Nat) (name : String)
  deriving DecidableEq, Repr

/-- The answer to a call, and the scopes after it. A new scope is answered with
its number, a name with its slot. There is no answer if the name has no slot and
gets none, or if there is no such scope. -/
def ScopeCall.perform (scopes : List Scope) : ScopeCall → Option Nat × List Scope
  | .create => (some scopes.length, scopes ++ [Scope.empty])
  | .copy table =>
    match scopes[table]? with
    | none => (none, scopes)
    | some scope => (some scopes.length, scopes ++ [scope])
  | .declare table name =>
    match scopes[table]? with
    | none => (none, scopes)
    | some scope =>
      match scope.declare name with
      | none => (none, scopes)
      | some (slot, scope') => (some slot, scopes.set table scope')
  | .resolve table name => (scopes[table]?.bind (·.slot? name), scopes)

/-- The declarations made in a scope or in one it was copied from, in order, with
their answers. -/
abbrev History := List (String × Option Nat)

/-- The names in a history. -/
def History.names (history : History) : List String :=
  history.map Prod.fst

theorem History.names_append (history : History) (name : String) (answer : Option Nat) :
    History.names (history ++ [(name, answer)]) = history.names ++ [name] := by
  simp [names]

theorem History.mem_append {history : History} {name latest : String} {answer last : Option Nat} :
    (name, answer) ∈ history ++ [(latest, last)] ↔
      (name, answer) ∈ history ∨ name = latest ∧ answer = last := by
  rw [List.mem_append, List.mem_singleton, Prod.mk.injEq]

/-- Where a name first occurs in a history. -/
def History.first (history : History) (name : String) : Nat :=
  history.names.idxOf name

theorem History.first_append_of_mem {history : History} {name other : String}
    (answer : Option Nat) (h : other ∈ history.names) :
    History.first (history ++ [(name, answer)]) other = history.first other := by
  rw [first, first, names_append, List.idxOf_append_of_mem h]

/-- A name that occurs for the first time does so at the end. -/
theorem History.first_lt_of_notMem {history : History} {name other : String} (answer : Option Nat)
    (h : name ∉ history.names) (hother : other ∈ history.names) :
    History.first (history ++ [(name, answer)]) other <
      History.first (history ++ [(name, answer)]) name := by
  have hlt : history.names.idxOf other < history.names.length := List.idxOf_lt_length_of_mem hother
  rw [first_append_of_mem answer hother, first, first, names_append,
    List.idxOf_append_of_notMem h]
  omega

/-- The histories after a call. -/
def ScopeCall.note (histories : List History) (answer : Option Nat) : ScopeCall → List History
  | .create => histories ++ [[]]
  | .copy table =>
    match histories[table]? with
    | none => histories
    | some history => histories ++ [history]
  | .declare table name => histories.modify table (· ++ [(name, answer)])
  | .resolve _ _ => histories

/-- Scopes and their histories. -/
structure Tables where
  scopes : List Scope
  histories : List History

namespace Tables

/-- One call. -/
def perform (tables : Tables) (call : ScopeCall) : Tables :=
  ⟨(call.perform tables.scopes).2, call.note tables.histories (call.perform tables.scopes).1⟩

/-- All that calls lead to. -/
def after (calls : List ScopeCall) : Tables :=
  calls.foldl perform ⟨[], []⟩

theorem after_append (calls later : List ScopeCall) :
    after (calls ++ later) = later.foldl perform (after calls) :=
  List.foldl_append

end Tables

/-! ## 2. Declaring a name -/

namespace Scope

variable {scope : Scope} {name : String} {slot : Nat}

theorem declare_of_known (h : scope.slot? name = some slot) :
    scope.declare name = some (slot, scope) := by
  simp only [declare, h]

theorem declare_of_new (h : scope.slot? name = none) (hroom : scope.size < capacity) :
    scope.declare name = some (scope.size, ⟨scope.slots.insert name scope.size⟩) := by
  simp only [declare, h, if_pos hroom]

theorem declare_of_full (h : scope.slot? name = none) (hfull : ¬ scope.size < capacity) :
    scope.declare name = none := by
  simp only [declare, h, if_neg hfull]

/-- What is known of a scope from its history, its names being listed in order. -/
structure Recalls (scope : Scope) (history : History) (names : List String) : Prop where
  lists : scope.Lists names
  answered : ∀ name slot, (name, some slot) ∈ history ↔ names[slot]? = some name
  refused : ∀ name, (name, none) ∈ history → names.length = capacity
  ordered : names.Pairwise fun name other => history.first name < history.first other

namespace Recalls

variable {history : History} {names : List String}

theorem empty : Scope.empty.Recalls [] [] where
  lists := .empty
  answered := by simp
  refused := by simp
  ordered := .nil

theorem mem_names (h : scope.Recalls history names) (hname : name ∈ names) :
    name ∈ history.names := by
  obtain ⟨slot, hslot⟩ := List.mem_iff_getElem?.mp hname
  exact List.mem_map.mpr ⟨_, (h.answered name slot).mpr hslot, rfl⟩

theorem notMem_names (h : scope.Recalls history names) (hnew : scope.slot? name = none)
    (hroom : scope.size < capacity) : name ∉ history.names := by
  intro hname
  obtain ⟨⟨_, answer⟩, hentry, rfl⟩ := List.mem_map.mp hname
  cases answer with
  | none =>
    -- a refusal would mean that the scope is full
    have hfull := h.refused _ hentry
    rw [h.lists.size] at hroom
    omega
  | some slot =>
    rw [(h.lists.slot _ slot).mpr ((h.answered _ slot).mp hentry)] at hnew
    cases hnew

/-- Declared names keep their places when the history grows. -/
theorem ordered_append (h : scope.Recalls history names) (latest : String) (answer : Option Nat) :
    names.Pairwise fun name other => History.first (history ++ [(latest, answer)]) name <
      History.first (history ++ [(latest, answer)]) other := by
  refine h.ordered.imp_of_mem fun hname hother hlt => ?_
  rw [History.first_append_of_mem answer (h.mem_names hname),
    History.first_append_of_mem answer (h.mem_names hother)]
  exact hlt

theorem declare_known (h : scope.Recalls history names) (hknown : scope.slot? name = some slot) :
    scope.Recalls (history ++ [(name, some slot)]) names where
  lists := h.lists
  answered := by
    intro other place
    have hslot := (h.lists.slot name slot).mp hknown
    rw [History.mem_append, h.answered]
    constructor
    · rintro (hold | ⟨rfl, heq⟩)
      · exact hold
      · cases heq
        exact hslot
    · exact .inl
  refused := by
    intro other hother
    exact h.refused other ((History.mem_append.mp hother).resolve_right (by simp))
  ordered := h.ordered_append _ _

theorem declare_full (h : scope.Recalls history names) (hfull : ¬ scope.size < capacity) :
    scope.Recalls (history ++ [(name, none)]) names where
  lists := h.lists
  answered := by
    intro other place
    rw [History.mem_append, h.answered]
    exact or_iff_left (by simp)
  refused := by
    intro other _
    have hroom := h.lists.room
    have hsize := h.lists.size
    omega
  ordered := h.ordered_append _ _

theorem declare_new (h : scope.Recalls history names) (hnew : scope.slot? name = none)
    (hroom : scope.size < capacity) :
    (Scope.mk (scope.slots.insert name scope.size)).Recalls
      (history ++ [(name, some scope.size)]) (names ++ [name]) where
  lists := h.lists.insert hnew hroom
  answered := by
    intro other place
    rw [History.mem_append, h.answered, h.lists.size, List.getElem?_append, Option.some.injEq]
    split
    next hlt =>
      constructor
      · rintro (hold | ⟨-, rfl⟩)
        · exact hold
        · omega
      · exact .inl
    next hge =>
      rw [List.getElem?_eq_none (by omega), List.getElem?_singleton]
      split
      next hz =>
        have hplace : place = names.length := by omega
        constructor
        · rintro (hnone | ⟨rfl, -⟩)
          · cases hnone
          · rfl
        · intro heq
          cases heq
          exact .inr ⟨rfl, hplace⟩
      next hz =>
        have hplace : place ≠ names.length := by omega
        simp [hplace]
  refused := by
    intro other hother
    have hfull := h.refused other ((History.mem_append.mp hother).resolve_right (by simp))
    rw [h.lists.size] at hroom
    omega
  ordered := by
    -- the name was never asked for, so it comes after all others
    have hout := h.notMem_names hnew hroom
    refine List.pairwise_append.mpr ⟨h.ordered_append _ _, List.pairwise_singleton _ _, ?_⟩
    intro other hother last hlast
    obtain rfl := List.mem_singleton.mp hlast
    exact History.first_lt_of_notMem _ hout (h.mem_names hother)

end Recalls

end Scope

/-! ## 3. Calls on scopes -/

namespace ScopeCall

variable {scopes : List Scope} {table slot : Nat} {scope : Scope} {name : String}

theorem perform_declare_known (hscope : scopes[table]? = some scope)
    (h : scope.slot? name = some slot) :
    (declare table name).perform scopes = (some slot, scopes) := by
  have hset : scopes.set table scope = scopes := by
    obtain ⟨hlt, rfl⟩ := List.getElem?_eq_some_iff.mp hscope
    exact List.set_getElem_self hlt
  simp only [perform, hscope, Scope.declare_of_known h, hset]

theorem perform_declare_new (hscope : scopes[table]? = some scope) (h : scope.slot? name = none)
    (hroom : scope.size < Scope.capacity) :
    (declare table name).perform scopes =
      (some scope.size, scopes.set table ⟨scope.slots.insert name scope.size⟩) := by
  simp only [perform, hscope, Scope.declare_of_new h hroom]

theorem perform_declare_full (hscope : scopes[table]? = some scope) (h : scope.slot? name = none)
    (hfull : ¬ scope.size < Scope.capacity) :
    (declare table name).perform scopes = (none, scopes) := by
  simp only [perform, hscope, Scope.declare_of_full h hfull]

theorem perform_copy (hscope : scopes[table]? = some scope) :
    (copy table).perform scopes = (some scopes.length, scopes ++ [scope]) := by
  simp only [perform, hscope]

/-- What a declaration can come to. -/
inductive Declares (scopes : List Scope) (table : Nat) (name : String) :
    Option Nat × List Scope → Prop
  | missing (hscope : scopes[table]? = none) : Declares scopes table name (none, scopes)
  | known {scope : Scope} {slot : Nat} (hscope : scopes[table]? = some scope)
      (h : scope.slot? name = some slot) : Declares scopes table name (some slot, scopes)
  | new {scope : Scope} (hscope : scopes[table]? = some scope) (h : scope.slot? name = none)
      (hroom : scope.size < Scope.capacity) :
      Declares scopes table name
        (some scope.size, scopes.set table ⟨scope.slots.insert name scope.size⟩)
  | full {scope : Scope} (hscope : scopes[table]? = some scope) (h : scope.slot? name = none)
      (hfull : ¬ scope.size < Scope.capacity) : Declares scopes table name (none, scopes)

theorem declares_perform (scopes : List Scope) (table : Nat) (name : String) :
    Declares scopes table name ((declare table name).perform scopes) := by
  cases hscope : scopes[table]? with
  | none =>
    simp only [perform, hscope]
    exact .missing hscope
  | some scope =>
    cases h : scope.slot? name with
    | some slot =>
      rw [perform_declare_known hscope h]
      exact .known hscope h
    | none =>
      by_cases hroom : scope.size < Scope.capacity
      · rw [perform_declare_new hscope h hroom]
        exact .new hscope h hroom
      · rw [perform_declare_full hscope h hroom]
        exact .full hscope h hroom

/-- A declaration leaves the number of scopes and all other scopes as they are. -/
theorem Declares.others {result : Option Nat × List Scope}
    (h : Declares scopes table name result) : result.2.length = scopes.length ∧
      ∀ other, table ≠ other → result.2[other]? = scopes[other]? := by
  cases h with
  | missing hscope => exact ⟨rfl, fun _ _ => rfl⟩
  | known hscope h => exact ⟨rfl, fun _ _ => rfl⟩
  | new hscope h hroom => exact ⟨List.length_set, fun other hne => List.getElem?_set_ne hne⟩
  | full hscope h hfull => exact ⟨rfl, fun _ _ => rfl⟩

/-- A scope that recalled its history recalls it with the declaration added. -/
theorem Declares.recalls {result : Option Nat × List Scope} {history : History}
    (h : Declares scopes table name result)
    (hold : ∀ scope, scopes[table]? = some scope → ∃ names, scope.Recalls history names) :
    ∀ scope, result.2[table]? = some scope →
      ∃ names, scope.Recalls (history ++ [(name, result.1)]) names := by
  intro scope' hscope'
  cases h with
  | missing hscope =>
    rw [hscope] at hscope'
    cases hscope'
  | known hscope h =>
    obtain rfl := Option.some.inj (hscope.symm.trans hscope')
    obtain ⟨names, hrecalls⟩ := hold _ hscope
    exact ⟨names, hrecalls.declare_known h⟩
  | new hscope h hroom =>
    have hlt := (List.getElem?_eq_some_iff.mp hscope).1
    rw [List.getElem?_set_self hlt] at hscope'
    obtain rfl := Option.some.inj hscope'
    obtain ⟨names, hrecalls⟩ := hold _ hscope
    exact ⟨names ++ [name], hrecalls.declare_new h hroom⟩
  | full hscope h hfull =>
    obtain rfl := Option.some.inj (hscope.symm.trans hscope')
    obtain ⟨names, hrecalls⟩ := hold _ hscope
    exact ⟨names, hrecalls.declare_full hfull⟩

/-- A call shows in the scope that it declares a name in, and in no other. -/
theorem getElem?_perform (call : ScopeCall) (hcall : ∀ name, call ≠ declare table name)
    (hlt : table < scopes.length) : (call.perform scopes).2[table]? = scopes[table]? := by
  cases call with
  | create => exact List.getElem?_append_left hlt
  | resolve other name => rfl
  | copy other =>
    cases hscope : scopes[other]? with
    | none => simp only [perform, hscope]
    | some scope =>
      rw [perform_copy hscope]
      exact List.getElem?_append_left hlt
  | declare other name =>
    have hne : other ≠ table := by
      rintro rfl
      exact hcall name rfl
    exact (declares_perform scopes other name).others.2 table hne

/-- No call takes a scope away. -/
theorem length_le_perform (call : ScopeCall) (scopes : List Scope) :
    scopes.length ≤ (call.perform scopes).2.length := by
  cases call with
  | create => simp [perform]
  | resolve other name => exact Nat.le_refl _
  | copy other =>
    cases hscope : scopes[other]? with
    | none => simp only [perform, hscope, Nat.le_refl]
    | some scope => simp [perform_copy hscope]
  | declare other name => exact Nat.le_of_eq (declares_perform scopes other name).others.1.symm

end ScopeCall

namespace Tables

/-- Every scope has a history, and recalls it. -/
structure Sound (tables : Tables) : Prop where
  length : tables.scopes.length = tables.histories.length
  recalls : ∀ (table : Nat) (scope : Scope) (history : History),
    tables.scopes[table]? = some scope → tables.histories[table]? = some history →
    ∃ names, scope.Recalls history names

variable {tables : Tables} {scopes : List Scope} {histories : List History}

theorem Sound.append (h : Sound ⟨scopes, histories⟩) {scope : Scope} {history : History}
    {names : List String} (hrecalls : scope.Recalls history names) :
    Sound ⟨scopes ++ [scope], histories ++ [history]⟩ where
  length := by
    have hlength : scopes.length = histories.length := h.length
    simp [hlength]
  recalls := by
    intro table scope' history' hscope hhistory
    have hlength : scopes.length = histories.length := h.length
    simp only [List.getElem?_append, ← hlength] at hscope hhistory
    split at hscope
    next hlt =>
      rw [if_pos hlt] at hhistory
      exact h.recalls table scope' history' hscope hhistory
    next hge =>
      rw [if_neg hge] at hhistory
      rw [List.getElem?_singleton] at hscope hhistory
      split at hscope
      next hz =>
        rw [if_pos hz] at hhistory
        cases hscope
        cases hhistory
        exact ⟨names, hrecalls⟩
      next => cases hscope

/-- One history grows, and no other scope changes. -/
theorem Sound.note (h : Sound ⟨scopes, histories⟩) {scopes' : List Scope} {table : Nat}
    {entry : String × Option Nat} (hlength : scopes'.length = scopes.length)
    (hothers : ∀ other, table ≠ other → scopes'[other]? = scopes[other]?)
    (hrecalls : ∀ scope history, scopes'[table]? = some scope → histories[table]? = some history →
      ∃ names, scope.Recalls (history ++ [entry]) names) :
    Sound ⟨scopes', histories.modify table (· ++ [entry])⟩ where
  length := by
    rw [List.length_modify]
    exact hlength.trans h.length
  recalls := by
    intro other scope history hscope hhistory
    by_cases hsame : table = other
    · subst hsame
      simp only [List.getElem?_modify_eq] at hhistory
      obtain ⟨older, holder, rfl⟩ := Option.map_eq_some_iff.mp hhistory
      exact hrecalls scope older hscope holder
    · have hscope' : scopes[other]? = some scope := (hothers other hsame).symm.trans hscope
      have hhistory' : histories[other]? = some history := by
        simpa only [List.getElem?_modify_ne _ _ hsame] using hhistory
      exact h.recalls other scope history hscope' hhistory'

/-- **One call.** -/
theorem Sound.perform (h : tables.Sound) (call : ScopeCall) : (tables.perform call).Sound := by
  obtain ⟨scopes, histories⟩ := tables
  cases call with
  | create => exact h.append .empty
  | resolve table name => exact h
  | copy table =>
    have hlength : scopes.length = histories.length := h.length
    cases hscope : scopes[table]? with
    | none =>
      have hhistory : histories[table]? = none := by
        rw [List.getElem?_eq_none_iff] at hscope ⊢
        omega
      simp only [Tables.perform, ScopeCall.perform, ScopeCall.note, hscope, hhistory]
      exact h
    | some scope =>
      obtain ⟨history, hhistory⟩ : ∃ history, histories[table]? = some history := by
        have hlt := (List.getElem?_eq_some_iff.mp hscope).1
        exact ⟨_, List.getElem?_eq_getElem (hlength ▸ hlt)⟩
      obtain ⟨names, hrecalls⟩ := h.recalls table scope history hscope hhistory
      simp only [Tables.perform, ScopeCall.perform, ScopeCall.note, hscope, hhistory]
      exact h.append hrecalls
  | declare table name =>
    have hdeclares := ScopeCall.declares_perform scopes table name
    obtain ⟨hlength, hothers⟩ := hdeclares.others
    refine h.note hlength hothers ?_
    intro scope history hscope hhistory
    exact hdeclares.recalls (fun scope hscope => h.recalls table scope history hscope hhistory)
      scope hscope

/-- **Any number of calls.** -/
theorem sound_after (calls : List ScopeCall) : (after calls).Sound := by
  induction calls using List.reverseRecOn with
  | nil => exact ⟨rfl, by simp [after]⟩
  | append_singleton calls call ih =>
    rw [after_append]
    exact ih.perform call

/-- Later calls that declare nothing in a scope leave it as it is. -/
theorem getElem?_foldl_perform (later : List ScopeCall) (tables : Tables) {table : Nat}
    (hlt : table < tables.scopes.length) (hlater : ∀ name, .declare table name ∉ later) :
    (later.foldl Tables.perform tables).scopes[table]? = tables.scopes[table]? := by
  induction later generalizing tables with
  | nil => rfl
  | cons call later ih =>
    have hcall : ∀ name, call ≠ .declare table name := by
      rintro name rfl
      exact hlater name List.mem_cons_self
    have hrest : ∀ name, .declare table name ∉ later := fun name hname =>
      hlater name (List.mem_cons_of_mem _ hname)
    have hkept := Nat.lt_of_lt_of_le hlt (call.length_le_perform tables.scopes)
    rw [List.foldl_cons, ih (tables.perform call) hkept hrest]
    exact call.getElem?_perform hcall hlt

end Tables

/-! ## 4. Scopes and their histories -/

namespace Scope

/-- A scope holds what its history says. -/
structure Remembers (scope : Scope) (history : History) : Prop where
  /-- The names with a slot are those that were declared with success. -/
  declared : ∀ name slot, scope.slot? name = some slot ↔ (name, some slot) ∈ history
  /-- The slots in use are those below the size. -/
  used : ∀ slot, slot < scope.size ↔ ∃ name, scope.slot? name = some slot
  /-- A slot is held by one name. -/
  single : ∀ name other slot, scope.slot? name = some slot → scope.slot? other = some slot →
    name = other
  /-- Slots are in the order of first declaration. -/
  ordered : ∀ name other i j, scope.slot? name = some i → scope.slot? other = some j →
    (i < j ↔ history.first name < history.first other)
  /-- The slots, and the size, fit a word. -/
  word : ∀ n ≤ scope.size, (UInt16.ofNat n).toNat = n

theorem Recalls.remembers {scope : Scope} {history : History} {names : List String}
    (h : scope.Recalls history names) : scope.Remembers history where
  declared := fun name slot => (h.lists.slot name slot).trans (h.answered name slot).symm
  used := by
    intro slot
    simp only [h.lists.size, h.lists.slot]
    constructor
    · intro hlt
      exact ⟨_, List.getElem?_eq_getElem hlt⟩
    · rintro ⟨name, hname⟩
      exact (List.getElem?_eq_some_iff.mp hname).1
  single := by
    intro name other slot hname hother
    rw [h.lists.slot] at hname hother
    exact Option.some.inj (hname.symm.trans hother)
  ordered := by
    intro name other i j hname hother
    rw [h.lists.slot] at hname hother
    obtain ⟨hi, rfl⟩ := List.getElem?_eq_some_iff.mp hname
    obtain ⟨hj, rfl⟩ := List.getElem?_eq_some_iff.mp hother
    have hpairs := List.pairwise_iff_getElem.mp h.ordered
    constructor
    · exact hpairs i j hi hj
    · intro hlt
      rcases Nat.lt_trichotomy i j with hij | rfl | hji
      · exact hij
      · omega
      · have := hpairs j i hj hi hji
        omega
  word := by
    intro n hn
    have hroom : names.length ≤ 65535 := h.lists.room
    rw [h.lists.size] at hn
    exact UInt16.toNat_ofNat_of_lt' (show n < 65536 by omega)

end Scope

/-- What each call on a scope comes to. -/
structure ScopeCall.Serves (scopes : List Scope) (table : Nat) (scope : Scope) : Prop where
  /-- A known name keeps its slot, and nothing changes. -/
  known : ∀ name slot, scope.slot? name = some slot →
    (declare table name).perform scopes = (some slot, scopes)
  /-- A new name gets the next slot, and the others keep theirs. -/
  new : ∀ name, scope.slot? name = none → scope.size ≠ 65535 →
    ∃ scope', (declare table name).perform scopes = (some scope.size, scopes.set table scope') ∧
      scope'.size = scope.size + 1 ∧
      ∀ other, scope'.slot? other = if other = name then some scope.size else scope.slot? other
  /-- A full scope takes no new name, and nothing changes. -/
  full : ∀ name, scope.slot? name = none → scope.size = 65535 →
    (declare table name).perform scopes = (none, scopes)
  resolve : ∀ name, (resolve table name).perform scopes = (scope.slot? name, scopes)
  copy : (copy table).perform scopes = (some scopes.length, scopes ++ [scope])

theorem Scope.Recalls.serves {scopes : List Scope} {table : Nat} {scope : Scope}
    {history : History} {names : List String} (h : scope.Recalls history names)
    (hscope : scopes[table]? = some scope) : ScopeCall.Serves scopes table scope where
  known := fun name slot hknown => ScopeCall.perform_declare_known hscope hknown
  new := by
    intro name hnew hsize
    have hroom : scope.size < Scope.capacity := by
      have hle : names.length ≤ 65535 := h.lists.room
      have hlength := h.lists.size
      exact (show scope.size < 65535 by omega)
    refine ⟨_, ScopeCall.perform_declare_new hscope hnew hroom, ?_, ?_⟩
    · rw [(h.lists.insert hnew hroom).size, h.lists.size, List.length_append, List.length_singleton]
    · intro other
      simp only [Scope.slot?, Std.TreeMap.getElem?_insert, Std.LawfulEqCmp.compare_eq_iff_eq]
      exact if_congr ⟨Eq.symm, Eq.symm⟩ rfl rfl
  full := by
    intro name hnew hsize
    have hfull : ¬ scope.size < Scope.capacity := by
      rw [hsize]
      exact Nat.lt_irrefl _
    exact ScopeCall.perform_declare_full hscope hnew hfull
  resolve := by
    intro name
    simp only [ScopeCall.perform, hscope, Option.bind_some]
  copy := ScopeCall.perform_copy hscope

namespace Tables

/-- **Scopes after any calls.** Each holds what its own history says and serves
every further call by it, and calls on the others do not show in it. -/
theorem after_faithful (calls : List ScopeCall) :
    (∀ table scope, (after calls).scopes[table]? = some scope →
      (∃ history, (after calls).histories[table]? = some history ∧ scope.Remembers history) ∧
      ScopeCall.Serves (after calls).scopes table scope) ∧
    ∀ later table, table < (after calls).scopes.length →
      (∀ name, ScopeCall.declare table name ∉ later) →
      (after (calls ++ later)).scopes[table]? = (after calls).scopes[table]? := by
  constructor
  · intro table scope hscope
    have hsound := sound_after calls
    have hlt := (List.getElem?_eq_some_iff.mp hscope).1
    have hhistory := List.getElem?_eq_getElem (hsound.length ▸ hlt)
    obtain ⟨names, hrecalls⟩ := hsound.recalls table scope _ hscope hhistory
    exact ⟨⟨_, hhistory, hrecalls.remembers⟩, hrecalls.serves hscope⟩
  · intro later table hlt hlater
    rw [after_append]
    exact getElem?_foldl_perform later (after calls) hlt hlater

/-- Calls that fill a scope with the numbers below `n`. -/
def filling (n : Nat) : List ScopeCall :=
  .create :: (List.range n).map fun k => .declare 0 (toString k)

/-- A scope that lists the numbers below `n` does not list `n`. -/
theorem notMem_range_map_toString (n : Nat) : toString n ∉ (List.range n).map toString := by
  intro hmem
  obtain ⟨k, hk, heq⟩ := List.mem_map.mp hmem
  have hdigits : Nat.toDigits 10 k = Nat.toDigits 10 n := by
    rw [← Nat.toList_repr, ← Nat.toList_repr]
    exact congrArg String.toList heq
  have hsame : k = n := by
    rw [← Nat.ofDigitChars_ten_toDigits (n := k), hdigits, Nat.ofDigitChars_ten_toDigits]
  rw [List.mem_range] at hk
  omega

theorem scopes_filling (n : Nat) (h : n ≤ Scope.capacity) :
    ∃ scope, (after (filling n)).scopes = [scope] ∧ scope.Lists ((List.range n).map toString) := by
  induction n with
  | zero => exact ⟨Scope.empty, rfl, .empty⟩
  | succ n ih =>
    obtain ⟨scope, hscopes, hlists⟩ := ih (by omega)
    have hnew : scope.slot? (toString n) = none := by
      rw [Option.eq_none_iff_forall_ne_some]
      intro slot hslot
      exact notMem_range_map_toString n (hlists.mem_iff.mpr ⟨slot, hslot⟩)
    have hroom : scope.size < Scope.capacity := by
      rw [hlists.size, List.length_map, List.length_range]
      exact h
    have hscope : (after (filling n)).scopes[0]? = some scope := by
      rw [hscopes]
      rfl
    refine ⟨⟨scope.slots.insert (toString n) scope.size⟩, ?_, ?_⟩
    · have hcalls : filling (n + 1) = filling n ++ [.declare 0 (toString n)] := by
        simp [filling, List.range_succ]
      rw [hcalls, after_append]
      show ((ScopeCall.declare 0 (toString n)).perform (after (filling n)).scopes).2 = _
      rw [ScopeCall.perform_declare_new hscope hnew hroom, hscopes]
      rfl
    · rw [List.range_succ, List.map_append]
      exact hlists.insert hnew hroom

/-- A full scope answers for the names that it holds and refuses others, also
after it was copied and the copy was tried. -/
theorem after_faithful_full : ∃ scope,
    (after (filling 65535)).scopes[0]? = some scope ∧ scope.size = 65535 ∧
    (ScopeCall.declare 0 "700").perform (after (filling 65535)).scopes =
      (some 700, (after (filling 65535)).scopes) ∧
    (ScopeCall.declare 0 "65535").perform (after (filling 65535)).scopes =
      (none, (after (filling 65535)).scopes) ∧
    (after (filling 65535 ++ [.copy 0, .declare 1 "65535", .declare 1 "700"])).scopes[0]? =
      some scope := by
  obtain ⟨scope, hscopes, hlists⟩ := scopes_filling 65535 (Nat.le_refl _)
  have hscope : (after (filling 65535)).scopes[0]? = some scope := by
    rw [hscopes]
    rfl
  have hsize : scope.size = 65535 := by
    rw [hlists.size, List.length_map, List.length_range]
  have hknown : scope.slot? (toString 700) = some 700 := by
    rw [hlists.slot, List.getElem?_map, List.getElem?_range (by omega)]
    rfl
  have hnew : scope.slot? (toString 65535) = none := by
    rw [Option.eq_none_iff_forall_ne_some]
    intro slot hslot
    exact notMem_range_map_toString 65535 (hlists.mem_iff.mpr ⟨slot, hslot⟩)
  obtain ⟨hserved, hkept⟩ := after_faithful (filling 65535)
  obtain ⟨-, hserves⟩ := hserved 0 scope hscope
  refine ⟨scope, hscope, hsize, hserves.known _ _ hknown, hserves.full _ hnew hsize, ?_⟩
  rw [hkept _ 0 (by rw [hscopes]; exact Nat.zero_lt_one) (by simp), hscope]

end Tables

end Printlet
