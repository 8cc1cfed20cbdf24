/-
Printlet.Proofs.Bounds — the header of a compiled procedure declares no more than
it has to.

A header declares how deep the stack may get and how many slots there are. For a
compiled program both can be read off the tree: the stack is as deep as
`Program.need`, and there is a slot for each name that is bound. Both bounds are
met exactly, so the check turns the same code down as soon as one of them is
lowered, and it does so at the first instruction that needs what is missing.

That instruction is found without looking at the compiler: code that passes under
some limits has nothing wrong with it under lower ones but what is newly out of
bounds (`Check.Clean.lower_stack`, `Check.Clean.lower_locals`).
-/
import Mathlib.Data.Nat.Find
import Printlet.Proofs.Defects
import Printlet.Proofs.Loading

namespace Printlet

/-! ## The first instruction out of bounds -/

namespace Instruction

/-- After the `k`-th instruction the stack is for the first time deeper than a
bound. -/
structure FirstAbove (bound : Nat) (code : List Instruction) (k : Nat) : Prop where
  inside : k < code.length
  above : bound < depthAfter (code.take (k + 1))
  before : ∀ j ≤ k, depthAfter (code.take j) ≤ bound

/-- The `k`-th instruction is the first that names a slot at or beyond a bound. -/
structure FirstBeyond (bound : Nat) (code : List Instruction) (k slot : Nat) : Prop where
  names : ∃ i, code[k]? = some i ∧ i.slot? = some slot
  beyond : bound ≤ slot
  before : ∀ j < k, ∀ i other, code[j]? = some i → i.slot? = some other → other < bound

variable {bound : Nat} {code : List Instruction}

theorem exists_firstAbove {n : Nat} (h : bound < depthAfter (code.take n)) :
    ∃ k, FirstAbove bound code k := by
  have hex : ∃ n, (bound : Int) < depthAfter (code.take n) := ⟨n, h⟩
  have hfind := Nat.find_spec hex
  have hmin : ∀ j < Nat.find hex, depthAfter (code.take j) ≤ bound :=
    fun j hj => Int.not_lt.mp (Nat.find_min hex hj)
  cases hk : Nat.find hex with
  | zero =>
    rw [hk] at hfind
    simp only [List.take_zero, depthAfter_nil] at hfind
    omega
  | succ k =>
    rw [hk] at hfind hmin
    have hbefore : ∀ j ≤ k, depthAfter (code.take j) ≤ bound :=
      fun j hj => hmin j (Nat.lt_succ_of_le hj)
    refine ⟨k, ?_, hfind, hbefore⟩
    -- past the end of the code the depth would not have changed
    by_contra hout
    have hlast := hbefore k (Nat.le_refl k)
    rw [List.take_of_length_le (by omega)] at hfind hlast
    omega

theorem exists_firstBeyond {i : Instruction} {slot : Nat} (hmem : i ∈ code)
    (hslot : i.slot? = some slot) (h : bound ≤ slot) :
    ∃ k slot, FirstBeyond bound code k slot := by
  classical
  obtain ⟨n, hn⟩ := List.mem_iff_getElem?.mp hmem
  have hex : ∃ (n : Nat) (i : Instruction) (slot : Nat),
      code[n]? = some i ∧ i.slot? = some slot ∧ bound ≤ slot :=
    ⟨n, i, slot, hn, hslot, h⟩
  obtain ⟨i', slot', hi', hslot', hbeyond⟩ := Nat.find_spec hex
  refine ⟨Nat.find hex, slot', ⟨i', hi', hslot'⟩, hbeyond, ?_⟩
  intro j hj x other hx hother
  by_contra hle
  exact Nat.find_min hex hj ⟨x, other, hx, hother, Nat.le_of_not_lt hle⟩

end Instruction

/-! ## Lower limits -/

namespace Check

open Instruction (depthAfter FirstAbove FirstBeyond)

variable {limits : Limits} {code : List Instruction} {bound k : Nat}

/-- If all that is wrong under other limits, up to an instruction, is one thing
with that instruction, this is the first offence. -/
theorem Clean.firstOffence {limits' : Limits} {i : Instruction} {violation : Violation}
    (hclean : Clean limits code) (hi : code[k]? = some i)
    (hoffends : Offends limits' (code.take k) i violation)
    (honly : ∀ j ≤ k, ∀ x v, code[j]? = some x → Offends limits' (code.take j) x v →
      Offends limits (code.take j) x v ∨ j = k ∧ v = violation) :
    FirstOffence limits' code k violation where
  reports := by
    refine ⟨i, hi, hoffends, ?_⟩
    intro other hother
    rcases honly k (Nat.le_refl k) i other hi hother with hold | ⟨-, rfl⟩
    · exact absurd hold (hclean k i hi other)
    · exact Nat.le_refl _
  clean := by
    rw [Clean, Row.clean_take_iff]
    intro j hj x hx v hv
    rcases honly j (Nat.le_of_lt hj) x v hx hv with hold | ⟨heq, -⟩
    · exact hclean j x hx v hold
    · omega

/-- What is wrong under other bounds was wrong before, or is about one of the
bounds. -/
theorem Offends.relimit {limits' : Limits} {before : List Instruction} {i : Instruction}
    {v : Violation} (h : Offends limits' before i v) (limits : Limits)
    (hconstants : limits'.constants = limits.constants) :
    Offends limits before i v ∨
      (limits'.maxStack < depthAfter (before ++ [i]) ∧
        v = .stackOverflow (depthAfter (before ++ [i])).toNat limits'.maxStack) ∨
      ∃ slot, i.slot? = some slot ∧ limits'.maxLocals ≤ slot ∧
        v = .localOutOfRange slot limits'.maxLocals := by
  cases h with
  | stackOverflow h => exact .inr (.inl ⟨h, rfl⟩)
  | localOutOfRange hslot h => exact .inr (.inr ⟨_, hslot, h, rfl⟩)
  | codeAfterReturn h => exact .inl (.codeAfterReturn h)
  | stackUnderflow h => exact .inl (.stackUnderflow h)
  | uninitializedLocal hload h => exact .inl (.uninitializedLocal hload h)
  | constantOutOfRange hpush h =>
    rw [hconstants] at h ⊢
    exact .inl (.constantOutOfRange hpush h)
  | residueAtReturn hret h => exact .inl (.residueAtReturn hret h)

/-- **A lower stack.** The first instruction that leaves it too deep is reported. -/
theorem Clean.lower_stack (hclean : Clean limits code) (h : FirstAbove bound code k) :
    FirstOffence { limits with maxStack := bound } code k
      (.stackOverflow (depthAfter (code.take (k + 1))).toNat bound) := by
  obtain ⟨i, hi⟩ : ∃ i, code[k]? = some i := ⟨_, List.getElem?_eq_getElem h.inside⟩
  refine hclean.firstOffence hi ?_ ?_
  · have habove := h.above
    rw [← Row.take_append_eq hi] at habove ⊢
    exact .stackOverflow habove
  · intro j hj x v hx hv
    rcases hv.relimit limits rfl with hold | ⟨hover, rfl⟩ | ⟨slot, hslot, hout, rfl⟩
    · exact .inl hold
    · rw [Row.take_append_eq hx] at hover ⊢
      have heq : j = k := by
        by_contra hne
        exact absurd hover (Int.not_lt.mpr (h.before (j + 1) (by omega)))
      exact .inr ⟨heq, by rw [heq]⟩
    · exact .inl (.localOutOfRange hslot hout)

/-- **Fewer slots.** The first instruction that names one which is gone is
reported. -/
theorem Clean.lower_locals {slot : Nat} (hclean : Clean limits code)
    (h : FirstBeyond bound code k slot) :
    FirstOffence { limits with maxLocals := bound } code k (.localOutOfRange slot bound) := by
  obtain ⟨i, hi, hslot⟩ := h.names
  refine hclean.firstOffence hi (.localOutOfRange hslot h.beyond) ?_
  intro j hj x v hx hv
  rcases hv.relimit limits rfl with hold | ⟨hover, rfl⟩ | ⟨other, hother, hout, rfl⟩
  · exact .inl hold
  · exact .inl (.stackOverflow hover)
  · have heq : j = k := by
      by_contra hne
      exact absurd (h.before j (by omega) x other hx hother) (Nat.not_lt.mpr hout)
    subst heq
    rw [hi] at hx
    cases hx
    rw [hslot] at hother
    cases hother
    exact .inr ⟨rfl, rfl⟩

end Check

/-! ## Every slot is named -/

/-- Declaring a name makes no room for it, or one slot, which it gets. -/
theorem Scope.Lists.size_declare {scope scope' : Scope} {names : List String} {name : String}
    {slot : Nat} (h : scope.Lists names) (hd : scope.declare name = some (slot, scope')) :
    scope'.size = scope.size ∨ scope'.size = scope.size + 1 ∧ slot = scope.size := by
  unfold Scope.declare at hd
  cases hslot : scope.slot? name with
  | some known =>
    rw [hslot] at hd
    cases hd
    exact .inl rfl
  | none =>
    rw [hslot] at hd
    by_cases hroom : scope.size < Scope.capacity
    · simp only [if_pos hroom] at hd
      cases hd
      have hsize := (h.insert hslot hroom).size
      rw [List.length_append, List.length_singleton, ← h.size] at hsize
      exact .inr ⟨hsize, rfl⟩
    · simp only [if_neg hroom] at hd
      cases hd

/-- A move that makes room for a name names the slot that it gets. -/
theorem Move.Lowers.names_slot {em em' : Emission} {move : Move Nat} {i : Instruction}
    {names : List String} (h : move.Lowers em i em') (hl : em.scope.Lists names) :
    em'.scope.size = em.scope.size ∨
      em'.scope.size = em.scope.size + 1 ∧ i.slot? = some em.scope.size := by
  cases h.shape with
  | int hs hc | name hslot hs hc | sum hs hc | product hs hc | stream hs hc | print hs hc
  | text hq hroom hs hc => exact .inl (by rw [hs])
  | @bind node name slot hd hc =>
    obtain ⟨hlists, hplace⟩ := hl.declare hd
    rcases hl.size_declare hd with hsame | ⟨hnext, rfl⟩
    · exact .inl hsame
    · rw [Instruction.slot?, hlists.toNat_slot hplace]
      exact .inr ⟨hnext, rfl⟩

/-- **Each slot is named by some instruction.** -/
theorem Emits.names_slot {em em' : Emission} {moves : List (Move Nat)} {code : List Instruction}
    {names : List String} (h : Emits em moves code em') (hl : em.scope.Lists names) {slot : Nat}
    (hlow : em.scope.size ≤ slot) (hhigh : slot < em'.scope.size) :
    ∃ i ∈ code, i.slot? = some slot := by
  induction h generalizing names with
  | nil em => omega
  | @cons em em1 em2 move moves i code first rest ih =>
    by_cases hlater : em1.scope.size ≤ slot
    · obtain ⟨x, hx, hslot⟩ := ih (first.lists hl) hlater hhigh
      exact ⟨x, List.mem_cons_of_mem _ hx, hslot⟩
    · rcases first.names_slot hl with hsame | ⟨hnext, hslot⟩
      · omega
      · refine ⟨i, List.mem_cons_self, ?_⟩
        rw [hslot]
        exact congrArg some (by omega)

/-! ## The names that are bound -/

/-- The name that a statement binds. -/
def Statement.bound? {α : Type} : Statement α → Option String
  | .print _ _ => none
  | .bind _ fresh _ => some fresh

mutual

theorem Expression.bound_sites : ∀ e : Expression Nat, Site.bound e.sites = []
  | .mk node ts ops => by
      rw [Expression.sites]
      exact Term.bound_sitesOfAll ts

theorem Term.bound_sites : ∀ t : Term Nat, Site.bound t.sites = []
  | .mk node fs ops => by
      rw [Term.sites]
      exact Factor.bound_sitesOfAll fs

theorem Factor.bound_sites : ∀ f : Factor Nat, Site.bound f.sites = []
  | .group _ inner => by
      rw [Factor.sites]
      exact Expression.bound_sites inner
  | .int _ _ => by simp [Factor.sites, Site.bound]
  | .text _ _ => by simp [Factor.sites, Site.bound, Site.bound?]
  | .name _ _ => by simp [Factor.sites, Site.bound, Site.bound?]

theorem Term.bound_sitesOfAll : ∀ ts : List (Term Nat), Site.bound (Term.sitesOfAll ts) = []
  | [] => by simp [Term.sitesOfAll, Site.bound]
  | t :: ts => by
      rw [Term.sitesOfAll, Site.bound, List.filterMap_append]
      exact List.append_eq_nil_iff.mpr ⟨Term.bound_sites t, Term.bound_sitesOfAll ts⟩

theorem Factor.bound_sitesOfAll : ∀ fs : List (Factor Nat), Site.bound (Factor.sitesOfAll fs) = []
  | [] => by simp [Factor.sitesOfAll, Site.bound]
  | f :: fs => by
      rw [Factor.sitesOfAll, Site.bound, List.filterMap_append]
      exact List.append_eq_nil_iff.mpr ⟨Factor.bound_sites f, Factor.bound_sitesOfAll fs⟩

end

theorem Statement.bound_sites (s : Statement Nat) : Site.bound s.sites = s.bound?.toList := by
  cases s with
  | print node value => exact Expression.bound_sites value
  | bind node name value =>
    rw [Statement.sites, Site.bound, List.filterMap_append]
    exact congrArg (· ++ [name]) (Expression.bound_sites value)

theorem Program.bound_sites (p : Program Nat) :
    Site.bound p.sites = p.statements.filterMap Statement.bound? := by
  unfold Program.sites
  induction p.statements with
  | nil => rfl
  | cons s ss ih =>
    rw [List.flatMap_cons, Site.bound, List.filterMap_append]
    show Site.bound s.sites ++ Site.bound (ss.flatMap Statement.sites) = _
    rw [ih, Statement.bound_sites]
    cases hbound : s.bound? <;> simp [hbound]

/-! ## Compiled programs -/

namespace Program

section Compiled

variable {p : Program Nat} {names : UnitNames} {u : CodeUnit} {em : Emission}
variable {code : List Instruction}

/-- There is nothing wrong with the code of a compiled program. -/
theorem Compiled.clean (h : p.Compiled names u em code) :
    Check.Clean (u.entry.limits u.constants.length) (code ++ [.ret]) := by
  have hdemands := (Procedure.check_eq_ok_iff_demands.mp h.check_eq).2
  rw [Instruction.map_snd_placeFrom] at hdemands
  exact hdemands.clean

theorem Compiled.exists_firstAbove (h : p.Compiled names u em code) {bound : Nat}
    (hbound : bound < u.entry.maxStack.toNat) :
    ∃ k, Instruction.FirstAbove bound (code ++ [.ret]) k := by
  obtain ⟨⟨n, hn⟩, -⟩ := h.emits.isGreatest_depth
  rw [h.maxStack_eq] at hbound
  refine Instruction.exists_firstAbove (n := min n code.length) ?_
  rw [List.take_append_of_le_length (Nat.min_le_right _ _), ← List.take_take, List.take_length]
  simp only at hn
  omega

theorem Compiled.exists_firstBeyond (h : p.Compiled names u em code) {bound : Nat}
    (hbound : bound < u.entry.maxLocals.toNat) :
    ∃ k slot, Instruction.FirstBeyond bound (code ++ [.ret]) k slot := by
  rw [h.maxLocals_eq] at hbound
  obtain ⟨i, hi, hslot⟩ := h.emits.names_slot .empty (Nat.zero_le _) hbound
  exact Instruction.exists_firstBeyond (List.mem_append_left _ hi) hslot (Nat.le_refl _)

/-- The check reports the first offence of the code under other bounds. -/
theorem Compiled.check_eq_error (h : p.Compiled names u em code) (entry : Procedure) {k : Nat}
    {violation : Violation} (htext : entry.text = u.entry.text)
    (hfirst : Check.FirstOffence (entry.limits u.constants.length) (code ++ [.ret]) k violation) :
    ∃ offset i, (Instruction.placeFrom 0 (code ++ [.ret]))[k]? = some (offset, i) ∧
      entry.check u.constants.length = .error ⟨offset, violation⟩ := by
  have hdecode : Instruction.decodeAll entry.text =
      .ok (Instruction.placeFrom 0 (code ++ [.ret])) := by
    rw [htext, h.text_eq]
    exact Instruction.decodeAll_encodeAll _
  obtain ⟨i, hi, -⟩ := hfirst.reports
  rw [← Instruction.map_snd_placeFrom 0 (code ++ [Instruction.ret])] at hfirst hi
  rw [List.getElem?_map, Option.map_eq_some_iff] at hi
  obtain ⟨⟨offset, i'⟩, hplace, -⟩ := hi
  exact ⟨offset, i', hplace,
    (Procedure.check_eq_error_iff_faulty hdecode).mpr (.offence hplace hfirst)⟩

end Compiled

/-- **The bounds of a header are exact.** A compiled procedure declares a slot for
each name that the program binds, and a stack as deep as the tree needs. With a
lower bound on the stack the same code is turned down at the first instruction
after which the stack is above the bound; with fewer slots, at the first
instruction whose slot is not there. -/
theorem bounds_exact {p : Program Nat} {names : UnitNames} {u : CodeUnit} {origins : Origins}
    (h : p.compile names = .ok (u, origins)) :
    u.entry.maxLocals.toNat = (p.statements.filterMap Statement.bound?).toFinset.card ∧
    u.entry.maxStack.toNat = p.need ∧
    ∃ code, Instruction.decodeAll u.entry.text = .ok code ∧
      (∀ smaller < u.entry.maxStack, ∃ k offset i, code[k]? = some (offset, i) ∧
        Instruction.FirstAbove smaller.toNat (code.map Prod.snd) k ∧
        ({ u.entry with maxStack := smaller } : Procedure).check u.constants.length =
          .error ⟨offset, .stackOverflow
            (Instruction.depthAfter ((code.map Prod.snd).take (k + 1))).toNat smaller.toNat⟩) ∧
      (∀ fewer < u.entry.maxLocals, ∃ k offset i slot, code[k]? = some (offset, i) ∧
        Instruction.FirstBeyond fewer.toNat (code.map Prod.snd) k slot ∧
        ({ u.entry with maxLocals := fewer } : Procedure).check u.constants.length =
          .error ⟨offset, .localOutOfRange slot fewer.toNat⟩) := by
  obtain ⟨em, code, hcompiled⟩ := compiled_of_compile h
  obtain ⟨-, hat, hneed⟩ := emit_ok hcompiled.emit
  refine ⟨?_, hcompiled.maxStack_eq.trans hneed, Instruction.placeFrom 0 (code ++ [.ret]), ?_, ?_, ?_⟩
  · rw [hcompiled.maxLocals_eq, hat.scope.size, Site.length_declared, bound_sites]
  · rw [hcompiled.text_eq]
    exact Instruction.decodeAll_encodeAll _
  · intro smaller hlt
    obtain ⟨k, hfirst⟩ := hcompiled.exists_firstAbove (UInt16.lt_iff_toNat_lt.mp hlt)
    obtain ⟨offset, i, hplace, hcheck⟩ :=
      hcompiled.check_eq_error { u.entry with maxStack := smaller } rfl
        (hcompiled.clean.lower_stack hfirst)
    rw [Instruction.map_snd_placeFrom]
    exact ⟨k, offset, i, hplace, hfirst, hcheck⟩
  · intro fewer hlt
    obtain ⟨k, slot, hfirst⟩ := hcompiled.exists_firstBeyond (UInt16.lt_iff_toNat_lt.mp hlt)
    obtain ⟨offset, i, hplace, hcheck⟩ :=
      hcompiled.check_eq_error { u.entry with maxLocals := fewer } rfl
        (hcompiled.clean.lower_locals hfirst)
    rw [Instruction.map_snd_placeFrom]
    exact ⟨k, offset, i, slot, hplace, hfirst, hcheck⟩

/-- A program that binds one name twice and needs two entries declares just that,
and is turned down with a lower bound of either kind. -/
theorem bounds_exact_counting :
    ∃ u origins, counting.compile {} = .ok (u, origins) ∧
      u.entry.maxLocals.toNat = 1 ∧ u.entry.maxStack.toNat = 2 ∧
      (∃ offset depth, ({ u.entry with maxStack := 1 } : Procedure).check u.constants.length =
        .error ⟨offset, .stackOverflow depth 1⟩) ∧
      ∃ offset slot, ({ u.entry with maxLocals := 0 } : Procedure).check u.constants.length =
        .error ⟨offset, .localOutOfRange slot 0⟩ := by
  obtain ⟨u, origins, hcompile⟩ : ∃ u origins, counting.compile {} = .ok (u, origins) :=
    ⟨_, _, rfl⟩
  obtain ⟨hlocals, hstack, code, -, hsmaller, hfewer⟩ := bounds_exact hcompile
  have hone : u.entry.maxLocals.toNat = 1 := hlocals.trans (by decide)
  have htwo : u.entry.maxStack.toNat = 2 := hstack.trans (by decide)
  obtain ⟨k, offset, i, -, -, hoverflow⟩ :=
    hsmaller 1 (UInt16.lt_iff_toNat_lt.mpr (by rw [htwo]; decide))
  obtain ⟨k', offset', i', slot, -, -, hrange⟩ :=
    hfewer 0 (UInt16.lt_iff_toNat_lt.mpr (by rw [hone]; decide))
  exact ⟨u, origins, hcompile, hone, htwo, ⟨offset, _, hoverflow⟩, offset', slot, hrange⟩

end Program

end Printlet
