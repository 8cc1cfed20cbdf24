/-
Printlet.Proofs.Demands — what the check demands, said of whole code.

The check walks over code once and keeps a depth, a row of flags and a mark.
Here its verdict is said without the walk: the depth before an instruction is a
sum over the instructions before it (`Instruction.depthAfter`), a slot has been
written if a store stands before. `Check.Demands` are the conditions on the code
as a whole; `Check.Offends` are the things that can be wrong with one
instruction, and `Violation.rank` is the order in which they are looked for.

* `Check.Recalls` ties what the walk knows to the instructions it has taken in.
* `Check.Recalls.step_ok` and `step_error` say what one step decides, `run_ok`
  and `run_error` what a whole walk does.
* `Procedure.check_verdict` is the verdict: code passes if and only if it meets
  the demands, and if it does not, the failure is the first offence in it.
-/
import Mathlib.Algebra.Group.Int.Defs
import Mathlib.Tactic.ByContra
import Printlet.Proofs.CheckSound
import Printlet.Proofs.Rows

namespace Printlet

namespace Instruction

/-! ## 1. Depths -/

/-- What an instruction adds to the depth of the stack. -/
def net (i : Instruction) : Int :=
  i.effect.pushes - i.effect.pops

/-- What some code adds to the depth of the stack. -/
def depthAfter : List Instruction → Int
  | [] => 0
  | i :: code => i.net + depthAfter code

@[simp] theorem depthAfter_nil : depthAfter [] = 0 := rfl

@[simp] theorem depthAfter_cons (i : Instruction) (code : List Instruction) :
    depthAfter (i :: code) = i.net + depthAfter code := rfl

@[simp] theorem depthAfter_append (front back : List Instruction) :
    depthAfter (front ++ back) = depthAfter front + depthAfter back := by
  induction front with
  | nil => simp
  | cons i front ih => simp [ih, Int.add_assoc]

/-- The local slot that an instruction names. -/
def slot? : Instruction → Option Nat
  | .loadLocal slot => some slot.toNat
  | .storeLocal slot => some slot.toNat
  | _ => none

end Instruction

/-! ## 2. Offences -/

/-- The place of a violation among those that the check looks for, the first of
them first. -/
def Violation.rank : Violation → Nat
  | .codeAfterReturn => 0
  | .stackUnderflow _ _ _ => 1
  | .stackOverflow _ _ => 2
  | .localOutOfRange _ _ => 3
  | .uninitializedLocal _ => 4
  | .constantOutOfRange _ _ => 5
  | .residueAtReturn _ => 6
  | .undecodable => 7
  | .missingReturn => 8

namespace Check

open Instruction (depthAfter)

/-- What is wrong with an instruction that comes after others. Several things
can be wrong with it at once. -/
inductive Offends (limits : Limits) (before : List Instruction) (i : Instruction) :
    Violation → Prop
  | codeAfterReturn (h : .ret ∈ before) : Offends limits before i .codeAfterReturn
  | stackUnderflow (h : depthAfter before < i.effect.pops) :
      Offends limits before i (.stackUnderflow i i.effect.pops (depthAfter before).toNat)
  | stackOverflow (h : limits.maxStack < depthAfter (before ++ [i])) :
      Offends limits before i
        (.stackOverflow (depthAfter (before ++ [i])).toNat limits.maxStack)
  | localOutOfRange {slot : Nat} (hslot : i.slot? = some slot) (h : limits.maxLocals ≤ slot) :
      Offends limits before i (.localOutOfRange slot limits.maxLocals)
  | uninitializedLocal {slot : UInt16} (hload : i = .loadLocal slot)
      (h : .storeLocal slot ∉ before) :
      Offends limits before i (.uninitializedLocal slot.toNat)
  | constantOutOfRange {index : UInt32} (hpush : i = .pushConst index)
      (h : limits.constants ≤ index.toNat) :
      Offends limits before i (.constantOutOfRange index.toNat limits.constants)
  | residueAtReturn (hret : i = .ret) (h : depthAfter (before ++ [i]) ≠ 0) :
      Offends limits before i (.residueAtReturn (depthAfter (before ++ [i])).toNat)

/-- What is reported of an instruction: of all that is wrong with it, what is
looked for first. -/
structure Reports (limits : Limits) (before : List Instruction) (i : Instruction)
    (violation : Violation) : Prop where
  offends : Offends limits before i violation
  first : ∀ other, Offends limits before i other → violation.rank ≤ other.rank

/-- Nothing is wrong with any instruction. -/
abbrev Clean (limits : Limits) (code : List Instruction) : Prop :=
  Row.Clean (Offends limits) code

/-- The `k`-th instruction is the first with which something is wrong. -/
structure FirstOffence (limits : Limits) (code : List Instruction) (k : Nat)
    (violation : Violation) : Prop where
  reports : ∃ i, code[k]? = some i ∧ Reports limits (code.take k) i violation
  clean : Clean limits (code.take k)

/-- What code as a whole has to meet: it ends with its only return, on an empty
stack; every instruction finds the operands that it takes and leaves the stack
within its bound; slots and constants are there, and a slot is stored before it
is loaded. -/
structure Demands (limits : Limits) (code : List Instruction) : Prop where
  returns : code.getLast? = some .ret
  once : ∀ k, code[k]? = some .ret → k + 1 = code.length
  balanced : depthAfter code = 0
  enough : ∀ (k : Nat) (i : Instruction), code[k]? = some i →
    i.effect.pops ≤ depthAfter (code.take k)
  bound : ∀ k < code.length, depthAfter (code.take (k + 1)) ≤ limits.maxStack
  slots : ∀ (k : Nat) (i : Instruction) (slot : Nat), code[k]? = some i → i.slot? = some slot →
    slot < limits.maxLocals
  stored : ∀ (k : Nat) (slot : UInt16), code[k]? = some (.loadLocal slot) →
    ∃ j < k, code[j]? = some (.storeLocal slot)
  constants : ∀ (k : Nat) (index : UInt32), code[k]? = some (.pushConst index) →
    index.toNat < limits.constants

variable {limits : Limits} {before code : List Instruction} {i : Instruction}

/-- Two things that are looked for at the same place are the same. -/
theorem Offends.eq_of_rank {v w : Violation} (hv : Offends limits before i v)
    (hw : Offends limits before i w) (h : v.rank = w.rank) : v = w := by
  cases hv <;> cases hw <;> simp_all [Violation.rank]

theorem Reports.unique {v w : Violation} (hv : Reports limits before i v)
    (hw : Reports limits before i w) : v = w :=
  hv.offends.eq_of_rank hw.offends
    (Nat.le_antisymm (hv.first w hw.offends) (hw.first v hv.offends))

/-- There is one first offence at most. -/
theorem FirstOffence.unique {k l : Nat} {v w : Violation} (hv : FirstOffence limits code k v)
    (hw : FirstOffence limits code l w) : k = l ∧ v = w := by
  obtain ⟨⟨i, hi, hreports⟩, hclean⟩ := hv
  obtain ⟨⟨j, hj, hreports'⟩, hclean'⟩ := hw
  obtain rfl := Row.place_unique hi hreports.offends hclean hj hreports'.offends hclean'
  rw [hi] at hj
  cases hj
  exact ⟨rfl, hreports.unique hreports'⟩

/-- Nothing is wrong with code that meets the demands. -/
theorem Demands.clean (h : Demands limits code) : Clean limits code := by
  intro k i hi violation hoffends
  have hk : k < code.length := (List.getElem?_eq_some_iff.mp hi).1
  cases hoffends with
  | codeAfterReturn hret =>
    obtain ⟨j, hj, hget⟩ := Row.mem_take_iff.mp hret
    have honce := h.once j hget
    omega
  | stackUnderflow hlt =>
    have henough := h.enough k i hi
    omega
  | stackOverflow hlt =>
    have hbound := h.bound k hk
    rw [Row.take_append_eq hi] at hlt
    omega
  | localOutOfRange hslot hle =>
    have hslots := h.slots k i _ hi hslot
    omega
  | uninitializedLocal hload hstore =>
    subst hload
    exact hstore (Row.mem_take_iff.mpr (h.stored k _ hi))
  | constantOutOfRange hpush hle =>
    subst hpush
    have hconstants := h.constants k _ hi
    omega
  | residueAtReturn hret hne =>
    subst hret
    rw [Row.take_append_eq hi, h.once k hi, List.take_length] at hne
    exact hne h.balanced

/-- Behind a return of clean code there is nothing. -/
theorem Clean.once (hclean : Clean limits code) {k : Nat} (hk : code[k]? = some .ret) :
    k + 1 = code.length := by
  have hlt : k < code.length := (List.getElem?_eq_some_iff.mp hk).1
  by_contra hne
  have hnext : code[k + 1]? = some (code.get ⟨k + 1, by omega⟩) := by simp
  exact hclean (k + 1) _ hnext _
    (.codeAfterReturn (Row.mem_take_iff.mpr ⟨k, Nat.lt_succ_self k, hk⟩))

/-- Clean code that returns meets the demands. -/
theorem Clean.demands (hclean : Clean limits code) (hret : .ret ∈ code) : Demands limits code := by
  obtain ⟨n, hn⟩ := List.mem_iff_getElem?.mp hret
  have hlast : n + 1 = code.length := hclean.once hn
  refine ⟨?_, fun k => hclean.once, ?_, ?_, ?_, ?_, ?_, ?_⟩
  · rw [List.getLast?_eq_getElem?, ← hlast]
    exact hn
  · by_contra hne
    refine hclean n _ hn _ (.residueAtReturn rfl ?_)
    rwa [Row.take_append_eq hn, hlast, List.take_length]
  · intro k i hi
    by_contra hlt
    exact hclean k i hi _ (.stackUnderflow (by omega))
  · intro k hk
    by_contra hlt
    have hi : code[k]? = some (code.get ⟨k, hk⟩) := by simp
    refine hclean k _ hi _ (.stackOverflow ?_)
    rw [Row.take_append_eq hi]
    omega
  · intro k i slot hi hslot
    by_contra hle
    exact hclean k i hi _ (.localOutOfRange hslot (by omega))
  · intro k slot hi
    by_contra hnone
    exact hclean k _ hi _ (.uninitializedLocal rfl fun hmem => hnone (Row.mem_take_iff.mp hmem))
  · intro k index hi
    by_contra hle
    exact hclean k _ hi _ (.constantOutOfRange rfl (by omega))

/-- **Demands and offences.** Code meets the demands just if nothing is wrong
with any of its instructions and it returns. -/
theorem demands_iff_clean : Demands limits code ↔ Clean limits code ∧ .ret ∈ code := by
  constructor
  · intro h
    exact ⟨h.clean, List.mem_of_getLast? h.returns⟩
  · rintro ⟨hclean, hret⟩
    exact hclean.demands hret

/-! ## 3. One step -/

/-- What the check knows is what can be said of the instructions it has taken
in. -/
structure Recalls (limits : Limits) (before : List Instruction) (check : Check) : Prop where
  returned : check.returned = true ↔ .ret ∈ before
  depth : (check.depth : Int) = depthAfter before
  size : check.assigned.size = limits.maxLocals
  assigned : ∀ slot : UInt16, slot.toNat < limits.maxLocals →
    (check.assigned[slot.toNat]? = some true ↔ .storeLocal slot ∈ before)

theorem Recalls.initial (limits : Limits) : (Check.initial limits).Recalls limits [] where
  returned := by simp [Check.initial]
  depth := rfl
  size := Array.size_replicate
  assigned := by
    intro slot hslot
    simp [Check.initial, hslot]

variable {check check' : Check}

/-- The depth that the check counts after an instruction is the sum. -/
theorem Recalls.depth_after (h : check.Recalls limits before) (henough : i.effect.pops ≤ check.depth) :
    ((check.depth - i.effect.pops + i.effect.pushes : Nat) : Int) = depthAfter (before ++ [i]) := by
  have hdepth := h.depth
  simp only [Instruction.depthAfter_append, Instruction.depthAfter_cons,
    Instruction.depthAfter_nil, Instruction.net]
  omega

/-- An instruction that is taken in becomes part of what the check recalls. -/
theorem Recalls.after (h : check.Recalls limits before) (hadmits : check.Admits limits i) :
    (check.after i).Recalls limits (before ++ [i]) where
  returned := by
    have hout : .ret ∉ before := by
      rw [← h.returned, hadmits.running]
      exact Bool.false_ne_true
    show decide (i = .ret) = true ↔ _
    rw [decide_eq_true_iff, List.mem_append, List.mem_singleton]
    exact ⟨fun hret => .inr hret.symm, fun hmem => (hmem.resolve_left hout).symm⟩
  depth := h.depth_after hadmits.enough
  size := by
    rw [← h.size]
    cases i <;> simp [Check.after]
  assigned := by
    intro slot hslot
    have hold := h.assigned slot hslot
    cases i with
    | storeLocal stored =>
      by_cases hsame : stored = slot
      · subst hsame
        simp [Check.after, h.size, hslot]
      · have hne : stored.toNat ≠ slot.toNat := fun heq => hsame (UInt16.toNat_inj.mp heq)
        simp [Check.after, hne, hold, Ne.symm hsame]
    | _ => simpa [Check.after] using hold

/-- Nothing is wrong with an instruction that is taken in. -/
theorem Recalls.not_offends (h : check.Recalls limits before) (hadmits : check.Admits limits i)
    (violation : Violation) : ¬ Offends limits before i violation := by
  intro hoffends
  have hdepth := h.depth
  have hafter := h.depth_after hadmits.enough
  have henough := hadmits.enough
  have hoperand := hadmits.operand
  cases hoffends with
  | codeAfterReturn hret =>
    rw [← h.returned, hadmits.running] at hret
    cases hret
  | stackUnderflow hlt => omega
  | stackOverflow hlt =>
    have hbound : check.depth - i.effect.pops + i.effect.pushes ≤ limits.maxStack := hadmits.bound
    omega
  | @localOutOfRange slot hslot hle =>
    cases i with
    | loadLocal slot' =>
      cases hslot
      have hlt : slot'.toNat < limits.maxLocals := hoperand.1
      omega
    | storeLocal slot' =>
      cases hslot
      have hlt : slot'.toNat < limits.maxLocals := hoperand
      omega
    | _ => cases hslot
  | uninitializedLocal hload hout =>
    subst hload
    exact hout ((h.assigned _ hoperand.1).mp hoperand.2)
  | @constantOutOfRange index hpush hle =>
    subst hpush
    have hlt : index.toNat < limits.constants := hoperand
    omega
  | residueAtReturn hret hne =>
    subst hret
    have hz : check.depth = 0 := hoperand
    simp [Instruction.effect, hz] at hafter
    exact hne (by simpa using hafter.symm)

theorem Recalls.step_ok (h : check.Recalls limits before)
    (hstep : check.step limits i = .ok check') :
    (∀ violation, ¬ Offends limits before i violation) ∧
      check'.Recalls limits (before ++ [i]) := by
  obtain ⟨hadmits, rfl⟩ := step_eq_ok_iff.mp hstep
  exact ⟨h.not_offends hadmits, h.after hadmits⟩

/-- Where code still runs and the depth is fine, only slots, constants and the end
are left to be wrong. -/
theorem Recalls.three_le_rank (h : check.Recalls limits before) (hrun : check.returned = false)
    (henough : i.effect.pops ≤ check.depth)
    (hbound : check.depth - i.effect.pops + i.effect.pushes ≤ limits.maxStack)
    {violation : Violation} (hoffends : Offends limits before i violation) :
    3 ≤ violation.rank := by
  have hdepth := h.depth
  have hafter := h.depth_after henough
  cases hoffends with
  | codeAfterReturn hret =>
    rw [← h.returned, hrun] at hret
    cases hret
  | stackUnderflow hlt => omega
  | stackOverflow hlt => omega
  | _ => simp [Violation.rank]

/-- The reason for which slots, constants or the end are complained about. -/
theorem Recalls.operand_error (h : check.Recalls limits before) (hrun : check.returned = false)
    (henough : i.effect.pops ≤ check.depth)
    (hbound : check.depth - i.effect.pops + i.effect.pushes ≤ limits.maxStack)
    {violation : Violation}
    (herror : operand limits { check with
      depth := check.depth - i.effect.pops + i.effect.pushes } i = .error violation) :
    Reports limits before i violation := by
  have hrank : ∀ {other}, Offends limits before i other → 3 ≤ other.rank :=
    h.three_le_rank hrun henough hbound
  cases i with
  | loadLocal slot =>
    change (if limits.maxLocals ≤ slot.toNat then Except.error _
      else if check.assigned[slot.toNat]?.getD false then Except.ok _ else Except.error _) = _
      at herror
    split at herror
    next hle =>
      cases herror
      exact ⟨.localOutOfRange rfl hle, fun other => hrank⟩
    next hlt =>
      split at herror
      next => cases herror
      next hunset =>
        cases herror
        have hout : .storeLocal slot ∉ before := by
          intro hmem
          rw [(h.assigned slot (by omega)).mpr hmem] at hunset
          exact hunset rfl
        refine ⟨.uninitializedLocal rfl hout, fun other hother => ?_⟩
        have hthree := hrank hother
        cases hother with
        | localOutOfRange hslot hle =>
          cases hslot
          exact absurd hle hlt
        | _ => simp_all [Violation.rank]
  | storeLocal slot =>
    change (if limits.maxLocals ≤ slot.toNat then Except.error _ else Except.ok _) = _ at herror
    split at herror
    next hle =>
      cases herror
      exact ⟨.localOutOfRange rfl hle, fun other => hrank⟩
    next => cases herror
  | pushConst index =>
    change (if limits.constants ≤ index.toNat then Except.error _ else Except.ok _) = _ at herror
    split at herror
    next hle =>
      cases herror
      refine ⟨.constantOutOfRange rfl hle, fun other hother => ?_⟩
      have hthree := hrank hother
      cases hother with
      | localOutOfRange hslot hle => cases hslot
      | uninitializedLocal hload hout => cases hload
      | _ => simp_all [Violation.rank]
    next => cases herror
  | ret =>
    change (if check.depth ≠ 0 then Except.error (Violation.residueAtReturn check.depth)
      else Except.ok _) = _ at herror
    split at herror
    next hne =>
      cases herror
      have hsum : depthAfter (before ++ [.ret]) = check.depth := (h.depth_after henough).symm
      have hoffends : Offends limits before .ret _ := .residueAtReturn rfl (by omega)
      rw [hsum] at hoffends
      refine ⟨hoffends, fun other hother => ?_⟩
      have hthree := hrank hother
      cases hother with
      | localOutOfRange hslot hle => cases hslot
      | uninitializedLocal hload hout => cases hload
      | constantOutOfRange hpush hle => cases hpush
      | _ => simp_all [Violation.rank]
    next => cases herror
  | _ => cases herror

/-- **One step.** An instruction that is refused is refused for what is wrong with
it, and for what is looked for first. -/
theorem Recalls.step_error (h : check.Recalls limits before) {violation : Violation}
    (hstep : check.step limits i = .error violation) : Reports limits before i violation := by
  have hdepth := h.depth
  unfold step at hstep
  split at hstep
  next hret =>
    cases hstep
    exact ⟨.codeAfterReturn (h.returned.mp hret), fun other _ => Nat.zero_le _⟩
  next hrun =>
    have hrunning : .ret ∉ before := fun hmem => hrun (h.returned.mpr hmem)
    split at hstep
    next hpops =>
      cases hstep
      have hoffends : Offends limits before i _ := .stackUnderflow (by omega)
      rw [← hdepth, Int.toNat_natCast] at hoffends
      refine ⟨hoffends, fun other hother => ?_⟩
      cases hother with
      | codeAfterReturn hret => exact absurd hret hrunning
      | _ => simp [Violation.rank]
    next hpops =>
      have henough : i.effect.pops ≤ check.depth := by omega
      have hafter := h.depth_after henough
      dsimp only at hstep
      split at hstep
      next hover =>
        cases hstep
        have hoffends : Offends limits before i _ := .stackOverflow (by omega)
        rw [← hafter, Int.toNat_natCast] at hoffends
        refine ⟨hoffends, fun other hother => ?_⟩
        cases hother with
        | codeAfterReturn hret => exact absurd hret hrunning
        | stackUnderflow hlt => omega
        | _ => simp [Violation.rank]
      next hbound =>
        exact h.operand_error (by simpa using hrun) henough (by omega) hstep

/-- A store without a value and without a slot: the missing value comes first. -/
example : (Check.initial ⟨0, 0, 0⟩).step ⟨0, 0, 0⟩ (.storeLocal 5) =
    .error (.stackUnderflow (.storeLocal 5) 1 0) :=
  rfl

/-! ## 4. Whole code -/

variable {placed : List Placed} {final : Check}

/-- A walk that gets to the end has found nothing wrong. -/
theorem Recalls.run_ok (h : check.Recalls limits before) (hclean : Clean limits before)
    (hrun : check.run limits placed = .ok final) :
    Clean limits (before ++ placed.map Prod.snd) ∧
      final.Recalls limits (before ++ placed.map Prod.snd) := by
  induction placed generalizing check before with
  | nil =>
    cases hrun
    simpa using ⟨hclean, h⟩
  | cons head rest ih =>
    obtain ⟨offset, i⟩ := head
    obtain ⟨hadmits, hrest⟩ := run_cons_eq_ok_iff.mp hrun
    simpa using ih (h.after hadmits) (hclean.append (h.not_offends hadmits)) hrest

/-- A walk that stops does so at the first instruction with which something is
wrong. -/
theorem Recalls.run_error (h : check.Recalls limits before) (hclean : Clean limits before)
    {failure : CheckFailure} (hrun : check.run limits placed = .error failure) :
    ∃ k i, placed[k]? = some (failure.offset, i) ∧
      FirstOffence limits (before ++ placed.map Prod.snd) (before.length + k)
        failure.violation := by
  induction placed generalizing check before with
  | nil => cases hrun
  | cons head rest ih =>
    obtain ⟨offset, i⟩ := head
    rw [run] at hrun
    cases hstep : check.step limits i with
    | error violation =>
      rw [hstep] at hrun
      cases hrun
      refine ⟨0, i, rfl, ⟨i, by simp, ?_⟩, by simpa using hclean⟩
      simpa using h.step_error hstep
    | ok check' =>
      rw [hstep] at hrun
      obtain ⟨hnothing, hafter⟩ := h.step_ok hstep
      obtain ⟨k, j, hj, hfirst⟩ := ih hafter (hclean.append hnothing) hrun
      refine ⟨k + 1, j, hj, ?_⟩
      have hk : before.length + (k + 1) = (before ++ [i]).length + k := by
        simp only [List.length_append, List.length_singleton]
        omega
      rw [hk]
      simpa using hfirst

/-- Why code does not pass: something is wrong with an instruction, and with none
before it; or nothing is wrong with any, but none returns. The bytes of the code
end at `size`. -/
inductive Faulty (limits : Limits) (size : Nat) (placed : List Placed) : CheckFailure → Prop
  | offence {k offset : Nat} {i : Instruction} {violation : Violation}
      (hplace : placed[k]? = some (offset, i))
      (hfirst : FirstOffence limits (placed.map Prod.snd) k violation) :
      Faulty limits size placed ⟨offset, violation⟩
  | missingReturn (hclean : Clean limits (placed.map Prod.snd))
      (hret : .ret ∉ placed.map Prod.snd) :
      Faulty limits size placed ⟨size, .missingReturn⟩

theorem FirstOffence.not_clean {k : Nat} {violation : Violation}
    (h : FirstOffence limits code k violation) : ¬ Clean limits code := by
  intro hclean
  obtain ⟨⟨i, hi, hreports⟩, -⟩ := h
  exact hclean k i hi violation hreports.offends

variable {size : Nat} {failure failure' : CheckFailure}

theorem Faulty.not_demands (h : Faulty limits size placed failure) :
    ¬ Demands limits (placed.map Prod.snd) := by
  intro hdemands
  obtain ⟨hclean, hret⟩ := demands_iff_clean.mp hdemands
  cases h with
  | offence hplace hfirst => exact hfirst.not_clean hclean
  | missingReturn hclean' hout => exact hout hret

/-- Code fails in one way at most. -/
theorem Faulty.unique (h : Faulty limits size placed failure)
    (h' : Faulty limits size placed failure') : failure = failure' := by
  cases h with
  | offence hplace hfirst =>
    cases h' with
    | offence hplace' hfirst' =>
      obtain ⟨rfl, rfl⟩ := hfirst.unique hfirst'
      rw [hplace] at hplace'
      cases hplace'
      rfl
    | missingReturn hclean' hret' => exact absurd hclean' hfirst.not_clean
  | missingReturn hclean hret =>
    cases h' with
    | offence hplace' hfirst' => exact absurd hclean hfirst'.not_clean
    | missingReturn hclean' hret' => rfl

end Check

/-! ## 5. Procedures -/

namespace Procedure

variable {p : Procedure} {constants : Nat} {code : List Placed} {failure : CheckFailure}

/-- What the check makes of a text that is code. -/
theorem check_of_decode (hdecode : Instruction.decodeAll p.text = .ok code) :
    (p.check constants = .ok code ∧ Check.Demands (p.limits constants) (code.map Prod.snd)) ∨
      ∃ failure, p.check constants = .error failure ∧
        Check.Faulty (p.limits constants) p.text.length code failure := by
  have hinitial := Check.Recalls.initial (p.limits constants)
  simp only [check, hdecode]
  cases hrun : (Check.initial (p.limits constants)).run (p.limits constants) code with
  | error failure =>
    obtain ⟨k, i, hplace, hfirst⟩ := hinitial.run_error Row.clean_nil hrun
    rw [List.length_nil, Nat.zero_add] at hfirst
    exact .inr ⟨failure, rfl, .offence hplace hfirst⟩
  | ok final =>
    obtain ⟨hclean, hrecalls⟩ := hinitial.run_ok Row.clean_nil hrun
    by_cases hend : final.returned = true
    · refine .inl ⟨if_pos hend, Check.demands_iff_clean.mpr ⟨hclean, hrecalls.returned.mp hend⟩⟩
    · exact .inr ⟨_, if_neg hend,
        .missingReturn hclean fun hmem => hend (hrecalls.returned.mpr hmem)⟩

theorem check_eq_ok_iff_demands : p.check constants = .ok code ↔
    Instruction.decodeAll p.text = .ok code ∧
      Check.Demands (p.limits constants) (code.map Prod.snd) := by
  constructor
  · intro h
    have hdecode := (check_eq_ok_iff.mp h).1
    rcases check_of_decode hdecode with ⟨-, hdemands⟩ | ⟨failure, herror, -⟩
    · exact ⟨hdecode, hdemands⟩
    · rw [h] at herror
      cases herror
  · rintro ⟨hdecode, hdemands⟩
    rcases check_of_decode hdecode with ⟨hok, -⟩ | ⟨failure, -, hfaulty⟩
    · exact hok
    · exact absurd hdemands hfaulty.not_demands

theorem check_eq_error_iff_faulty (hdecode : Instruction.decodeAll p.text = .ok code) :
    p.check constants = .error failure ↔
      Check.Faulty (p.limits constants) p.text.length code failure := by
  rcases check_of_decode hdecode with ⟨hok, hdemands⟩ | ⟨failure', herror, hfaulty⟩
  · rw [hok]
    exact ⟨fun h => (by cases h), fun h => absurd hdemands h.not_demands⟩
  · rw [herror]
    constructor
    · intro h
      cases h
      exact hfaulty
    · intro h
      rw [hfaulty.unique h]

/-- **The verdict.** A procedure passes if and only if its text is code that meets
the demands, and then the code is what comes out. If not, the failure is where
the text stops being code; or the offset of the first instruction with which
something is wrong, and what is looked for first of all that is; or, if nothing
is wrong but no instruction returns, the end of the text. -/
theorem check_verdict (p : Procedure) (constants : Nat) :
    (∀ code, p.check constants = .ok code ↔
      Instruction.decodeAll p.text = .ok code ∧
        Check.Demands (p.limits constants) (code.map Prod.snd)) ∧
    ∀ failure, p.check constants = .error failure ↔
      (∃ stuck, Instruction.decodeAll p.text = .error stuck ∧ failure = ⟨stuck, .undecodable⟩) ∨
      ∃ code, Instruction.decodeAll p.text = .ok code ∧
        Check.Faulty (p.limits constants) p.text.length code failure := by
  refine ⟨fun code => check_eq_ok_iff_demands, fun failure => ?_⟩
  cases hdecode : Instruction.decodeAll p.text with
  | error stuck =>
    have hcheck : p.check constants = .error ⟨stuck, .undecodable⟩ := by
      simp only [check, hdecode]
    rw [hcheck]
    constructor
    · intro h
      cases h
      exact .inl ⟨stuck, rfl, rfl⟩
    · rintro (⟨_, hstuck, rfl⟩ | ⟨code, hcode, -⟩)
      · cases hstuck
        rfl
      · cases hcode
  | ok code =>
    rw [check_eq_error_iff_faulty hdecode]
    constructor
    · intro h
      exact .inr ⟨code, rfl, h⟩
    · rintro (⟨stuck, hstuck, -⟩ | ⟨_, hcode, hfaulty⟩)
      · cases hstuck
      · cases hcode
        exact hfaulty

end Procedure

end Printlet
