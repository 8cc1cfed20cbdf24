/-
Printlet.Proofs.Loading — compiled units always load.

The compiler counts the depth of the stack and knows the declared names; the
check counts the depth again and knows the written slots. `Check.Follows` says
that the two agree: same depth, and the slot of every declared name is written.
Each instruction that the compiler emits is admitted and keeps them in
agreement (`Move.Lowers.admits`), so the code of a program passes
(`Program.Compiled.check_eq`). With the round trip of images this gives the
main result: a compiled unit can be installed wherever its name is free.
-/
import Printlet.Proofs.Emission
import Printlet.Proofs.EngineSteps
import Printlet.Proofs.ImageRoundTrip

namespace Printlet

/-! ## One instruction -/

/-- What the check knows agrees with what the compiler knows. -/
structure Check.Follows (limits : Limits) (em : Emission) (names : List String)
    (check : Check) : Prop where
  scope : em.scope.Lists names
  running : check.returned = false
  depth : check.depth = em.assembly.depth
  size : check.assigned.size = limits.maxLocals
  assigned : ∀ slot, slot < names.length → check.assigned[slot]? = some true

section Step

variable {limits : Limits} {em em' : Emission} {names constants : List String} {check : Check}
variable {move : Move Nat} {i : Instruction}

/-- The slots and constants that an emitted instruction names are there. -/
theorem Move.Lowers.operand (hlow : move.Lowers em i em')
    (hfits : em'.Fits limits.maxStack limits.maxLocals constants)
    (hc : limits.constants = constants.length) (hf : check.Follows limits em names) :
    check.Operand limits i := by
  cases hlow.shape with
  | int hs hc' | sum hs hc' | product hs hc' | stream hs hc' | print hs hc' => trivial
  | text hq hroom hs hc' =>
    have hindex : (UInt32.ofNat em.assembly.constants.size).toNat = em.assembly.constants.size :=
      UInt32.toNat_ofNat_of_lt' hroom
    have hlen := hfits.constants.length_le
    rw [hc', Array.toList_push, List.length_append] at hlen
    show (UInt32.ofNat em.assembly.constants.size).toNat < limits.constants
    rw [hindex, hc]
    exact hlen
  | @name node name slot hslot hs hc' =>
    have hplace := (hf.scope.slot name slot).mp hslot
    have hlists := hlow.lists hf.scope
    show (UInt16.ofNat slot).toNat < limits.maxLocals ∧
      check.assigned[(UInt16.ofNat slot).toNat]? = some true
    rw [hf.scope.toNat_slot hplace]
    exact ⟨hfits.place_lt hlists hplace,
      hf.assigned slot (List.getElem?_eq_some_iff.mp hplace).1⟩
  | @bind node name slot hd hc' =>
    obtain ⟨hlists, hplace⟩ := hf.scope.declare hd
    show (UInt16.ofNat slot).toNat < limits.maxLocals
    rw [hlists.toNat_slot hplace]
    exact hfits.place_lt hlists hplace

/-- A slot that is stored is the one of the declared name; the others of the
row were written before. -/
theorem Check.Follows.assigned_after (hlow : move.Lowers em i em')
    (hfits : em'.Fits limits.maxStack limits.maxLocals constants)
    (hf : check.Follows limits em names) (slot : Nat) (hslot : slot < (move.extend names).length) :
    (check.after i).assigned[slot]? = some true := by
  cases hlow.shape with
  | int hs hc | sum hs hc | product hs hc | stream hs hc | print hs hc | text hq hroom hs hc
  | name hslot' hs hc => exact hf.assigned slot hslot
  | @bind node name place hd hc =>
    obtain ⟨hlists, hplace⟩ := hf.scope.declare hd
    have hin : place < check.assigned.size := by
      rw [hf.size]
      exact hfits.place_lt hlists hplace
    show (check.assigned.setIfInBounds (UInt16.ofNat place).toNat true)[slot]? = some true
    rw [hlists.toNat_slot hplace]
    by_cases hsame : slot = place
    · subst hsame
      rw [Array.getElem?_setIfInBounds_self_of_lt hin]
    · rw [Array.getElem?_setIfInBounds_ne (Ne.symm hsame)]
      obtain ⟨other, hother⟩ : ∃ other, (Scope.extend names name)[slot]? = some other :=
        ⟨_, List.getElem?_eq_getElem hslot⟩
      obtain ⟨-, hold⟩ := hlists.getElem?_of_ne hplace hother hsame
      exact hf.assigned slot (List.getElem?_eq_some_iff.mp hold).1

/-- No move becomes a return. -/
theorem Move.Lowers.ne_ret (hlow : move.Lowers em i em') : i ≠ .ret := by
  cases hlow.shape <;> simp

/-- **One instruction.** The check admits what the compiler emits, and they
agree again after it. -/
theorem Move.Lowers.admits (hlow : move.Lowers em i em')
    (hfits : em'.Fits limits.maxStack limits.maxLocals constants)
    (hc : limits.constants = constants.length) (hf : check.Follows limits em names) :
    check.Admits limits i ∧ (check.after i).Follows limits em' (move.extend names) := by
  have hdepth : (check.after i).depth = em'.assembly.depth := by
    rw [hlow.grows.depth, ← hf.depth]
    rfl
  refine ⟨⟨hf.running, ?_, ?_, hlow.operand hfits hc hf⟩, hlow.lists hf.scope, ?_, hdepth, ?_,
    Check.Follows.assigned_after hlow hfits hf⟩
  · rw [hf.depth]
    exact hlow.grows.enough
  · rw [hdepth, hlow.grows.depth]
    exact hlow.depth_le hfits
  · simp [Check.after, hlow.ne_ret]
  · rw [← hf.size]
    cases i <;> simp [Check.after]

end Step

/-! ## Programs -/

/-- **Whole code.** Emitted code, closed by a return on an empty stack, is taken
in to its end. -/
theorem Emits.check_run {limits : Limits} {em em' : Emission} {moves : List (Move Nat)}
    {code : List Instruction} {names constants : List String} {check : Check}
    (hemits : Emits em moves code em')
    (hfits : em'.Fits limits.maxStack limits.maxLocals constants)
    (hc : limits.constants = constants.length) (hz : em'.assembly.depth = 0)
    (hf : check.Follows limits em names) (offset : Nat) :
    ∃ final, check.run limits (Instruction.placeFrom offset (code ++ [.ret])) = .ok final ∧
      final.returned = true := by
  induction hemits generalizing names check offset with
  | nil em =>
    have hdepth : check.depth = 0 := hf.depth.trans hz
    have hadmits : check.Admits limits .ret :=
      ⟨hf.running, Nat.zero_le _, by simp [Check.after, Instruction.effect, hdepth], hdepth⟩
    exact ⟨check.after .ret, Check.run_cons_eq_ok_iff.mpr ⟨hadmits, rfl⟩, rfl⟩
  | @cons em em1 em2 move moves i code hlow hrest ih =>
    -- the bounds of the finished code cover the state after this instruction
    have hfits1 := hrest.fits (hlow.lists hf.scope) hfits
    obtain ⟨hadmits, hf1⟩ := hlow.admits hfits1 hc hf
    obtain ⟨final, hrun, hend⟩ := ih hfits hz hf1 (offset + i.size)
    exact ⟨final, Check.run_cons_eq_ok_iff.mpr ⟨hadmits, hrun⟩, hend⟩

/-- Before the first instruction nothing is declared and nothing written. -/
theorem Check.Follows.initial (limits : Limits) :
    (Check.initial limits).Follows limits Emission.empty [] where
  scope := Scope.Lists.empty
  running := rfl
  depth := rfl
  size := Array.size_replicate
  assigned := by
    intro slot h
    cases h

namespace Program.Compiled

variable {p : Program Nat} {names : UnitNames} {u : CodeUnit} {em : Emission}
variable {code : List Instruction}

/-- The code of a compiled program passes the check, as it was emitted. -/
theorem check_eq (h : p.Compiled names u em code) :
    u.entry.check u.constants.length = .ok (Instruction.placeFrom 0 (code ++ [.ret])) := by
  refine Procedure.check_eq_ok_iff.mpr ⟨?_, ?_⟩
  · rw [h.text_eq]
    exact Instruction.decodeAll_encodeAll (code ++ [.ret])
  · exact h.emits.check_run h.fits rfl h.balanced (Check.Follows.initial _) 0

/-- The procedure of a compiled unit, as an engine holds it. -/
theorem load_eq (h : p.Compiled names u em code) :
    u.load = .ok ⟨names.entry, u.entry.maxStack.toNat, u.entry.maxLocals.toNat,
      Instruction.placeFrom 0 (code ++ [.ret]), u.constants⟩ := by
  have hentry : u.entry.name = names.entry := by rw [h.unit]
  rw [← hentry]
  exact CodeUnit.load_eq_ok_iff.mpr ⟨_, h.check_eq, rfl⟩

/-- A compiled unit is installed wherever its name is free. -/
theorem install_eq (h : p.Compiled names u em code) (hsized : u.Sized) {engine : Engine}
    (hfree : engine.unit? names.unit = none) :
    engine.install u.toImage = .ok (names.unit, engine.add names.unit
      ⟨names.entry, u.entry.maxStack.toNat, u.entry.maxLocals.toNat,
        Instruction.placeFrom 0 (code ++ [.ret]), u.constants⟩) := by
  have hversion : u.version = Version.current := by rw [h.unit]
  have hname : u.name = names.unit := by rw [h.unit]
  refine Engine.install_eq_ok_iff.mpr ⟨u, _, CodeUnit.ofImage_toImage hsized, hversion, ?_,
    h.load_eq, hname.symm, ?_⟩
  · rw [hname]
    exact hfree
  · rw [hname]

end Program.Compiled

/-- **Compiled units load.** The code of a compiled unit passes the check and
comes out as it was emitted, closed by one return, each instruction at the
number of bytes that those before it take. So the image of the unit, if its
lengths can be written at all, is installed under the unit's name in every
engine where that name is free, and its procedure is found there. -/
theorem Program.loads_of_compile {p : Program Nat} {names : UnitNames} {u : CodeUnit}
    {origins : Origins} (h : p.compile names = .ok (u, origins)) :
    ∃ em code, p.emit = .ok em ∧
      u.entry.check u.constants.length = .ok code ∧
      code.map Prod.snd = em.assembly.code.toList ++ [.ret] ∧
      (∀ k offset i, code[k]? = some (offset, i) →
        offset = (Instruction.encodeAll ((em.assembly.code.toList ++ [Instruction.ret]).take k)).length) ∧
      (u.Sized → ∀ engine : Engine, engine.isInstalled names.unit = false →
        ∃ engine', engine.install u.toImage = .ok (names.unit, engine') ∧
          engine'.resolve names.unit names.entry = .ok ⟨names.unit, names.entry⟩) := by
  obtain ⟨em, code, hcompiled⟩ := Program.compiled_of_compile h
  have hcode : em.assembly.code.toList = code := hcompiled.emits.code_eq
  refine ⟨em, _, hcompiled.emit, hcompiled.check_eq, ?_, ?_, ?_⟩
  · rw [hcode, Instruction.map_snd_placeFrom]
  · intro k offset i hk
    rw [Instruction.getElem?_placeFrom, Option.map_eq_some_iff] at hk
    obtain ⟨j, -, heq⟩ := hk
    rw [hcode, Instruction.length_encodeAll, ← (Prod.mk.inj heq).1, Nat.zero_add]
  · intro hsized engine hfree
    have hnone : engine.unit? names.unit = none := by
      simpa [Engine.isInstalled] using hfree
    exact ⟨_, hcompiled.install_eq hsized hnone,
      Engine.resolve_eq_ok_iff.mpr ⟨_, Engine.unit?_add_self .., rfl, rfl⟩⟩

/-- Declares a name twice, prints a text and then the name's value:
`let x = 1 let x = x + 2 print "a" print x`. -/
def Program.counting : Program Nat :=
  ⟨0, [
    .bind 1 "x" (.mk 2 [.mk 3 [.int 4 1] []] []),
    .bind 5 "x" (.mk 6 [.mk 7 [.name 8 "x"] [], .mk 9 [.int 10 2] []] [.add]),
    .print 11 (.mk 12 [.mk 13 [.text 14 "\"a\""] []] []),
    .print 15 (.mk 16 [.mk 17 [.name 18 "x"] []] [])]⟩

/-- An engine that holds another unit takes the image of a compiled one. -/
theorem Program.loads_of_compile_counting :
    ∃ u origins, counting.compile {} = .ok (u, origins) ∧ u.Sized ∧
      (Engine.mk [("Other", ⟨"main", 0, 0, [(0, .ret)], []⟩)] {}).isInstalled "Program" = false ∧
      ∃ engine',
        (Engine.mk [("Other", ⟨"main", 0, 0, [(0, .ret)], []⟩)] {}).install u.toImage =
          .ok ("Program", engine') ∧
        engine'.resolve "Program" "main" = .ok ⟨"Program", "main"⟩ := by
  obtain ⟨u, origins, hcompile, hsized⟩ :
      ∃ u origins, counting.compile {} = .ok (u, origins) ∧ u.Sized :=
    ⟨_, _, rfl, by decide +kernel, by decide +kernel, by decide +kernel, by decide +kernel,
      by decide +kernel⟩
  obtain ⟨em, code, -, -, -, -, hloads⟩ := Program.loads_of_compile hcompile
  exact ⟨u, origins, hcompile, hsized, rfl, hloads hsized _ rfl⟩

end Printlet
