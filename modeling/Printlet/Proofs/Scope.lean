/-
Printlet.Proofs.Scope — a scope is a row of names.

`Scope.Lists scope names` says that `names` are the names of the scope in the
order in which they were declared, so that the slot of a name is its place in
the row. The place is unique, so two names never share a slot and no slot is
left out. `Scope.Lists.declare` is all that later proofs need to know about
declaring a name: it extends the row by the name unless the row holds it.
-/
import Printlet.Compiler.Scope

namespace Printlet

namespace Scope

/-- The row of names after one more declaration. -/
def extend (names : List String) (name : String) : List String :=
  if name ∈ names then names else names ++ [name]

theorem length_le_extend (names : List String) (name : String) :
    names.length ≤ (extend names name).length := by
  unfold extend
  split
  · exact Nat.le_refl _
  · simp

/-- A place of the extended row is the declared name's or an old one. -/
theorem getElem?_extend {names : List String} {name other : String} {slot : Nat}
    (h : (extend names name)[slot]? = some other) : other = name ∨ names[slot]? = some other := by
  unfold extend at h
  split at h
  · exact .inr h
  · rw [List.getElem?_append] at h
    split at h
    · exact .inr h
    · rw [List.getElem?_singleton] at h
      split at h
      · exact .inl (Option.some.inj h).symm
      · cases h

/-- A scope holds exactly the names of a row, each in the slot of its place. -/
structure Lists (scope : Scope) (names : List String) : Prop where
  size : scope.size = names.length
  slot : ∀ name slot, scope.slot? name = some slot ↔ names[slot]? = some name
  room : names.length ≤ capacity

namespace Lists

variable {scope scope' : Scope} {names : List String} {name : String} {slot : Nat}

theorem empty : Scope.empty.Lists [] where
  size := Std.TreeMap.size_emptyc
  slot := by
    intro name slot
    rw [slot?, Scope.empty, Std.TreeMap.getElem?_emptyc]
    simp
  room := Nat.zero_le _

theorem mem_iff (h : scope.Lists names) : name ∈ names ↔ ∃ slot, scope.slot? name = some slot := by
  rw [List.mem_iff_getElem?]
  exact exists_congr fun slot => (h.slot name slot).symm

/-- A place in the row fits the slot of an instruction. -/
theorem toNat_slot (h : scope.Lists names) (hs : names[slot]? = some name) :
    (UInt16.ofNat slot).toNat = slot := by
  have hlt : slot < names.length := (List.getElem?_eq_some_iff.mp hs).1
  have hroom : names.length ≤ 65535 := h.room
  exact UInt16.toNat_ofNat_of_lt' (show slot < 65536 by omega)

/-- Two places in the row hold two names. -/
theorem place_unique (h : scope.Lists names) {i j : Nat} (hi : names[i]? = some name)
    (hj : names[j]? = some name) : i = j := by
  have hi' := (h.slot name i).mpr hi
  rw [(h.slot name j).mpr hj] at hi'
  exact (Option.some.inj hi').symm

/-- A new name gets the next slot; all others keep theirs. -/
theorem insert (h : scope.Lists names) (hn : scope.slot? name = none)
    (hroom : scope.size < capacity) :
    (Scope.mk (scope.slots.insert name scope.size)).Lists (names ++ [name]) where
  size := by
    have hfresh : scope.slots.contains name = false := by
      rw [Std.TreeMap.contains_eq_isSome_getElem?]
      exact congrArg Option.isSome hn
    rw [Scope.size, Std.TreeMap.size_insert, hfresh, if_neg (by simp), List.length_append]
    exact congrArg (· + 1) h.size
  slot := by
    intro other slot
    simp only [slot?, Std.TreeMap.getElem?_insert, Std.LawfulEqCmp.compare_eq_iff_eq]
    by_cases hother : name = other
    · subst hother
      have hout : ∀ i : Nat, names[i]? ≠ some name := by
        intro i hi
        rw [(h.slot name i).mpr hi] at hn
        cases hn
      rw [if_pos rfl, h.size, List.getElem?_append]
      by_cases hlt : slot < names.length
      · rw [if_pos hlt]
        constructor
        · intro heq; cases heq; omega
        · intro heq; exact absurd heq (hout slot)
      · rw [if_neg hlt, List.getElem?_singleton]
        simp
        omega
    · rw [if_neg hother, List.getElem?_append]
      have hold := h.slot other slot
      by_cases hlt : slot < names.length
      · rw [if_pos hlt]; exact hold
      · rw [if_neg hlt, List.getElem?_singleton]
        have hnone : names[slot]? = none := List.getElem?_eq_none (by omega)
        rw [hnone] at hold
        constructor
        · intro heq; cases hold.mp heq
        · intro heq
          by_cases hz : slot - names.length = 0
          · rw [if_pos hz] at heq; exact absurd (Option.some.inj heq) hother
          · rw [if_neg hz] at heq; cases heq
  room := by
    rw [List.length_append, ← h.size]
    exact hroom

/-- A place other than that of a declared name held its name before. -/
theorem getElem?_of_ne (h : scope.Lists (extend names name)) {other : String} {place : Nat}
    (hplace : (extend names name)[place]? = some name)
    (hslot : (extend names name)[slot]? = some other) (hne : slot ≠ place) :
    other ≠ name ∧ names[slot]? = some other := by
  have hother : other ≠ name := by
    intro heq
    exact hne (h.place_unique (heq ▸ hslot) hplace)
  exact ⟨hother, (getElem?_extend hslot).resolve_left hother⟩

/-- What declaring a name does to the row, and that the slot it returns is the
name's place. -/
theorem declare (h : scope.Lists names) (hd : scope.declare name = some (slot, scope')) :
    scope'.Lists (extend names name) ∧ (extend names name)[slot]? = some name := by
  unfold Scope.declare at hd
  cases hs : scope.slot? name with
  | some known =>
    rw [hs] at hd
    cases hd
    rw [extend, if_pos (h.mem_iff.mpr ⟨slot, hs⟩)]
    exact ⟨h, (h.slot name slot).mp hs⟩
  | none =>
    have hout : name ∉ names := by
      rw [h.mem_iff, hs]
      simp
    rw [hs] at hd
    by_cases hroom : scope.size < capacity
    · simp only [if_pos hroom] at hd
      cases hd
      rw [extend, if_neg hout]
      refine ⟨h.insert hs hroom, ?_⟩
      rw [h.size, List.getElem?_append_right (Nat.le_refl _)]
      simp
    · simp only [if_neg hroom] at hd
      cases hd

end Lists

end Scope

end Printlet
