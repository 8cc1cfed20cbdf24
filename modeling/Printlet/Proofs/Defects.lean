/-
Printlet.Proofs.Defects — which programs compile, and what is found first.

* `Emission.Follows` is all that emitting a part of the tree can come to: it
  goes through if none of its places is flawed, and then leaves the stack as
  deep as it should be; or it stops at the first flaw; or the constants run out.
  One lemma for each class of tree says that it does so (`Expression.emit_follows`
  and its kin), by induction on the tree.
* `Emits.isGreatest_depth`: the depth that the assembly notes is the greatest
  depth of the code.
* `Program.compile_eq_error_iff` puts the two together.
-/
import Mathlib.Order.Bounds.Defs
import Printlet.Proofs.Demands
import Printlet.Proofs.Emission
import Printlet.Proofs.Sites

namespace Printlet

/-! ## Emitting -/

/-- A name is refused just if it is new and there is no room for it. -/
theorem Scope.Lists.declare_eq_none_iff {scope : Scope} {names : List String} {name : String}
    (h : scope.Lists names) :
    scope.declare name = none ↔ name ∉ names ∧ ¬ names.length < Scope.capacity := by
  unfold Scope.declare
  cases hslot : scope.slot? name with
  | some slot =>
    have hin : name ∈ names := h.mem_iff.mpr ⟨slot, hslot⟩
    simp [hin]
  | none =>
    have hout : name ∉ names := by
      rw [h.mem_iff, hslot]
      simp
    simp [hout, h.size]

namespace Emission

/-- What is known of the compiler between two parts of a tree: the names that are
declared, how deep the stack is, and that this depth has been noted. -/
structure At (em : Emission) (names : List String) (depth : Nat) : Prop where
  scope : em.scope.Lists names
  depth : em.assembly.depth = depth
  noted : em.assembly.depth ≤ em.assembly.maxDepth

/-- What emitting a part of a tree can come to, given the places of that part. It
goes through, and then the stack is `depth` deep and was `peak` deep on the way;
or it stops at the first flaw; or there are more texts than constants can be
numbered. -/
inductive Follows (em : Emission) (names : List String) (sites : List Site) (depth peak : Nat) :
    Except CompileError Emission → Prop
  | goes {em' : Emission} (hflaw : Site.firstFlaw? names sites = none)
      (hat : em'.At (sites.foldl Site.extend names) depth)
      (hpeak : em'.assembly.maxDepth = max em.assembly.maxDepth peak)
      (hconstants : em'.assembly.constants.size =
        em.assembly.constants.size + sites.countP Site.isText) :
      Follows em names sites depth peak (.ok em')
  | stops {e : CompileError} (hflaw : Site.firstFlaw? names sites = some e) :
      Follows em names sites depth peak (.error e)
  | full {e : CompileError}
      (h : 4294967296 < em.assembly.constants.size + sites.countP Site.isText) :
      Follows em names sites depth peak (.error e)

variable {em em' : Emission} {names : List String} {sites sites' : List Site}
variable {depth depth' peak peak' : Nat} {node : Nat}

/-- One part after the other. -/
theorem Follows.bind {first : Except CompileError Emission}
    {next : Emission → Except CompileError Emission} (h : em.Follows names sites depth peak first)
    (hnext : ∀ em' : Emission, em'.At (sites.foldl Site.extend names) depth →
      em'.Follows (sites.foldl Site.extend names) sites' depth' peak' (next em')) :
    em.Follows names (sites ++ sites') depth' (max peak peak') (first >>= next) := by
  have hcount : (sites ++ sites').countP Site.isText =
      sites.countP Site.isText + sites'.countP Site.isText := List.countP_append
  cases h with
  | stops hflaw => exact .stops (by rw [Site.firstFlaw?_append, hflaw]; rfl)
  | full h => exact .full (by omega)
  | @goes em' hflaw hat hpeak hconstants =>
    have happend := Site.firstFlaw?_append names sites sites'
    rw [hflaw, Option.none_or] at happend
    show em.Follows names (sites ++ sites') depth' (max peak peak') (next em')
    have hrest := hnext em' hat
    generalize next em' = result at hrest
    cases hrest with
    | stops hflaw' => exact .stops (happend.trans hflaw')
    | full h => exact .full (by omega)
    | @goes em'' hflaw' hat' hpeak' hconstants' =>
      refine .goes (happend.trans hflaw') ?_ (by omega) (by omega)
      rw [List.foldl_append]
      exact hat'

/-- A part without places of its own, followed by another. -/
theorem Follows.bind_nil {first : Except CompileError Emission}
    {next : Emission → Except CompileError Emission} (h : em.Follows names [] depth peak first)
    (hnext : ∀ em' : Emission, em'.At names depth → em'.Follows names sites depth' peak' (next em')) :
    em.Follows names sites depth' (max peak peak') (first >>= next) :=
  h.bind hnext

/-- A place at which nothing is wrong and nothing is declared makes no difference. -/
theorem Follows.cons {site : Site} {result : Except CompileError Emission}
    (hfine : site.flaw? names = none) (hextend : site.extend names = names)
    (htext : site.isText = false) (h : em.Follows names sites depth peak result) :
    em.Follows names (site :: sites) depth peak result := by
  have hfirst : Site.firstFlaw? names (site :: sites) = Site.firstFlaw? names sites := by
    simp [Site.firstFlaw?, hfine, hextend]
  have hcount : (site :: sites).countP Site.isText = sites.countP Site.isText :=
    List.countP_cons_of_neg (by simp [htext])
  cases h with
  | goes hflaw hat hpeak hconstants =>
    refine .goes (hfirst.trans hflaw) ?_ hpeak (by rw [hcount]; exact hconstants)
    rw [List.foldl_cons, hextend]
    exact hat
  | stops hflaw => exact .stops (hfirst.trans hflaw)
  | full h => exact .full (by rw [hcount]; exact h)

/-- Nothing is emitted. -/
theorem At.follows_nil (hat : em.At names depth) (hpeak : peak ≤ depth) :
    em.Follows names [] depth peak (.ok em) := by
  have hdepth := hat.depth
  have hnoted := hat.noted
  exact .goes rfl hat (by omega) rfl

/-! ### Single instructions -/

/-- An instruction that finds its operands is emitted. -/
theorem exists_emit {i : Instruction} (node : Nat) (h : i.effect.pops ≤ em.assembly.depth) :
    ∃ em', em.emit i node = .ok em' := by
  obtain ⟨scope, code, nodes, constants, depth, maxDepth⟩ := em
  simp only [emit, assemble, Assembly.emit, if_neg (Nat.not_lt.mpr h)]
  exact ⟨_, rfl⟩

/-- A constant that can be numbered is emitted. -/
theorem exists_emitText (text : String) (node : Nat)
    (h : em.assembly.constants.size < 4294967296) :
    ∃ em', em.emitText text node = .ok em' := by
  obtain ⟨scope, code, nodes, constants, depth, maxDepth⟩ := em
  have hroom : constants.size < 4294967296 := h
  simp only [emitText, assemble, Assembly.emitText, Assembly.addConstant, bind, EStateM.bind,
    if_pos hroom]
  exact ⟨_, rfl⟩

theorem emitText_of_full (text : String) (node : Nat)
    (h : ¬ em.assembly.constants.size < 4294967296) :
    em.emitText text node = .error (.defect node (.assembly .constantsFull)) := by
  obtain ⟨scope, code, nodes, constants, depth, maxDepth⟩ := em
  have hroom : ¬ constants.size < 4294967296 := h
  simp only [emitText, assemble, Assembly.emitText, Assembly.addConstant, bind, EStateM.bind,
    if_neg hroom]

/-- An assembly that has grown by one instruction. -/
theorem Follows.of_grows {i : Instruction} (hat : em.At names depth)
    (hgrows : em.assembly.Grows em'.assembly i node)
    (hdepth : depth - i.effect.pops + i.effect.pushes = depth')
    (hflaw : Site.firstFlaw? names sites = none)
    (hscope : em'.scope.Lists (sites.foldl Site.extend names))
    (hconstants : em'.assembly.constants.size =
      em.assembly.constants.size + sites.countP Site.isText) :
    em.Follows names sites depth' depth' (.ok em') := by
  have hafter := hgrows.depth
  have hmax := hgrows.maxDepth
  rw [hat.depth, hdepth] at hafter
  rw [hafter] at hmax
  exact .goes hflaw ⟨hscope, hafter, by omega⟩ hmax hconstants

/-- An instruction that names neither slot nor constant. -/
theorem follows_emit {i : Instruction} (node : Nat) (hat : em.At names depth)
    (henough : i.effect.pops ≤ depth) (hdepth : depth - i.effect.pops + i.effect.pushes = depth') :
    em.Follows names [] depth' depth' (em.emit i node) := by
  rw [← hat.depth] at henough
  obtain ⟨em', hemit⟩ := exists_emit node henough
  obtain ⟨hgrows, hs, hc⟩ := emit_ok hemit
  rw [hemit]
  refine .of_grows hat hgrows hdepth rfl ?_ (by simp [hc])
  rw [hs]
  exact hat.scope

/-- A text literal. -/
theorem follows_text {literal text : String} (node : Nat) (hat : em.At names depth)
    (hq : unquote? literal = some text) :
    em.Follows names [.text node literal] (depth + 1) (depth + 1) (em.emitText text node) := by
  have hcount : [Site.text node literal].countP Site.isText = 1 := rfl
  by_cases hroom : em.assembly.constants.size < 4294967296
  · obtain ⟨em', hemit⟩ := exists_emitText text node hroom
    obtain ⟨hact, hs⟩ := assemble_ok hemit
    obtain ⟨hgrows, hc, -⟩ := Assembly.grows_of_emitText hact
    rw [hemit]
    refine .of_grows hat hgrows rfl (by simp [Site.firstFlaw?, Site.flaw?, hq]) ?_
      (by simp [hc, hcount])
    rw [hs]
    exact hat.scope
  · rw [emitText_of_full text node hroom]
    exact .full (by omega)

/-- A name that is looked up. -/
theorem follows_load (name : String) (node : Nat) (hat : em.At names depth) :
    em.Follows names [.name node name] (depth + 1) (depth + 1) (em.load name node) := by
  unfold load
  cases hslot : em.scope.slot? name with
  | none =>
    have hout : name ∉ names := by
      rw [hat.scope.mem_iff, hslot]
      simp
    exact .stops (by simp [Site.firstFlaw?, Site.flaw?, hout])
  | some slot =>
    have hin : name ∈ names := hat.scope.mem_iff.mpr ⟨slot, hslot⟩
    have hemit : em.Follows names [] (depth + 1) (depth + 1)
        (em.emit (.loadLocal (UInt16.ofNat slot)) node) := follows_emit node hat (Nat.zero_le _) rfl
    exact hemit.cons (by simp [Site.flaw?, hin]) rfl rfl

/-- A name that is bound to the value on the stack. -/
theorem follows_store (name : String) (node : Nat) (hat : em.At names (depth + 1)) :
    em.Follows names [.bind node name] depth depth (em.store name node) := by
  obtain ⟨scope, assembly⟩ := em
  have hlists : scope.Lists names := hat.scope
  have hdepth : assembly.depth = depth + 1 := hat.depth
  simp only [store]
  cases hdeclare : scope.declare name with
  | none =>
    obtain ⟨hout, hfull⟩ := hlists.declare_eq_none_iff.mp hdeclare
    exact .stops (by simp [Site.firstFlaw?, Site.flaw?, hout, hfull])
  | some declared =>
    obtain ⟨slot, scope'⟩ := declared
    have hfine : name ∈ names ∨ names.length < Scope.capacity := by
      by_contra hnone
      rw [hlists.declare_eq_none_iff.mpr (not_or.mp hnone)] at hdeclare
      cases hdeclare
    have hemit : ∃ em', emit ⟨scope', assembly⟩ (.storeLocal (UInt16.ofNat slot)) node = .ok em' :=
      exists_emit node (by show 1 ≤ assembly.depth; omega)
    obtain ⟨em', hemit⟩ := hemit
    obtain ⟨hgrows, hs, hc⟩ := emit_ok hemit
    simp only [hemit]
    refine .of_grows hat hgrows rfl (by simp [Site.firstFlaw?, Site.flaw?, hfine]) ?_
      (by simp [hc, Site.isText])
    rw [hs]
    exact (hlists.declare hdeclare).1

/-! ### Operands and operators -/

/-- A further operand, its operator, and the operands after it. -/
theorem Follows.joined {first : Except CompileError Emission}
    {next : Emission → Except CompileError Emission} {need rest : Nat} (op : Arith) (node : Nat)
    (h : em.Follows names sites (depth + 2) (depth + 1 + need) first)
    (hnext : ∀ em' : Emission, em'.At (sites.foldl Site.extend names) (depth + 1) →
      em'.Follows (sites.foldl Site.extend names) sites' (depth + 1) (depth + rest) (next em')) :
    em.Follows names (sites ++ sites') (depth + 1) (depth + max (1 + need) rest)
      (first >>= fun em => em.emit (.arith op) node >>= next) := by
  have hall := h.bind fun em' hat' =>
    (follows_emit (i := .arith op) node hat' (by show 2 ≤ depth + 2; omega) rfl).bind_nil hnext
  have hpeak : max (depth + 1 + need) (max (depth + 1) (depth + rest)) =
      depth + max (1 + need) rest := by omega
  rw [← hpeak]
  exact hall

/-- A chain of the right shape: its first operand, then the others. -/
theorem Follows.chain {first : Except CompileError Emission}
    {next : Emission → Except CompileError Emission} {need rest operands operators : Nat}
    (node : Nat) (kind : Chain) (hshape : operands = operators)
    (h : em.Follows names sites (depth + 1) (depth + need) first)
    (hnext : ∀ em' : Emission, em'.At (sites.foldl Site.extend names) (depth + 1) →
      em'.Follows (sites.foldl Site.extend names) sites' (depth + 1) (depth + rest) (next em')) :
    em.Follows names (.chain node kind (operands + 1) operators :: (sites ++ sites')) (depth + 1)
      (depth + max need rest) (first >>= next) := by
  rw [← Nat.add_max_add_left]
  exact (h.bind hnext).cons (by simp [Site.flaw?, hshape]) rfl rfl

/-- A chain of the wrong shape is refused before anything in it. -/
theorem follows_malformed {node operands operators : Nat} {kind : Chain}
    (hshape : operands ≠ operators + 1) :
    em.Follows names (.chain node kind operands operators :: sites) depth peak
      (.error (.defect node (.malformed kind operands operators))) :=
  .stops (by simp [Site.firstFlaw?, Site.flaw?, hshape])

end Emission

/-! ### Trees -/

section Trees

open Emission

mutual

theorem Expression.emit_follows {em : Emission} {names : List String} {depth : Nat}
    (hat : em.At names depth) :
    ∀ e : Expression Nat, em.Follows names e.sites (depth + 1) (depth + e.need) (e.emit em)
  | .mk node [] ops => by
      rw [Expression.emit, Expression.sites]
      exact follows_malformed (by simp)
  | .mk node (t :: ts) ops => by
      rw [Expression.emit, Expression.sites, Expression.need, Term.sitesOfAll]
      by_cases h : ts.length = ops.length
      · rw [if_pos h]
        exact (Term.emit_follows hat t).chain node .expression h
          fun em' hat' => Term.emitRest_follows node hat' ops ts h
      · rw [if_neg h]
        exact follows_malformed (by simpa using h)

theorem Term.emitRest_follows {em : Emission} {names : List String} {depth : Nat} (node : Nat)
    (hat : em.At names (depth + 1)) :
    ∀ (ops : List SumOp) (ts : List (Term Nat)), ts.length = ops.length →
      em.Follows names (Term.sitesOfAll ts) (depth + 1) (depth + Term.needRest ts)
        (Term.emitRest node ops ts em)
  | [], [], _ => by
      rw [Term.emitRest, Term.sitesOfAll, Term.needRest]
      · exact hat.follows_nil (Nat.le_succ _)
      · intros; contradiction
  | op :: ops, t :: ts, h => by
      rw [Term.emitRest, Term.sitesOfAll, Term.needRest]
      exact (Term.emit_follows hat t).joined op.arith node
        fun em' hat' => Term.emitRest_follows node hat' ops ts (Nat.succ.inj h)

theorem Term.emit_follows {em : Emission} {names : List String} {depth : Nat}
    (hat : em.At names depth) :
    ∀ t : Term Nat, em.Follows names t.sites (depth + 1) (depth + t.need) (t.emit em)
  | .mk node [] ops => by
      rw [Term.emit, Term.sites]
      exact follows_malformed (by simp)
  | .mk node (f :: fs) ops => by
      rw [Term.emit, Term.sites, Term.need, Factor.sitesOfAll]
      by_cases h : fs.length = ops.length
      · rw [if_pos h]
        exact (Factor.emit_follows hat f).chain node .term h
          fun em' hat' => Factor.emitRest_follows node hat' ops fs h
      · rw [if_neg h]
        exact follows_malformed (by simpa using h)

theorem Factor.emitRest_follows {em : Emission} {names : List String} {depth : Nat} (node : Nat)
    (hat : em.At names (depth + 1)) :
    ∀ (ops : List ProductOp) (fs : List (Factor Nat)), fs.length = ops.length →
      em.Follows names (Factor.sitesOfAll fs) (depth + 1) (depth + Factor.needRest fs)
        (Factor.emitRest node ops fs em)
  | [], [], _ => by
      rw [Factor.emitRest, Factor.sitesOfAll, Factor.needRest]
      · exact hat.follows_nil (Nat.le_succ _)
      · intros; contradiction
  | op :: ops, f :: fs, h => by
      rw [Factor.emitRest, Factor.sitesOfAll, Factor.needRest]
      exact (Factor.emit_follows hat f).joined op.arith node
        fun em' hat' => Factor.emitRest_follows node hat' ops fs (Nat.succ.inj h)

theorem Factor.emit_follows {em : Emission} {names : List String} {depth : Nat}
    (hat : em.At names depth) :
    ∀ f : Factor Nat, em.Follows names f.sites (depth + 1) (depth + f.need) (f.emit em)
  | .group _ inner => by
      rw [Factor.emit, Factor.sites, Factor.need]
      exact Expression.emit_follows hat inner
  | .int node value => by
      rw [Factor.emit, Factor.sites, Factor.need]
      exact follows_emit node hat (Nat.zero_le _) rfl
  | .text node literal => by
      rw [Factor.emit, Factor.sites, Factor.need]
      cases hq : unquote? literal with
      | none => exact .stops (by simp [Site.firstFlaw?, Site.flaw?, hq])
      | some text => exact follows_text node hat hq
  | .name node name => by
      rw [Factor.emit, Factor.sites, Factor.need]
      exact follows_load name node hat

end

theorem Statement.emit_follows {em : Emission} {names : List String} (hat : em.At names 0)
    (s : Statement Nat) : em.Follows names s.sites 0 s.need (s.emit em) := by
  cases s with
  | print node value =>
    have hvalue := fun (em' : Emission) (hat' : em'.At names 1) =>
      (Expression.emit_follows hat' value).bind fun em'' hat'' =>
        follows_emit (i := .println) node hat'' (Nat.le_refl 2) rfl
    have hall := (follows_emit (i := .getStdout) node hat (Nat.zero_le _) rfl).bind_nil hvalue
    have hpeak : max 1 (max (1 + value.need) 0) = 1 + value.need := by omega
    rw [Statement.emit, Statement.sites, Statement.need, ← hpeak, ← List.append_nil value.sites]
    exact hall
  | bind node name value =>
    have hall := (Expression.emit_follows hat value).bind fun em' hat' =>
      follows_store name node hat'
    rw [Nat.zero_add, Nat.max_zero] at hall
    exact hall

theorem Statement.emitAll_follows {em : Emission} {names : List String} (hat : em.At names 0)
    (ss : List (Statement Nat)) :
    em.Follows names (ss.flatMap Statement.sites) 0 (Statement.needAll ss)
      (ss.foldlM Statement.emit em) := by
  induction ss generalizing em names with
  | nil => exact hat.follows_nil (Nat.le_refl _)
  | cons s ss ih =>
    rw [List.flatMap_cons, List.foldlM_cons, Statement.needAll]
    exact (Statement.emit_follows hat s).bind fun em' hat' => ih hat'

theorem Program.emit_follows (p : Program Nat) :
    Emission.empty.Follows [] p.sites 0 p.need p.emit :=
  Statement.emitAll_follows ⟨.empty, rfl, Nat.le_refl _⟩ p.statements

end Trees

/-! ## The depth of the code -/

section Depth

open Instruction (depthAfter)

theorem Assembly.Grows.depth_eq {a a' : Assembly} {i : Instruction} {node : Nat}
    (h : a.Grows a' i node) : (a'.depth : Int) = a.depth + i.net := by
  have henough := h.enough
  have hdepth := h.depth
  unfold Instruction.net
  omega

variable {em em' : Emission} {moves : List (Move Nat)} {code : List Instruction}

/-- No depth on the way is above the greatest depth that the assembly noted. -/
theorem Emits.depth_le (h : Emits em moves code em')
    (hnoted : em.assembly.depth ≤ em.assembly.maxDepth) (k : Nat) :
    em.assembly.depth + depthAfter (code.take k) ≤ em'.assembly.maxDepth ∧
      em.assembly.maxDepth ≤ em'.assembly.maxDepth := by
  induction h generalizing k with
  | nil em => simpa using hnoted
  | cons first rest ih =>
    have hdepth := first.grows.depth_eq
    have hmax := first.grows.maxDepth
    cases k with
    | zero =>
      have hrest := (ih (by omega) 0).2
      simp only [List.take_zero, Instruction.depthAfter_nil]
      omega
    | succ k =>
      have hrest := ih (by omega) k
      rw [List.take_succ_cons, Instruction.depthAfter_cons]
      omega

/-- The greatest depth that the assembly noted is an old one or is reached on the
way. -/
theorem Emits.depth_reached (h : Emits em moves code em') :
    em'.assembly.maxDepth = em.assembly.maxDepth ∨
      ∃ k, em.assembly.depth + depthAfter (code.take k) = em'.assembly.maxDepth := by
  induction h with
  | nil em => exact .inl rfl
  | cons first rest ih =>
    have hdepth := first.grows.depth_eq
    have hmax := first.grows.maxDepth
    rcases ih with hold | ⟨k, hk⟩
    · rcases Nat.le_total _ _ with hle | hle
      · exact .inl (hold.trans (hmax.trans (Nat.max_eq_left hle)))
      · refine .inr ⟨1, ?_⟩
        rw [hold, hmax, Nat.max_eq_right hle, hdepth]
        simp
    · refine .inr ⟨k + 1, ?_⟩
      rw [List.take_succ_cons, Instruction.depthAfter_cons]
      omega

/-- **The assembly notes the greatest depth of the code.** -/
theorem Emits.isGreatest_depth (h : Emits Emission.empty moves code em) :
    IsGreatest (Set.range fun k => depthAfter (code.take k)) em.assembly.maxDepth := by
  constructor
  · rcases h.depth_reached with hzero | ⟨k, hk⟩
    · exact ⟨0, by rw [hzero]; rfl⟩
    · exact ⟨k, (Int.zero_add _).symm.trans hk⟩
  · rintro _ ⟨k, rfl⟩
    exact (Int.zero_add _).symm.trans_le (h.depth_le (Nat.le_refl _) k).1

end Depth

/-! ## Compiling -/

/-- How balanced code is finished: it is refused if it goes too deep. -/
theorem Assembly.finish_of_balanced {a : Assembly} {locals : Nat} (names : UnitNames) (node : Nat)
    (hdepth : a.depth = 0) (hlocals : locals ≤ 65535) :
    (65535 < a.maxDepth → a.finish names locals node = .error (.stackTooDeep a.maxDepth)) ∧
      (a.maxDepth ≤ 65535 → ∃ result, a.finish names locals node = .ok result) := by
  obtain ⟨code, nodes, constants, depth, maxDepth⟩ := a
  obtain rfl : depth = 0 := hdepth
  constructor
  · intro hdeep
    have hdeep' : 65535 < maxDepth := hdeep
    simp [finish, emit, pack, headerMax, Instruction.effect, hdeep']
  · intro hfits
    have hfits' : ¬ 65535 < maxDepth := Nat.not_lt.mpr hfits
    have hroom : ¬ 65535 < locals := Nat.not_lt.mpr hlocals
    simp [finish, emit, pack, headerMax, Instruction.effect, hfits', hroom]

namespace Program

variable {p : Program Nat}

/-- What is wrong with the first flawed place of a program. -/
def FirstFlaw (p : Program Nat) (e : CompileError) : Prop :=
  Row.First Site.Flawed p.sites e

/-- No place of a program is flawed. -/
def Flawless (p : Program Nat) : Prop :=
  Row.Clean Site.Flawed p.sites

/-- How a program without flaws is compiled. -/
theorem compile_of_emit {em : Emission} (names : UnitNames) (h : p.emit = .ok em)
    (hat : em.At (Site.declared p.sites) 0) :
    (65535 < em.assembly.maxDepth →
      p.compile names =
        .error (.defect p.label (.assembly (.stackTooDeep em.assembly.maxDepth)))) ∧
      (em.assembly.maxDepth ≤ 65535 → ∃ result, p.compile names = .ok result) := by
  have hroom : em.scope.size ≤ 65535 := hat.scope.size.trans_le hat.scope.room
  obtain ⟨hdeep, hfits⟩ := Assembly.finish_of_balanced names p.label hat.depth hroom
  constructor
  · intro hlt
    simp only [compile, h, bind, Except.bind, hdeep hlt]
  · intro hle
    obtain ⟨result, hfinish⟩ := hfits hle
    exact ⟨result, by simp only [compile, h, bind, Except.bind, hfinish]⟩

/-- A program that is emitted has no flaw, and the assembly has noted its need. -/
theorem emit_ok {em : Emission} (h : p.emit = .ok em) :
    p.Flawless ∧ em.At (Site.declared p.sites) 0 ∧ em.assembly.maxDepth = p.need := by
  have hfollows := p.emit_follows
  rw [h] at hfollows
  cases hfollows with
  | goes hflaw hat hpeak hconstants =>
    exact ⟨(Site.firstFlaw?_spec Row.clean_nil).1 hflaw, hat, hpeak.trans (Nat.zero_max _)⟩

/-- A program that is not emitted stops at its first flaw, unless it has too many
texts. -/
theorem emit_error {e : CompileError} (h : p.emit = .error e)
    (htexts : p.sites.countP Site.isText ≤ 4294967296) : p.FirstFlaw e := by
  have hfollows := p.emit_follows
  rw [h] at hfollows
  cases hfollows with
  | stops hflaw => exact (Site.firstFlaw?_spec Row.clean_nil).2 e hflaw
  | full hfull =>
    have hempty : Emission.empty.assembly.constants.size = 0 := rfl
    omega

theorem FirstFlaw.unique {e e' : CompileError} (h : p.FirstFlaw e) (h' : p.FirstFlaw e') :
    e = e' := by
  refine Row.First.unique ?_ h h'
  intro before site e e' hx hx'
  exact hx.unique hx'

/-- **Which programs do not compile, and why.** A program with at most `2 ^ 32` text
literals is refused for its first flaw; one without flaws is refused just if its
code needs more of the stack than a header can declare. The need that is read off
the tree is the greatest depth of the code. -/
theorem compile_eq_error_iff (p : Program Nat) (names : UnitNames)
    (htexts : p.sites.countP Site.isText ≤ 2 ^ 32) :
    (∀ e, p.compile names = .error e ↔ p.FirstFlaw e ∨
      p.Flawless ∧ 65535 < p.need ∧ e = .defect p.label (.assembly (.stackTooDeep p.need))) ∧
    (p.Flawless → ∃ em, p.emit = .ok em ∧
      IsGreatest
        (Set.range fun k => Instruction.depthAfter (em.assembly.code.toList.take k))
        (p.need : Int)) := by
  cases hemit : p.emit with
  | error first =>
    have hfirst := emit_error hemit htexts
    have hcompile : p.compile names = .error first := by
      simp only [compile, hemit, bind, Except.bind]
    refine ⟨fun e => ?_, fun hclean => absurd hclean hfirst.not_clean⟩
    rw [hcompile, Except.error.injEq]
    constructor
    · rintro rfl
      exact .inl hfirst
    · rintro (hother | ⟨hclean, -⟩)
      · exact hfirst.unique hother
      · exact absurd hclean hfirst.not_clean
  | ok em =>
    obtain ⟨hclean, hat, hneed⟩ := emit_ok hemit
    obtain ⟨hdeep, hfits⟩ := compile_of_emit names hemit hat
    rw [hneed] at hdeep hfits
    constructor
    · intro e
      constructor
      · intro he
        by_cases hlt : 65535 < p.need
        · rw [hdeep hlt] at he
          cases he
          exact .inr ⟨hclean, hlt, rfl⟩
        · obtain ⟨result, hok⟩ := hfits (Nat.le_of_not_lt hlt)
          rw [hok] at he
          cases he
      · rintro (hflaw | ⟨-, hlt, rfl⟩)
        · exact absurd hclean hflaw.not_clean
        · exact hdeep hlt
    · intro _
      obtain ⟨code, hemits⟩ := emits_of_foldlM ((emit_eq_moves p).symm.trans hemit)
      refine ⟨em, rfl, ?_⟩
      rw [hemits.code_eq, ← hneed]
      exact hemits.isGreatest_depth

/-- Two factors without an operator are found before the undeclared name among
them. -/
theorem compile_eq_error_of_two_factors :
    Program.compile ⟨"unit", "main"⟩
        ⟨0, [.print 1 (.mk 2 [.mk 3 [.name 4 "x", .int 5 1] []] [])]⟩ =
      .error (.defect 3 (.malformed .term 2 0)) :=
  ((compile_eq_error_iff ⟨0, [.print 1 (.mk 2 [.mk 3 [.name 4 "x", .int 5 1] []] [])]⟩
    ⟨"unit", "main"⟩ (by decide)).1 _).mpr
    (.inl ((Site.firstFlaw?_spec Row.clean_nil).2 _ (by decide)))

end Program

end Printlet
