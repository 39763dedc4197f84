/-
# AflgoPass.Bitmap — what the injected code does to the shared memory

The code the distance branch injects at a block runs in the instrumented program,
on the memory `__afl_area_ptr` points to: a `MAP_SIZE`-byte edge bitmap, then the
distance slot at offset `MAP_SIZE` and the count slot at `MAP_SIZE + w`, two words
of `LargestType` (`w` bytes: `8` on x86-64, `4` otherwise). `execBlock` is that code
over an explicit memory and `__afl_prev_loc`, with the machine types the IR uses:
an `i32` state and tag, their `xor` sign-extended by the `getelementptr`, an `i8`
counter, and `w`-byte words (stored little-endian; a run only reads the words back).

* `edgeIndex_lt`: from a state and a tag below `MAP_SIZE = 2^k`, the index is in
  the bitmap, and so is the next state `cur_loc >> 1`;
* `execBlock_byte`, `execBlock_distance`, `execBlock_count`, `execBlock_outside`:
  one execution bumps one byte of the bitmap, adds to the two words when the
  block has the distance code, and writes nothing else;
* `execRun_bitmap`: the same over any run of the module's instrumented blocks;
* `edges_keep_direction`: because the state is `cur_loc >> 1`, the edges `a → b`
  and `b → a` of two different tags, and their two tight loops, bump different
  bytes.
-/
import AflgoPass.Distance
import Mathlib.Logic.Function.Basic
import Mathlib.Data.Nat.Bitwise

namespace AflgoPass

set_option autoImplicit false

/-! ## Words of the shared memory -/

/-- The shared memory, by offset from `__afl_area_ptr`. -/
abbrev Shm := Int → BitVec 8

/-- A load of `w` bytes at `addr`, least significant first. -/
def loadWord (shm : Shm) (addr : Int) : Nat → Nat
  | 0 => 0
  | w + 1 => (shm addr).toNat + 256 * loadWord shm (addr + 1) w

/-- A store of `v` (modulo `256 ^ w`) in `w` bytes at `addr`, least significant first. -/
def storeWord (shm : Shm) (addr : Int) (v : Nat) : Nat → Shm
  | 0 => shm
  | w + 1 => storeWord (Function.update shm addr (BitVec.ofNat 8 v)) (addr + 1) (v / 256) w

theorem storeWord_of_not_mem : ∀ (w : Nat) (shm : Shm) (addr : Int) (v : Nat) {a : Int},
    a < addr ∨ addr + w ≤ a → storeWord shm addr v w a = shm a
  | 0, _, _, _, _, _ => rfl
  | w + 1, shm, addr, v, a, outside => by
      rw [storeWord, storeWord_of_not_mem w _ _ _ (by omega),
        Function.update_noteq (by omega)]

theorem loadWord_lt : ∀ (w : Nat) (shm : Shm) (addr : Int), loadWord shm addr w < 256 ^ w
  | 0, _, _ => by simp [loadWord]
  | w + 1, shm, addr => by
      have byte := (shm addr).isLt
      have rest := loadWord_lt w shm (addr + 1)
      rw [loadWord, Nat.pow_succ]
      omega

/-- A load reads only its own bytes. -/
theorem loadWord_congr : ∀ (w : Nat) {shm shm' : Shm} (addr : Int),
    (∀ a, addr ≤ a → a < addr + w → shm a = shm' a) → loadWord shm addr w = loadWord shm' addr w
  | 0, _, _, _, _ => rfl
  | w + 1, _, _, addr, same => by
      rw [loadWord, loadWord, same addr (le_refl _) (by omega),
        loadWord_congr w (addr + 1) fun a low high => same a (by omega) (by omega)]

theorem loadWord_storeWord : ∀ (w : Nat) (shm : Shm) (addr : Int) (v : Nat),
    loadWord (storeWord shm addr v w) addr w = v % 256 ^ w
  | 0, _, _, _ => by simp [loadWord, Nat.mod_one]
  | w + 1, shm, addr, v => by
      rw [storeWord, loadWord, storeWord_of_not_mem w _ _ _ (by omega), Function.update_same,
        loadWord_storeWord w, Nat.pow_succ, Nat.mul_comm _ 256, Nat.mod_mul, BitVec.toNat_ofNat]

theorem loadWord_storeWord_of_disjoint (w w' : Nat) (shm : Shm) {addr addr' : Int} (v : Nat)
    (disjoint : addr + w ≤ addr' ∨ addr' + w' ≤ addr) :
    loadWord (storeWord shm addr' v w') addr w = loadWord shm addr w :=
  loadWord_congr w addr fun _ low high => storeWord_of_not_mem w' shm addr' v (by omega)

/-- `load`, `add`, `store` of a word, as the injected code updates the two slots. -/
def addWord (shm : Shm) (addr : Int) (v w : Nat) : Shm := storeWord shm addr (loadWord shm addr w + v) w

theorem loadWord_addWord (shm : Shm) (addr : Int) (v w : Nat) :
    loadWord (addWord shm addr v w) addr w = (loadWord shm addr w + v) % 256 ^ w :=
  loadWord_storeWord w shm addr _

theorem loadWord_addWord_of_disjoint (w w' : Nat) (shm : Shm) {addr addr' : Int} (v : Nat)
    (disjoint : addr + w ≤ addr' ∨ addr' + w' ≤ addr) :
    loadWord (addWord shm addr' v w') addr w = loadWord shm addr w :=
  loadWord_storeWord_of_disjoint w w' shm _ disjoint

theorem addWord_of_not_mem (shm : Shm) (addr : Int) (v w : Nat) {a : Int}
    (outside : a < addr ∨ addr + w ≤ a) : addWord shm addr v w a = shm a :=
  storeWord_of_not_mem w shm addr _ outside

/-- `load`, `add 1`, `store` of a counter byte. -/
def bump (shm : Shm) (idx : Int) : Shm := Function.update shm idx (shm idx + 1)

theorem bump_apply (shm : Shm) (idx i : Int) :
    bump shm idx i = shm i + if i = idx then 1 else 0 := by
  by_cases hit : i = idx
  · subst hit
    simp [bump]
  · simp [bump, Function.update_noteq hit, hit]

theorem loadWord_bump_of_lt (w : Nat) (shm : Shm) {addr idx : Int} (below : idx < addr) :
    loadWord (bump shm idx) addr w = loadWord shm addr w :=
  loadWord_congr w addr fun _ low _ => Function.update_noteq (by omega) _ _

/-! ## The injected code -/

/-- `#ifdef __x86_64__`: the machine, which fixes `LargestType`. -/
inductive Target where
  | x86_64
  | other
deriving DecidableEq, Repr

/-- The bytes of `LargestType`: `i64` on x86-64, `i32` otherwise. -/
def Target.wordBytes : Target → Nat
  | .x86_64 => 8
  | .other => 4

/-- `ConstantInt::get(LargestType, n)` as a `getelementptr` offset: `n` cut to the word,
then sign-extended. -/
def wordOffset (target : Target) (n : Nat) : Int := (BitVec.ofNat (8 * target.wordBytes) n).toInt

/-- What the injected code reads and writes in the running program. -/
structure Runtime where
  /-- The memory at `__afl_area_ptr`. -/
  shm : Shm
  /-- `__afl_prev_loc`. -/
  prevLoc : BitVec 32

/-- The bitmap index of a block with tag `curLoc` after the state `prevLoc`:
`MapPtr[PrevLoc ^ CurLoc]`, the `i32` index sign-extended. -/
def edgeIndex (prevLoc : BitVec 32) (curLoc : Nat) : Int :=
  (prevLoc ^^^ BitVec.ofNat 32 curLoc).toInt

/-- One execution of a block's coverage code, `ret` being what `get_distance_to_target`
returns when the block has the distance code. -/
def execBlock (target : Target) (mapSize : Nat) (rt : Runtime) (cov : Coverage)
    (ret : BitVec 32) : Runtime :=
  let shm := bump rt.shm (edgeIndex rt.prevLoc cov.curLoc)
  let prevLoc := BitVec.ofNat 32 cov.curLoc >>> 1
  match cov.distance with
  | none => ⟨shm, prevLoc⟩
  | some _ =>
      let w := target.wordBytes
      let shm := addWord shm (wordOffset target mapSize) ret.toNat w
      let shm := addWord shm (wordOffset target (mapSize + w)) 1 w
      ⟨shm, prevLoc⟩

/-- A run of the instrumented program: its blocks' executions, in order. -/
def execRun (target : Target) (mapSize : Nat) (rt : Runtime) (run : List (Coverage × BitVec 32)) :
    Runtime :=
  run.foldl (fun rt step => execBlock target mapSize rt step.1 step.2) rt

/-- The bitmap indices a run of tags touches from the state `prevLoc`. -/
def edgeIndices : BitVec 32 → List Coverage → List Int
  | _, [] => []
  | prevLoc, cov :: rest =>
      edgeIndex prevLoc cov.curLoc :: edgeIndices (BitVec.ofNat 32 cov.curLoc >>> 1) rest

/-! ## One execution -/

section Step

variable {k : Nat} (narrow : k ≤ 30)

include narrow

/-- `MAP_SIZE = 2^k` is an `int`, so `k ≤ 30`, and the slot constants keep their values. -/
theorem wordOffset_eq (target : Target) {n : Nat} (small : n ≤ 2 ^ k + 8) :
    wordOffset target n = n := by
  have word : 2 ^ 32 ≤ 2 ^ (8 * target.wordBytes) := by
    cases target <;> simp [Target.wordBytes]
  have bound : n < 2 ^ 31 := by
    have : 2 ^ k ≤ 2 ^ 30 := Nat.pow_le_pow_right (by decide) narrow
    omega
  rw [wordOffset, BitVec.toInt_eq_toNat_cond, BitVec.toNat_ofNat, Nat.mod_eq_of_lt (by omega),
    if_pos (by omega)]

theorem edgeIndex_lt {prevLoc : BitVec 32} {curLoc : Nat} (inMap : prevLoc.toNat < 2 ^ k)
    (tag : curLoc < 2 ^ k) :
    0 ≤ edgeIndex prevLoc curLoc ∧ edgeIndex prevLoc curLoc < (2 ^ k : Nat) ∧
      (BitVec.ofNat 32 curLoc >>> 1).toNat < 2 ^ k := by
  have small : 2 ^ k ≤ 2 ^ 30 := Nat.pow_le_pow_right (by decide) narrow
  have tag32 : curLoc % 2 ^ 32 = curLoc := Nat.mod_eq_of_lt (by omega)
  have xor : (prevLoc ^^^ BitVec.ofNat 32 curLoc).toNat < 2 ^ k := by
    rw [BitVec.toNat_xor, BitVec.toNat_ofNat, tag32]
    exact Nat.xor_lt_two_pow inMap tag
  rw [edgeIndex, BitVec.toInt_eq_toNat_cond, if_pos (by omega), BitVec.toNat_ushiftRight,
    BitVec.toNat_ofNat, tag32, Nat.shiftRight_eq_div_pow]
  omega

/-- One execution with `MAP_SIZE = 2^k`: the byte bump, then the two slot updates when the
block has the distance code. -/
theorem execBlock_eq (target : Target) (rt : Runtime) (cov : Coverage) (ret : BitVec 32) :
    execBlock target (2 ^ k) rt cov ret =
      ⟨if cov.distance.isSome then
          addWord (addWord (bump rt.shm (edgeIndex rt.prevLoc cov.curLoc)) (2 ^ k : Nat)
            ret.toNat target.wordBytes) (2 ^ k + target.wordBytes : Nat) 1 target.wordBytes
        else bump rt.shm (edgeIndex rt.prevLoc cov.curLoc),
        BitVec.ofNat 32 cov.curLoc >>> 1⟩ := by
  have dist : wordOffset target (2 ^ k) = (2 ^ k : Nat) := wordOffset_eq narrow target (by omega)
  have cnt : wordOffset target (2 ^ k + target.wordBytes) = (2 ^ k + target.wordBytes : Nat) :=
    wordOffset_eq narrow target (by cases target <;> simp [Target.wordBytes])
  unfold execBlock
  split <;> simp_all

variable (target : Target) {rt : Runtime} {cov : Coverage} (ret : BitVec 32)

@[simp] theorem execBlock_prevLoc : (execBlock target (2 ^ k) rt cov ret).prevLoc =
    BitVec.ofNat 32 cov.curLoc >>> 1 := by
  rw [execBlock_eq narrow]

/-- A byte of the bitmap grows by one at the block's index and stays put elsewhere. -/
theorem execBlock_byte {i : Int} (high : i < (2 ^ k : Nat)) :
    (execBlock target (2 ^ k) rt cov ret).shm i =
      rt.shm i + if i = edgeIndex rt.prevLoc cov.curLoc then 1 else 0 := by
  rw [execBlock_eq narrow, ← bump_apply]
  dsimp only
  split
  · rw [addWord_of_not_mem _ _ _ _ (by omega), addWord_of_not_mem _ _ _ _ (by omega)]
  · rfl

variable (inMap : rt.prevLoc.toNat < 2 ^ k) (tag : cov.curLoc < 2 ^ k)

include inMap tag

/-- Outside the bitmap and the two slots, an execution writes nothing. -/
theorem execBlock_outside {i : Int}
    (outside : i < 0 ∨ (2 ^ k + 2 * target.wordBytes : Nat) ≤ i) :
    (execBlock target (2 ^ k) rt cov ret).shm i = rt.shm i := by
  obtain ⟨low, high, -⟩ := edgeIndex_lt narrow inMap tag
  have untouched : bump rt.shm (edgeIndex rt.prevLoc cov.curLoc) i = rt.shm i := by
    rw [bump_apply, if_neg (by omega)]
    simp
  rw [execBlock_eq narrow]
  dsimp only
  split
  · rw [addWord_of_not_mem _ _ _ _ (by omega), addWord_of_not_mem _ _ _ _ (by omega), untouched]
  · exact untouched

/-- The distance slot grows by `ret` when the block has the distance code. -/
theorem execBlock_distance :
    loadWord (execBlock target (2 ^ k) rt cov ret).shm (2 ^ k : Nat) target.wordBytes =
      if cov.distance.isSome then
        (loadWord rt.shm (2 ^ k : Nat) target.wordBytes + ret.toNat) % 256 ^ target.wordBytes
      else loadWord rt.shm (2 ^ k : Nat) target.wordBytes := by
  obtain ⟨-, high, -⟩ := edgeIndex_lt narrow inMap tag
  rw [execBlock_eq narrow]
  dsimp only
  split
  · rw [loadWord_addWord_of_disjoint _ _ _ _ (by omega), loadWord_addWord,
      loadWord_bump_of_lt _ _ high]
  · exact loadWord_bump_of_lt _ _ high

/-- The count slot grows by one when the block has the distance code. -/
theorem execBlock_count :
    loadWord (execBlock target (2 ^ k) rt cov ret).shm (2 ^ k + target.wordBytes : Nat)
        target.wordBytes =
      if cov.distance.isSome then
        (loadWord rt.shm (2 ^ k + target.wordBytes : Nat) target.wordBytes + 1) %
          256 ^ target.wordBytes
      else loadWord rt.shm (2 ^ k + target.wordBytes : Nat) target.wordBytes := by
  obtain ⟨-, high, -⟩ := edgeIndex_lt narrow inMap tag
  rw [execBlock_eq narrow]
  dsimp only
  split
  · rw [loadWord_addWord, loadWord_addWord_of_disjoint _ _ _ _ (by omega),
      loadWord_bump_of_lt _ _ (by omega)]
  · exact loadWord_bump_of_lt _ _ (by omega)

end Step

/-! ## A run -/

@[simp] theorem execRun_nil (target : Target) (mapSize : Nat) (rt : Runtime) :
    execRun target mapSize rt [] = rt := rfl

@[simp] theorem execRun_cons (target : Target) (mapSize : Nat) (rt : Runtime)
    (step : Coverage × BitVec 32) (run : List (Coverage × BitVec 32)) :
    execRun target mapSize rt (step :: run) =
      execRun target mapSize (execBlock target mapSize rt step.1 step.2) run := rfl

section Run

variable {k : Nat} (narrow : k ≤ 30) (target : Target)

include narrow

/-- From a state in the bitmap, tags in the bitmap keep every index in it. -/
theorem edgeIndices_lt : ∀ {prevLoc : BitVec 32} {tags : List Coverage},
    prevLoc.toNat < 2 ^ k → (∀ cov ∈ tags, cov.curLoc < 2 ^ k) →
      ∀ idx ∈ edgeIndices prevLoc tags, 0 ≤ idx ∧ idx < (2 ^ k : Nat)
  | _, [], _, _ => by simp [edgeIndices]
  | _, cov :: rest, inMap, tags => by
      obtain ⟨low, high, next⟩ := edgeIndex_lt narrow inMap (tags cov (List.mem_cons_self _ _))
      intro idx mem
      rcases List.mem_cons.mp mem with rfl | later
      · exact ⟨low, high⟩
      · exact edgeIndices_lt next (fun c mem => tags c (List.mem_cons_of_mem _ mem)) idx later

/-- Each byte below `MAP_SIZE` grows by the number of steps at its index. -/
theorem execRun_byte : ∀ (run : List (Coverage × BitVec 32)) (rt : Runtime) {i : Int},
    i < (2 ^ k : Nat) → (execRun target (2 ^ k) rt run).shm i =
      rt.shm i + BitVec.ofNat 8 ((edgeIndices rt.prevLoc (run.map Prod.fst)).count i)
  | [], rt, i, _ => by simp [edgeIndices]
  | step :: run, rt, i, high => by
      rw [execRun_cons, execRun_byte run _ high, execBlock_byte narrow target _ high,
        execBlock_prevLoc narrow]
      simp only [List.map_cons, edgeIndices, List.count_cons]
      by_cases hit : i = edgeIndex rt.prevLoc step.1.curLoc
      · simp only [hit, if_true, beq_self_eq_true, BitVec.ofNat_add, BitVec.add_assoc]
        exact congrArg (rt.shm _ + ·) (BitVec.add_comm _ _)
      · simp [hit, Ne.symm hit]

/-- The steps of a run whose blocks have the distance code. -/
def distanceSteps (run : List (Coverage × BitVec 32)) : List (Coverage × BitVec 32) :=
  run.filter fun step => step.1.distance.isSome

/-- What `get_distance_to_target` returned, summed over the distance steps of a run. -/
def returnedTotal (run : List (Coverage × BitVec 32)) : Nat :=
  (distanceSteps run).foldr (fun step total => step.2.toNat + total) 0

/-- The distance slot grows by the `get_distance_to_target` results of the distance steps. -/
theorem execRun_distance : ∀ (run : List (Coverage × BitVec 32)) (rt : Runtime),
    rt.prevLoc.toNat < 2 ^ k → (∀ step ∈ run, step.1.curLoc < 2 ^ k) →
      loadWord (execRun target (2 ^ k) rt run).shm (2 ^ k : Nat) target.wordBytes =
        (loadWord rt.shm (2 ^ k : Nat) target.wordBytes +
          returnedTotal run) % 256 ^ target.wordBytes
  | [], rt, _, _ => by simp [returnedTotal, distanceSteps, Nat.mod_eq_of_lt (loadWord_lt _ _ _)]
  | step :: run, rt, inMap, tags => by
      have tag := tags step (List.mem_cons_self _ _)
      rw [execRun_cons, execRun_distance run _ (by rw [execBlock_prevLoc narrow]; exact (edgeIndex_lt narrow inMap tag).2.2)
        (fun s mem => tags s (List.mem_cons_of_mem _ mem)), execBlock_distance narrow target _ inMap tag]
      by_cases dist : step.1.distance.isSome
      · simp [dist, returnedTotal, distanceSteps, List.filter_cons, Nat.add_assoc]
      · simp [dist, returnedTotal, distanceSteps, List.filter_cons]

/-- The count slot grows by the number of distance steps. -/
theorem execRun_count : ∀ (run : List (Coverage × BitVec 32)) (rt : Runtime),
    rt.prevLoc.toNat < 2 ^ k → (∀ step ∈ run, step.1.curLoc < 2 ^ k) →
      loadWord (execRun target (2 ^ k) rt run).shm (2 ^ k + target.wordBytes : Nat)
          target.wordBytes =
        (loadWord rt.shm (2 ^ k + target.wordBytes : Nat) target.wordBytes +
          (distanceSteps run).length) % 256 ^ target.wordBytes
  | [], rt, _, _ => by simp [distanceSteps, Nat.mod_eq_of_lt (loadWord_lt _ _ _)]
  | step :: run, rt, inMap, tags => by
      have tag := tags step (List.mem_cons_self _ _)
      rw [execRun_cons, execRun_count run _ (by rw [execBlock_prevLoc narrow]; exact (edgeIndex_lt narrow inMap tag).2.2)
        (fun s mem => tags s (List.mem_cons_of_mem _ mem)), execBlock_count narrow target _ inMap tag]
      by_cases dist : step.1.distance.isSome
      · simp [dist, distanceSteps, List.filter_cons, Nat.add_assoc, Nat.add_comm 1]
      · simp [dist, distanceSteps, List.filter_cons]

/-- Outside the bitmap and the two slots, a run writes nothing. -/
theorem execRun_outside : ∀ (run : List (Coverage × BitVec 32)) (rt : Runtime) {i : Int},
    rt.prevLoc.toNat < 2 ^ k → (∀ step ∈ run, step.1.curLoc < 2 ^ k) →
      i < 0 ∨ (2 ^ k + 2 * target.wordBytes : Nat) ≤ i →
        (execRun target (2 ^ k) rt run).shm i = rt.shm i
  | [], _, _, _, _, _ => rfl
  | step :: run, rt, i, inMap, tags, outside => by
      have tag := tags step (List.mem_cons_self _ _)
      rw [execRun_cons, execRun_outside run _ (by rw [execBlock_prevLoc narrow]; exact (edgeIndex_lt narrow inMap tag).2.2)
        (fun s mem => tags s (List.mem_cons_of_mem _ mem)) outside,
        execBlock_outside narrow target _ inMap tag outside]

end Run

/-! ## Edges

`__afl_prev_loc` holds `cur_loc >> 1`, so the byte of the edge from a block tagged `a`
to one tagged `b` is `(a >> 1) ^ b`. Two edges `a → b` and `b → a` meet at one byte exactly
when `a ^ (a >> 1) = b ^ (b >> 1)`, and `v ^ (v >> 1)`, the Gray code of `v`, determines
`v`. -/

theorem shiftRight_one_xor (x y : Nat) : (x ^^^ y) >>> 1 = (x >>> 1) ^^^ (y >>> 1) :=
  Nat.eq_of_testBit_eq fun i => by simp only [Nat.testBit_shiftRight, Nat.testBit_xor]

/-- `v ^^^ (v >>> 1)` determines `v`: it gives back `v >>> 1` by induction, and then `v`. -/
theorem eq_of_xor_shiftRight_eq : ∀ {a b : Nat}, a ^^^ (a >>> 1) = b ^^^ (b >>> 1) → a = b := by
  intro a
  induction a using Nat.strong_induction_on with
  | _ a ih =>
    intro b same
    have recover : ∀ v : Nat, v = (v ^^^ (v >>> 1)) ^^^ (v >>> 1) := fun v => by
      rw [Nat.xor_assoc, Nat.xor_self, Nat.xor_zero]
    have halves : a >>> 1 = b >>> 1 := by
      rcases Nat.eq_zero_or_pos a with rfl | pos
      · have fixed : b = b >>> 1 := Nat.xor_eq_zero.mp same.symm
        rw [Nat.shiftRight_eq_div_pow] at fixed ⊢
        omega
      · apply ih (a >>> 1) (by rw [Nat.shiftRight_eq_div_pow]; omega)
        rw [← shiftRight_one_xor, ← shiftRight_one_xor, same]
    rw [recover a, recover b, same, halves]

/-- The edges `a → b` and `b → a` share a byte only when `a = b`. -/
theorem xor_shiftRight_swap_iff {a b : Nat} : (a >>> 1) ^^^ b = (b >>> 1) ^^^ a ↔ a = b := by
  constructor
  · intro swapped
    apply eq_of_xor_shiftRight_eq
    calc a ^^^ (a >>> 1) = ((a >>> 1) ^^^ b) ^^^ (b ^^^ a) := by
          rw [Nat.xor_assoc, ← Nat.xor_assoc b, Nat.xor_self, Nat.zero_xor, Nat.xor_comm]
      _ = ((b >>> 1) ^^^ a) ^^^ (a ^^^ b) := by rw [swapped, Nat.xor_comm b]
      _ = b ^^^ (b >>> 1) := by
          rw [Nat.xor_assoc, ← Nat.xor_assoc a, Nat.xor_self, Nat.zero_xor, Nat.xor_comm]
  · rintro rfl
    rfl

section Edges

variable {k : Nat} (narrow : k ≤ 30)

include narrow

/-- The byte of the edge from a block tagged `a` to one tagged `b`. -/
theorem edgeIndex_after {a b : Nat} (ta : a < 2 ^ k) (tb : b < 2 ^ k) :
    edgeIndex (BitVec.ofNat 32 a >>> 1) b = (((a >>> 1) ^^^ b : Nat) : Int) := by
  have small : 2 ^ k ≤ 2 ^ 30 := Nat.pow_le_pow_right (by decide) narrow
  have half : a >>> 1 < 2 ^ k := by rw [Nat.shiftRight_eq_div_pow]; omega
  have xor := Nat.xor_lt_two_pow half tb
  rw [edgeIndex, BitVec.toInt_eq_toNat_cond, BitVec.toNat_xor, BitVec.toNat_ushiftRight,
    BitVec.toNat_ofNat, BitVec.toNat_ofNat, Nat.mod_eq_of_lt (show a < 2 ^ 32 by omega),
    Nat.mod_eq_of_lt (show b < 2 ^ 32 by omega), if_pos (by omega)]

/-- Storing `cur_loc >> 1` keeps edges directional: for two tags below `MAP_SIZE = 2^k`,
whatever the memory, the state and the distances, the edge `a → b` bumps the byte of the
edge `b → a` only when `a = b`, and the tight loops `a → a` and `b → b` bump one byte only
when `a = b`. -/
theorem edges_keep_direction (target : Target) (rt rt' : Runtime) {a b : Coverage}
    (ret ret' : BitVec 32) (ta : a.curLoc < 2 ^ k) (tb : b.curLoc < 2 ^ k) :
    (edgeIndex (execBlock target (2 ^ k) rt a ret).prevLoc b.curLoc =
        edgeIndex (execBlock target (2 ^ k) rt' b ret').prevLoc a.curLoc ↔ a.curLoc = b.curLoc) ∧
      (edgeIndex (execBlock target (2 ^ k) rt a ret).prevLoc a.curLoc =
        edgeIndex (execBlock target (2 ^ k) rt' b ret').prevLoc b.curLoc ↔
          a.curLoc = b.curLoc) := by
  simp only [execBlock_prevLoc narrow, edgeIndex_after narrow ta tb, edgeIndex_after narrow tb ta,
    edgeIndex_after narrow ta ta, edgeIndex_after narrow tb tb, Int.ofNat_inj]
  refine ⟨xor_shiftRight_swap_iff, ⟨fun loops => ?_, fun same => by rw [same]⟩⟩
  rw [Nat.xor_comm, Nat.xor_comm (b.curLoc >>> 1)] at loops
  exact eq_of_xor_shiftRight_eq loops

end Edges

theorem edges_keep_direction_of_sample :
    10 ≤ 30 ∧ (⟨5, none⟩ : Coverage).curLoc < 2 ^ 10 ∧ (⟨9, none⟩ : Coverage).curLoc < 2 ^ 10 ∧
      (edgeIndex (execBlock .x86_64 (2 ^ 10) ⟨fun _ => 0, 0⟩ ⟨5, none⟩ 0).prevLoc
            (⟨9, none⟩ : Coverage).curLoc =
          edgeIndex (execBlock .x86_64 (2 ^ 10) ⟨fun _ => 0, 0⟩ ⟨9, none⟩ 0).prevLoc
            (⟨5, none⟩ : Coverage).curLoc ↔
        (⟨5, none⟩ : Coverage).curLoc = (⟨9, none⟩ : Coverage).curLoc) ∧
      (edgeIndex (execBlock .x86_64 (2 ^ 10) ⟨fun _ => 0, 0⟩ ⟨5, none⟩ 0).prevLoc
            (⟨5, none⟩ : Coverage).curLoc =
          edgeIndex (execBlock .x86_64 (2 ^ 10) ⟨fun _ => 0, 0⟩ ⟨9, none⟩ 0).prevLoc
            (⟨9, none⟩ : Coverage).curLoc ↔
        (⟨5, none⟩ : Coverage).curLoc = (⟨9, none⟩ : Coverage).curLoc) := by
  have narrow : 10 ≤ 30 := by decide
  have ta : (⟨5, none⟩ : Coverage).curLoc < 2 ^ 10 := by decide
  have tb : (⟨9, none⟩ : Coverage).curLoc < 2 ^ 10 := by decide
  exact ⟨narrow, ta, tb, @edges_keep_direction 10 narrow .x86_64 ⟨fun _ => 0, 0⟩ ⟨fun _ => 0, 0⟩
    ⟨5, none⟩ ⟨9, none⟩ 0 0 ta tb⟩

/-! ## Runs of the instrumented module -/

/-- Every tag Phase 2 gives is a value of `AFL_R(MAP_SIZE)`, below `MAP_SIZE`. -/
theorem curLoc_lt_mapSize {c : Phase2} (positive : 0 < c.mapSize) {st : State}
    {M : List Function} {F : Function} {BB : BasicBlock} {out : BlockInstr}
    (mem : (F, BB, out) ∈ instrumentedBlocks c st M) {cov : Coverage}
    (covered : out.coverage = some cov) : cov.curLoc < c.mapSize := by
  obtain ⟨t, rfl⟩ := exists_state_of_mem_instrumentedBlocks mem
  rw [coverage_instrumentBlock] at covered
  split at covered
  · cases covered
  · generalize findDistance c (bbNameOf c BB) t = result at covered
    obtain ⟨distance, t'⟩ := result
    dsimp only at covered
    split_ifs at covered <;> cases covered <;> exact Nat.mod_lt _ positive

/-- What a run does to the shared memory: every index is in the bitmap; each byte of the
bitmap grows by the number of steps at its index; the distance slot by the
`get_distance_to_target` results and the count slot by the number of the steps with the
distance code, modulo `2^(8w)`; and nothing else changes. -/
structure BitmapAccounting (target : Target) (mapSize : Nat) (rt : Runtime)
    (run : List (Coverage × BitVec 32)) : Prop where
  indices : ∀ idx ∈ edgeIndices rt.prevLoc (run.map Prod.fst), 0 ≤ idx ∧ idx < (mapSize : Int)
  bytes : ∀ i : Int, 0 ≤ i → i < mapSize → (execRun target mapSize rt run).shm i =
    rt.shm i + BitVec.ofNat 8 ((edgeIndices rt.prevLoc (run.map Prod.fst)).count i)
  distance : loadWord (execRun target mapSize rt run).shm mapSize target.wordBytes =
    (loadWord rt.shm mapSize target.wordBytes + returnedTotal run) %
      2 ^ (8 * target.wordBytes)
  count : loadWord (execRun target mapSize rt run).shm (mapSize + target.wordBytes : Nat)
      target.wordBytes =
    (loadWord rt.shm (mapSize + target.wordBytes : Nat) target.wordBytes + (distanceSteps run).length) %
      2 ^ (8 * target.wordBytes)
  outside : ∀ i : Int, i < 0 ∨ (mapSize + 2 * target.wordBytes : Nat) ≤ i →
    (execRun target mapSize rt run).shm i = rt.shm i

/-- Over any run of a module's instrumented blocks, from a state in the bitmap, with
`MAP_SIZE = 2^k` (an `int`, so `k ≤ 30`), the shared memory is accounted for. -/
theorem run_within_bitmap {c : Phase2} {k : Nat} (power : c.mapSize = 2 ^ k) (narrow : k ≤ 30)
    (target : Target) (st : State) (M : List Function) (run : List (Coverage × BitVec 32))
    (executed : ∀ step ∈ run, ∃ F BB out,
      (F, BB, out) ∈ instrumentedBlocks c st M ∧ out.coverage = some step.1)
    (rt : Runtime) (inMap : rt.prevLoc.toNat < c.mapSize) :
    BitmapAccounting target c.mapSize rt run := by
  have tags : ∀ step ∈ run, step.1.curLoc < 2 ^ k := fun step mem => by
    obtain ⟨F, BB, out, block, covered⟩ := executed step mem
    exact power ▸ curLoc_lt_mapSize (power ▸ Nat.two_pow_pos k) block covered
  have word : 2 ^ (8 * target.wordBytes) = 256 ^ target.wordBytes := Nat.pow_mul 2 8 _
  rw [power] at inMap ⊢
  exact ⟨edgeIndices_lt narrow inMap fun cov mem => by
      obtain ⟨step, stepMem, rfl⟩ := List.mem_map.mp mem
      exact tags step stepMem,
    fun i _ high => execRun_byte narrow target run rt high,
    word ▸ execRun_distance narrow target run rt inMap tags,
    word ▸ execRun_count narrow target run rt inMap tags,
    fun i outside => execRun_outside narrow target run rt inMap tags outside⟩

/-- The first block of `twoBlocks` executed twice. -/
def sampleRun : List (Coverage × BitVec 32) := [(⟨0, none⟩, 0), (⟨0, none⟩, 0)]

theorem run_within_bitmap_of_sample :
    (distanceConfig 0).mapSize = 2 ^ 16 ∧ 16 ≤ 30 ∧
      (∀ step ∈ sampleRun, ∃ F BB out,
        (F, BB, out) ∈ instrumentedBlocks (distanceConfig 0) ⟨0, 0, []⟩ [twoBlocks] ∧
          out.coverage = some step.1) ∧
      (⟨fun _ => 0, 0⟩ : Runtime).prevLoc.toNat < (distanceConfig 0).mapSize ∧
      BitmapAccounting .x86_64 (distanceConfig 0).mapSize ⟨fun _ => 0, 0⟩ sampleRun := by
  have executed : ∀ step ∈ sampleRun, ∃ F BB out,
      (F, BB, out) ∈ instrumentedBlocks (distanceConfig 0) ⟨0, 0, []⟩ [twoBlocks] ∧
        out.coverage = some step.1 := by
    intro step mem
    have first : step.1 = ⟨0, none⟩ := by
      simp only [sampleRun, List.mem_cons, List.mem_singleton, List.not_mem_nil, or_false] at mem
      rcases mem with rfl | rfl <;> rfl
    exact ⟨twoBlocks, [⟨.other, some ⟨"a.c".toList, 1⟩⟩], ⟨[[]], some ⟨0, none⟩⟩, by decide,
      by rw [first]⟩
  exact ⟨rfl, by decide, executed, by decide,
    run_within_bitmap (show (distanceConfig 0).mapSize = 2 ^ 16 from rfl) (by decide) .x86_64 _ _
      sampleRun executed _ (by decide)⟩

end AflgoPass
