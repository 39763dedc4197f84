/-
# AflgoPass.Instrument — Phase 2: what the distance branch injects

The `else` branch of `runOnModule` walks every function and every block and
injects, per block:

* the monitor's calls, before the instructions they belong to (monitoring mode);
* the coverage code at the block's first insertion point, with a tag
  `cur_loc = AFL_R(MAP_SIZE)`, unless the `AFL_INST_RATIO` draw fails;
* with it, the distance code, when the block's `distance` is `≥ 0`.

A block's output is a `BlockInstr`: the calls injected before each instruction,
in order, and the coverage code if any (`Coverage`, its tag and the name
`get_distance_to_target` receives). The loop order is the source's, and so is
the order of the three random draws a block can take: the `AFLGO_INST_RATIO`
draw (known blocks only), the `AFL_INST_RATIO` draw, the tag.

Every loop of the pass has one shape, `mapState`: a state threaded through a
list with one output per element. `mapState_getElem?` reads an element's output
as the step applied at the state its prefix reached, and `mapState_map` is the
simulation lemma: a loop whose step agrees with another step through a
projection of the state computes the projection of the other loop's outputs;
`mapState_congr` is the case of two steps that agree on the loop's elements.
-/
import AflgoPass.Config

namespace AflgoPass

set_option autoImplicit false

/-! ## Loops -/

/-- A loop threading a state `σ` through a list and collecting one output per element. -/
def mapState {σ α β : Type} (f : σ → α → σ × β) : σ → List α → σ × List β
  | s, [] => (s, [])
  | s, a :: as =>
      let (s, b) := f s a
      let (s, bs) := mapState f s as
      (s, b :: bs)

section Loops

variable {σ α β : Type} (f : σ → α → σ × β)

@[simp] theorem mapState_nil (s : σ) : mapState f s [] = (s, []) := rfl

@[simp] theorem mapState_cons (s : σ) (a : α) (as : List α) :
    mapState f s (a :: as) =
      ((mapState f (f s a).1 as).1, (f s a).2 :: (mapState f (f s a).1 as).2) := rfl

@[simp] theorem length_mapState : ∀ (s : σ) (as : List α), (mapState f s as).2.length = as.length
  | _, [] => rfl
  | s, a :: as => by simp [length_mapState _ as]

/-- The `i`-th output is the step at the `i`-th element from the state the first `i`
elements led to. -/
theorem mapState_getElem? : ∀ (s : σ) (as : List α) (i : Nat),
    (mapState f s as).2[i]? = as[i]?.map fun a => (f (mapState f s (as.take i)).1 a).2
  | _, [], _ => rfl
  | _, _ :: _, 0 => by simp
  | s, a :: as, i + 1 => by simp [mapState_getElem? (f s a).1 as i]

/-- Every output is the step at its element from some state. -/
theorem exists_state_of_mem_zip (s : σ) (as : List α) {a : α} {b : β}
    (mem : (a, b) ∈ as.zip (mapState f s as).2) : ∃ t, b = (f t a).2 := by
  obtain ⟨i, hi, hab⟩ := List.getElem_of_mem mem
  have hout := mapState_getElem? f s as i
  simp only [List.getElem_zip, Prod.mk.injEq] at hab
  rw [List.getElem?_eq_getElem (by simpa using hi), hab.2, List.getElem?_eq_getElem
    (by simpa using hi), hab.1] at hout
  exact ⟨_, by simpa using hout⟩

/-- Every output is the step at one of the elements from some state. -/
theorem exists_state_of_mem : ∀ (s : σ) (as : List α) {b : β}, b ∈ (mapState f s as).2 →
    ∃ t, ∃ a ∈ as, b = (f t a).2
  | _, [], _, mem => by cases mem
  | s, a :: as, _, mem => by
      rw [mapState_cons, List.mem_cons] at mem
      rcases mem with rfl | mem
      · exact ⟨s, a, List.mem_cons_self _ _, rfl⟩
      · obtain ⟨t, a', mem', rfl⟩ := exists_state_of_mem _ as mem
        exact ⟨t, a', List.mem_cons_of_mem _ mem', rfl⟩

/-- Two steps that agree on the elements give the same loop. -/
theorem mapState_congr {g : σ → α → σ × β} :
    ∀ (s : σ) {as : List α}, (∀ s, ∀ a ∈ as, f s a = g s a) → mapState f s as = mapState g s as
  | _, [], _ => rfl
  | s, a :: as, agree => by
      rw [mapState_cons, mapState_cons, agree s a (List.mem_cons_self a as),
        mapState_congr _ fun s b mem => agree s b (List.mem_cons_of_mem a mem)]

/-- Two loops related step by step through projections of their states and outputs stay
related: the bisimulation form of `mapState_map`. -/
theorem mapState_bisim {σ' β' τ γ : Type} (g : σ' → α → σ' × β') (π : σ → τ) (π' : σ' → τ)
    (ρ : β → γ) (ρ' : β' → γ)
    (step : ∀ s s' a, π s = π' s' → π (f s a).1 = π' (g s' a).1 ∧ ρ (f s a).2 = ρ' (g s' a).2) :
    ∀ (s : σ) (s' : σ') (as : List α), π s = π' s' →
      π (mapState f s as).1 = π' (mapState g s' as).1 ∧
        (mapState f s as).2.map ρ = (mapState g s' as).2.map ρ'
  | _, _, [], same => ⟨same, rfl⟩
  | s, s', a :: as, same => by
      obtain ⟨sameState, sameOut⟩ := step s s' a same
      obtain ⟨sameFinal, sameOuts⟩ := mapState_bisim g π π' ρ ρ' step _ _ as sameState
      exact ⟨sameFinal, by simp [sameOut, sameOuts]⟩

/-- A loop whose state grows by a list fixed by each element collects those lists. -/
theorem mapState_accumulate {γ : Type} (μ : σ → List γ) (ν : α → List γ)
    (step : ∀ s a, μ (f s a).1 = μ s ++ ν a) :
    ∀ (s : σ) (as : List α), μ (mapState f s as).1 = μ s ++ as.flatMap ν
  | _, [] => by simp
  | s, a :: as => by
      rw [mapState_cons, mapState_accumulate μ ν step _ as, step, List.flatMap_cons,
        List.append_assoc]

/-- A loop whose state grows by one for each output satisfying `p` counts those outputs. -/
theorem mapState_countP (μ : σ → Nat) (p : β → Bool)
    (step : ∀ s a, μ (f s a).1 = μ s + if p (f s a).2 then 1 else 0) :
    ∀ (s : σ) (as : List α), μ (mapState f s as).1 = μ s + (mapState f s as).2.countP p
  | _, [] => rfl
  | s, a :: as => by
      rw [mapState_cons, mapState_countP μ p step _ as, step, List.countP_cons]
      omega

/-- A loop whose state grows by a count over each output's list counts over all of them. -/
theorem mapState_countP_flatten {γ : Type} (μ : σ → Nat) (p : γ → Bool) (outs : β → List γ)
    (step : ∀ s a, μ (f s a).1 = μ s + (outs (f s a).2).countP p) :
    ∀ (s : σ) (as : List α),
      μ (mapState f s as).1 = μ s + ((mapState f s as).2.map outs).flatten.countP p
  | _, [] => rfl
  | s, a :: as => by
      rw [mapState_cons, mapState_countP_flatten μ p outs step _ as, step, List.map_cons,
        List.flatten_cons, List.countP_append]
      omega

/-- A loop whose outputs, seen through `ρ`, do not depend on the state is a `map`. -/
theorem map_mapState_of_forall {γ : Type} (ρ : β → γ) (g : α → γ)
    (stateless : ∀ s a, ρ (f s a).2 = g a) :
    ∀ (s : σ) (as : List α), (mapState f s as).2.map ρ = as.map g
  | _, [] => rfl
  | s, a :: as => by simp [stateless, map_mapState_of_forall ρ g stateless _ as]

end Loops

/-! ## What is injected -/

/-- A call the monitor injects before an instruction. -/
inductive Hook where
  /-- `automata_handler(input, output)`: the first formal parameter (argument `0`) when
  the function has one, `nullptr` otherwise, and the event. -/
  | automataHandler (input : Option Nat) (output : Int)
  /-- `state_handler(...)`, given the local variables registered so far. -/
  | stateHandler (locals : List Instruction)
  | propositionHandler (prop : List Char)
  | evaluateTrace (flag : Nat)
deriving DecidableEq, Repr

/-- The coverage code of a block: its tag `cur_loc`, and when the distance code
comes with it, the name passed to `get_distance_to_target`. -/
structure Coverage where
  curLoc : Nat
  distance : Option (List Char)
deriving DecidableEq, Repr

/-- What Phase 2 injects into one block. -/
structure BlockInstr where
  /-- The calls injected before each instruction, in order. -/
  hooks : List (List Hook)
  coverage : Option Coverage
deriving DecidableEq, Repr

/-- What Phase 2 reads besides the module. -/
structure Phase2 where
  /-- `MAP_SIZE` of `config.h`, which is not among the sources. -/
  mapSize : Nat
  random : Nat → Nat
  settings : Settings
  /-- The distance tables when a distance file was loaded (`is_aflgo`). -/
  tables : Option DistanceTables
  /-- The active event map (`is_ltl_fuzzing`). -/
  monitor : Option Monitor

/-- The state the loops carry. -/
structure State where
  /-- How many values of `random()` have been used. -/
  draws : Nat
  instBlocks : Nat
  /-- What `storeLocalVariables` registered since the last `clearLocalVariables`. -/
  locals : List Instruction

/-- Modelled from the spec: `AFL_R(limit)` is a macro of the AFL headers, which are
not among the sources; the spec's sampler over `0 .. limit - 1` is the next value
of `random()` modulo `limit`. -/
def aflR (c : Phase2) (limit : Nat) (st : State) : Nat × State :=
  (c.random st.draws % limit, { st with draws := st.draws + 1 })

/-- Modelled from the spec: `storeLocalVariables(M, I)` of `ltl-instr-func.h` registers
the local variables `I` touches; the model registers `I` itself. -/
def storeLocalVariables (locals : List Instruction) (I : Instruction) : List Instruction :=
  locals ++ [I]

/-! ## The block's identity and distance -/

/-- The name a distance-branch loop gives one instruction from fresh `filename` and
`line`: `none` where it `continue`s. An instruction without a location leaves
`filename` empty, so the indeterminate `line` (here `0`) is never read. -/
def locName (I : Instruction) : Option (List Char) :=
  let (filename, line) := getDebugLoc I [] 0
  if filename = [] ∨ line = 0 then none else some (basename filename ++ ':' :: toString line)

/-- The Phase-2 identity of a block, the `bb_name` loop: the first instruction's name. -/
def phase2Identity (BB : BasicBlock) : Option (List Char) := BB.findSome? locName

/-- The block's `bb_name` in the distance branch: empty unless a distance file was loaded. -/
def bbNameOf (c : Phase2) (BB : BasicBlock) : List Char :=
  if c.tables.isSome then (phase2Identity BB).getD [] else []

/-- `if (find(basic_blocks ..., bb_name) == end) { if (is_selective) continue; }`, for a
non-empty `bb_name` in distance mode. -/
def selectiveSkip (c : Phase2) (bbName : List Char) : Bool :=
  match c.tables with
  | some tables => bbName ≠ [] ∧ bbName ∉ tables.basicBlocks ∧ c.settings.isSelective ≠ 0
  | none => false

/-- The block's `distance`: `-1`, unless the block is known and its `AFLGO_INST_RATIO`
draw passes; then the scan of `bb_to_dis`. -/
def findDistance (c : Phase2) (bbName : List Char) (st : State) : Int × State :=
  match c.tables with
  | some tables =>
      if bbName ≠ [] ∧ bbName ∈ tables.basicBlocks then
        let (draw, st) := aflR c 100 st
        if draw < c.settings.dinstRatio then (tables.bbToDis.scan bbName (-1), st) else (-1, st)
      else (-1, st)
  | none => (-1, st)

/-- The distance lookup draws at most once and touches nothing else. -/
@[simp] theorem findDistance_locals (c : Phase2) (bbName : List Char) (st : State) :
    (findDistance c bbName st).2.locals = st.locals := by
  unfold findDistance aflR
  dsimp only
  split <;> (try split_ifs) <;> rfl

@[simp] theorem findDistance_instBlocks (c : Phase2) (bbName : List Char) (st : State) :
    (findDistance c bbName st).2.instBlocks = st.instBlocks := by
  unfold findDistance aflR
  dsimp only
  split <;> (try split_ifs) <;> rfl

theorem locName_ne_nil {I : Instruction} {name : List Char} (named : locName I = some name) :
    name ≠ [] := by
  unfold locName at named
  split at named
  split_ifs at named
  cases named
  simp

theorem phase2Identity_ne_nil {BB : BasicBlock} {name : List Char}
    (named : phase2Identity BB = some name) : name ≠ [] := by
  obtain ⟨I, -, hI⟩ := List.exists_of_findSome?_eq_some named
  exact locName_ne_nil hI

theorem bbNameOf_of_tables {c : Phase2} {tables : DistanceTables}
    (distanceMode : c.tables = some tables) (BB : BasicBlock) :
    bbNameOf c BB = (phase2Identity BB).getD [] := by
  simp [bbNameOf, distanceMode]

/-- In distance mode the gate skips a block exactly when `AFLGO_SELECTIVE` is on and
the block has an identity the distance file does not list. -/
theorem selectiveSkip_bbNameOf {c : Phase2} {tables : DistanceTables}
    (distanceMode : c.tables = some tables) (BB : BasicBlock) :
    selectiveSkip c (bbNameOf c BB) ↔
      c.settings.isSelective ≠ 0 ∧ ∃ name ∈ phase2Identity BB, name ∉ tables.basicBlocks := by
  cases named : phase2Identity BB with
  | none => simp [selectiveSkip, bbNameOf, distanceMode, named]
  | some name =>
      simp [selectiveSkip, bbNameOf, distanceMode, named, phase2Identity_ne_nil named, and_comm]

/-! ## The monitor -/

namespace Monitor

/-- Whether a location is a key of the active map. -/
def hasKey : Monitor → List Char → Bool
  | .automaton locToRevt, loc => (locToRevt.find loc).isSome
  | .protocol locToPevt, loc => (locToPevt.find loc).isSome

def isAutomaton : Monitor → Bool
  | .automaton _ => true
  | .protocol _ => false

end Monitor

/-- The `input` of `automata_handler`: the first formal parameter, if any. -/
def firstArg (F : Function) : Option Nat := if F.argCount = 0 then none else some 0

/-- The calls injected at the instruction that triggers the block's monitor. -/
def hookGroup (F : Function) (loc : List Char) (locals : List Instruction) : Monitor → List Hook
  | .automaton locToRevt =>
      [.automataHandler (firstArg F) ((locToRevt.find loc).getD 0), .stateHandler locals]
  | .protocol locToPevt =>
      [.propositionHandler ((locToPevt.find loc).getD []), .stateHandler locals, .evaluateTrace 1]

/-- The monitor's variables in a block: `is_traversed` and the local registrations. -/
structure Scan where
  traversed : Bool
  locals : List Instruction

/-- `if (F.getName() == "main" && is_RERS_fuzzing)`: `evaluate_trace(0)` before a return. -/
def mainReturnCall (F : Function) (mon : Monitor) (I : Instruction) : List Hook :=
  if F.name = "main".toList ∧ mon.isAutomaton ∧ I.opcode = .ret then [.evaluateTrace 0] else []

/-- One instruction of the monitoring loop. -/
def monitorInst (F : Function) (mon : Monitor) (scan : Scan) (I : Instruction) :
    Scan × List Hook :=
  match locName I with
  | none => (scan, [])
  | some loc =>
      let locals := storeLocalVariables scan.locals I
      let fires := mon.hasKey loc && !scan.traversed
      let group := if fires then hookGroup F loc locals mon else []
      (⟨scan.traversed || fires, locals⟩, group ++ mainReturnCall F mon I)

/-- The monitoring loop over one block, from `is_traversed = false`: the calls before
each instruction, and the registrations after the block. -/
def monitorBlock (F : Function) (mon : Monitor) (locals : List Instruction) (BB : BasicBlock) :
    List Instruction × List (List Hook) :=
  let (scan, hooks) := mapState (monitorInst F mon) ⟨false, locals⟩ BB
  (scan.locals, hooks)

/-! ## Blocks, functions, module -/

/-- One block of the distance branch. -/
def instrumentBlock (c : Phase2) (F : Function) (st : State) (BB : BasicBlock) :
    State × BlockInstr :=
  let bbName := bbNameOf c BB
  if selectiveSkip c bbName then (st, ⟨BB.map fun _ => [], none⟩)
  else
    let (distance, st) := findDistance c bbName st
    let (locals, hooks) :=
      match c.monitor with
      | some mon => monitorBlock F mon st.locals BB
      | none => (st.locals, BB.map fun _ => [])
    let (draw, st) := aflR c 100 { st with locals }
    if c.settings.instRatio ≤ draw then (st, ⟨hooks, none⟩)
    else
      let (curLoc, st) := aflR c c.mapSize st
      ({ st with instBlocks := st.instBlocks + 1 },
        ⟨hooks, some ⟨curLoc, if 0 ≤ distance then some bbName else none⟩⟩)

/-- One function: `clearLocalVariables()`, then its blocks in order. -/
def instrumentFunction (c : Phase2) (st : State) (F : Function) : State × List BlockInstr :=
  mapState (instrumentBlock c F) { st with locals := [] } F.blocks

/-- The distance branch over the module's functions in order. -/
def instrumentModule (c : Phase2) (st : State) (M : List Function) :
    State × List (List BlockInstr) :=
  mapState (instrumentFunction c) st M

/-- Every block of a module, with its function and what the distance branch injects into it. -/
def instrumentedBlocks (c : Phase2) (st : State) (M : List Function) :
    List (Function × BasicBlock × BlockInstr) :=
  (M.zip (instrumentModule c st M).2).flatMap fun (F, outs) =>
    (F.blocks.zip outs).map fun (BB, out) => (F, BB, out)

/-- What a module's block receives is what `instrumentBlock` gives it from some state. -/
theorem exists_state_of_mem_instrumentedBlocks {c : Phase2} {st : State} {M : List Function}
    {F : Function} {BB : BasicBlock} {out : BlockInstr}
    (mem : (F, BB, out) ∈ instrumentedBlocks c st M) : ∃ t, out = (instrumentBlock c F t BB).2 := by
  simp only [instrumentedBlocks, List.mem_flatMap, List.mem_map, Prod.exists, Prod.mk.injEq] at mem
  obtain ⟨F, outs, memF, BB, out, memBB, rfl, rfl, rfl⟩ := mem
  obtain ⟨s, rfl⟩ := exists_state_of_mem_zip (instrumentFunction c) st M memF
  exact exists_state_of_mem_zip (instrumentBlock c F) _ F.blocks memBB

end AflgoPass
