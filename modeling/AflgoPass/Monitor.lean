/-
# AflgoPass.Monitor — where the monitoring hooks land

In monitoring mode the distance branch runs, for each block the selective gate
keeps, one loop over the block's instructions (`monitorInst`) with the flag
`is_traversed` and the local-variable registrations. This module reads that loop
declaratively, then over every block of a module:

* `monitorHooks_getElem?`: the calls before the `j`-th instruction are the hook
  group exactly when it is the first keyed instruction, followed by
  `evaluate_trace(0)` at a located return of `main` in automaton mode;
* `instrumentBlock_hooks`: a block the gate skips gets no call at all, since the
  gate is decided before the monitoring loop runs;
* `instrumentModule_hooks`: with `AFLGO_SELECTIVE` off, the calls of a module are
  `monitorModule`'s, which reads neither the distance tables, nor `random()`, nor
  the ratios;
* `hookGroup_of_loadMonitor`: the group carries the event of the first line of the
  active event file at the location (`eventFileGroup`);
* `group_at_first_keyed`, `main_return_traced_iff`, `keyed_block_hooked_iff_kept`:
  what every block of a module receives, next to runs of the pass where a skipped
  block loses its group, a return of `main` without a location stays untraced, and
  an instruction at line `0` does not fire even when its `basename:line` is a key
  (`line_zero_key_skipped`);
* `state_handler_sees_registered`: every call of a module, with the registrations
  `state_handler` is given, accumulated over the function's kept blocks
  (`registeredBefore`);
* `plain_run_coverage_only`: without `-distance` no block gets a call or the
  distance code, even when event files are given.
-/
import AflgoPass.Pass

namespace AflgoPass

set_option autoImplicit false

/-- Whether the monitor fires at an instruction: its location name is a key. -/
def keyed (mon : Monitor) (I : Instruction) : Bool := (locName I).any mon.hasKey

/-- Whether an instruction gets past the monitoring loop's location test. -/
def located (I : Instruction) : Bool := (locName I).isSome

/-- An instruction is located when it has a debug location with a file and a non-zero line. -/
theorem located_iff (I : Instruction) :
    located I ↔ ∃ loc, I.loc = some loc ∧ loc.file ≠ [] ∧ loc.line ≠ 0 := by
  cases hloc : I.loc with
  | none => simp [located, locName, getDebugLoc, hloc]
  | some loc => by_cases empty : loc.file = [] <;> simp [located, locName, getDebugLoc, hloc, empty]

section Loop

variable (F : Function) (mon : Monitor)

theorem monitorInst_of_none {I : Instruction} (none : locName I = none) (scan : Scan) :
    monitorInst F mon scan I = (scan, []) := by
  simp [monitorInst, none]

theorem monitorInst_of_some {I : Instruction} {loc : List Char} (some : locName I = some loc)
    (scan : Scan) :
    monitorInst F mon scan I =
      (⟨scan.traversed || mon.hasKey loc, scan.locals ++ [I]⟩,
        (if mon.hasKey loc && !scan.traversed then hookGroup F loc (scan.locals ++ [I]) mon
          else []) ++ mainReturnCall F mon I) := by
  obtain ⟨traversed, locals⟩ := scan
  simp only [monitorInst, some, storeLocalVariables]
  cases traversed <;> cases mon.hasKey loc <;> rfl

theorem mapState_monitorInst_fst : ∀ (BB : BasicBlock) (scan : Scan),
    (mapState (monitorInst F mon) scan BB).1 =
      ⟨scan.traversed || BB.any (keyed mon), scan.locals ++ BB.filter located⟩
  | [], scan => by simp
  | I :: rest, scan => by
      cases hloc : locName I with
      | none =>
          simp [monitorInst_of_none F mon hloc, mapState_monitorInst_fst rest, keyed, located, hloc]
      | some loc =>
          simp [monitorInst_of_some F mon hloc, mapState_monitorInst_fst rest, keyed, located, hloc,
            Bool.or_assoc]

/-- The calls before the `j`-th instruction of a block. -/
theorem monitorHooks_getElem? (scan : Scan) (BB : BasicBlock) (j : Nat) :
    (mapState (monitorInst F mon) scan BB).2[j]? = BB[j]?.map fun I =>
      match locName I with
      | none => []
      | some loc =>
          (if mon.hasKey loc && !(scan.traversed || (BB.take j).any (keyed mon)) then
            hookGroup F loc (scan.locals ++ (BB.take j).filter located ++ [I]) mon
          else []) ++ mainReturnCall F mon I := by
  rw [mapState_getElem?, mapState_monitorInst_fst]
  cases BB[j]? with
  | none => rfl
  | some I =>
      cases hloc : locName I with
      | none => simp [monitorInst_of_none F mon hloc, hloc]
      | some loc => simp [monitorInst_of_some F mon hloc, hloc]

end Loop

/-! ## The block and the module -/

/-- The calls injected into a block: none when the selective gate skips it, else the
monitoring loop's (in monitoring mode). -/
theorem instrumentBlock_hooks (c : Phase2) (F : Function) (st : State) (BB : BasicBlock) :
    (instrumentBlock c F st BB).2.hooks =
      if selectiveSkip c (bbNameOf c BB) then BB.map fun _ => []
      else
        match c.monitor with
        | some mon => (monitorBlock F mon st.locals BB).2
        | none => BB.map fun _ => [] := by
  unfold instrumentBlock
  by_cases skip : selectiveSkip c (bbNameOf c BB)
  · simp [skip]
  · simp only [skip, Bool.false_eq_true, if_false, aflR]
    cases c.monitor <;> split <;> simp

theorem instrumentBlock_locals {c : Phase2} {mon : Monitor} (monitoring : c.monitor = some mon)
    (F : Function) (st : State) {BB : BasicBlock} (kept : selectiveSkip c (bbNameOf c BB) = false) :
    (instrumentBlock c F st BB).1.locals = (monitorBlock F mon st.locals BB).1 := by
  unfold instrumentBlock
  simp only [kept, monitoring, Bool.false_eq_true, if_false, aflR]
  split <;> simp

/-- The registrations after a block: its located instructions, unless the gate skips it. -/
theorem locals_instrumentBlock {c : Phase2} {mon : Monitor} (monitoring : c.monitor = some mon)
    (F : Function) (st : State) (BB : BasicBlock) :
    (instrumentBlock c F st BB).1.locals =
      st.locals ++ if selectiveSkip c (bbNameOf c BB) then [] else BB.filter located := by
  by_cases skip : selectiveSkip c (bbNameOf c BB)
  · simp [instrumentBlock, skip]
  · rw [instrumentBlock_locals monitoring F st (Bool.eq_false_iff.mpr skip)]
    simp [monitorBlock, mapState_monitorInst_fst, skip]

@[simp] theorem count_hookGroup (F : Function) (loc : List Char) (locals : List Instruction) :
    ∀ mon : Monitor, (hookGroup F loc locals mon).count (.evaluateTrace 0) = 0
  | .automaton _ | .protocol _ => rfl

theorem count_mainReturnCall (F : Function) (mon : Monitor) (I : Instruction) :
    (mainReturnCall F mon I).count (.evaluateTrace 0) =
      if F.name = "main".toList ∧ mon.isAutomaton ∧ I.opcode = .ret then 1 else 0 := by
  unfold mainReturnCall
  split <;> rfl

/-- The calls before the `j`-th instruction of a block. -/
theorem hooks_instrumentBlock {c : Phase2} {mon : Monitor} (monitoring : c.monitor = some mon)
    (F : Function) (st : State) {BB : BasicBlock} {j : Nat} {I : Instruction} (at_j : BB[j]? = some I) :
    (instrumentBlock c F st BB).2.hooks[j]? = some
      (if selectiveSkip c (bbNameOf c BB) then []
      else
        match locName I with
        | none => []
        | some loc =>
            (if mon.hasKey loc && !(BB.take j).any (keyed mon) then
              hookGroup F loc (st.locals ++ (BB.take j).filter located ++ [I]) mon
            else []) ++ mainReturnCall F mon I) := by
  rw [instrumentBlock_hooks, monitoring]
  split
  · rw [List.getElem?_map, at_j]
    rfl
  · simp only [monitorBlock, monitorHooks_getElem?, at_j, Option.map_some', Bool.false_or]

/-- The `evaluate_trace(0)` calls before the `j`-th instruction. -/
theorem count_evaluateTrace_instrumentBlock {c : Phase2} {mon : Monitor}
    (monitoring : c.monitor = some mon) (F : Function) (st : State) {BB : BasicBlock} {j : Nat}
    {I : Instruction} (at_j : BB[j]? = some I) :
    ((instrumentBlock c F st BB).2.hooks[j]?).map (List.count (.evaluateTrace 0)) =
      some (if selectiveSkip c (bbNameOf c BB) = false ∧ located I ∧
          (F.name = "main".toList ∧ mon.isAutomaton ∧ I.opcode = .ret) then 1 else 0) := by
  rw [hooks_instrumentBlock monitoring F st at_j, Option.map_some']
  congr 1
  cases skip : selectiveSkip c (bbNameOf c BB)
  · cases named : locName I with
    | none => simp [located, named]
    | some loc =>
        simp only [Bool.false_eq_true, if_false, List.count_append, count_mainReturnCall,
          apply_ite (List.count (Hook.evaluateTrace 0)), count_hookGroup, List.count_nil, ite_self]
        simp [located, named]
  · simp

/-- The hook group the event files define at `loc`: the event of the first line at `loc` of
the RERS file when that file is given and readable, passed with the function's first formal
parameter (none when it has no parameter); else the proposition of the first line at `loc` of
the protocol file. -/
def eventFileGroup (opts : Options) (host : Host) (F : Function) (loc : List Char)
    (locals : List Instruction) : List Hook :=
  match (if opts.reventsFile = [] then none else host.readLines opts.reventsFile),
      (if opts.peventsFile = [] then none else host.readLines opts.peventsFile) with
  | some lines, _ =>
      match ((lines.map eventEntry).lookup loc).map stoi with
      | some (.ok v) =>
          [.automataHandler (if F.argCount = 0 then none else some 0) v, .stateHandler locals]
      | _ => []
  | none, some lines =>
      match (lines.map eventEntry).lookup loc with
      | some evt => [.propositionHandler evt, .stateHandler locals, .evaluateTrace 1]
      | none => []
  | none, none => []

/-- At a key of the map the loaders made active, the group carries the first line's event. -/
theorem hookGroup_of_loadMonitor {opts : Options} {host : Host} {mon : Monitor}
    (loaded : loadMonitor opts host = .ok (some mon)) (F : Function) {loc : List Char}
    (key : mon.hasKey loc) (locals : List Instruction) :
    hookGroup F loc locals mon = eventFileGroup opts host F loc locals := by
  unfold eventFileGroup
  rcases loadMonitor_eq_some loaded with ⟨lines, revt, read, parsed, rfl⟩ | ⟨unread, lines, read, rfl⟩
  · obtain ⟨v, found⟩ := Option.isSome_iff_exists.mp key
    have first := find_loadREvents parsed loc
    rw [found] at first
    simp [read, hookGroup, found, ← first, firstArg]
  · obtain ⟨evt, found⟩ := Option.isSome_iff_exists.mp key
    rw [find_loadPEvents] at found
    simp [unread, read, hookGroup, find_loadPEvents, found]

/-! ## The monitor across a module

The samples: a distance file `d` that lists only `b.c:1`, a RERS event file `r` with
the event `5` at `a.c:3`, and `random()` always `0`. -/

def sampleHost : Host :=
  ⟨fun path => if path = "d".toList then some ["b.c:1,1".toList]
    else if path = "r".toList then some ["a.c:3:5".toList] else none, fun _ => false, fun _ => 0⟩

def sampleOptions : Options := ⟨"d".toList, [], [], "r".toList, []⟩

def sampleEvents : StdMap Int := ⟨[("a.c:3".toList, 5)], by decide⟩

def sampleTables : DistanceTables := loadDistance (fun _ => 1) ["b.c:1,1".toList]

/-- Monitoring mode on the samples, with `AFLGO_SELECTIVE` set to `selective`. -/
def sampleConfig (selective : Nat) : Phase2 :=
  phase2Of 65536 sampleHost ⟨100, selective, 100⟩ (.distance sampleTables (some (.automaton sampleEvents)))

/-- An instruction located at `src/a.c:3`, the key of `sampleEvents`, alone in a function. -/
def keyedInstruction : Instruction := ⟨.other, some ⟨"src/a.c".toList, 3⟩⟩

def keyedFunction : Function := ⟨"f".toList, 0, [[keyedInstruction]]⟩

/-- The calls before each instruction of a module's block, after a successful load of the
event files: the hook group, with the event of the first line at the location, before the
first instruction with a file, a non-zero line and a location that is a key, unless the
selective gate skips the block, so at most one group per block; and `evaluate_trace(0)`
before a located return of `main` in automaton mode. Nothing else. -/
theorem group_at_first_keyed {opts : Options} {host : Host} {mon : Monitor}
    (loaded : loadMonitor opts host = .ok (some mon)) {c : Phase2}
    (monitoring : c.monitor = some mon) (st : State) (M : List Function) {F : Function}
    {BB : BasicBlock} {out : BlockInstr} (mem : (F, BB, out) ∈ instrumentedBlocks c st M) :
    ∃ registered : List Instruction, ∀ j I, BB[j]? = some I →
      out.hooks[j]? = some
        ((if selectiveSkip c (bbNameOf c BB) = false ∧ (BB.take j).any (keyed mon) = false ∧
              keyed mon I then
            eventFileGroup opts host F ((locName I).getD [])
              (registered ++ (BB.take j).filter located ++ [I])
          else []) ++
          if selectiveSkip c (bbNameOf c BB) = false ∧ located I ∧ F.name = "main".toList ∧
              mon.isAutomaton ∧ I.opcode = .ret then [.evaluateTrace 0]
          else []) := by
  obtain ⟨t, rfl⟩ := exists_state_of_mem_instrumentedBlocks mem
  refine ⟨t.locals, fun j I at_j => ?_⟩
  rw [hooks_instrumentBlock monitoring F t at_j]
  congr 1
  cases skip : selectiveSkip c (bbNameOf c BB)
  · cases named : locName I with
    | none => simp [keyed, located, named]
    | some loc =>
        by_cases key : mon.hasKey loc
        · simp [keyed, located, named, key, mainReturnCall, hookGroup_of_loadMonitor loaded F key]
        · simp [keyed, located, named, key, mainReturnCall]
  · simp

theorem group_at_first_keyed_of_sample :
    loadMonitor sampleOptions sampleHost = .ok (some (.automaton sampleEvents)) ∧
      (sampleConfig 0).monitor = some (.automaton sampleEvents) ∧
      (keyedFunction, [keyedInstruction], ⟨[[.automataHandler none 5, .stateHandler [keyedInstruction]]],
        some ⟨0, none⟩⟩) ∈ instrumentedBlocks (sampleConfig 0) ⟨0, 0, []⟩ [keyedFunction] ∧
      ∃ registered : List Instruction, ∀ j I, [keyedInstruction][j]? = some I →
        [[Hook.automataHandler none 5, .stateHandler [keyedInstruction]]][j]? = some
          ((if selectiveSkip (sampleConfig 0) (bbNameOf (sampleConfig 0) [keyedInstruction]) = false ∧
                ([keyedInstruction].take j).any (keyed (.automaton sampleEvents)) = false ∧
                keyed (.automaton sampleEvents) I then
              eventFileGroup sampleOptions sampleHost keyedFunction ((locName I).getD [])
                (registered ++ ([keyedInstruction].take j).filter located ++ [I])
            else []) ++
            if selectiveSkip (sampleConfig 0) (bbNameOf (sampleConfig 0) [keyedInstruction]) = false ∧
                located I ∧ keyedFunction.name = "main".toList ∧
                (Monitor.automaton sampleEvents).isAutomaton ∧ I.opcode = .ret then [.evaluateTrace 0]
            else []) := by
  have mem : (keyedFunction, [keyedInstruction], ⟨[[.automataHandler none 5,
      .stateHandler [keyedInstruction]]], some ⟨0, none⟩⟩) ∈
        instrumentedBlocks (sampleConfig 0) ⟨0, 0, []⟩ [keyedFunction] := by decide
  exact ⟨rfl, rfl, mem, group_at_first_keyed (by rfl) (by rfl) _ _ mem⟩

/-- An instruction at line `0` of `src/a.c`, which the monitoring loop skips. -/
def lineZeroInstruction : Instruction := ⟨.other, some ⟨"src/a.c".toList, 0⟩⟩

/-- The line-`0` instruction, then the keyed one, in one block. -/
def lineZeroFunction : Function := ⟨"f".toList, 0, [[lineZeroInstruction, keyedInstruction]]⟩

/-- The samples with a RERS file whose first line is at `a.c:0`. -/
def lineZeroHost : Host :=
  ⟨fun path => if path = "d".toList then some ["b.c:1,1".toList]
    else if path = "r".toList then some ["a.c:0:7".toList, "a.c:3:5".toList] else none,
    fun _ => false, fun _ => 0⟩

/-- The first instruction's `basename:line` is `a.c:0`, the location of the RERS file's first
line, yet the loop skips it for its line `0`: the group lands at the second instruction, with
the event `5` of `a.c:3`, and the line-`0` instruction is not registered. -/
theorem line_zero_key_skipped :
    nameOf ⟨"src/a.c".toList, 0⟩ = "a.c:0".toList ∧
      eventEntry "a.c:0:7".toList = ("a.c:0".toList, "7".toList) ∧
      runOnModule (fun _ => 1) 65536 sampleOptions ⟨none, none, none⟩ lineZeroHost [lineZeroFunction] =
        .ok (.instrumented
          [[⟨[[], [.automataHandler none 5, .stateHandler [keyedInstruction]]], some ⟨0, none⟩⟩]] 1) :=
  ⟨by decide, by decide, rfl⟩

/-- Before each instruction of a module's block, `evaluate_trace(0)` is injected once when
the instruction is a located return of `main` and the map is the RERS one, unless the
selective gate skips the block, and never otherwise. -/
theorem main_return_traced_iff {c : Phase2} {mon : Monitor} (monitoring : c.monitor = some mon)
    (st : State) (M : List Function) {F : Function} {BB : BasicBlock} {out : BlockInstr}
    (mem : (F, BB, out) ∈ instrumentedBlocks c st M) (j : Nat) (I : Instruction)
    (at_j : BB[j]? = some I) :
    (out.hooks[j]?).map (List.count (.evaluateTrace 0)) =
      some (if selectiveSkip c (bbNameOf c BB) = false ∧ located I ∧
          (F.name = "main".toList ∧ mon.isAutomaton ∧ I.opcode = .ret) then 1 else 0) := by
  obtain ⟨t, rfl⟩ := exists_state_of_mem_instrumentedBlocks mem
  exact count_evaluateTrace_instrumentBlock monitoring F t at_j

/-- A return of `main` located at `a.c:9`. -/
def mainReturn : Instruction := ⟨.ret, some ⟨"a.c".toList, 9⟩⟩

def mainFunction : Function := ⟨"main".toList, 0, [[mainReturn]]⟩

theorem main_return_traced_iff_of_sample :
    (sampleConfig 0).monitor = some (.automaton sampleEvents) ∧
      (mainFunction, [mainReturn], ⟨[[.evaluateTrace 0]], some ⟨0, none⟩⟩) ∈
        instrumentedBlocks (sampleConfig 0) ⟨0, 0, []⟩ [mainFunction] ∧
      [mainReturn][0]? = some mainReturn ∧
      ([[Hook.evaluateTrace 0]][0]?).map (List.count (.evaluateTrace 0)) =
        some (if selectiveSkip (sampleConfig 0) (bbNameOf (sampleConfig 0) [mainReturn]) = false ∧
            located mainReturn ∧ (mainFunction.name = "main".toList ∧
              (Monitor.automaton sampleEvents).isAutomaton ∧ mainReturn.opcode = .ret) then 1 else 0) := by
  have mem : (mainFunction, [mainReturn], ⟨[[.evaluateTrace 0]], some ⟨0, none⟩⟩) ∈
      instrumentedBlocks (sampleConfig 0) ⟨0, 0, []⟩ [mainFunction] := by decide
  exact ⟨rfl, mem, rfl, main_return_traced_iff (by rfl) _ _ mem 0 mainReturn rfl⟩

/-- A return of `main` without a debug location gets no `evaluate_trace(0)`. -/
theorem unlocated_main_return_untraced :
    runOnModule (fun _ => 1) 65536 sampleOptions ⟨none, none, none⟩ sampleHost
        [⟨"main".toList, 0, [[⟨.ret, none⟩]]⟩] =
      .ok (.instrumented [[⟨[[]], some ⟨0, none⟩⟩]] 1) :=
  rfl

/-- What `storeLocalVariables` has registered when the loop reaches the `k`-th block of `F`:
`clearLocalVariables()` ran at the function's start, and every block the selective gate kept
registered its located instructions. -/
def registeredBefore (c : Phase2) (F : Function) (k : Nat) : List Instruction :=
  (F.blocks.take k).flatMap fun BB =>
    if selectiveSkip c (bbNameOf c BB) then [] else BB.filter located

/-- Every call the monitor injects anywhere in a module, with the variables `state_handler`
is given: the located instructions of the function's earlier kept blocks, then those of its
own block up to the instruction that fires. -/
theorem state_handler_sees_registered {c : Phase2} {mon : Monitor}
    (monitoring : c.monitor = some mon) (st : State) (M : List Function) {i k j : Nat}
    {F : Function} {BB : BasicBlock} {I : Instruction} (atF : M[i]? = some F)
    (atBB : F.blocks[k]? = some BB) (atI : BB[j]? = some I) :
    ((instrumentModule c st M).2[i]?.bind (·[k]?)).bind (·.hooks[j]?) = some
      (if selectiveSkip c (bbNameOf c BB) then []
      else
        match locName I with
        | none => []
        | some loc =>
            (if mon.hasKey loc && !(BB.take j).any (keyed mon) then
              hookGroup F loc (registeredBefore c F k ++ (BB.take j).filter located ++ [I]) mon
            else []) ++ mainReturnCall F mon I) := by
  have registered : ∀ s : State,
      (mapState (instrumentBlock c F) { s with locals := [] } (F.blocks.take k)).1.locals =
        registeredBefore c F k := fun s => by
    simpa using mapState_accumulate _ State.locals _ (locals_instrumentBlock monitoring F) _
      (F.blocks.take k)
  rw [instrumentModule, mapState_getElem?, atF, Option.map_some', Option.some_bind,
    instrumentFunction, mapState_getElem?, atBB, Option.map_some', Option.some_bind,
    hooks_instrumentBlock monitoring F _ atI, registered]

/-- A block located at `b.c:1`, then the keyed block. -/
def twoBlockFunction : Function :=
  ⟨"f".toList, 0, [[⟨.other, some ⟨"b.c".toList, 1⟩⟩], [keyedInstruction]]⟩

theorem state_handler_sees_registered_of_sample :
    (sampleConfig 0).monitor = some (.automaton sampleEvents) ∧
      [twoBlockFunction][0]? = some twoBlockFunction ∧
      twoBlockFunction.blocks[1]? = some [keyedInstruction] ∧
      [keyedInstruction][0]? = some keyedInstruction ∧
      (((instrumentModule (sampleConfig 0) ⟨0, 0, []⟩ [twoBlockFunction]).2[0]?.bind (·[1]?)).bind
          (·.hooks[0]?) = some
        (if selectiveSkip (sampleConfig 0) (bbNameOf (sampleConfig 0) [keyedInstruction]) then []
        else
          match locName keyedInstruction with
          | none => []
          | some loc =>
              (if Monitor.hasKey (.automaton sampleEvents) loc &&
                  !(([keyedInstruction] : BasicBlock).take 0).any (keyed (.automaton sampleEvents))
                then
                hookGroup twoBlockFunction loc (registeredBefore (sampleConfig 0) twoBlockFunction 1 ++
                  (([keyedInstruction] : BasicBlock).take 0).filter located ++ [keyedInstruction])
                  (.automaton sampleEvents)
              else []) ++ mainReturnCall twoBlockFunction (.automaton sampleEvents) keyedInstruction)) := by
  have monitoring : (sampleConfig 0).monitor = some (.automaton sampleEvents) := rfl
  have atF : [twoBlockFunction][0]? = some twoBlockFunction := rfl
  have atBB : twoBlockFunction.blocks[1]? = some [keyedInstruction] := rfl
  have atI : [keyedInstruction][0]? = some keyedInstruction := rfl
  exact ⟨monitoring, atF, atBB, atI,
    state_handler_sees_registered monitoring ⟨0, 0, []⟩ [twoBlockFunction] atF atBB atI⟩


/-! ## Without a distance file

`is_ltl_fuzzing` is only ever set inside the `-distance` branch, so the event files are read
only with a distance file. -/

/-- Without tables and monitor a block gets no call and no distance code. -/
theorem instrumentBlock_of_plain {c : Phase2} (noTables : c.tables = none)
    (noMonitor : c.monitor = none) (F : Function) (st : State) (BB : BasicBlock) :
    (instrumentBlock c F st BB).2.hooks = BB.map (fun _ => []) ∧
      (instrumentBlock c F st BB).2.coverage.bind Coverage.distance = none := by
  simp only [instrumentBlock, selectiveSkip, noTables, findDistance, noMonitor, aflR,
    Bool.false_eq_true, if_false, show ¬(0 : Int) ≤ -1 by decide]
  split_ifs <;> simp

/-- Without `-distance` the pass instruments as plain AFL, whatever else is given: no block of
a run gets a monitoring call or the distance code, so `-revents` and `-pevents` alone change
nothing. -/
theorem plain_run_coverage_only {dis : List Char → Int} {mapSize : Nat} {opts : Options}
    {env : Environment} {host : Host} {M : List Function} {blocks : List (List BlockInstr)}
    {instBlocks : Nat} (noDistance : opts.distanceFile = [])
    (ran : runOnModule dis mapSize opts env host M = .ok (.instrumented blocks instBlocks)) :
    ∀ outs ∈ blocks, ∀ out ∈ outs, (∀ calls ∈ out.hooks, calls = []) ∧
      out.coverage.bind Coverage.distance = none := by
  obtain ⟨mode, settings, loaded, -, rfl, -⟩ := runOnModule_instrumented ran
  have plain : (phase2Of mapSize host settings mode).tables = none ∧
      (phase2Of mapSize host settings mode).monitor = none := by
    cases mode with
    | distance tables mon => exact absurd noDistance (loadMode_distance loaded)
    | _ => exact ⟨rfl, rfl⟩
  intro outs memOuts out memOut
  obtain ⟨s, F, -, rfl⟩ := exists_state_of_mem _ _ _ memOuts
  obtain ⟨t, BB, -, rfl⟩ := exists_state_of_mem _ _ _ memOut
  obtain ⟨hooks, distance⟩ := instrumentBlock_of_plain plain.1 plain.2 F t BB
  refine ⟨fun calls mem => ?_, distance⟩
  rw [hooks, List.mem_map] at mem
  obtain ⟨-, -, rfl⟩ := mem
  rfl

theorem plain_run_coverage_only_of_sample :
    (⟨[], [], [], "r".toList, []⟩ : Options).distanceFile = [] ∧
      runOnModule (fun _ => 1) 65536 ⟨[], [], [], "r".toList, []⟩ ⟨none, none, none⟩ sampleHost
          [keyedFunction] = .ok (.instrumented [[⟨[[]], some ⟨0, none⟩⟩]] 1) ∧
      ∀ outs ∈ ([[⟨[[]], some ⟨0, none⟩⟩]] : List (List BlockInstr)), ∀ out ∈ outs,
        (∀ calls ∈ out.hooks, calls = []) ∧ out.coverage.bind Coverage.distance = none := by
  have ran : runOnModule (fun _ => 1) 65536 ⟨[], [], [], "r".toList, []⟩ ⟨none, none, none⟩
      sampleHost [keyedFunction] = .ok (.instrumented [[⟨[[]], some ⟨0, none⟩⟩]] 1) := rfl
  exact ⟨rfl, ran, plain_run_coverage_only rfl ran⟩

end AflgoPass
