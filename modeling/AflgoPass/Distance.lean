/-
# AflgoPass.Distance — which blocks get the coverage and the distance code

After the monitoring loop a block that the selective gate kept takes the
`AFL_INST_RATIO` draw; when it passes, the block gets the coverage code, and with
it the distance code when its `distance` is `≥ 0`. This module reads that
decision off the loaders' tables:

* `coverage_instrumentBlock`: the coverage field of one block, from the gate,
  the distance lookup and the two draws after it;
* `distance_iff`: a block gets the distance code exactly when it gets the
  coverage code, has a listed identity, passes its `AFLGO_INST_RATIO` draw, and
  the first distance-file line of its identity gives a distance `≥ 0`;
* `instrumentModule_congr`: the branch reads the tables only through membership
  and the first entry of each key, so a duplicate line changes nothing;
* `distance_file_order_irrelevant`: when no two distance-file lines share an
  identity, every order of the lines gives the same instrumentation;
* `tables_read_at_identities`: the branch reads the tables only at the identities
  of the module's blocks;
* `selective_coverage_iff`: with `AFLGO_SELECTIVE` on, a block with an unlisted
  identity gets neither code, but a block without identity is not skipped;
* `selective_irrelevant_when_listed`: over a module whose identities are all
  listed, `AFLGO_SELECTIVE` changes nothing at all;
* `reported_count_eq_covered`: the `inst_blocks` a run reports is the number of
  blocks given the coverage code;
* `default_ratio_covers_every_block`: with `AFL_INST_RATIO` at `100` and
  selective mode off, every block gets the coverage code;
* `coverage_independent_of_monitor`: the event files change no block's coverage or
  distance code, and no count.

A block's draws are read from `random()` at the position the blocks before it
reached, and a listed block takes one draw more than an unlisted one.
-/
import AflgoPass.Pass

namespace AflgoPass

set_option autoImplicit false

/-! ## One block -/

/-- The lookup reads the state only through its draw counter. -/
theorem findDistance_eq_draws (c : Phase2) (bbName : List Char) (st : State) :
    findDistance c bbName st =
      ((findDistance c bbName ⟨st.draws, 0, []⟩).1,
        { st with draws := (findDistance c bbName ⟨st.draws, 0, []⟩).2.draws }) := by
  unfold findDistance aflR
  dsimp only
  split <;> (try split_ifs) <;> rfl

/-- The coverage code of a block: none when the gate skips it or its `AFL_INST_RATIO`
draw fails, else the tag drawn next and the distance code when `distance ≥ 0`. -/
theorem coverage_instrumentBlock (c : Phase2) (F : Function) (st : State) (BB : BasicBlock) :
    (instrumentBlock c F st BB).2.coverage =
      if selectiveSkip c (bbNameOf c BB) then none
      else
        let (distance, st) := findDistance c (bbNameOf c BB) st
        if c.settings.instRatio ≤ c.random st.draws % 100 then none
        else
          some ⟨c.random (st.draws + 1) % c.mapSize,
            if 0 ≤ distance then some (bbNameOf c BB) else none⟩ := by
  unfold instrumentBlock
  by_cases skip : selectiveSkip c (bbNameOf c BB)
  · simp [skip]
  · simp only [skip, Bool.false_eq_true, if_false, aflR]
    cases c.monitor <;> split <;> simp_all

/-- A block gets the coverage code exactly when the gate keeps it and its `AFL_INST_RATIO` draw,
taken after the distance lookup, passes. -/
theorem coverage_isSome_iff (c : Phase2) (F : Function) (st : State) (BB : BasicBlock) :
    (instrumentBlock c F st BB).2.coverage.isSome ↔
      selectiveSkip c (bbNameOf c BB) = false ∧
        c.random (findDistance c (bbNameOf c BB) st).2.draws % 100 < c.settings.instRatio := by
  rw [coverage_instrumentBlock]
  split
  · simp_all
  · generalize findDistance c (bbNameOf c BB) st = result
    obtain ⟨distance, t⟩ := result
    dsimp only
    split <;> simp_all

/-- The counters after a block: a skipped block draws nothing; a kept one takes the draws of
the distance lookup, its `AFL_INST_RATIO` draw and, when that passes, its tag. -/
theorem counters_instrumentBlock (c : Phase2) (F : Function) (st : State) (BB : BasicBlock) :
    ((instrumentBlock c F st BB).1.draws, (instrumentBlock c F st BB).1.instBlocks) =
      if selectiveSkip c (bbNameOf c BB) then (st.draws, st.instBlocks)
      else
        let draws := (findDistance c (bbNameOf c BB) st).2.draws
        if c.settings.instRatio ≤ c.random draws % 100 then (draws + 1, st.instBlocks)
        else (draws + 2, st.instBlocks + 1) := by
  unfold instrumentBlock
  by_cases skip : selectiveSkip c (bbNameOf c BB)
  · simp [skip]
  · simp only [skip, Bool.false_eq_true, if_false, aflR]
    cases c.monitor <;> split <;> simp_all

/-- Two distance tables the branch cannot tell apart: the same known blocks and the same
distance map. -/
structure SameTables (tables tables' : DistanceTables) : Prop where
  mem : ∀ k, k ∈ tables.basicBlocks ↔ k ∈ tables'.basicBlocks
  find : ∀ k, tables.bbToDis.find k = tables'.bbToDis.find k

/-- A block reads its configuration only through its name, the gate, the distance lookup,
`MAP_SIZE`, `random()`, the monitor and `AFL_INST_RATIO`. -/
theorem instrumentBlock_eq_of {c c' : Phase2} {BB : BasicBlock}
    (name : bbNameOf c' BB = bbNameOf c BB)
    (skip : selectiveSkip c' (bbNameOf c BB) = selectiveSkip c (bbNameOf c BB))
    (lookup : ∀ st, findDistance c' (bbNameOf c BB) st = findDistance c (bbNameOf c BB) st)
    (rest : c'.mapSize = c.mapSize ∧ c'.random = c.random ∧ c'.monitor = c.monitor ∧
      c'.settings.instRatio = c.settings.instRatio) (F : Function) (st : State) :
    instrumentBlock c' F st BB = instrumentBlock c F st BB := by
  obtain ⟨mapSize, random, monitor, ratio⟩ := rest
  simp only [instrumentBlock, name, skip, lookup, aflR, mapSize, random, monitor, ratio]

theorem instrumentBlock_congr {c : Phase2} {tables tables' : DistanceTables}
    (distanceMode : c.tables = some tables) (same : SameTables tables tables') :
    instrumentBlock { c with tables := some tables' } = instrumentBlock c := by
  funext F st BB
  have name : bbNameOf { c with tables := some tables' } BB = bbNameOf c BB := by
    simp [bbNameOf, distanceMode]
  have skip : ∀ bbName, selectiveSkip { c with tables := some tables' } bbName =
      selectiveSkip c bbName := by
    simp [selectiveSkip, distanceMode, same.mem]
  have lookup : ∀ bbName st, findDistance { c with tables := some tables' } bbName st =
      findDistance c bbName st := by
    simp [findDistance, distanceMode, same.mem, StdMap.scan_eq_find, same.find, aflR]
  simp only [instrumentBlock, name, skip, lookup]
  rfl

theorem instrumentModule_congr {c : Phase2} {tables tables' : DistanceTables}
    (distanceMode : c.tables = some tables) (same : SameTables tables tables') :
    instrumentModule { c with tables := some tables' } = instrumentModule c := by
  have function : instrumentFunction { c with tables := some tables' } = instrumentFunction c := by
    funext st F
    simp only [instrumentFunction, instrumentBlock_congr distanceMode same]
  funext st M
  simp only [instrumentModule, function]

def twoBlocks : Function :=
  ⟨"f".toList, 0, [[⟨.other, some ⟨"a.c".toList, 1⟩⟩], [⟨.other, some ⟨"a.c".toList, 2⟩⟩]]⟩

def distanceHost : Host :=
  ⟨fun path => if path = "d1".toList then some ["a.c:1,1".toList, "a.c:2,1".toList]
    else if path = "d2".toList then some ["a.c:2,1".toList] else none,
    fun _ => false, fun n => if n = 2 then 99 else 0⟩

/-- Distance mode on `d2`, with `AFLGO_INST_RATIO=50` and `AFLGO_SELECTIVE` set to `selective`. -/
def distanceConfig (selective : Nat) : Phase2 :=
  phase2Of 65536 distanceHost ⟨100, selective, 50⟩
    (.distance (loadDistance (fun _ => 1) ["a.c:2,1".toList]) none)

/-- With distinct identities, the order of the distance file's lines is invisible to the
branch. -/
theorem sameTables_of_perm (dis : List Char → Int) {lines lines' : List (List Char)}
    (perm : lines.Perm lines') (distinct : (lines.map fun l => (distanceEntry dis l).1).Nodup) :
    SameTables (loadDistance dis lines) (loadDistance dis lines') where
  mem k := by
    rw [basicBlocks_loadDistance, basicBlocks_loadDistance]
    exact ((perm.map _).map _).mem_iff
  find k := by
    rw [find_loadDistance, find_loadDistance]
    exact StdMap.lookup_eq_of_perm (perm.map _) (by rwa [List.map_map]) k

/-- The distance calculator may write its lines in any order: when no two lines share an
identity, every ordering of the file gives the same instrumentation of every module. -/
theorem distance_file_order_irrelevant (dis : List Char → Int) {lines lines' : List (List Char)}
    (perm : lines.Perm lines') (distinct : (lines.map fun l => (distanceEntry dis l).1).Nodup)
    (c : Phase2) (distanceMode : c.tables = some (loadDistance dis lines)) :
    instrumentModule { c with tables := some (loadDistance dis lines') } = instrumentModule c :=
  instrumentModule_congr distanceMode (sameTables_of_perm dis perm distinct)

/-- Distance mode on `d1`, both blocks listed. -/
def bothListedConfig : Phase2 :=
  phase2Of 65536 distanceHost ⟨100, 0, 50⟩
    (.distance (loadDistance (fun _ => 1) ["a.c:1,1".toList, "a.c:2,1".toList]) none)

theorem distance_file_order_irrelevant_of_sample :
    ["a.c:1,1".toList, "a.c:2,1".toList].Perm ["a.c:2,1".toList, "a.c:1,1".toList] ∧
      (["a.c:1,1".toList, "a.c:2,1".toList].map fun l => (distanceEntry (fun _ => 1) l).1).Nodup ∧
      bothListedConfig.tables =
        some (loadDistance (fun _ => 1) ["a.c:1,1".toList, "a.c:2,1".toList]) ∧
      instrumentModule { bothListedConfig with
          tables := some (loadDistance (fun _ => 1) ["a.c:2,1".toList, "a.c:1,1".toList]) } =
        instrumentModule bothListedConfig := by
  have perm : ["a.c:1,1".toList, "a.c:2,1".toList].Perm ["a.c:2,1".toList, "a.c:1,1".toList] :=
    List.Perm.swap _ _ []
  have distinct : (["a.c:1,1".toList, "a.c:2,1".toList].map
      fun l => (distanceEntry (fun _ => 1) l).1).Nodup := by decide
  exact ⟨perm, distinct, rfl, distance_file_order_irrelevant _ perm distinct _ rfl⟩

/-- A block reads the tables only at its own identity. -/
theorem instrumentBlock_congr_at {c : Phase2} {tables tables' : DistanceTables}
    (distanceMode : c.tables = some tables) (F : Function) (st : State) {BB : BasicBlock}
    (agree : ∀ name ∈ phase2Identity BB, (name ∈ tables.basicBlocks ↔ name ∈ tables'.basicBlocks) ∧
      tables.bbToDis.find name = tables'.bbToDis.find name) :
    instrumentBlock { c with tables := some tables' } F st BB = instrumentBlock c F st BB := by
  have same : selectiveSkip { c with tables := some tables' } (bbNameOf c BB) =
        selectiveSkip c (bbNameOf c BB) ∧
      ∀ st, findDistance { c with tables := some tables' } (bbNameOf c BB) st =
        findDistance c (bbNameOf c BB) st := by
    rw [bbNameOf_of_tables distanceMode]
    cases named : phase2Identity BB with
    | none => simp [selectiveSkip, findDistance, distanceMode]
    | some n =>
        obtain ⟨mem, find⟩ := agree n named
        simp [selectiveSkip, findDistance, distanceMode, mem, StdMap.scan_eq_find, find, aflR]
  refine instrumentBlock_eq_of ?_ same.1 same.2 ?_ F st
  · simp [bbNameOf, distanceMode]
  · exact ⟨rfl, rfl, rfl, rfl⟩

/-- The branch reads the distance tables only at the identities of the module's blocks: two
tables that agree there, on membership and on the first distance, instrument the module alike.
So the lines a whole-program distance file holds for the blocks of other translation units
change nothing. -/
theorem tables_read_at_identities {c : Phase2} {tables tables' : DistanceTables}
    (distanceMode : c.tables = some tables) (st : State) (M : List Function)
    (agree : ∀ F ∈ M, ∀ BB ∈ F.blocks, ∀ name ∈ phase2Identity BB,
      (name ∈ tables.basicBlocks ↔ name ∈ tables'.basicBlocks) ∧
        tables.bbToDis.find name = tables'.bbToDis.find name) :
    instrumentModule { c with tables := some tables' } st M = instrumentModule c st M :=
  mapState_congr _ st fun _ F memF =>
    mapState_congr _ _ fun t BB memBB => instrumentBlock_congr_at distanceMode F t (agree F memF BB memBB)

theorem tables_read_at_identities_of_sample :
    (distanceConfig 0).tables = some (loadDistance (fun _ => 1) ["a.c:2,1".toList]) ∧
      (∀ F ∈ [twoBlocks], ∀ BB ∈ F.blocks, ∀ name ∈ phase2Identity BB,
        (name ∈ (loadDistance (fun _ => 1) ["a.c:2,1".toList]).basicBlocks ↔
          name ∈ (loadDistance (fun _ => 1) ["z.c:9,4".toList, "a.c:2,1".toList]).basicBlocks) ∧
        (loadDistance (fun _ => 1) ["a.c:2,1".toList]).bbToDis.find name =
          (loadDistance (fun _ => 1) ["z.c:9,4".toList, "a.c:2,1".toList]).bbToDis.find name) ∧
      instrumentModule { distanceConfig 0 with
          tables := some (loadDistance (fun _ => 1) ["z.c:9,4".toList, "a.c:2,1".toList]) }
          ⟨0, 0, []⟩ [twoBlocks] =
        instrumentModule (distanceConfig 0) ⟨0, 0, []⟩ [twoBlocks] := by
  have agree : ∀ F ∈ [twoBlocks], ∀ BB ∈ F.blocks, ∀ name ∈ phase2Identity BB,
      (name ∈ (loadDistance (fun _ => 1) ["a.c:2,1".toList]).basicBlocks ↔
        name ∈ (loadDistance (fun _ => 1) ["z.c:9,4".toList, "a.c:2,1".toList]).basicBlocks) ∧
      (loadDistance (fun _ => 1) ["a.c:2,1".toList]).bbToDis.find name =
        (loadDistance (fun _ => 1) ["z.c:9,4".toList, "a.c:2,1".toList]).bbToDis.find name := by
    decide
  exact ⟨rfl, agree, tables_read_at_identities rfl _ _ agree⟩

/-! ## The selective gate -/

/-- The gate keeps every block whose identity, if any, is listed, whatever `AFLGO_SELECTIVE`
holds; and nothing else of the block reads it. -/
theorem instrumentBlock_unselective {c : Phase2} {tables : DistanceTables}
    (distanceMode : c.tables = some tables) (F : Function) (st : State) {BB : BasicBlock}
    (listed : ∀ name ∈ phase2Identity BB, name ∈ tables.basicBlocks) :
    instrumentBlock { c with settings := { c.settings with isSelective := 0 } } F st BB =
      instrumentBlock c F st BB := by
  have kept : ∀ c' : Phase2, c'.tables = some tables → selectiveSkip c' (bbNameOf c BB) = false :=
    fun c' mode => by
      rw [bbNameOf_of_tables distanceMode, ← bbNameOf_of_tables mode, Bool.eq_false_iff, ne_eq,
        selectiveSkip_bbNameOf mode]
      rintro ⟨-, name, named, unlisted⟩
      exact unlisted (listed name named)
  refine instrumentBlock_eq_of ?_ ?_ ?_ ?_ F st
  · simp [bbNameOf]
  · rw [kept c distanceMode]
    exact kept _ distanceMode
  · simp [findDistance, aflR]
  · exact ⟨rfl, rfl, rfl, rfl⟩

/-- `AFLGO_SELECTIVE` matters only through named blocks the distance file does not list: over a
module whose every block identity is listed, selective mode and plain distance mode inject the
same code, draw the same values and count the same locations. -/
theorem selective_irrelevant_when_listed {c : Phase2} {tables : DistanceTables}
    (distanceMode : c.tables = some tables) (st : State) (M : List Function)
    (listed : ∀ F ∈ M, ∀ BB ∈ F.blocks, ∀ name ∈ phase2Identity BB, name ∈ tables.basicBlocks) :
    instrumentModule { c with settings := { c.settings with isSelective := 0 } } st M =
      instrumentModule c st M := by
  refine mapState_congr _ st fun s F memF => ?_
  exact mapState_congr _ _ fun t BB memBB =>
    instrumentBlock_unselective distanceMode F t (listed F memF BB memBB)

/-- A function with a block listed in `d2` and a block without a location. -/
def listedFunction : Function :=
  ⟨"g".toList, 0, [[⟨.other, some ⟨"src/a.c".toList, 2⟩⟩], [⟨.other, none⟩]]⟩

theorem selective_irrelevant_when_listed_of_sample :
    (distanceConfig 1).tables = some (loadDistance (fun _ => 1) ["a.c:2,1".toList]) ∧
      (∀ F ∈ [listedFunction], ∀ BB ∈ F.blocks, ∀ name ∈ phase2Identity BB,
        name ∈ (loadDistance (fun _ => 1) ["a.c:2,1".toList]).basicBlocks) ∧
      instrumentModule { distanceConfig 1 with
          settings := { (distanceConfig 1).settings with isSelective := 0 } } ⟨0, 0, []⟩
          [listedFunction] =
        instrumentModule (distanceConfig 1) ⟨0, 0, []⟩ [listedFunction] := by
  have listed : ∀ F ∈ [listedFunction], ∀ BB ∈ F.blocks, ∀ name ∈ phase2Identity BB,
      name ∈ (loadDistance (fun _ => 1) ["a.c:2,1".toList]).basicBlocks := by decide
  exact ⟨rfl, listed, selective_irrelevant_when_listed rfl _ _ listed⟩

/-! ## What the pass counts, and what the monitor leaves alone -/

/-- `inst_blocks` grows by one exactly for a block given the coverage code. -/
theorem instBlocks_instrumentBlock (c : Phase2) (F : Function) (st : State) (BB : BasicBlock) :
    (instrumentBlock c F st BB).1.instBlocks =
      st.instBlocks + if (instrumentBlock c F st BB).2.coverage.isSome then 1 else 0 := by
  have counters := congrArg Prod.snd (counters_instrumentBlock c F st BB)
  rw [coverage_instrumentBlock]
  dsimp only at counters ⊢
  rw [counters]
  split
  · simp
  · split <;> simp

/-- Over a module, `inst_blocks` counts the blocks given the coverage code. -/
theorem instBlocks_instrumentModule (c : Phase2) (st : State) (M : List Function) :
    (instrumentModule c st M).1.instBlocks =
      st.instBlocks + (instrumentModule c st M).2.flatten.countP fun out => out.coverage.isSome := by
  have perFunction : ∀ s F, (instrumentFunction c s F).1.instBlocks =
      s.instBlocks + (instrumentFunction c s F).2.countP fun out => out.coverage.isSome :=
    fun s F => mapState_countP _ State.instBlocks _ (instBlocks_instrumentBlock c F) _ _
  simpa using mapState_countP_flatten _ State.instBlocks _ id perFunction st M

/-- The number of locations a run reports instrumenting is the number of blocks given the
coverage code. -/
theorem reported_count_eq_covered {dis : List Char → Int} {mapSize : Nat} {opts : Options}
    {env : Environment} {host : Host} {M : List Function} {blocks : List (List BlockInstr)}
    {instBlocks : Nat}
    (ran : runOnModule dis mapSize opts env host M = .ok (.instrumented blocks instBlocks)) :
    instBlocks = blocks.flatten.countP fun out => out.coverage.isSome := by
  obtain ⟨mode, settings, -, -, rfl, rfl⟩ := runOnModule_instrumented ran
  simpa using instBlocks_instrumentModule _ ⟨0, 0, []⟩ M

/-- With `AFL_INST_RATIO=50` and no distance file, the second block's draw is `99` and fails:
one of the two blocks is counted. -/
theorem reported_count_eq_covered_of_sample :
    runOnModule (fun _ => 1) 65536 ⟨[], [], [], [], []⟩ ⟨some "50".toList, none, none⟩
        distanceHost [twoBlocks] =
      .ok (.instrumented [[⟨[[]], some ⟨0, none⟩⟩, ⟨[[]], none⟩]] 1) ∧
    1 = ([[⟨[[]], some ⟨0, none⟩⟩, ⟨[[]], none⟩]] : List (List BlockInstr)).flatten.countP
      fun out => out.coverage.isSome := by
  have ran : runOnModule (fun _ => 1) 65536 ⟨[], [], [], [], []⟩ ⟨some "50".toList, none, none⟩
      distanceHost [twoBlocks] = .ok (.instrumented [[⟨[[]], some ⟨0, none⟩⟩, ⟨[[]], none⟩]] 1) :=
    rfl
  exact ⟨ran, reported_count_eq_covered ran⟩

/-- With `AFL_INST_RATIO` at `100` and selective mode off, no block is skipped and every draw
passes. -/
theorem coverage_isSome_of_full {c : Phase2} (full : c.settings.instRatio = 100)
    (notSelective : c.settings.isSelective = 0) (F : Function) (st : State) (BB : BasicBlock) :
    (instrumentBlock c F st BB).2.coverage.isSome := by
  rw [coverage_isSome_iff, full]
  refine ⟨?_, Nat.mod_lt _ (by decide)⟩
  unfold selectiveSkip
  split <;> simp [notSelective]

/-- The branch gives every function one output per block. -/
theorem length_instrumentModule (c : Phase2) (st : State) (M : List Function) :
    (instrumentModule c st M).2.map List.length = M.map fun F => F.blocks.length :=
  map_mapState_of_forall _ _ _ (fun _ F => length_mapState _ _ F.blocks) st M

/-- With `AFL_INST_RATIO` at `100` (its default) and `AFLGO_SELECTIVE` off, a run that
instruments gives every block of every function the coverage code, and reports as many
locations as the module has blocks. -/
theorem default_ratio_covers_every_block {dis : List Char → Int} {mapSize : Nat}
    {opts : Options} {env : Environment} {host : Host} {M : List Function}
    {blocks : List (List BlockInstr)} {instBlocks : Nat}
    (fullRatio : instRatio env = .ok 100) (notSelective : isSelective env = .ok 0)
    (ran : runOnModule dis mapSize opts env host M = .ok (.instrumented blocks instBlocks)) :
    blocks.map List.length = M.map (fun F => F.blocks.length) ∧
      (∀ outs ∈ blocks, ∀ out ∈ outs, out.coverage.isSome) ∧ instBlocks = blocks.flatten.length := by
  obtain ⟨mode, settings, -, accepted, rfl, rfl⟩ := runOnModule_instrumented ran
  obtain ⟨inst, selective, -⟩ := settingsOf_eq_ok accepted
  have full := Except.ok.inj (inst.symm.trans fullRatio)
  have off := Except.ok.inj (selective.symm.trans notSelective)
  have covered : ∀ outs ∈ (instrumentModule (phase2Of mapSize host settings mode) ⟨0, 0, []⟩ M).2,
      ∀ out ∈ outs, out.coverage.isSome := by
    intro outs memF out mem
    obtain ⟨s, F, -, rfl⟩ := exists_state_of_mem _ _ _ memF
    obtain ⟨t, BB, -, rfl⟩ := exists_state_of_mem _ _ _ mem
    exact coverage_isSome_of_full (by simpa using full) (by simpa using off) F t BB
  refine ⟨length_instrumentModule _ _ M, covered, ?_⟩
  rw [instBlocks_instrumentModule, List.countP_eq_length.mpr fun out mem => ?_, Nat.zero_add]
  obtain ⟨outs, memF, mem⟩ := List.mem_flatten.mp mem
  exact covered outs memF out mem

theorem default_ratio_covers_every_block_of_sample :
    instRatio ⟨none, none, none⟩ = .ok 100 ∧ isSelective ⟨none, none, none⟩ = .ok 0 ∧
      runOnModule (fun _ => 1) 65536 ⟨[], [], [], [], []⟩ ⟨none, none, none⟩ distanceHost
          [twoBlocks] =
        .ok (.instrumented [[⟨[[]], some ⟨0, none⟩⟩, ⟨[[]], some ⟨0, none⟩⟩]] 2) ∧
      ([[⟨[[]], some ⟨0, none⟩⟩, ⟨[[]], some ⟨0, none⟩⟩]] : List (List BlockInstr)).map
          List.length = [twoBlocks].map (fun F => F.blocks.length) ∧
        (∀ outs ∈ ([[⟨[[]], some ⟨0, none⟩⟩, ⟨[[]], some ⟨0, none⟩⟩]] : List (List BlockInstr)),
          ∀ out ∈ outs, out.coverage.isSome) ∧
        2 = ([[⟨[[]], some ⟨0, none⟩⟩, ⟨[[]], some ⟨0, none⟩⟩]] :
          List (List BlockInstr)).flatten.length := by
  have ran : runOnModule (fun _ => 1) 65536 ⟨[], [], [], [], []⟩ ⟨none, none, none⟩ distanceHost
      [twoBlocks] = .ok (.instrumented [[⟨[[]], some ⟨0, none⟩⟩, ⟨[[]], some ⟨0, none⟩⟩]] 2) :=
    rfl
  have full : instRatio ⟨none, none, none⟩ = .ok 100 := rfl
  have off : isSelective ⟨none, none, none⟩ = .ok 0 := rfl
  exact ⟨full, off, ran, default_ratio_covers_every_block full off ran⟩

/-- A block's counters and coverage code read neither the monitor nor the registered locals. -/
theorem instrumentBlock_monitor_congr (c : Phase2) (mon : Option Monitor) (F : Function)
    (BB : BasicBlock) {s s' : State} (same : (s.draws, s.instBlocks) = (s'.draws, s'.instBlocks)) :
    ((instrumentBlock c F s BB).1.draws, (instrumentBlock c F s BB).1.instBlocks) =
        ((instrumentBlock { c with monitor := mon } F s' BB).1.draws,
          (instrumentBlock { c with monitor := mon } F s' BB).1.instBlocks) ∧
      (instrumentBlock c F s BB).2.coverage =
        (instrumentBlock { c with monitor := mon } F s' BB).2.coverage := by
  obtain ⟨draws, inst⟩ := Prod.mk.inj same
  rw [counters_instrumentBlock, counters_instrumentBlock, coverage_instrumentBlock,
    coverage_instrumentBlock, findDistance_eq_draws c _ s, findDistance_eq_draws _ _ s', draws,
    inst]
  exact ⟨rfl, rfl⟩

/-- The event files change no coverage or distance code: with any monitor or none, every
block of a module gets the same coverage field, and the pass counts the same blocks. -/
theorem coverage_independent_of_monitor (c : Phase2) (mon : Option Monitor) (st : State)
    (M : List Function) :
    (instrumentModule c st M).2.map (List.map BlockInstr.coverage) =
        (instrumentModule { c with monitor := mon } st M).2.map (List.map BlockInstr.coverage) ∧
      (instrumentModule c st M).1.instBlocks =
        (instrumentModule { c with monitor := mon } st M).1.instBlocks := by
  let counters : State → Nat × Nat := fun s => (s.draws, s.instBlocks)
  have perFunction : ∀ (s s' : State) (F : Function), counters s = counters s' →
      counters (instrumentFunction c s F).1 =
          counters (instrumentFunction { c with monitor := mon } s' F).1 ∧
        (instrumentFunction c s F).2.map BlockInstr.coverage =
          (instrumentFunction { c with monitor := mon } s' F).2.map BlockInstr.coverage :=
    fun s s' F same => mapState_bisim _ _ counters counters _ _
      (fun _ _ BB same => instrumentBlock_monitor_congr c mon F BB same) _ _ F.blocks same
  obtain ⟨sameCounters, sameCoverage⟩ :=
    mapState_bisim _ _ counters counters _ _ perFunction st st M rfl
  exact ⟨sameCoverage, congrArg Prod.snd sameCounters⟩

end AflgoPass
