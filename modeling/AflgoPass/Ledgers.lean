/-
# AflgoPass.Ledgers — what preprocessing writes, read declaratively

`foldl_preprocessInst` reads a block's instruction loop through the carried
locations. This module lifts that reading to blocks, functions and the module,
and ends with `preprocessModule_eq`, the whole of Phase 1 as five list
expressions:

* `BBnames.txt` gets `id:` for every block with a Phase-1 identity `id`;
* `BBcalls.txt` gets `blockCalls` for every block;
* `Fnames.txt` and the CFG files list the `namedFunction`s;
* `Ftargets.txt` lists the `targetFunction`s of the stripped target lines;

all in module order, blacklisted functions left out. The identity a block gets
is that of its first instruction whose own location has a non-empty basename
and a non-zero line (`findSome?_carriedLocs`); the carried locations matter
only for which calls `BBcalls.txt` records. `bbcalls_consistent` reads the two
block ledgers together: every call edge's caller is a block `BBnames.txt` lists.
-/
import AflgoPass.Preprocess

namespace AflgoPass

set_option autoImplicit false

/-- The Phase-1 identity of a block: the name of the first instruction whose own
location passes the filter. -/
def phase1Identity (BB : BasicBlock) : Option (List Char) :=
  BB.findSome? fun I => phase1Name I.loc

/-- What a block appends to `BBnames.txt`: its identity and a colon. -/
def blockNames (BB : BasicBlock) : List (List Char) :=
  ((phase1Identity BB).map (· ++ [':'])).toList

/-- What a block appends to `BBcalls.txt`. -/
def blockCalls (BB : BasicBlock) : List (List Char) :=
  callLines ((phase1Identity BB).getD []) BB (carriedLocs none BB)

/-- A function `Fnames.txt` lists: not blacklisted, with a block that has an identity. -/
def namedFunction (F : Function) : Bool :=
  !isBlacklisted F.name && F.blocks.any fun BB => (phase1Identity BB).isSome

/-- A function `Ftargets.txt` lists for the stripped target lines `targets`: not
blacklisted, with an instruction whose own location passes and hits a target. -/
def targetFunction (targets : List (List Char)) (F : Function) : Bool :=
  !isBlacklisted F.name && F.blocks.any fun BB => BB.any fun I => hits targets I.loc

theorem phase1Name_eq_none {cur : Option DebugLoc} : phase1Name cur = none ↔ passes cur = false := by
  cases cur with
  | none => simp [phase1Name, passes]
  | some loc => by_cases pass : passes (some loc) <;> simp [phase1Name, pass]

theorem findSome?_carriedLocs :
    ∀ (BB : BasicBlock) (prev : Option DebugLoc), passes prev = false →
      (carriedLocs prev BB).findSome? phase1Name = phase1Identity BB
  | [], _, _ => rfl
  | I :: rest, prev, fail => by
      simp only [carriedLocs, phase1Identity, List.findSome?_cons]
      cases hloc : I.loc with
      | none =>
          simp only [Option.none_or, phase1Name_eq_none.mpr fail]
          exact findSome?_carriedLocs rest prev fail
      | some loc =>
          simp only [Option.or_some]
          cases hname : phase1Name (some loc) with
          | some name => rfl
          | none => exact findSome?_carriedLocs rest _ (phase1Name_eq_none.mp hname)

theorem any_hits_carriedLocs (targets : List (List Char)) :
    ∀ (BB : BasicBlock) (prev : Option DebugLoc), hits targets prev = false →
      (carriedLocs prev BB).any (hits targets) = BB.any fun I => hits targets I.loc
  | [], _, _ => rfl
  | I :: rest, prev, miss => by
      simp only [carriedLocs, List.any_cons]
      cases hloc : I.loc with
      | none => simpa [Option.none_or, miss] using any_hits_carriedLocs targets rest prev miss
      | some loc =>
          cases hhit : hits targets (some loc)
          · simpa [Option.or_some, hhit] using any_hits_carriedLocs targets rest _ hhit
          · simp [Option.or_some, hhit]

theorem isSome_of_hits {targets : List (List Char)} {BB : BasicBlock} {I : Instruction}
    (mem : I ∈ BB) (hit : hits targets I.loc = true) : (phase1Identity BB).isSome := by
  rw [phase1Identity, ← Option.ne_none_iff_isSome, Ne, List.findSome?_eq_none_iff]
  intro none
  have := phase1Name_eq_none.mp (none I mem)
  simp_all [hits]

/-! ## Blocks, functions, the module -/

/-- A block of the preprocessing loop. -/
theorem preprocessBlock_eq (p : Prep) (BB : BasicBlock) :
    (preprocessBlock p BB).2 = (phase1Identity BB).isSome ∧
      (preprocessBlock p BB).1.targets.map basename = p.targets.map basename ∧
      (preprocessBlock p BB).1.isTarget =
        (p.isTarget || BB.any fun I => hits (p.targets.map basename) I.loc) ∧
      (preprocessBlock p BB).1.ledgers =
        { p.ledgers with
          bbnames := p.ledgers.bbnames ++ blockNames BB
          bbcalls := p.ledgers.bbcalls ++ blockCalls BB } := by
  unfold preprocessBlock
  generalize hr : BB.foldl preprocessInst (⟨[], [], 0⟩, p) = r
  obtain ⟨hname, htargets, htarget, hledgers⟩ := foldl_preprocessInst BB none [] p r hr
  have ident : finalName [] (carriedLocs none BB) = (phase1Identity BB).getD [] := by
    simp [finalName, findSome?_carriedLocs BB none rfl]
  rw [ident] at hname hledgers
  rw [any_hits_carriedLocs _ BB none rfl] at htarget
  obtain ⟨v, q⟩ := r
  cases named : phase1Identity BB with
  | none => simp_all [blockNames, blockCalls]
  | some name =>
      have : name ≠ [] := by
        obtain ⟨I, -, hI⟩ := List.exists_of_findSome?_eq_some named
        cases cur : I.loc <;> simp [phase1Name, nameOf, cur] at hI
        rw [← hI.2]
        simp
      simp_all [blockNames, blockCalls]

theorem foldl_blockStep :
    ∀ (blocks : List BasicBlock) (p : Prep) (hasBBs : Bool) (r : Prep × Bool),
      blocks.foldl blockStep (p, hasBBs) = r →
      r.2 = (hasBBs || blocks.any fun BB => (phase1Identity BB).isSome) ∧
      r.1.targets.map basename = p.targets.map basename ∧
      r.1.isTarget =
        (p.isTarget || blocks.any fun BB => BB.any fun I => hits (p.targets.map basename) I.loc) ∧
      r.1.ledgers =
        { p.ledgers with
          bbnames := p.ledgers.bbnames ++ blocks.flatMap blockNames
          bbcalls := p.ledgers.bbcalls ++ blocks.flatMap blockCalls }
  | [], _, _, _, done => by subst done; simp
  | BB :: rest, p, hasBBs, r, done => by
      have step : blockStep (p, hasBBs) BB =
          ((preprocessBlock p BB).1, hasBBs || (preprocessBlock p BB).2) := rfl
      rw [List.foldl_cons, step] at done
      obtain ⟨named, htargets, htarget, hledgers⟩ := preprocessBlock_eq p BB
      obtain ⟨rnamed, rtargets, rtarget, rledgers⟩ := foldl_blockStep rest _ _ r done
      rw [htargets] at rtarget
      rw [htarget] at rtarget
      rw [hledgers] at rledgers
      rw [named] at rnamed
      refine ⟨by rw [rnamed]; simp [Bool.or_assoc], rtargets.trans htargets,
        by rw [rtarget]; simp [Bool.or_assoc], by rw [rledgers]; simp⟩

/-- A function of the preprocessing loop. -/
theorem preprocessFunction_eq (outDirectory : List Char) (p : Prep) (F : Function) :
    (preprocessFunction outDirectory p F).targets.map basename = p.targets.map basename ∧
      (preprocessFunction outDirectory p F).ledgers =
        if isBlacklisted F.name then p.ledgers
        else
          ⟨p.ledgers.bbnames ++ F.blocks.flatMap blockNames,
            p.ledgers.bbcalls ++ F.blocks.flatMap blockCalls,
            p.ledgers.fnames ++ if namedFunction F then [F.name] else [],
            p.ledgers.ftargets ++
              if targetFunction (p.targets.map basename) F then [F.name] else [],
            p.ledgers.dotFiles ++
              if namedFunction F then [cfgFileName outDirectory F.name] else []⟩ := by
  unfold preprocessFunction
  cases black : isBlacklisted F.name
  · simp only [Bool.false_eq_true, if_false]
    generalize hr : F.blocks.foldl blockStep ({ p with isTarget := false }, false) = r
    obtain ⟨named, htargets, htarget, hledgers⟩ := foldl_blockStep F.blocks _ false r hr
    obtain ⟨q, hasBBs⟩ := r
    simp only [Bool.false_or] at named htarget
    subst named
    have htargetF : targetFunction (p.targets.map basename) F = q.isTarget := by
      simp [targetFunction, black, htarget]
    rw [show namedFunction F = F.blocks.any fun BB => (phase1Identity BB).isSome by
      simp [namedFunction, black], htargetF]
    cases hany : F.blocks.any fun BB => (phase1Identity BB).isSome
    · have nohit : q.isTarget = false := by
        rw [htarget, List.any_eq_false]
        intro BB mem hit
        obtain ⟨I, memI, hitI⟩ := List.any_eq_true.mp hit
        exact List.any_eq_false.mp hany BB mem (isSome_of_hits memI hitI)
      simp_all
    · cases q.isTarget <;> simp_all
  · simp

theorem foldl_preprocessFunction (outDirectory : List Char) :
    ∀ (M : List Function) (p : Prep),
      (M.foldl (preprocessFunction outDirectory) p).ledgers =
        ⟨p.ledgers.bbnames ++
            (M.filter fun F => !isBlacklisted F.name).flatMap (·.blocks.flatMap blockNames),
          p.ledgers.bbcalls ++
            (M.filter fun F => !isBlacklisted F.name).flatMap (·.blocks.flatMap blockCalls),
          p.ledgers.fnames ++ (M.filter namedFunction).map (·.name),
          p.ledgers.ftargets ++ (M.filter (targetFunction (p.targets.map basename))).map (·.name),
          p.ledgers.dotFiles ++
            (M.filter namedFunction).map fun F => cfgFileName outDirectory F.name⟩
  | [], p => by simp
  | F :: M, p => by
      obtain ⟨htargets, hledgers⟩ := preprocessFunction_eq outDirectory p F
      rw [List.foldl_cons, foldl_preprocessFunction outDirectory M, hledgers, htargets]
      cases black : isBlacklisted F.name
      · cases named : namedFunction F <;>
          cases target : targetFunction (p.targets.map basename) F <;>
          simp [List.filter_cons, black, named, target]
      · simp [List.filter_cons, black, namedFunction, targetFunction]

/-- The whole preprocessing branch: what each ledger receives, in module order. -/
theorem preprocessModule_eq (outDirectory : List Char) (targets : List (List Char))
    (M : List Function) :
    preprocessModule outDirectory targets M =
      ⟨(M.filter fun F => !isBlacklisted F.name).flatMap (·.blocks.flatMap blockNames),
        (M.filter fun F => !isBlacklisted F.name).flatMap (·.blocks.flatMap blockCalls),
        (M.filter namedFunction).map (·.name),
        (M.filter (targetFunction (targets.map basename))).map (·.name),
        (M.filter namedFunction).map fun F => cfgFileName outDirectory F.name⟩ := by
  simp [preprocessModule, foldl_preprocessFunction]

/-- Each `BBnames.txt` line is `name:` for the identity `name` of a block of the module. -/
theorem mem_bbnames {outDirectory : List Char} {targets : List (List Char)} {M : List Function}
    {line : List Char} (mem : line ∈ (preprocessModule outDirectory targets M).bbnames) :
    ∃ F ∈ M, ∃ BB ∈ F.blocks, ∃ name, phase1Identity BB = some name ∧ line = name ++ [':'] := by
  rw [preprocessModule_eq] at mem
  simp only [List.mem_flatMap, List.mem_filter, blockNames, Option.mem_toList, Option.mem_def,
    Option.map_eq_some'] at mem
  obtain ⟨F, ⟨memF, -⟩, BB, memBB, name, identity, rfl⟩ := mem
  exact ⟨F, memF, BB, memBB, name, identity, rfl⟩

/-! ## The function ledgers and the call ledger -/

theorem namedFunction_of_targetFunction {targets : List (List Char)} {F : Function}
    (target : targetFunction targets F = true) : namedFunction F = true := by
  simp only [targetFunction, namedFunction, Bool.and_eq_true, List.any_eq_true] at target ⊢
  obtain ⟨black, BB, mem, I, memI, hit⟩ := target
  exact ⟨black, BB, mem, isSome_of_hits memI hit⟩

/-- `Fnames.txt` lists the non-blacklisted functions with a named block, `Ftargets.txt`
those with an instruction hitting a target line's basename split at its last `:`;
so `Ftargets.txt` reads the target lines only through their basenames and is a
sublist of `Fnames.txt`. -/
theorem fnames_ftargets (outDirectory : List Char) (targets : List (List Char))
    (M : List Function) :
    (preprocessModule outDirectory targets M).fnames = (M.filter namedFunction).map (·.name) ∧
      (preprocessModule outDirectory targets M).ftargets =
        (M.filter (targetFunction (targets.map basename))).map (·.name) ∧
      (preprocessModule outDirectory targets M).ftargets =
        (preprocessModule outDirectory (targets.map basename) M).ftargets ∧
      (preprocessModule outDirectory targets M).ftargets.Sublist
        (preprocessModule outDirectory targets M).fnames := by
  rw [preprocessModule_eq, preprocessModule_eq]
  exact ⟨rfl, rfl, by simp [Function.comp_def],
    (List.monotone_filter_right M fun _ => namedFunction_of_targetFunction).map _⟩

/-- A target test that splits the line at its last `:` before stripping it: the basename of
the part before the `:` is compared with the file's basename, the `atoi` of the part after
it with the line. -/
def splitFirstTargetHit (target : List Char) (loc : DebugLoc) : Bool :=
  let pos := findLastOf [':'] target
  basename (before target pos) == basename loc.file && targetLine (after target pos) == loc.line

/-- The functions `Ftargets.txt` would list under `splitFirstTargetHit`: the named functions
with an instruction whose own location passes the filter and hits a target line. -/
def splitFirstFtargets (targets : List (List Char)) (M : List Function) : List (List Char) :=
  (M.filter fun F => namedFunction F && F.blocks.any fun BB => BB.any fun I =>
    match I.loc with
    | some loc => passes (some loc) && targets.any fun target => splitFirstTargetHit target loc
    | none => false).map (·.name)

/-- A function with one instruction at file `6`, line `6`. -/
def sixFunction : Function := ⟨"f".toList, 0, [[⟨.other, some ⟨"6".toList, 6⟩⟩]]⟩

/-- The target `a.c:5/6` is stripped to `6` before it is split, so it names file `6`
line `6`, not `a.c` line `5`. -/
theorem ftargets_strip_before_split :
    (preprocessModule "out".toList ["a.c:5/6".toList] [sixFunction]).ftargets = ["f".toList] ∧
      splitFirstFtargets ["a.c:5/6".toList] [sixFunction] = [] := by
  decide

/-- `BBcalls.txt` gets, block by block in module order, `id,callee` for each call to a
known, non-blacklisted function whose carried location passes the filter. -/
theorem bbcalls_eq (outDirectory : List Char) (targets : List (List Char)) (M : List Function) :
    (preprocessModule outDirectory targets M).bbcalls =
      (M.filter fun F => !isBlacklisted F.name).flatMap fun F => F.blocks.flatMap blockCalls := by
  rw [preprocessModule_eq]

/-- Every call to a known, non-blacklisted function of a block with a Phase-1 identity, under
that identity, wherever the call stands in the block and whatever its own location. -/
def callsOfNamedBlocks (M : List Function) : List (List Char) :=
  (M.filter fun F => !isBlacklisted F.name).flatMap fun F => F.blocks.flatMap fun BB =>
    match phase1Identity BB with
    | some id => BB.filterMap (callLine id)
    | none => []

/-- A block whose call to `foo` comes before its first located instruction. -/
def callFirstBlock : BasicBlock :=
  [⟨.call (some "foo".toList), none⟩, ⟨.other, some ⟨"a.c".toList, 3⟩⟩]

theorem early_call_unrecorded :
    (preprocessModule "out".toList [] [⟨"f".toList, 0, [callFirstBlock]⟩]).bbcalls = [] ∧
      callsOfNamedBlocks [⟨"f".toList, 0, [callFirstBlock]⟩] = ["a.c:3,foo".toList] := by
  decide

/-! ## The call ledger against the block ledger -/

theorem callLine_eq_some {bbName : List Char} {I : Instruction} {line : List Char}
    (called : callLine bbName I = some line) :
    ∃ callee, I.opcode = .call (some callee) ∧ isBlacklisted callee = false ∧
      line = bbName ++ ',' :: callee := by
  unfold callLine at called
  split at called
  · rename_i callee opcode
    split at called
    · cases called
    · cases called
      exact ⟨callee, opcode, Bool.eq_false_iff.mpr ‹_›, rfl⟩
  · cases called

/-- A `BBcalls.txt` line of a block is a call of the block, under the block's identity. -/
theorem mem_blockCalls {BB : BasicBlock} {line : List Char} (mem : line ∈ blockCalls BB) :
    ∃ name, phase1Identity BB = some name ∧ ∃ I ∈ BB, ∃ callee,
      I.opcode = .call (some callee) ∧ isBlacklisted callee = false ∧ line = name ++ ',' :: callee := by
  simp only [blockCalls, callLines, List.mem_filterMap, Prod.exists] at mem
  obtain ⟨I, cur, memZip, called⟩ := mem
  split at called
  · rename_i pass
    have named : (phase1Identity BB).isSome := by
      rw [← findSome?_carriedLocs BB none rfl, List.findSome?_isSome_iff]
      refine ⟨cur, (List.of_mem_zip memZip).2, ?_⟩
      cases cur with
      | none => cases pass
      | some loc => simp [phase1Name, pass]
    obtain ⟨name, identity⟩ := Option.isSome_iff_exists.mp named
    obtain ⟨callee, opcode, allowed, rfl⟩ := callLine_eq_some called
    exact ⟨name, identity, I, (List.of_mem_zip memZip).1, callee, opcode, allowed, by rw [identity]; rfl⟩
  · cases called

/-- Every line of `BBcalls.txt` names a call edge whose caller `BBnames.txt` lists: it is
`name,callee` for a call to the non-blacklisted `callee` in a block of a non-blacklisted
function of the module, `name` is that block's identity, and `name:` is in `BBnames.txt`. -/
theorem bbcalls_consistent (outDirectory : List Char) (targets : List (List Char))
    (M : List Function) :
    ∀ line ∈ (preprocessModule outDirectory targets M).bbcalls,
      ∃ F ∈ M, isBlacklisted F.name = false ∧ ∃ BB ∈ F.blocks, ∃ name,
        phase1Identity BB = some name ∧ name ++ [':'] ∈ (preprocessModule outDirectory targets M).bbnames ∧
        ∃ I ∈ BB, ∃ callee, I.opcode = .call (some callee) ∧ isBlacklisted callee = false ∧
          line = name ++ ',' :: callee := by
  intro line mem
  rw [preprocessModule_eq] at mem ⊢
  simp only [List.mem_flatMap, List.mem_filter, Bool.not_eq_true'] at mem
  obtain ⟨F, ⟨memF, allowed⟩, BB, memBB, memCall⟩ := mem
  obtain ⟨name, identity, rest⟩ := mem_blockCalls memCall
  refine ⟨F, memF, allowed, BB, memBB, name, identity, ?_, rest⟩
  simp only [List.mem_flatMap, List.mem_filter, Bool.not_eq_true']
  exact ⟨F, ⟨memF, allowed⟩, BB, memBB, by simp [blockNames, identity]⟩

/-- A block whose call to `foo` follows its located instruction. -/
def callAfterBlock : BasicBlock :=
  [⟨.other, some ⟨"a.c".toList, 3⟩⟩, ⟨.call (some "foo".toList), none⟩]

theorem bbcalls_consistent_of_sample :
    "a.c:3,foo".toList ∈ (preprocessModule "out".toList [] [⟨"f".toList, 0, [callAfterBlock]⟩]).bbcalls ∧
      ∃ F ∈ [(⟨"f".toList, 0, [callAfterBlock]⟩ : Function)], isBlacklisted F.name = false ∧
        ∃ BB ∈ F.blocks, ∃ name, phase1Identity BB = some name ∧
          name ++ [':'] ∈ (preprocessModule "out".toList [] [⟨"f".toList, 0, [callAfterBlock]⟩]).bbnames ∧
          ∃ I ∈ BB, ∃ callee, I.opcode = .call (some callee) ∧ isBlacklisted callee = false ∧
            "a.c:3,foo".toList = name ++ ',' :: callee := by
  have mem : "a.c:3,foo".toList ∈
      (preprocessModule "out".toList [] [⟨"f".toList, 0, [callAfterBlock]⟩]).bbcalls := by decide
  exact ⟨mem, bbcalls_consistent _ _ _ _ mem⟩

end AflgoPass
