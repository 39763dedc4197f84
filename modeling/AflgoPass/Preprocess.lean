/-
# AflgoPass.Preprocess — Phase 1: the ledgers of the preprocessing branch

With a target file, `runOnModule` injects nothing: it appends block names to
`BBnames.txt`, call edges to `BBcalls.txt`, function names to `Fnames.txt` and
`Ftargets.txt`, and writes one CFG file per named function. The model embeds
the three nested loops as folds, with the source's variables:

* per block, `bb_name`, `filename` and `line` (`BlockVars`); `filename` and
  `line` are declared once per block, so an instruction without a location is
  seen with the previous instruction's (stripped) file and line;
* per function, `is_target`; for the module, the target lines, which the target
  loop strips in place (`Prep`).

The second half gives the loop a declarative reading. `carriedLocs` lists the
location the variables hold at each instruction (its own, else the last one
written in the block); `preprocessInst_eq` is the loop body's inversion lemma in
those terms, and `foldl_preprocessInst` the whole instruction loop: the block
name is the first carried location that passes the filter, `is_target` records
a carried location that hits a stripped target, and `BBcalls.txt` gets exactly
`callLines`. The `"/usr/"` test never fires (`xlibs_isPrefixOf_basename`).
-/
import AflgoPass.Config

namespace AflgoPass

set_option autoImplicit false

/-- The files preprocessing appends to, as lists of the lines it appends. -/
structure Ledgers where
  bbnames : List (List Char)
  bbcalls : List (List Char)
  fnames : List (List Char)
  ftargets : List (List Char)
  /-- The CFG files written, `<outdir>/dot-files/cfg.<function>.dot`. -/
  dotFiles : List (List Char)
deriving DecidableEq, Repr

/-- The variables a block's instruction loop works on. -/
structure BlockVars where
  bbName : List Char
  filename : List Char
  line : Nat

/-- What the loops carry past a block: the target lines, `is_target`, the ledgers. -/
structure Prep where
  targets : List (List Char)
  isTarget : Bool
  ledgers : Ledgers

/-- `unsigned int target_line = atoi(...)`. -/
def targetLine (text : List Char) : Nat := (atoi text % 2 ^ 32).toNat

/-- The test of one (already stripped) target line: split at its last `:`, the file part
equals `filename` and the line part's `atoi` equals `line`. -/
def targetHit (target filename : List Char) (line : Nat) : Bool :=
  let pos := findLastOf [':'] target
  before target pos == filename && targetLine (after target pos) == line

/-- The `BBcalls.txt` line of a call to a known, non-blacklisted function. -/
def callLine (bbName : List Char) (I : Instruction) : Option (List Char) :=
  match I.opcode with
  | .call (some callee) => if isBlacklisted callee then none else some (bbName ++ ',' :: callee)
  | _ => none

/-- One instruction of the preprocessing loop. -/
def preprocessInst (vp : BlockVars × Prep) (I : Instruction) : BlockVars × Prep :=
  let (v, p) := vp
  let (filename, line) := getDebugLoc I v.filename v.line
  let filename := basename filename
  if filename.isEmpty || line == 0 || xlibs.isPrefixOf filename then (⟨v.bbName, filename, line⟩, p)
  else
    let (filename, bbName) :=
      if v.bbName.isEmpty then (basename filename, basename filename ++ ':' :: toString line)
      else (filename, v.bbName)
    let (targets, isTarget) :=
      if p.isTarget then (p.targets, true)
      else (p.targets.map basename, p.targets.any fun target => targetHit (basename target) filename line)
    let (filename, bbcalls) :=
      match I.opcode with
      | .call _ => (basename filename, p.ledgers.bbcalls ++ (callLine bbName I).toList)
      | _ => (filename, p.ledgers.bbcalls)
    (⟨bbName, filename, line⟩, ⟨targets, isTarget, { p.ledgers with bbcalls }⟩)

/-- One block: the instruction loop from an empty `bb_name` and `filename` (and the
indeterminate `line`, here `0`, which is read only after a location was written);
a named block gets `BB.setName(bb_name + ":")` and that name in `BBnames.txt`. The
flag says whether the block was named (`has_BBs = true`). -/
def preprocessBlock (p : Prep) (BB : BasicBlock) : Prep × Bool :=
  let (v, p) := BB.foldl preprocessInst (⟨[], [], 0⟩, p)
  if v.bbName.isEmpty then (p, false)
  else ({ p with ledgers := { p.ledgers with bbnames := p.ledgers.bbnames ++ [v.bbName ++ [':']] } },
    true)

/-- The CFG file of a function: `dotfiles + "/cfg." + funcName + ".dot"`. -/
def cfgFileName (outDirectory name : List Char) : List Char :=
  outDirectory ++ "/dot-files/cfg.".toList ++ name ++ ".dot".toList

/-- One iteration of a function's block loop, which also keeps `has_BBs`. -/
def blockStep (state : Prep × Bool) (BB : BasicBlock) : Prep × Bool :=
  let (p, hasBBs) := state
  let (p, named) := preprocessBlock p BB
  (p, hasBBs || named)

/-- One function: skipped when blacklisted; else its blocks from `is_target = false`,
and, when a block was named, its CFG file, `Ftargets.txt` if it holds a target,
and `Fnames.txt`. -/
def preprocessFunction (outDirectory : List Char) (p : Prep) (F : Function) : Prep :=
  if isBlacklisted F.name then p
  else
    let (p, hasBBs) := F.blocks.foldl blockStep ({ p with isTarget := false }, false)
    if hasBBs then
      { p with ledgers := { p.ledgers with
          dotFiles := p.ledgers.dotFiles ++ [cfgFileName outDirectory F.name]
          ftargets := if p.isTarget then p.ledgers.ftargets ++ [F.name] else p.ledgers.ftargets
          fnames := p.ledgers.fnames ++ [F.name] } }
    else p

/-- The preprocessing branch over the module's functions in order. -/
def preprocessModule (outDirectory : List Char) (targets : List (List Char)) (M : List Function) :
    Ledgers :=
  (M.foldl (preprocessFunction outDirectory) ⟨targets, false, ⟨[], [], [], [], []⟩⟩).ledgers

/-! ## The instruction loop read declaratively -/

/-- What the block variables `filename` and `line` hold for a carried location: the
stripped file and the line; the initial empty file (and `0`) before any. -/
def varsOf : Option DebugLoc → List Char × Nat
  | some loc => (basename loc.file, loc.line)
  | none => ([], 0)

/-- The location the block variables hold at each instruction, from the one they held
before the block's rest: the instruction's own when it has one, else the last. -/
def carriedLocs (prev : Option DebugLoc) : BasicBlock → List (Option DebugLoc)
  | [] => []
  | I :: rest => I.loc.or prev :: carriedLocs (I.loc.or prev) rest

/-- Whether a carried location passes the preprocessing filter. -/
def passes : Option DebugLoc → Bool
  | some loc => !(basename loc.file).isEmpty && loc.line != 0
  | none => false

/-- A location's name, `basename(file):line`. -/
def nameOf (loc : DebugLoc) : List Char := basename loc.file ++ ':' :: toString loc.line

/-- The name a location that passes the filter gives its block. -/
def phase1Name (cur : Option DebugLoc) : Option (List Char) :=
  if passes cur then cur.map nameOf else none

/-- Whether a carried location passes the filter and hits one of the stripped targets. -/
def hits (targets : List (List Char)) (cur : Option DebugLoc) : Bool :=
  passes cur && targets.any fun target => targetHit target (varsOf cur).1 (varsOf cur).2

/-- The block name the loop ends with, from the one it starts with. -/
def finalName (bbName : List Char) (locs : List (Option DebugLoc)) : List Char :=
  if bbName.isEmpty then (locs.findSome? phase1Name).getD [] else bbName

/-- The `BBcalls.txt` lines of a block's loop: one per call whose carried location passes. -/
def callLines (bbName : List Char) (BB : BasicBlock) (locs : List (Option DebugLoc)) :
    List (List Char) :=
  (BB.zip locs).filterMap fun (I, cur) => if passes cur then callLine bbName I else none

theorem varsOf_strip {I : Instruction} {prev : Option DebugLoc} {filename : List Char} {line : Nat}
    (held : (filename, line) = varsOf prev) :
    (basename (getDebugLoc I filename line).1, (getDebugLoc I filename line).2) =
      varsOf (I.loc.or prev) := by
  cases hloc : I.loc with
  | some loc => simp [getDebugLoc, hloc, varsOf]
  | none =>
      cases prev <;> simp_all [getDebugLoc, varsOf]

theorem filter_varsOf (cur : Option DebugLoc) :
    ((varsOf cur).1.isEmpty || (varsOf cur).2 == 0 || xlibs.isPrefixOf (varsOf cur).1) = !passes cur := by
  cases cur with
  | none => rfl
  | some loc => simp [varsOf, passes, xlibs_isPrefixOf_basename, bne]

@[simp] theorem basename_varsOf (cur : Option DebugLoc) : basename (varsOf cur).1 = (varsOf cur).1 := by
  cases cur <;> simp [varsOf]

theorem phase1Name_of_passes {cur : Option DebugLoc} (pass : passes cur = true) :
    phase1Name cur = some (basename (varsOf cur).1 ++ ':' :: toString (varsOf cur).2) := by
  cases cur with
  | none => cases pass
  | some loc => simp [phase1Name, pass, nameOf, varsOf]

/-- The loop body, when `filename` and `line` hold the carried location `prev`. -/
theorem preprocessInst_eq {v : BlockVars} {prev : Option DebugLoc}
    (held : (v.filename, v.line) = varsOf prev) (p : Prep) (I : Instruction) :
    preprocessInst (v, p) I =
      if passes (I.loc.or prev) then
        let bbName := finalName v.bbName [I.loc.or prev]
        (⟨bbName, (varsOf (I.loc.or prev)).1, (varsOf (I.loc.or prev)).2⟩,
          ⟨if p.isTarget then p.targets else p.targets.map basename,
            p.isTarget || hits (p.targets.map basename) (I.loc.or prev),
            { p.ledgers with bbcalls := p.ledgers.bbcalls ++ (callLine bbName I).toList }⟩)
      else (⟨v.bbName, (varsOf (I.loc.or prev)).1, (varsOf (I.loc.or prev)).2⟩, p) := by
  have strip := varsOf_strip (I := I) held
  obtain ⟨bbName, filename, line⟩ := v
  simp only [preprocessInst]
  generalize I.loc.or prev = cur at strip ⊢
  generalize getDebugLoc I filename line = fl at strip ⊢
  obtain ⟨f, l⟩ := fl
  have hf : basename f = (varsOf cur).1 := congrArg Prod.fst strip
  have hl : l = (varsOf cur).2 := congrArg Prod.snd strip
  subst hl
  simp only [hf, basename_varsOf, filter_varsOf]
  cases pass : passes cur
  · rfl
  · have hname := phase1Name_of_passes pass
    cases hv : bbName.isEmpty <;> cases op : I.opcode <;> cases ht : p.isTarget <;>
      simp [finalName, hname, hits, pass, List.any_map, hv, op, ht, callLine, Function.comp_def]

theorem finalName_of_isEmpty_false {bbName : List Char} (named : bbName.isEmpty = false)
    (locs : List (Option DebugLoc)) : finalName bbName locs = bbName := by
  simp [finalName, named]

@[simp] theorem finalName_nil (bbName : List Char) : finalName bbName [] = bbName := by
  cases bbName <;> rfl

theorem finalName_cons_of_passes {cur : Option DebugLoc} (pass : passes cur = true)
    (bbName : List Char) (locs : List (Option DebugLoc)) :
    finalName bbName (cur :: locs) = finalName bbName [cur] ∧
      (finalName bbName [cur]).isEmpty = false := by
  have hname := phase1Name_of_passes pass
  cases hb : bbName.isEmpty <;> simp [finalName, hb, hname]

theorem finalName_cons_of_not_passes {cur : Option DebugLoc} (fail : passes cur = false)
    (bbName : List Char) (locs : List (Option DebugLoc)) :
    finalName bbName (cur :: locs) = finalName bbName locs := by
  simp [finalName, phase1Name, fail]

@[simp] theorem callLines_cons (bbName : List Char) (I : Instruction) (BB : BasicBlock)
    (cur : Option DebugLoc) (locs : List (Option DebugLoc)) :
    callLines bbName (I :: BB) (cur :: locs) =
      (if passes cur then (callLine bbName I).toList else []) ++ callLines bbName BB locs := by
  by_cases pass : passes cur <;> cases h : callLine bbName I <;> simp [callLines, pass, h]

theorem map_basename_targets (p : Prep) :
    (if p.isTarget then p.targets else p.targets.map basename).map basename =
      p.targets.map basename := by
  split <;> simp [Function.comp_def]

/-- The whole instruction loop of a block, from variables holding `prev`: the block
name, the stripped targets, `is_target` and the ledgers it ends with. -/
theorem foldl_preprocessInst :
    ∀ (BB : BasicBlock) (prev : Option DebugLoc) (bbName : List Char) (p : Prep)
      (r : BlockVars × Prep),
      BB.foldl preprocessInst (⟨bbName, (varsOf prev).1, (varsOf prev).2⟩, p) = r →
      r.1.bbName = finalName bbName (carriedLocs prev BB) ∧
      r.2.targets.map basename = p.targets.map basename ∧
      r.2.isTarget = (p.isTarget || (carriedLocs prev BB).any (hits (p.targets.map basename))) ∧
      r.2.ledgers =
        { p.ledgers with
          bbcalls := p.ledgers.bbcalls ++
            callLines (finalName bbName (carriedLocs prev BB)) BB (carriedLocs prev BB) }
  | [], _, _, _, _, done => by subst done; simp [carriedLocs, callLines]
  | I :: rest, prev, bbName, p, r, done => by
      rw [List.foldl_cons, preprocessInst_eq rfl] at done
      simp only [carriedLocs, List.any_cons]
      split at done
      · next pass =>
        obtain ⟨first, named⟩ :=
          finalName_cons_of_passes pass bbName (carriedLocs (I.loc.or prev) rest)
        obtain ⟨hname, htargets, htarget, hledgers⟩ := foldl_preprocessInst rest _ _ _ r done
        rw [finalName_of_isEmpty_false named, map_basename_targets] at *
        refine ⟨by rw [hname, first], htargets, by rw [htarget, Bool.or_assoc], ?_⟩
        rw [hledgers, first]
        simp [pass]
      · next fail =>
        obtain ⟨hname, htargets, htarget, hledgers⟩ := foldl_preprocessInst rest _ _ _ r done
        simp only [finalName_cons_of_not_passes (Bool.eq_false_iff.mpr fail)] at *
        simp [hname, htargets, htarget, hledgers, hits, Bool.eq_false_iff.mpr fail]

end AflgoPass
