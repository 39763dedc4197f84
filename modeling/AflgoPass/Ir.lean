/-
# AflgoPass.Ir — what the pass sees of a module

The host compiler's IR is an external collaborator; the pass reads only a few
things of it, and the model keeps exactly those:

* of an instruction, whether it is a call (and its statically known callee's
  name, `getCalledFunction`), a return, or anything else, and the debug
  location `getDebugLoc` reports for it;
* of a function, its name, how many formal parameters it has (only the first
  is ever read), and its basic blocks in order, each a list of instructions.

`getDebugLoc` lives in `ltl-instr-func.h`, which is not among the sources; it
is modelled from the spec below. `isBlacklisted` is the source's name filter.
-/
import AflgoPass.Text

namespace AflgoPass

set_option autoImplicit false

/-- A source location as `getDebugLoc` reports it. -/
structure DebugLoc where
  file : List Char
  line : Nat
deriving DecidableEq, Repr

/-- The kinds the pass tells apart with `dyn_cast`: a call (`some` callee name when
`getCalledFunction` is not null), a return, and everything else. -/
inductive Opcode where
  | call (callee : Option (List Char))
  | ret
  | other
deriving DecidableEq, Repr

structure Instruction where
  opcode : Opcode
  loc : Option DebugLoc
deriving DecidableEq, Repr

/-- A basic block: its instructions in order. -/
abbrev BasicBlock := List Instruction

structure Function where
  name : List Char
  /-- The number of formal parameters; the monitor reads only the first. -/
  argCount : Nat
  blocks : List BasicBlock
deriving DecidableEq, Repr

/-- Modelled from the spec: `instr::InstrFunc::getDebugLoc(&I, filename, line)` of
`ltl-instr-func.h`, which is not among the sources. For an instruction carrying a
source location it writes the location's file and line into its two
out-parameters; for one without it writes nothing, so the caller's variables
keep what they held. -/
def getDebugLoc (I : Instruction) (filename : List Char) (line : Nat) : List Char × Nat :=
  match I.loc with
  | some loc => (loc.file, loc.line)
  | none => (filename, line)

@[simp] theorem getDebugLoc_some {I : Instruction} {loc : DebugLoc} (h : I.loc = some loc)
    (filename : List Char) (line : Nat) : getDebugLoc I filename line = (loc.file, loc.line) := by
  simp [getDebugLoc, h]

@[simp] theorem getDebugLoc_none {I : Instruction} (h : I.loc = none)
    (filename : List Char) (line : Nat) : getDebugLoc I filename line = (filename, line) := by
  simp [getDebugLoc, h]

/-- The function-name prefixes of `isBlacklisted`. -/
def blacklist : List (List Char) :=
  ["asan.", "llvm.", "sancov.", "__ubsan_handle_", "free", "malloc", "calloc",
    "realloc"].map String.toList

/-- `isBlacklisted(F)`: whether `F`'s name starts with a blacklisted prefix. -/
def isBlacklisted (name : List Char) : Bool :=
  blacklist.any fun banned => banned.isPrefixOf name

example : isBlacklisted "malloc_usable_size".toList = true ∧
    isBlacklisted "main".toList = false := by decide

end AflgoPass
