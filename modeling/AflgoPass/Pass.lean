/-
# AflgoPass.Pass — `AFLCoverage::runOnModule`

The pass in one function: `loadMode`, the environment checks, then the
preprocessing branch (after creating `dot-files`) or the distance branch (with
`__afl_prev_loc`'s draws starting at the first value of `random()`). What the
banner and the closing summary print is left out: it changes no output.

`runOnModule_eq_ok` is the inversion lemma of a successful run: the mode and
settings the loaders produced, and the branch's output. `runOnModule_instrumented`
reads it for a run that instruments: its blocks are `instrumentModule`'s, so every
result about `instrumentModule` and `instrumentedBlocks` is a result about the pass.
`runOnModule_eq_error` is its dual: a run fails only at one of its checks.
-/
import AflgoPass.Instrument
import AflgoPass.Preprocess

namespace AflgoPass

set_option autoImplicit false

/-- What a run that does not fail produces. -/
inductive Outcome where
  | preprocessed (ledgers : Ledgers)
  | instrumented (blocks : List (List BlockInstr)) (instBlocks : Nat)
deriving DecidableEq, Repr

/-- The distance branch's inputs for a mode. -/
def phase2Of (mapSize : Nat) (host : Host) (settings : Settings) : Mode → Phase2
  | .distance tables monitor => ⟨mapSize, host.random, settings, some tables, monitor⟩
  | _ => ⟨mapSize, host.random, settings, none, none⟩

@[simp] theorem phase2Of_settings (mapSize : Nat) (host : Host) (settings : Settings) (mode : Mode) :
    (phase2Of mapSize host settings mode).settings = settings := by
  cases mode <;> rfl

/-- The branch a mode runs. -/
def runBranch (mapSize : Nat) (opts : Options) (host : Host) (settings : Settings)
    (M : List Function) : Mode → Except Failure Outcome
  | .preprocessing targets =>
      let dotfiles := opts.outDirectory ++ "/dot-files".toList
      if host.createDirectoryFails dotfiles then
        .error (.fatal ("Could not create directory " ++ String.mk dotfiles ++ "."))
      else .ok (.preprocessed (preprocessModule opts.outDirectory targets M))
  | mode =>
      let (st, blocks) := instrumentModule (phase2Of mapSize host settings mode) ⟨0, 0, []⟩ M
      .ok (.instrumented blocks st.instBlocks)

/-- `AFLCoverage::runOnModule`: `dis` converts a distance text (`atof` and the
scaling), `mapSize` is `MAP_SIZE`. -/
def runOnModule (dis : List Char → Int) (mapSize : Nat) (opts : Options) (env : Environment)
    (host : Host) (M : List Function) : Except Failure Outcome := do
  let mode ← loadMode dis opts host
  let settings ← settingsOf env
  runBranch mapSize opts host settings M mode

theorem runOnModule_eq_ok {dis : List Char → Int} {mapSize : Nat} {opts : Options}
    {env : Environment} {host : Host} {M : List Function} {out : Outcome}
    (ran : runOnModule dis mapSize opts env host M = .ok out) :
    ∃ mode settings, loadMode dis opts host = .ok mode ∧ settingsOf env = .ok settings ∧
      runBranch mapSize opts host settings M mode = .ok out := by
  obtain ⟨mode, loaded, ran⟩ := bind_eq_ok ran
  obtain ⟨settings, set, ran⟩ := bind_eq_ok ran
  exact ⟨mode, settings, loaded, set, ran⟩

/-- A run that instruments returns what `instrumentModule` injects, from the mode the
loaders produced and the environment's settings. -/
theorem runOnModule_instrumented {dis : List Char → Int} {mapSize : Nat} {opts : Options}
    {env : Environment} {host : Host} {M : List Function} {blocks : List (List BlockInstr)}
    {instBlocks : Nat}
    (ran : runOnModule dis mapSize opts env host M = .ok (.instrumented blocks instBlocks)) :
    ∃ mode settings, loadMode dis opts host = .ok mode ∧ settingsOf env = .ok settings ∧
      blocks = (instrumentModule (phase2Of mapSize host settings mode) ⟨0, 0, []⟩ M).2 ∧
      instBlocks =
        (instrumentModule (phase2Of mapSize host settings mode) ⟨0, 0, []⟩ M).1.instBlocks := by
  obtain ⟨mode, settings, loaded, set, branch⟩ := runOnModule_eq_ok ran
  refine ⟨mode, settings, loaded, set, ?_⟩
  cases mode with
  | preprocessing targets =>
      simp only [runBranch] at branch
      split at branch <;> cases branch
  | distance tables monitor =>
      cases branch
      exact ⟨rfl, rfl⟩
  | plain =>
      cases branch
      exact ⟨rfl, rfl⟩

/-- A run fails only at its checks: the loaders, the environment, or creating `dot-files`
for preprocessing. The distance branch itself never fails. -/
theorem runOnModule_eq_error {dis : List Char → Int} {mapSize : Nat} {opts : Options}
    {env : Environment} {host : Host} {M : List Function} {e : Failure}
    (failed : runOnModule dis mapSize opts env host M = .error e) :
    loadMode dis opts host = .error e ∨
      (∃ mode, loadMode dis opts host = .ok mode ∧ settingsOf env = .error e) ∨
      ∃ targets settings, loadMode dis opts host = .ok (.preprocessing targets) ∧
        settingsOf env = .ok settings ∧
        host.createDirectoryFails (opts.outDirectory ++ "/dot-files".toList) ∧
        e = .fatal ("Could not create directory " ++
          String.mk (opts.outDirectory ++ "/dot-files".toList) ++ ".") := by
  obtain loaded | ⟨mode, loaded, failed⟩ := bind_eq_error failed
  · exact .inl loaded
  obtain set | ⟨settings, set, failed⟩ := bind_eq_error failed
  · exact .inr (.inl ⟨mode, loaded, set⟩)
  cases mode with
  | preprocessing targets =>
      simp only [runBranch] at failed
      split at failed
      · cases failed
        exact .inr (.inr ⟨targets, settings, loaded, set, ‹_›, rfl⟩)
      · cases failed
  | distance => cases failed
  | plain => cases failed

end AflgoPass
