/-
# AflgoPass.Config — options, environment and mode

The first half of `runOnModule` decides what the pass will do and fails fatally
on bad input. `loadMode` embeds that half up to the banner: the exclusive
choice between `-targets` and `-distance`, the output-directory check, and the
loaders of `AflgoPass.Loaders`. `settingsOf` embeds the three environment
checks that follow it. Their failures are `Failure.fatal` with `FATAL`'s text,
or `Failure.uncaught` for an exception `std::stoi` throws.

`Mode` makes the flags `is_aflgo_preprocessing`, `is_aflgo`, `is_RERS_fuzzing`,
`is_protocol_fuzzing` and `is_ltl_fuzzing` one value: event maps exist only in
distance mode, and when both event files load, the RERS map is the active one.

`loadMonitor_eq_some` says which event map a successful load makes active, and
`ratioOf_ok` that every accepted ratio lies in `1..100`, the range both ratio
checks enforce, and that the default passes its own check. The failures name
what they check: `loadMode_error` says the loaders fail only at a given option,
with that check's message (a missing distance file by its path, a RERS file by
the exception `std::stoi` threw, `loadMonitor_error`), and `settingsOf_error` that
a failed environment check was at a variable that is set, with its message.
-/
import AflgoPass.Loaders

namespace AflgoPass

set_option autoImplicit false

/-- The pass's `cl::opt` options; an empty string is an option not given. -/
structure Options where
  distanceFile : List Char
  targetsFile : List Char
  outDirectory : List Char
  reventsFile : List Char
  peventsFile : List Char

/-- What `getenv` returns for the variables that steer instrumentation. The banner's
variables (`AFL_QUIET`, `AFL_HARDEN`, ...) change no output and are left out. -/
structure Environment where
  aflInstRatio : Option (List Char)
  aflgoSelective : Option (List Char)
  aflgoInstRatio : Option (List Char)

/-- The pass's view of the system it runs on. -/
structure Host where
  /-- The lines `std::getline` reads from a file; `none` when the stream does not open. -/
  readLines : List Char → Option (List (List Char))
  /-- Whether `sys::fs::create_directory` returns an error for a path. -/
  createDirectoryFails : List Char → Bool
  /-- The successive values of `random()`. -/
  random : Nat → Nat

/-- How the pass ends early: `FATAL` (message, then exit), or an exception no one catches. -/
inductive Failure where
  | fatal (message : String)
  | uncaught (exception : String)
deriving DecidableEq, Repr

/-- The active event map of monitoring mode. -/
inductive Monitor where
  | automaton (locToRevt : StdMap Int)
  | protocol (locToPevt : StdMap (List Char))

/-- What the loaders decided: preprocessing with the target lines, distance
instrumentation with the distance tables and the active event map, or neither
file given (plain coverage instrumentation). -/
inductive Mode where
  | preprocessing (targets : List (List Char))
  | distance (tables : DistanceTables) (monitor : Option Monitor)
  | plain

/-- The event files' part of the distance branch: the RERS file (when given and
readable) is loaded first and its `std::stoi` may throw; the RERS map is the
active one whenever it loaded, the protocol map otherwise. -/
def loadMonitor (opts : Options) (host : Host) : Except Failure (Option Monitor) := do
  let revents ←
    match (if opts.reventsFile = [] then none else host.readLines opts.reventsFile) with
    | some lines => (loadREvents lines).mapError Failure.uncaught |>.map some
    | none => pure none
  let pevents :=
    (if opts.peventsFile = [] then none else host.readLines opts.peventsFile).map loadPEvents
  pure <| match revents, pevents with
    | some locToRevt, _ => some (.automaton locToRevt)
    | none, some locToPevt => some (.protocol locToPevt)
    | none, none => none

/-- The map a successful `loadMonitor` makes active: the RERS map when the RERS file is
given and readable, else the protocol map. -/
theorem loadMonitor_eq_some {opts : Options} {host : Host} {mon : Monitor}
    (loaded : loadMonitor opts host = .ok (some mon)) :
    (∃ lines revt,
        (if opts.reventsFile = [] then none else host.readLines opts.reventsFile) = some lines ∧
          loadREvents lines = .ok revt ∧ mon = .automaton revt) ∨
      ((if opts.reventsFile = [] then none else host.readLines opts.reventsFile) = none ∧
        ∃ lines, (if opts.peventsFile = [] then none else host.readLines opts.peventsFile) =
          some lines ∧ mon = .protocol (loadPEvents lines)) := by
  unfold loadMonitor at loaded
  generalize (if opts.reventsFile = [] then none else host.readLines opts.reventsFile) = revents
    at loaded ⊢
  generalize (if opts.peventsFile = [] then none else host.readLines opts.peventsFile) = pevents
    at loaded ⊢
  cases revents with
  | some lines =>
      cases parsed : loadREvents lines with
      | error e => simp [parsed, Except.mapError, Except.map, bind, Except.bind] at loaded
      | ok revt =>
          simp [parsed, Except.mapError, Except.map, bind, Except.bind, pure, Except.pure] at loaded
          exact Or.inl ⟨lines, revt, rfl, parsed, loaded.symm⟩
  | none =>
      cases pevents with
      | none => simp [bind, Except.bind, pure, Except.pure] at loaded
      | some lines =>
          simp [bind, Except.bind, pure, Except.pure] at loaded
          exact Or.inr ⟨rfl, lines, rfl, loaded.symm⟩

/-- `runOnModule` up to the banner. An unreadable target file reads as no lines. -/
def loadMode (dis : List Char → Int) (opts : Options) (host : Host) : Except Failure Mode :=
  if opts.targetsFile ≠ [] ∧ opts.distanceFile ≠ [] then
    .error (.fatal "Cannot specify both '-targets' and '-distance'!")
  else if opts.targetsFile ≠ [] then
    if opts.outDirectory = [] then .error (.fatal "Provide output directory '-outdir <directory>'")
    else .ok (.preprocessing ((host.readLines opts.targetsFile).getD []))
  else if opts.distanceFile ≠ [] then
    match host.readLines opts.distanceFile with
    | some lines => (loadMonitor opts host).map (.distance (loadDistance dis lines))
    | none => .error (.fatal ("Unable to find " ++ String.mk opts.distanceFile ++ "."))
  else .ok .plain

/-- A failed monitor load is an exception `std::stoi` throws on the RERS file. -/
theorem loadMonitor_error {opts : Options} {host : Host} {e : Failure}
    (failed : loadMonitor opts host = .error e) :
    opts.reventsFile ≠ [] ∧ (e = .uncaught "std::invalid_argument" ∨ e = .uncaught "std::out_of_range") := by
  unfold loadMonitor at failed
  generalize read : (if opts.reventsFile = [] then none else host.readLines opts.reventsFile) = revents
    at failed
  cases revents with
  | some lines =>
      cases loaded : loadREvents lines with
      | error ex =>
          simp only [loaded, Except.mapError, Except.map, bind, Except.bind] at failed
          cases failed
          refine ⟨fun none => by simp [none] at read, ?_⟩
          rcases foldlM_stoi_thrown lines _ loaded with rfl | rfl
          exacts [.inl rfl, .inr rfl]
      | ok events => simp [loaded, Except.mapError, Except.map, bind, Except.bind, pure, Except.pure] at failed
  | none => simp [bind, Except.bind, pure, Except.pure] at failed

/-- The loaders fail only at a check whose option is given, with that check's message. -/
theorem loadMode_error {dis : List Char → Int} {opts : Options} {host : Host} {e : Failure}
    (failed : loadMode dis opts host = .error e) :
    (opts.targetsFile ≠ [] ∧ opts.distanceFile ≠ [] ∧
        e = .fatal "Cannot specify both '-targets' and '-distance'!") ∨
      (opts.targetsFile ≠ [] ∧ opts.outDirectory = [] ∧
        e = .fatal "Provide output directory '-outdir <directory>'") ∨
      (opts.distanceFile ≠ [] ∧ host.readLines opts.distanceFile = none ∧
        e = .fatal ("Unable to find " ++ String.mk opts.distanceFile ++ ".")) ∨
      (opts.distanceFile ≠ [] ∧ opts.reventsFile ≠ [] ∧
        (e = .uncaught "std::invalid_argument" ∨ e = .uncaught "std::out_of_range")) := by
  unfold loadMode at failed
  split_ifs at failed with both targets outdir distance
  · cases failed
    exact .inl ⟨both.1, both.2, rfl⟩
  · cases failed
    exact .inr (.inl ⟨targets, outdir, rfl⟩)
  · split at failed
    · cases loaded : loadMonitor opts host with
      | error e' =>
          simp only [loaded, Except.map] at failed
          cases failed
          exact .inr (.inr (.inr ⟨distance, loadMonitor_error loaded⟩))
      | ok mon => simp [loaded, Except.map] at failed
    · cases failed
      exact .inr (.inr (.inl ⟨distance, ‹_›, rfl⟩))

/-- Distance mode needs `-distance`. -/
theorem loadMode_distance {dis : List Char → Int} {opts : Options} {host : Host}
    {tables : DistanceTables} {mon : Option Monitor}
    (loaded : loadMode dis opts host = .ok (.distance tables mon)) : opts.distanceFile ≠ [] := by
  intro empty
  unfold loadMode at loaded
  simp only [empty, ne_eq, not_true_eq_false, and_false, if_false] at loaded
  split_ifs at loaded <;> cases loaded

/-! ## The environment -/

/-- The three values the environment checks produce. -/
structure Settings where
  instRatio : Nat
  isSelective : Nat
  dinstRatio : Nat

/-- The check `AFL_INST_RATIO` and `AFLGO_INST_RATIO` share: `100` when unset, else
what `sscanf("%u")` reads, fatal when it reads nothing, `0`, or more than `100`. -/
def ratioOf (message : String) : Option (List Char) → Except Failure Nat
  | none => .ok 100
  | some text =>
      match scanUnsigned text with
      | some ratio => if ratio = 0 ∨ 100 < ratio then .error (.fatal message) else .ok ratio
      | none => .error (.fatal message)

def instRatio (env : Environment) : Except Failure Nat :=
  ratioOf "Bad value of AFL_INST_RATIO (must be between 1 and 100)" env.aflInstRatio

def dinstRatio (env : Environment) : Except Failure Nat :=
  ratioOf "Bad value of AFLGO_INST_RATIO (must be between 1 and 100)" env.aflgoInstRatio

/-- `AFLGO_SELECTIVE`: `0` when unset, fatal only when `sscanf("%u")` reads nothing;
any value it reads is kept, and every non-zero one turns selective mode on. -/
def isSelective (env : Environment) : Except Failure Nat :=
  match env.aflgoSelective with
  | none => .ok 0
  | some text =>
      match scanUnsigned text with
      | some flag => .ok flag
      | none => .error (.fatal "Bad value of AFLGO_SELECTIVE (must be 0 or 1)")

/-- The three checks, in the order the pass makes them. -/
def settingsOf (env : Environment) : Except Failure Settings := do
  let instRatio ← instRatio env
  let isSelective ← isSelective env
  let dinstRatio ← dinstRatio env
  pure ⟨instRatio, isSelective, dinstRatio⟩

/-- An accepted ratio lies in `1..100`; the default is one. -/
theorem ratioOf_ok {message : String} :
    ∀ {text : Option (List Char)} {ratio : Nat}, ratioOf message text = .ok ratio →
      1 ≤ ratio ∧ ratio ≤ 100
  | none, _, accepted => by cases accepted; decide
  | some text, ratio, accepted => by
      cases scanned : scanUnsigned text with
      | none => simp [ratioOf, scanned] at accepted
      | some read =>
          simp only [ratioOf, scanned] at accepted
          split at accepted
          · cases accepted
          · cases accepted; omega

/-- A rejected ratio was set, and fails with its check's own message. -/
theorem ratioOf_error {message : String} {text : Option (List Char)} {e : Failure}
    (rejected : ratioOf message text = .error e) : text ≠ none ∧ e = .fatal message := by
  cases text with
  | none => cases rejected
  | some text =>
      refine ⟨Option.some_ne_none text, ?_⟩
      simp only [ratioOf] at rejected
      split at rejected
      · split at rejected <;> cases rejected
        rfl
      · cases rejected
        rfl

/-- A rejected `AFLGO_SELECTIVE` was set, and fails with its check's message. -/
theorem isSelective_error {env : Environment} {e : Failure} (rejected : isSelective env = .error e) :
    env.aflgoSelective ≠ none ∧ e = .fatal "Bad value of AFLGO_SELECTIVE (must be 0 or 1)" := by
  unfold isSelective at rejected
  cases set : env.aflgoSelective with
  | none => simp [set] at rejected
  | some text =>
      simp only [set] at rejected
      refine ⟨Option.some_ne_none text, ?_⟩
      split at rejected <;> cases rejected
      rfl

/-- A `do` block that succeeded succeeded at its first step. -/
theorem bind_eq_ok {ε α β : Type} {x : Except ε α} {f : α → Except ε β} {b : β}
    (ran : x >>= f = .ok b) : ∃ a, x = .ok a ∧ f a = .ok b := by
  cases x with
  | error => cases ran
  | ok a => exact ⟨a, rfl, ran⟩

/-- A failed `do` block failed at its first step or at a later one. -/
theorem bind_eq_error {ε α β : Type} {x : Except ε α} {f : α → Except ε β} {e : ε}
    (failed : x >>= f = .error e) : x = .error e ∨ ∃ a, x = .ok a ∧ f a = .error e := by
  cases x with
  | error => exact .inl (by cases failed; rfl)
  | ok a => exact .inr ⟨a, rfl, failed⟩

/-- Accepted settings are what each of the three checks accepted. -/
theorem settingsOf_eq_ok {env : Environment} {settings : Settings}
    (accepted : settingsOf env = .ok settings) :
    instRatio env = .ok settings.instRatio ∧ isSelective env = .ok settings.isSelective ∧
      dinstRatio env = .ok settings.dinstRatio := by
  obtain ⟨_, inst, accepted⟩ := bind_eq_ok accepted
  obtain ⟨_, selective, accepted⟩ := bind_eq_ok accepted
  obtain ⟨_, dinst, accepted⟩ := bind_eq_ok accepted
  cases accepted
  exact ⟨inst, selective, dinst⟩

/-- The environment checks fail only at a variable that is set, with its own message. -/
theorem settingsOf_error {env : Environment} {e : Failure} (failed : settingsOf env = .error e) :
    (env.aflInstRatio ≠ none ∧ e = .fatal "Bad value of AFL_INST_RATIO (must be between 1 and 100)") ∨
      (env.aflgoSelective ≠ none ∧ e = .fatal "Bad value of AFLGO_SELECTIVE (must be 0 or 1)") ∨
      (env.aflgoInstRatio ≠ none ∧
        e = .fatal "Bad value of AFLGO_INST_RATIO (must be between 1 and 100)") := by
  obtain inst | ⟨_, -, failed⟩ := bind_eq_error failed
  · exact .inl (ratioOf_error inst)
  obtain selective | ⟨_, -, failed⟩ := bind_eq_error failed
  · exact .inr (.inl (isSelective_error selective))
  obtain dinst | ⟨_, -, failed⟩ := bind_eq_error failed
  · exact .inr (.inr (ratioOf_error dinst))
  cases failed

end AflgoPass
