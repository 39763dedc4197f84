/-
# AflgoPass.Identity — the block identity of the two phases

A block's identity is derived twice, by two loops of two compiler runs that
share nothing but the source: Phase 1 names the block in `BBnames.txt`, and
Phase 2 looks the same name up in the distance file. The two loops test and
strip in different orders:

* Phase 1 strips the directory first, then rejects an empty basename, a line 0,
  or a basename starting with `"/usr/"` — a test a stripped name never passes;
* Phase 2 rejects an empty (unstripped) file or a line 0, then strips.

`phase1Identity_eq_phase2Identity`: on a block where no located file ends in a
separator, the two identities agree. `trailing_separator_splits_identity`: a
file that does end in one (a file named `x\` is legal) gets no Phase-1 name but
the Phase-2 name `":7"`. `usr_location_named`: the `"/usr/"` filter is dead, so
a block located only under `/usr/` is named and can make its function a target.

The distance file links the identity to the loader: `identity_line_known` says
that a line `b:l,t` is filed under the identity `b:l` when the basename `b`
holds no `,`, so a block with that identity is known in Phase 2;
`comma_basename_misfiled` shows a basename `a,b.c`, whose line `line.find(",")`
files under `a`. `ledger_names_found` follows a block through both runs: with a
distance file whose names come from `BBnames.txt`, in whatever selection and order,
Phase 2 looks the block up under its Phase-1 name, keeps it exactly when the file
lists that name (or the gate is off), and reads the distance of the name's first line.
-/
import AflgoPass.Ledgers
import AflgoPass.Instrument

namespace AflgoPass

set_option autoImplicit false

/-- Per instruction, the two filters agree unless the file ends in a separator. -/
theorem phase1Name_eq_locName {I : Instruction}
    (clean : ∀ loc, I.loc = some loc → basename loc.file = [] → loc.file = []) :
    phase1Name I.loc = locName I := by
  cases hloc : I.loc with
  | none => simp [phase1Name, passes, locName, getDebugLoc, hloc]
  | some loc =>
      have iff : basename loc.file = [] ↔ loc.file = [] :=
        ⟨clean loc hloc, fun empty => by simp [empty]⟩
      by_cases empty : loc.file = [] <;> by_cases zero : loc.line = 0 <;>
        simp_all [phase1Name, passes, locName, getDebugLoc, nameOf]

/-- Where no located file ends in `/` or `\`, both phases give a block the same identity. -/
theorem phase1Identity_eq_phase2Identity {BB : BasicBlock}
    (clean : ∀ I ∈ BB, ∀ loc, I.loc = some loc → basename loc.file = [] → loc.file = []) :
    phase1Identity BB = phase2Identity BB := by
  induction BB with
  | nil => rfl
  | cons I rest ih =>
      simp only [phase1Identity, phase2Identity, List.findSome?_cons] at ih ⊢
      rw [phase1Name_eq_locName (clean I (List.mem_cons_self I rest)),
        ih fun J mem => clean J (List.mem_cons_of_mem I mem)]

/-- A block of a source file `src/x\` at line 7. -/
def backslashBlock : BasicBlock := [⟨.other, some ⟨"src/x\\".toList, 7⟩⟩]

theorem phase1Identity_eq_phase2Identity_of_plain_path :
    phase1Identity [⟨.other, some ⟨"src/a.c".toList, 7⟩⟩] =
      phase2Identity [⟨.other, some ⟨"src/a.c".toList, 7⟩⟩] :=
  phase1Identity_eq_phase2Identity fun I mem loc hloc => by
    simp only [List.mem_singleton] at mem
    subst mem
    cases hloc
    decide

/-- At a file ending in a separator, Phase 1 names nothing and Phase 2 names `":7"`. -/
theorem trailing_separator_splits_identity :
    (preprocessModule "out".toList [] [⟨"f".toList, 0, [backslashBlock]⟩]).bbnames = [] ∧
      phase2Identity backslashBlock = some ":7".toList := by
  decide

/-- A function whose only block is located in `/usr/include/stdio.h`, line 5. -/
def usrFunction : Function := ⟨"f".toList, 0, [[⟨.other, some ⟨"/usr/include/stdio.h".toList, 5⟩⟩]]⟩

/-- The `"/usr/"` test never fires: the block is named `stdio.h:5:` and, with the
target `stdio.h:5`, its function is listed in `Ftargets.txt`. -/
theorem usr_location_named :
    preprocessModule "out".toList ["stdio.h:5".toList] [usrFunction] =
      ⟨["stdio.h:5:".toList], [], ["f".toList], ["f".toList], ["out/dot-files/cfg.f.dot".toList]⟩ := by
  decide

/-! ## The identity in the distance file -/

/-- A Phase-2 identity `s = b:l` whose basename holds no `,` is the key of its distance line
`s,t`: the line is filed under `s`, `s` is known and holds the distance of the first line
naming it, and a block with identity `s` is found known in distance mode. -/
theorem identity_line_known (dis : List Char → Int) (b : List Char) (l : Nat) (s t : List Char)
    (pre post : List (List Char)) (tables : DistanceTables) (identity : s = b ++ ':' :: toString l)
    (noComma : ',' ∉ b) (loaded : tables = loadDistance dis (pre ++ (s ++ ',' :: t) :: post)) :
    distanceEntry dis (s ++ ',' :: t) = (s, dis t) ∧ s ∈ tables.basicBlocks ∧
      tables.bbToDis.find s = some (((pre.map (distanceEntry dis)).lookup s).getD (dis t)) ∧
      ∀ (c : Phase2) (BB : BasicBlock), c.tables = some tables → phase2Identity BB = some s →
        bbNameOf c BB = s ∧ selectiveSkip c (bbNameOf c BB) = false := by
  have clean : ',' ∉ s := by
    simp only [identity, List.mem_append, List.mem_cons, not_or]
    exact ⟨noComma, by decide, comma_not_mem_toString l⟩
  subst loaded
  obtain ⟨known, found⟩ := loadDistance_filed dis t pre post clean
  refine ⟨distanceEntry_append dis t clean, known, found, fun c BB distanceMode named => ?_⟩
  have name : bbNameOf c BB = s := by simp [bbNameOf, distanceMode, named]
  exact ⟨name, by simp [selectiveSkip, distanceMode, name, known]⟩

theorem identity_line_known_of_sample :
    "foo.c:10".toList = "foo.c".toList ++ ':' :: toString 10 ∧ ',' ∉ "foo.c".toList ∧
      loadDistance (fun _ => 37) ["foo.c:10,0.37".toList] =
        loadDistance (fun _ => 37) ([] ++ ("foo.c:10".toList ++ ',' :: "0.37".toList) :: []) ∧
      distanceEntry (fun _ => 37) ("foo.c:10".toList ++ ',' :: "0.37".toList) =
        ("foo.c:10".toList, 37) ∧
      "foo.c:10".toList ∈ (loadDistance (fun _ => 37) ["foo.c:10,0.37".toList]).basicBlocks ∧
      (loadDistance (fun _ => 37) ["foo.c:10,0.37".toList]).bbToDis.find "foo.c:10".toList =
        some (((([] : List (List Char)).map (distanceEntry fun _ => 37)).lookup
          "foo.c:10".toList).getD 37) ∧
      ∀ (c : Phase2) (BB : BasicBlock),
        c.tables = some (loadDistance (fun _ => 37) ["foo.c:10,0.37".toList]) →
        phase2Identity BB = some "foo.c:10".toList →
          bbNameOf c BB = "foo.c:10".toList ∧ selectiveSkip c (bbNameOf c BB) = false := by
  have identity : "foo.c:10".toList = "foo.c".toList ++ ':' :: toString 10 := by decide
  have clean : ',' ∉ "foo.c".toList := by decide
  have loaded : loadDistance (fun _ => 37) ["foo.c:10,0.37".toList] =
      loadDistance (fun _ => 37) ([] ++ ("foo.c:10".toList ++ ',' :: "0.37".toList) :: []) := rfl
  exact ⟨identity, clean, loaded, identity_line_known (fun _ => 37) "foo.c".toList 10
    "foo.c:10".toList "0.37".toList [] [] _ identity clean loaded⟩

/-- A block of a source file `a,b.c` at line 1: a legal basename that holds a `,`. -/
def commaBlock : BasicBlock := [⟨.other, some ⟨"a,b.c".toList, 1⟩⟩]

/-- The distance file of `commaBlock`'s identity. -/
def commaTables : DistanceTables := loadDistance (fun _ => 37) ["a,b.c:1,0.37".toList]

/-- Distance mode on `commaTables` with `AFLGO_SELECTIVE=1`. -/
def commaConfig : Phase2 := ⟨65536, fun _ => 0, ⟨100, 1, 100⟩, some commaTables, none⟩

/-- `line.find(",")` stops at the `,` of the basename: the line of `a,b.c:1` is filed under
`a`, the identity is unknown, and with `AFLGO_SELECTIVE=1` its block is skipped. -/
theorem comma_basename_misfiled :
    phase2Identity commaBlock = some "a,b.c:1".toList ∧
      commaTables.basicBlocks = ["a".toList] ∧ commaTables.bbToDis.find "a,b.c:1".toList = none ∧
      bbNameOf commaConfig commaBlock ∉ commaTables.basicBlocks ∧
      selectiveSkip commaConfig (bbNameOf commaConfig commaBlock) = true := by
  decide


/-! ## From `BBnames.txt` to Phase 2

The distance calculator reads `BBnames.txt` and writes a distance line `name,d` for the
blocks it reaches the targets from; which blocks, and in which order, is its own affair.
`ledger_names_found` takes any such file and follows a block of the module through both
runs of the pass. -/

/-- A Phase-1 identity holds no `,` when no basename of its block does. -/
theorem comma_not_mem_phase1Identity {BB : BasicBlock} {name : List Char}
    (clean : ∀ I ∈ BB, ∀ loc, I.loc = some loc → ',' ∉ basename loc.file)
    (identity : phase1Identity BB = some name) : ',' ∉ name := by
  obtain ⟨I, mem, named⟩ := List.exists_of_findSome?_eq_some identity
  cases hloc : I.loc with
  | none => simp [hloc, phase1Name, passes] at named
  | some loc =>
      rw [hloc, phase1Name] at named
      split at named
      · cases named
        simp only [nameOf, List.mem_append, List.mem_cons, not_or]
        exact ⟨clean I mem loc hloc, by decide, comma_not_mem_toString loc.line⟩
      · cases named

/-- A `BBnames.txt` line `name:` has no `,` in `name` when no basename of the module does. -/
theorem comma_not_mem_of_bbnames {outDirectory : List Char} {targets : List (List Char)}
    {M : List Function} (clean : ∀ F ∈ M, ∀ BB ∈ F.blocks, ∀ I ∈ BB, ∀ loc, I.loc = some loc →
      ',' ∉ basename loc.file) {name : List Char}
    (listed : name ++ [':'] ∈ (preprocessModule outDirectory targets M).bbnames) : ',' ∉ name := by
  obtain ⟨F, memF, BB, memBB, name', identity, same⟩ := mem_bbnames listed
  rw [List.append_cancel_right same]
  exact comma_not_mem_phase1Identity (clean F memF BB memBB) identity

theorem findSome?_congr {α β : Type} {f g : α → Option β} :
    ∀ {l : List α}, (∀ a ∈ l, f a = g a) → l.findSome? f = l.findSome? g
  | [], _ => rfl
  | a :: l, agree => by
      rw [List.findSome?_cons, List.findSome?_cons, agree a (List.mem_cons_self a l),
        findSome?_congr fun b mem => agree b (List.mem_cons_of_mem a mem)]

/-- Phase 1 and Phase 2 over one module, joined by a distance file whose names come from
`BBnames.txt` (each `name:` line read without its `:`). Where no located file ends in a
separator and no basename holds a `,`, a block with the Phase-1 identity `name` is looked
up under `name` in Phase 2; the selective gate drops it exactly when `AFLGO_SELECTIVE` is on
and the file has no line for `name`; and the distance lookup draws once for a listed block,
then gives the distance of the first line for `name` when the draw passes. -/
theorem ledger_names_found (outDirectory : List Char) (targets : List (List Char)) (M : List Function)
    (clean : ∀ F ∈ M, ∀ BB ∈ F.blocks, ∀ I ∈ BB, ∀ loc, I.loc = some loc →
      (basename loc.file = [] → loc.file = []) ∧ ',' ∉ basename loc.file)
    (dis : List Char → Int) (entries : List (List Char × List Char))
    (fromLedger : ∀ e ∈ entries, e.1 ++ [':'] ∈ (preprocessModule outDirectory targets M).bbnames)
    (c : Phase2) (distanceMode : c.tables = some (loadDistance dis (entries.map fun e => e.1 ++ ',' :: e.2))) :
    ∀ F ∈ M, ∀ BB ∈ F.blocks, ∀ name, phase1Identity BB = some name →
      bbNameOf c BB = name ∧
      (selectiveSkip c name = true ↔ c.settings.isSelective ≠ 0 ∧ name ∉ entries.map Prod.fst) ∧
      ∀ st, findDistance c name st =
        if name ∈ entries.map Prod.fst then
          (if c.random st.draws % 100 < c.settings.dinstRatio then ((entries.lookup name).map dis).getD (-1)
            else -1, { st with draws := st.draws + 1 })
        else (-1, st) := by
  obtain ⟨known, found⟩ := loadDistance_names dis fun e mem => comma_not_mem_of_bbnames
    (fun F memF BB memBB I memI loc hloc => (clean F memF BB memBB I memI loc hloc).2) (fromLedger e mem)
  intro F memF BB memBB name identity
  have same : phase2Identity BB = some name := by
    rw [← identity, phase1Identity, phase2Identity]
    exact findSome?_congr fun I memI => (phase1Name_eq_locName fun loc hloc =>
      (clean F memF BB memBB I memI loc hloc).1).symm
  have named : name ≠ [] := phase2Identity_ne_nil same
  refine ⟨by simp [bbNameOf, distanceMode, same],
    by simp [selectiveSkip, distanceMode, known, named, and_comm], fun st => ?_⟩
  simp only [findDistance, distanceMode, known, named, StdMap.scan_eq_find, found, aflR]
  by_cases listed : name ∈ entries.map Prod.fst <;>
    by_cases passed : c.random st.draws % 100 < c.settings.dinstRatio <;> simp [listed, named, passed]

/-- A module of one function with two located blocks, and a distance file listing the
second. -/
def ledgerModule : List Function :=
  [⟨"f".toList, 0, [[⟨.other, some ⟨"src/a.c".toList, 1⟩⟩], [⟨.other, some ⟨"src/a.c".toList, 2⟩⟩]]⟩]

def ledgerEntries : List (List Char × List Char) := [("a.c:2".toList, "1.5".toList)]

def ledgerConfig : Phase2 :=
  ⟨65536, fun _ => 0, ⟨100, 1, 100⟩,
    some (loadDistance (fun _ => 150) (ledgerEntries.map fun e => e.1 ++ ',' :: e.2)), none⟩

theorem ledger_names_found_of_sample :
    (∀ F ∈ ledgerModule, ∀ BB ∈ F.blocks, ∀ I ∈ BB, ∀ loc, I.loc = some loc →
      (basename loc.file = [] → loc.file = []) ∧ ',' ∉ basename loc.file) ∧
    (∀ e ∈ ledgerEntries, e.1 ++ [':'] ∈ (preprocessModule "out".toList [] ledgerModule).bbnames) ∧
    ledgerConfig.tables =
      some (loadDistance (fun _ => 150) (ledgerEntries.map fun e => e.1 ++ ',' :: e.2)) ∧
    ∀ F ∈ ledgerModule, ∀ BB ∈ F.blocks, ∀ name, phase1Identity BB = some name →
      bbNameOf ledgerConfig BB = name ∧
      (selectiveSkip ledgerConfig name = true ↔
        ledgerConfig.settings.isSelective ≠ 0 ∧ name ∉ ledgerEntries.map Prod.fst) ∧
      ∀ st, findDistance ledgerConfig name st =
        if name ∈ ledgerEntries.map Prod.fst then
          (if ledgerConfig.random st.draws % 100 < ledgerConfig.settings.dinstRatio then
              ((ledgerEntries.lookup name).map fun _ => 150).getD (-1)
            else -1, { st with draws := st.draws + 1 })
        else (-1, st) := by
  have clean : ∀ F ∈ ledgerModule, ∀ BB ∈ F.blocks, ∀ I ∈ BB, ∀ loc, I.loc = some loc →
      (basename loc.file = [] → loc.file = []) ∧ ',' ∉ basename loc.file := by
    simp only [ledgerModule, List.mem_singleton, List.mem_cons, forall_eq_or_imp, forall_eq,
      Option.some.injEq, forall_eq', List.not_mem_nil, false_imp_iff, imp_true_iff, and_true]
    decide
  have fromLedger : ∀ e ∈ ledgerEntries,
      e.1 ++ [':'] ∈ (preprocessModule "out".toList [] ledgerModule).bbnames := by decide
  exact ⟨clean, fromLedger, rfl, ledger_names_found _ _ _ clean _ _ fromLedger _ rfl⟩

end AflgoPass
