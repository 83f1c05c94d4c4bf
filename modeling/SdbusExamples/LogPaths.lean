import SdbusExamples.ComponentPaths

namespace SdbusExamples.LogPaths

open ComponentPaths

abbrev Bytes := List UInt8

def slashByte : UInt8 := 47

def dot : Bytes := [46]

def dotdot : Bytes := [46, 46]

/-- std::string_view::find of one byte, from `pos` on. -/
def findFrom (sv : Bytes) (byte : UInt8) (pos : Nat) : Option Nat :=
  ((sv.drop pos).idxOf? byte).map (pos + ·)

theorem le_of_findFrom {sv : Bytes} {byte : UInt8} {pos slash : Nat}
    (h : findFrom sv byte pos = some slash) : pos ≤ slash := by
  obtain ⟨i, -, rfl⟩ := Option.map_eq_some_iff.1 h
  exact Nat.le_add_right pos i

/-- What `substr` takes at `pos`: up to the slash, or to the end without one. -/
def componentAt (sv : Bytes) (pos : Nat) : Option Nat → Bytes
  | some slash => (sv.drop pos).take (slash - pos)
  | none => sv.drop pos

def noTraversal (sv : Bytes) (pos : Nat) : Bool :=
  if pos < sv.length then
    match h : findFrom sv slashByte pos with
    | some slash =>
        if componentAt sv pos (some slash) = dotdot then false else noTraversal sv (slash + 1)
    | none => if componentAt sv pos none = dotdot then false else true
  else true
termination_by sv.length - pos
decreasing_by
  have := le_of_findFrom h
  omega

def isLogFilePathSafe (path : Bytes) : Bool × Option String :=
  if path = [] then (true, none)
  else if 0 ∈ path then (false, some "LOG_FILE rejected: contains null byte")
  else if 10 ∈ path ∨ 13 ∈ path then
    (false, some "LOG_FILE rejected: contains newline character")
  else if path.head? = some 45 then (false, some "LOG_FILE rejected: starts with '-'")
  else if noTraversal path 0 then (true, none)
  else (false, some "LOG_FILE rejected: path traversal component '..' detected")

/-- `logFile` is what getenv() finds. -/
def getLogFilePathFromEnv (logFile : Option Bytes) : Bytes :=
  match logFile with
  | none => []
  | some path => if (isLogFilePathSafe path).1 then path else []

theorem noTraversal_eq (sv : Bytes) (pos : Nat) :
    noTraversal sv pos = true ↔ dotdot ∉ (sv.drop pos).splitOn slashByte := by
  fun_induction noTraversal sv pos with
  | case1 pos hlt slash hslash hcomp =>
      -- the component up to the slash is `..`
      obtain ⟨i, hi, rfl⟩ := Option.map_eq_some_iff.1 hslash
      rw [componentAt, Nat.add_sub_cancel_left] at hcomp
      simp [splitOn_of_idxOf?_some hi, hcomp]
  | case2 pos hlt slash hslash hcomp ih =>
      obtain ⟨i, hi, rfl⟩ := Option.map_eq_some_iff.1 hslash
      rw [componentAt, Nat.add_sub_cancel_left] at hcomp
      rw [ih, splitOn_of_idxOf?_some hi, List.drop_drop, List.mem_cons, not_or,
        and_iff_right (Ne.symm hcomp), Nat.add_assoc]
  | case3 pos hlt hnone hcomp =>
      rw [componentAt] at hcomp
      rw [findFrom, Option.map_eq_none_iff] at hnone
      rw [splitOn_of_idxOf?_none hnone, hcomp]
      simp
  | case4 pos hlt hnone hcomp =>
      rw [componentAt] at hcomp
      rw [findFrom, Option.map_eq_none_iff] at hnone
      simp [splitOn_of_idxOf?_none hnone, Ne.symm hcomp]
  | case5 pos hge =>
      rw [List.drop_eq_nil_of_le (Nat.le_of_not_lt hge)]
      decide

theorem isLogFilePathSafe_warns (path : Bytes) :
    (isLogFilePathSafe path).2.isNone = (isLogFilePathSafe path).1 := by
  unfold isLogFilePathSafe
  repeat' split
  all_goals rfl

theorem isLogFilePathSafe_iff (path : Bytes) :
    (isLogFilePathSafe path).1 = true ↔
      path = [] ∨ (0 ∉ path ∧ 10 ∉ path ∧ 13 ∉ path ∧ path.head? ≠ some 45 ∧
        dotdot ∉ path.splitOn slashByte) := by
  have htraversal := noTraversal_eq path 0
  rw [List.drop_zero] at htraversal
  rw [← htraversal, isLogFilePathSafe]
  split
  case isTrue hempty => simp [hempty]
  case isFalse hne =>
    split
    case isTrue hnul => simp [hne, hnul]
    case isFalse hnul =>
      split
      case isTrue hline => simp [hne]; tauto
      case isFalse hline =>
        split
        case isTrue hdash => simp [hne, hdash]
        case isFalse hdash =>
          rw [not_or] at hline
          cases noTraversal path 0 <;> simp [hne, hnul, hline, hdash]

theorem getLogFilePathFromEnv_safe (logFile : Option Bytes) :
    (isLogFilePathSafe (getLogFilePathFromEnv logFile)).1 = true := by
  cases logFile with
  | none => rfl
  | some path =>
      rw [getLogFilePathFromEnv]
      split
      · assumption
      · rfl

def reached (base : List Bytes) (path : Bytes) (steps : Nat) : List Bytes :=
  resolve dot dotdot base ((path.splitOn slashByte).take steps)

/-- What is accepted is what splits into components none of which is `..`, and
no component of an accepted relative path leads out of the base directory. -/
theorem logPath_validation (path : Bytes) :
    ((isLogFilePathSafe path).1 = true ↔
      path = [] ∨ (0 ∉ path ∧ 10 ∉ path ∧ 13 ∉ path ∧ path.head? ≠ some 45 ∧
        dotdot ∉ path.splitOn slashByte)) ∧
    ((isLogFilePathSafe path).1 = true → path.head? ≠ some slashByte →
      ∀ base steps, base <+: reached base path steps) := by
  refine ⟨isLogFilePathSafe_iff path, ?_⟩
  intro hsafe _ base steps
  apply prefix_resolve
  intro hmem
  have hsplit : dotdot ∈ path.splitOn slashByte := List.mem_of_mem_take hmem
  rcases (isLogFilePathSafe_iff path).1 hsafe with rfl | ⟨-, -, -, -, hnot⟩
  · revert hsplit
    decide
  · exact hnot hsplit

end SdbusExamples.LogPaths
