import EbpfNotes.Construction.HelloVerifierLoader

namespace EbpfNotes.HelloVerifierUser

open Library

/-- Two adjacent bytes of the buffer are zero. -/
def DoubleZero (logBuf : List Byte) (position : Nat) : Prop :=
  logBuf[position]? = some 0 ∧ logBuf[position + 1]? = some 0

/-- The text of the log ends before the first two adjacent zero bytes, or it is the whole buffer. -/
def IsLogText (logBuf printed : List Byte) : Prop :=
  (∃ position, DoubleZero logBuf position ∧ (∀ earlier < position, ¬ DoubleZero logBuf earlier) ∧
    printed = logBuf.take position) ∨
  (∀ position, ¬ DoubleZero logBuf position) ∧ printed = logBuf

theorem DoubleZero.inside {logBuf : List Byte} {position : Nat} (zeros : DoubleZero logBuf position) :
    position + 1 < logBuf.length :=
  (List.getElem?_eq_some_iff.mp zeros.2).1

/-- In front of the last byte the condition decides whether both bytes are zero. -/
theorem endsLog_iff {logBuf : List Byte} {i : Nat} (small : i < INT_MAX) (inside : i + 1 < logBuf.length) :
    ∃ ends, endsLog logBuf i = some ends ∧ (ends = true ↔ DoubleZero logBuf i) := by
  have here : logBuf[i]? = some logBuf[i] := List.getElem?_eq_getElem (by omega)
  have next : logBuf[i + 1]? = some logBuf[i + 1] := List.getElem?_eq_getElem inside
  unfold endsLog DoubleZero
  rw [here, next]
  by_cases null : logBuf[i] = 0
  · refine ⟨decide (logBuf[i + 1] = 0), ?_, ?_⟩
    · simp only [Option.bind_eq_bind, Option.bind_some, if_pos null, if_pos small]
    · rw [decide_eq_true_iff, Option.some_inj, Option.some_inj, and_iff_right null]
  · refine ⟨false, ?_, ?_⟩
    · simp only [Option.bind_eq_bind, Option.bind_some, if_neg null]
    · rw [Option.some_inj]
      exact iff_of_false Bool.false_ne_true fun zeros => null zeros.1

theorem endsLog_text {logBuf : List Byte} {i : Nat} (small : i < INT_MAX)
    (inside : i + 1 < logBuf.length) (text : ¬ DoubleZero logBuf i) :
    endsLog logBuf i = some false := by
  obtain ⟨ends, decided, iff⟩ := endsLog_iff small inside
  cases ends with
  | true => exact absurd (iff.mp rfl) text
  | false => exact decided

theorem endsLog_nonzero {logBuf : List Byte} {i : Nat} (inside : i < logBuf.length)
    (nonzero : logBuf[i] ≠ 0) : endsLog logBuf i = some false := by
  simp only [endsLog, List.getElem?_eq_getElem inside, Option.bind_eq_bind, Option.bind_some,
    if_neg nonzero]

/-- Behind a zero byte the condition reads the next byte, which the last index does not have. -/
theorem endsLog_zero {logBuf : List Byte} {i : Nat} (inside : i < logBuf.length) (zero : logBuf[i] = 0)
    (last : INT_MAX ≤ i ∨ logBuf.length ≤ i + 1) : endsLog logBuf i = none := by
  simp only [endsLog, List.getElem?_eq_getElem inside, Option.bind_eq_bind, Option.bind_some,
    if_pos zero]
  rcases last with large | behind
  · rw [if_neg (Nat.not_lt.mpr large)]
  · rw [List.getElem?_eq_none behind, Option.bind_none, ite_self]

/-- A byte that does not end the log is printed. -/
theorem printLogFrom_next {logBuf : List Byte} {i : Nat} (small : i < INT_MAX)
    (inside : i < logBuf.length) (text : endsLog logBuf i = some false) :
    printLogFrom logBuf i = (printLogFrom logBuf (i + 1)).map (logBuf[i] :: ·) := by
  rw [printLogFrom, if_pos inside, text, List.getElem?_eq_getElem inside]
  simp only [Option.bind_eq_bind, Option.bind_some, Bool.false_eq_true, if_false, small, if_true]
  cases printLogFrom logBuf (i + 1) <;> rfl

/-- The loop prints the bytes in front of an index that it reaches. -/
theorem printLog_reaches {logBuf : List Byte} {position : Nat} (small : position ≤ INT_MAX)
    (inside : position ≤ logBuf.length) (text : ∀ i < position, endsLog logBuf i = some false) :
    printLog logBuf = (printLogFrom logBuf position).map (logBuf.take position ++ ·) := by
  induction position with
  | zero =>
      exact Option.map_id.symm ▸ rfl
  | succ position ih =>
      rw [ih (by omega) (by omega) fun i before => text i (by omega),
        printLogFrom_next small inside (text position (Nat.lt_succ_self position)), Option.map_map]
      congr 1
      funext printed
      rw [List.take_succ_eq_append_getElem inside, List.append_assoc]
      rfl

/-- The loop stops at the first two adjacent zero bytes. -/
theorem printLog_stops {logBuf : List Byte} {position : Nat} (small : position < INT_MAX)
    (zeros : DoubleZero logBuf position) (first : ∀ i < position, ¬ DoubleZero logBuf i) :
    printLog logBuf = some (logBuf.take position) := by
  have inside := zeros.inside
  obtain ⟨ends, decided, iff⟩ := endsLog_iff small inside
  obtain rfl : ends = true := iff.mpr zeros
  have stopped : printLogFrom logBuf position = some [] := by
    rw [printLogFrom, if_pos (by omega), decided]
    rfl
  rw [printLog_reaches small.le (by omega) fun i before =>
    endsLog_text (by omega) (by omega) (first i before), stopped, Option.map_some, List.append_nil]

/-- A nonzero last byte lets the loop print the whole buffer. -/
theorem printLog_whole {logBuf : List Byte} (small : logBuf.length ≤ INT_MAX)
    (text : ∀ i, ¬ DoubleZero logBuf i) (last : logBuf.getLast? ≠ some 0) :
    printLog logBuf = some logBuf := by
  have ended : printLogFrom logBuf logBuf.length = some [] := by
    rw [printLogFrom, if_neg (Nat.lt_irrefl _)]
  have printed (i : Nat) (inside : i < logBuf.length) : endsLog logBuf i = some false := by
    by_cases final : i + 1 < logBuf.length
    · exact endsLog_text (by omega) final (text i)
    · apply endsLog_nonzero inside
      intro zero
      apply last
      rw [List.getLast?_eq_getElem?, show logBuf.length - 1 = i by omega,
        List.getElem?_eq_getElem inside, zero]
  rw [printLog_reaches small le_rfl printed, ended, Option.map_some, List.take_length, List.append_nil]

/-- A zero last byte, or a buffer beyond the range of `int`, takes the loop out of its bounds. -/
theorem printLog_undefined {logBuf : List Byte} (text : ∀ i < INT_MAX, ¬ DoubleZero logBuf i)
    (broken : INT_MAX < logBuf.length ∨ logBuf.getLast? = some 0) : printLog logBuf = none := by
  by_cases large : INT_MAX < logBuf.length
  · have overflows : printLogFrom logBuf INT_MAX = none := by
      rw [printLogFrom, if_pos large]
      by_cases zero : logBuf[INT_MAX] = 0
      · rw [endsLog_zero large zero (Or.inl le_rfl)]
        rfl
      · simp [endsLog_nonzero large zero]
    have reached : ∀ i < INT_MAX, endsLog logBuf i = some false :=
      fun i before => endsLog_text before (by omega) (text i before)
    rw [printLog_reaches le_rfl large.le reached, overflows, Option.map_none]
  · have last : logBuf.getLast? = some 0 := broken.resolve_left large
    have nonempty : logBuf ≠ [] := by
      intro empty
      rw [empty] at last
      cases last
    have positive : 0 < logBuf.length := List.length_pos_iff.mpr nonempty
    have zero : logBuf[logBuf.length - 1] = 0 := by
      rw [List.getLast?_eq_getElem?, List.getElem?_eq_getElem (by omega)] at last
      exact Option.some.inj last
    have outside : printLogFrom logBuf (logBuf.length - 1) = none := by
      rw [printLogFrom, if_pos (by omega), endsLog_zero (by omega) zero (Or.inr (by omega))]
      rfl
    have reached : ∀ i < logBuf.length - 1, endsLog logBuf i = some false :=
      fun i before => endsLog_text (by omega) (by omega) (text i (by omega))
    rw [printLog_reaches (by omega) (by omega) reached, outside, Option.map_none]

/-- The loop is defined and prints the text of the log exactly when it finds two adjacent zero bytes
within the range of `int`, or when the buffer fits this range and its last byte is not zero. -/
theorem printLog_text_iff (logBuf : List Byte) :
    (∃ printed, printLog logBuf = some printed ∧ IsLogText logBuf printed) ↔
      (∃ position < INT_MAX, DoubleZero logBuf position) ∨
        logBuf.length ≤ INT_MAX ∧ logBuf.getLast? ≠ some 0 := by
  classical
  by_cases terminated : ∃ position < INT_MAX, DoubleZero logBuf position
  · have found : ∃ position, DoubleZero logBuf position := terminated.imp fun _ => And.right
    obtain ⟨position, small, zeros⟩ := terminated
    have least : Nat.find found ≤ position := Nat.find_min' found zeros
    have first (i : Nat) (before : i < Nat.find found) : ¬ DoubleZero logBuf i := Nat.find_min found before
    apply iff_of_true _ (Or.inl ⟨position, small, zeros⟩)
    exact ⟨logBuf.take (Nat.find found), printLog_stops (by omega) (Nat.find_spec found) first,
      Or.inl ⟨Nat.find found, Nat.find_spec found, first, rfl⟩⟩
  · have text (i : Nat) (small : i < INT_MAX) : ¬ DoubleZero logBuf i :=
      fun zeros => terminated ⟨i, small, zeros⟩
    rw [or_iff_right terminated]
    constructor
    · intro defined
      obtain ⟨printed, ran, _⟩ := defined
      by_contra broken
      have undefined : printLog logBuf = none := by
        apply printLog_undefined text
        by_cases large : INT_MAX < logBuf.length
        · exact Or.inl large
        · exact Or.inr (not_not.mp fun last => broken ⟨by omega, last⟩)
      rw [undefined] at ran
      cases ran
    · intro unbroken
      obtain ⟨small, last⟩ := unbroken
      have whole (i : Nat) : ¬ DoubleZero logBuf i := by
        intro zeros
        have inside := zeros.inside
        exact text i (by omega) zeros
      exact ⟨logBuf, printLog_whole small whole last, Or.inr ⟨whole, rfl⟩⟩

/-- The loop reads behind a buffer whose only zero byte is the last one. -/
theorem printLog_replicate (length : Nat) :
    printLog (List.replicate length 1 ++ [0]) = none := by
  apply printLog_undefined
  · intro i _ zeros
    have inside := zeros.inside
    rw [List.length_append, List.length_replicate, List.length_singleton] at inside
    have one : (List.replicate length 1 ++ [0])[i]? = some (1 : Byte) := by
      rw [List.getElem?_append_left (by rw [List.length_replicate]; omega),
        List.getElem?_replicate_of_lt (by omega)]
    exact absurd (one.symm.trans zeros.1) (by decide)
  · exact Or.inr List.getLast?_concat

/-- A full log whose only zero byte is the last one makes the loop read behind the buffer. -/
theorem printLog_reads_behind :
    ¬ ∀ logBuf : List Byte, logBuf.length = logBufSize →
      ∃ printed, printLog logBuf = some printed ∧ IsLogText logBuf printed := by
  intro always
  have size : (List.replicate 65535 1 ++ [0] : List Byte).length = logBufSize := by
    rw [List.length_append, List.length_replicate]
    rfl
  obtain ⟨printed, ran, _⟩ := always _ size
  rw [printLog_replicate] at ran
  cases ran

end EbpfNotes.HelloVerifierUser
