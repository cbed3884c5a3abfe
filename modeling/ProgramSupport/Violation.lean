/-!
# Contract violations

A violation is the precondition that a call found broken.  This file provides

* `Violation` — one constructor per cause, with the operation and the offending values;
* `Violation.message` — the text that names them;
* `Violation.diagnostic` — the line that a program leaves behind when it ends by a violation;
* `checkIndex` / `checkSize` — the two checks that most operations begin with, which turn a
  signed machine argument into a position or a length.

Numbers inside a violation are unbounded integers: a signed argument and an observed size
are reported side by side.
-/

namespace ProgramSupport

/-- The precondition that was broken, with the operation that checks it. -/
inductive Violation where
  /-- An index is not a position of a value of this size. -/
  | indexOutOfBounds (op : String) (index size : Int)
  /-- A half-open range does not lie inside a value of this size. -/
  | invalidRange (op : String) (start stop size : Int)
  /-- A size below zero was asked for. -/
  | negativeSize (op : String) (size : Int)
  /-- A random integer was asked for from a range without integers. -/
  | emptyRandomRange (start stop : Int)
  /-- The input is no integer, for this reason. -/
  | invalidInteger (reason : String)
  /-- Reading or writing failed with this text. -/
  | io (op : String) (text : String)
  /-- A null argument stands where a value is needed. -/
  | nullValue (op : String)
deriving Repr, DecidableEq

/-- The diagnostic of a violation: the operation, then what is wrong with its arguments. -/
def Violation.message : Violation → String
  | .indexOutOfBounds op index size =>
    s!"{op}: index {index} out of bounds for size {size}"
  | .invalidRange op start stop size =>
    s!"{op}: invalid range [{start}, {stop}) for size {size}"
  | .negativeSize op size => s!"{op}: negative size {size}"
  | .emptyRandomRange start stop => s!"random: empty range [{start}, {stop})"
  | .invalidInteger reason => s!"readInt: {reason}"
  | .io op text => s!"{op}: {text}"
  | .nullValue op => s!"{op}: null value"

/-- The line that reports a violation nobody handles. -/
def Violation.diagnostic (v : Violation) : String := "tern runtime error: " ++ v.message

/-! ### Results -/

/-- Results are equal if they are of one kind and what they hold is equal. -/
instance decidableEqResult {ε α : Type} [DecidableEq ε] [DecidableEq α] :
    DecidableEq (Except ε α)
  | .ok a, .ok b => decidable_of_iff (a = b) ⟨congrArg Except.ok, Except.ok.inj⟩
  | .error e, .error f => decidable_of_iff (e = f) ⟨congrArg Except.error, Except.error.inj⟩
  | .ok _, .error _ => isFalse nofun
  | .error _, .ok _ => isFalse nofun

/-! ### Checks -/

/-- The position named by a signed index into a value of `size` elements. -/
def checkIndex (op : String) (index : Int64) (size : Nat) : Except Violation Nat :=
  if 0 ≤ index.toInt ∧ index.toInt < size then .ok index.toInt.toNat
  else .error (.indexOutOfBounds op index.toInt size)

/-- The length named by a signed size. -/
def checkSize (op : String) (size : Int64) : Except Violation Nat :=
  if 0 ≤ size.toInt then .ok size.toInt.toNat
  else .error (.negativeSize op size.toInt)

/-- An index is accepted exactly when it is a position, and then it is that position. -/
theorem checkIndex_eq_ok_iff {op : String} {index : Int64} {size slot : Nat} :
    checkIndex op index size = .ok slot ↔ index.toInt = slot ∧ slot < size := by
  unfold checkIndex
  split <;> simp only [Except.ok.injEq, reduceCtorEq, false_iff] <;> omega

/-- A size is accepted exactly when it is not negative, and then it is that length. -/
theorem checkSize_eq_ok_iff {op : String} {size : Int64} {length : Nat} :
    checkSize op size = .ok length ↔ size.toInt = length := by
  unfold checkSize
  split <;> simp only [Except.ok.injEq, reduceCtorEq, false_iff] <;> omega

example : (Violation.invalidRange "String::substring" 2 1 5).message =
    "String::substring: invalid range [2, 1) for size 5" := by decide +kernel

end ProgramSupport
