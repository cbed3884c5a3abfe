/-!
# Entry points

Compiled code calls the library through named entry points.  This file provides

* `ValueKind` — the seven kinds of values, and how a value of a kind is passed;
* `EntryPoint` — a name with the machine types of its parameters and its result;
* `EntryPoint.print` — the entry point that prints values of a kind;
* `EntryPoint.all` — the table of all entry points, and `EntryPoint.ofName?`, which searches it.

An entry point that produces a value takes the place for it as its first parameter and returns
nothing.
-/

namespace ProgramSupport

/-- A machine type of a parameter or a result. -/
inductive MachineType where
  | i8
  | i64
  | f64
  | pointer
deriving Repr, DecidableEq

/-- A kind of values of the source language. -/
inductive ValueKind where
  | bool
  | char
  | int
  | float
  | unit
  | string
  | intArray
deriving Repr, DecidableEq

namespace ValueKind

/-- The kinds in the order of their numbers. -/
def all : List ValueKind := [.bool, .char, .int, .float, .unit, .string, .intArray]

/-- The number of a kind. -/
def number : ValueKind → Nat
  | .bool => 0
  | .char => 1
  | .int => 2
  | .float => 3
  | .unit => 4
  | .string => 5
  | .intArray => 6

/-- How a value of a kind is passed; the unit value is not. -/
def machineType? : ValueKind → Option MachineType
  | .bool | .char => some .i8
  | .int => some .i64
  | .float => some .f64
  | .unit => none
  | .string | .intArray => some .pointer

/-- The word for a kind in the names of entry points. -/
def word : ValueKind → String
  | .bool => "bool"
  | .char => "char"
  | .int => "int"
  | .float => "float"
  | .unit => "unit"
  | .string => "string"
  | .intArray => "int_array"

/-- Each kind stands at its number. -/
theorem all_getElem_number (kind : ValueKind) : all[kind.number]? = some kind := by
  cases kind <;> rfl

end ValueKind

/-- The name and the machine types of an entry point. -/
structure EntryPoint where
  name : String
  params : List MachineType
  result : Option MachineType := none
deriving Repr, DecidableEq

namespace EntryPoint

open MachineType

/-- What the name of every entry point begins with. -/
def lead : String := "__tern_"

/-- The entry point that prints values of a kind, with a newline behind them or without. -/
def print (kind : ValueKind) (newline : Bool) : EntryPoint :=
  { name := lead ++ (if newline then "println_" else "print_") ++ kind.word
    params := kind.machineType?.toList }

/-- Entry points of strings. -/
def strings : List EntryPoint :=
  [{ name := lead ++ "string_new", params := [pointer, pointer, i64] },
    { name := lead ++ "string_free", params := [pointer] },
    { name := lead ++ "string_size", params := [pointer], result := some i64 },
    { name := lead ++ "string_char_at", params := [pointer, i64], result := some i8 },
    { name := lead ++ "string_reverse", params := [pointer, pointer] },
    { name := lead ++ "string_concat", params := [pointer, pointer, pointer] },
    { name := lead ++ "string_substring", params := [pointer, pointer, i64, i64] }]

/-- Entry points of integer arrays. -/
def arrays : List EntryPoint :=
  [{ name := lead ++ "int_array_new", params := [pointer, i64] },
    { name := lead ++ "int_array_free", params := [pointer] },
    { name := lead ++ "int_array_size", params := [pointer], result := some i64 },
    { name := lead ++ "int_array_capacity", params := [pointer], result := some i64 },
    { name := lead ++ "int_array_get", params := [pointer, i64], result := some i64 },
    { name := lead ++ "int_array_set", params := [pointer, i64, i64] },
    { name := lead ++ "int_array_resize", params := [pointer, i64] },
    { name := lead ++ "int_array_append", params := [pointer, i64] },
    { name := lead ++ "int_array_append_all", params := [pointer, pointer] },
    { name := lead ++ "int_array_clear", params := [pointer] }]

/-- Entry points of printing, for each kind without and with a newline. -/
def prints : List EntryPoint :=
  ValueKind.all.flatMap fun kind => [print kind false, print kind true]

/-- Entry points of input and of random numbers. -/
def inputs : List EntryPoint :=
  [{ name := lead ++ "read_line", params := [pointer] },
    { name := lead ++ "read_int", params := [], result := some i64 },
    { name := lead ++ "random", params := [i64, i64], result := some i64 },
    { name := lead ++ "random_seed", params := [i64] }]

/-- All entry points. -/
def all : List EntryPoint :=
  { name := lead ++ "init", params := [] } :: strings ++ arrays ++ prints ++ inputs

/-- The entry point of a name. -/
def ofName? (name : String) : Option EntryPoint := all.find? (·.name = name)

/-- What is found under a name is in the table and has the name. -/
theorem mem_all_of_ofName? {name : String} {e : EntryPoint} (h : ofName? name = some e) :
    e ∈ all ∧ e.name = name :=
  ⟨List.mem_of_find?_eq_some h, by simpa using List.find?_some h⟩

end EntryPoint

end ProgramSupport
