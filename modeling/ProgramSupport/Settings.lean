import ProgramSupport.Text.Blank
import ProgramSupport.Text.Decimal

/-!
# Settings

A program is configured by three environment variables: what a violation does, the seed of the
random numbers, and the filter of the log.  This file provides

* `Policy` with `Policy.ofText?`, which reads its name;
* `Settings` and its parts, with the default that an empty environment gives;
* `SettingsFault` — a variable that cannot be read, and `SettingsFault.message`;
* `Settings.ofLookup` — the settings that a lookup of variables gives, or the first fault.

Blanks around a value do not count, except in the log filter, which is kept as it is and counts
as absent when it holds nothing but blanks.  A fault reports the value with its blanks.
-/

namespace ProgramSupport

/-- What a violation that nobody handles does. -/
inductive Policy where
  /-- End the process. -/
  | exit
  /-- Throw to the caller of the library. -/
  | panic
deriving Repr, DecidableEq

/-- The settings of a process. -/
structure Settings where
  policy : Policy := .exit
  seed : Option UInt64 := none
  logFilter : Option String := none
deriving Repr, DecidableEq

/-- A variable whose value cannot be read. -/
inductive SettingsFault where
  | unknownPolicy (value : String)
  | invalidSeed (value : String) (reason : Decimal.ReadFault)
deriving Repr, DecidableEq

/-! ### Variables -/

def policyVariable : String := "TERN_ON_VIOLATION"

def seedVariable : String := "TERN_SEED"

def logVariable : String := "TERN_LOG"

/-- The text that names the variable, its value and what is wrong with it. -/
def SettingsFault.message : SettingsFault → String
  | .unknownPolicy value =>
    policyVariable ++ ": unknown violation policy `" ++ value ++
      "` (expected `exit` or `panic`)"
  | .invalidSeed value reason =>
    seedVariable ++ ": invalid seed `" ++ value ++ "`: " ++ reason.message

/-- The policy that a text names, in letters of either case. -/
def Policy.ofText? (text : String) : Option Policy :=
  let name := (trimBlanks text.toList).map Char.toLower
  if name = "exit".toList ∨ name = "abort".toList then some .exit
  else if name = "panic".toList then some .panic
  else none

/-- The policy that a text names, or the fault of naming none. -/
def Policy.ofText (text : String) : Except SettingsFault Policy :=
  match Policy.ofText? text with
  | some policy => .ok policy
  | none => .error (.unknownPolicy text)

/-- The seed that a text stands for. -/
def seedOfText (text : String) : Except SettingsFault UInt64 :=
  match Decimal.read (UInt64.size - 1) (trimBlanks text.toList) with
  | .ok seed => .ok (UInt64.ofNat seed)
  | .error reason => .error (.invalidSeed text reason)

/-- The log filter that a text gives. -/
def filterOfText? (text : String) : Option String :=
  if text.toList.all isBlank then none else some text

namespace Settings

/-- The settings that the variables give.  The policy is read before the seed, so its fault
goes first. -/
def ofLookup (lookup : String → Option String) : Except SettingsFault Settings := do
  let policy ← match lookup policyVariable with
    | some text => Policy.ofText text
    | none => pure .exit
  let seed ← match lookup seedVariable with
    | some text => some <$> seedOfText text
    | none => pure none
  return { policy, seed, logFilter := (lookup logVariable).bind filterOfText? }

/-! ### Choosing settings one by one -/

def withPolicy (s : Settings) (policy : Policy) : Settings := { s with policy }

def withSeed (s : Settings) (seed : UInt64) : Settings := { s with seed := some seed }

def withLogFilter (s : Settings) (filter : String) : Settings :=
  { s with logFilter := some filter }

end Settings

end ProgramSupport
