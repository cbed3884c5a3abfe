import ProgramSupport.Log.Event
import ProgramSupport.Text.Alphanumeric
import ProgramSupport.Text.Blank
import ProgramSupport.Text.Cut
import ProgramSupport.Text.Decimal
import ProgramSupport.Text.Parts

/-!
# Log filters

A filter is a list of directives between commas.  A directive gives a threshold to all events,
or to those whose target begins with a text.  Brackets in a directive narrow it to events that
hold a value of a name, or to what happens inside of the spans that they describe; the events of
this library lie in no span.  This file provides

* `Threshold` — the least important level that passes, or none at all, and
  `Threshold.ofText?`, which reads its name or number;
* `Scope` — what a directive is narrowed to;
* `Directive` and `Directive.ofText`, with the faults of a text that is none;
* `Directive.applies` and `Directive.yieldsTo` — the events that a directive is for, and which of
  two directives is the more specific;
* `LogFilter.ofText` — the directives of a filter;
* `LogFilter.threshold` — what holds for an event: the most specific directive decides, and of
  two that are equally specific the later;
* `LogFilter.admits` — whether an event is written.

An event to which no directive applies is not written.

The parts of a directive are found without the blanks around it, and cut out of it by their
offsets in the text with its blanks.  So blanks before a directive shift its parts.

A name in braces can have a value behind an equals sign.  Such a directive is for spans with this
value, and what the value says is not examined.
-/

namespace ProgramSupport

/-- The least important level that passes; `none` lets nothing pass. -/
abbrev Threshold := Option Level

namespace Threshold

/-- The level passes the threshold. -/
def admits (threshold : Threshold) (level : Level) : Bool :=
  match threshold with
  | none => false
  | some least => level.rank ≤ least.rank

/-- All thresholds, in the order of their numbers. -/
def all : List Threshold := none :: Level.all.map some

def name : Threshold → String
  | none => "off"
  | some level => level.name

/-- The threshold that a text names, in letters of either case, or gives by its number. -/
def ofText? (text : List Char) : Option Threshold :=
  match Decimal.read (UInt64.size - 1) text with
  | .ok number => all[number]?
  | .error _ => all.find? fun threshold => threshold.name.toList = text.map Char.toLower

end Threshold

/-- What a directive is narrowed to. -/
inductive Scope where
  | everything
  /-- Events that hold a value of this name. -/
  | holding (name : List Char)
  /-- Events inside of spans. -/
  | spans
deriving Repr, DecidableEq

/-- A threshold for the events whose target begins with a text. -/
structure Directive where
  target : List Char
  threshold : Threshold
  scope : Scope := .everything
deriving Repr, DecidableEq

/-- Why a text is no filter. -/
inductive FilterFault where
  | invalidDirective
  | unknownLevel
  /-- A part of a directive would be cut out across a character. -/
  | splitCharacter (fault : SplitCharacter)
deriving Repr, DecidableEq

def FilterFault.message : FilterFault → String
  | .invalidDirective => "invalid filter directive"
  | .unknownLevel =>
    "error parsing level filter: expected one of \"off\", \"error\", \"warn\", \"info\", " ++
      "\"debug\", \"trace\", or a number 0-5"
  | .splitCharacter fault => fault.message

/-! ### Directives -/

namespace Directive

/-- A directive can begin with this character. -/
def startsWith (c : Char) : Bool :=
  isAlphanumeric c || c == '-' || c == ':' || c == '_' || c == '['

/-- A part of a directive. -/
def part (text : List Char) (start stop : Nat) : Except FilterFault (List Char) :=
  (cut text start stop).mapError .splitCharacter

/-- The scope that the text in braces gives.  With a value behind the name it describes spans. -/
def scopeOfField (field : List Char) : Scope :=
  if '=' ∈ field then .spans else .holding field

/-- The scope that a bracket gives which was opened before an offset, and what follows it.  The
bracket holds the name of a span and ends with the name, or holds a field in braces behind the
name and ends with the braces, which are not empty.  The name can be left out, which leaves a span
without a name if there are no braces. -/
def behindBracket (text : List Char) (offset : Nat) (bracket : List Char) :
    Except FilterFault (Scope × List Char) := do
  let name := bracket.takeWhile fun c => c ≠ ']' && c ≠ '\x7b'
  let stop := offset + utf8Length name
  match bracket.drop name.length with
  | [] => throw .invalidDirective
  | ']' :: rest =>
    let _ ← part text offset stop
    return (.spans, rest)
  | _ :: brace =>
    let _ ← part text offset stop
    let field := brace.takeWhile (· ≠ '\x7d')
    match brace.drop field.length with
    | [] => throw .invalidDirective
    | _ :: rest =>
      let named ← part text (stop + 1) (stop + 1 + utf8Length field)
      match field, rest with
      | _ :: _, ']' :: rest => return (if name = [] then scopeOfField named else .spans, rest)
      | _, _ => throw .invalidDirective

/-- The threshold from an offset on, which is the lowest if it is left out. -/
def thresholdFrom (text : List Char) (offset : Nat) : Except FilterFault Threshold := do
  match ← part text offset (utf8Length text) with
  | [] => return some .trace
  | level =>
    match Threshold.ofText? level with
    | some threshold => return threshold
    | none => throw .unknownLevel

/-- The directive of a text: a threshold for all targets, a target of which everything passes,
or a target, an equals sign and a threshold.  Brackets can stand behind the target or in its
place.  Blanks belong to a target or threshold that stands alone. -/
def ofText (text : List Char) : Except FilterFault Directive := do
  let body := trimBlanks text
  let offset (rest : List Char) := utf8Length body - utf8Length rest
  if !(body.head?.any startsWith) then throw .invalidDirective
  let name := body.takeWhile fun c => c ≠ '=' && c ≠ '['
  match body.drop name.length with
  | [] =>
    match Threshold.ofText? text with
    | some threshold => return { target := [], threshold }
    | none => return { target := text, threshold := some .trace }
  | '=' :: level =>
    let target ← part text 0 (utf8Length name)
    return { target, threshold := ← thresholdFrom text (offset level) }
  | _ :: bracket =>
    let target ← part text 0 (utf8Length name)
    match ← behindBracket text (offset bracket) bracket with
    | (scope, []) => return { target, threshold := some .trace, scope }
    | (scope, '=' :: level) =>
      return { target, threshold := ← thresholdFrom text (offset level), scope }
    | _ => throw .invalidDirective

example : ofText " a=debug".toList = .error .unknownLevel := by decide +kernel

example : ofText " info".toList = .ok ⟨" info".toList, some .trace, .everything⟩ := by
  decide +kernel

example : ofText "a[b".toList = .error .invalidDirective := by decide +kernel

example : ofText "a[b]=info".toList = .ok ⟨['a'], some .info, .spans⟩ := by decide +kernel

example : ofText "[\x7blen\x7d]".toList = .ok ⟨[], some .trace, .holding "len".toList⟩ := by
  decide +kernel

/-- The blank shifts the end of the target into the middle of its only character. -/
example : ofText " é=info".toList = .error (.splitCharacter ⟨.stop, 2, 'é', 1⟩) := by
  decide +kernel

/-- The directive is for the event.  No event lies in a span. -/
def applies (d : Directive) (e : Event) : Bool :=
  d.target.isPrefixOf e.target.toList &&
    match d.scope with
    | .everything => true
    | .holding name => e.names.any (·.toList = name)
    | .spans => false

/-- Another directive that applies to the same events is more specific: its target is longer, or as
long and only the other asks for a name, or both do and the other for the later one. -/
def yieldsTo (d other : Directive) : Bool :=
  d.target.length < other.target.length ||
    d.target.length == other.target.length &&
      match d.scope, other.scope with
      | .everything, .holding _ => true
      | .holding name, .holding another => name < another
      | _, _ => false

end Directive

/-- The directives of a filter. -/
abbrev LogFilter := List Directive

namespace LogFilter

/-- The filter of a text; parts with nothing in them do not count. -/
def ofText (text : String) : Except FilterFault LogFilter :=
  ((partsBetween ',' text.toList).filter (· ≠ [])).mapM Directive.ofText

/-- The directive that decides about an event: of those that apply the most specific, and of two
that are equally specific the last. -/
def decisive? (filter : LogFilter) (e : Event) : Option Directive :=
  (filter.filter (·.applies e)).foldl
    (fun best d => match best with
      | some b => if d.yieldsTo b then some b else some d
      | none => some d) none

/-- The threshold for an event. -/
def threshold (filter : LogFilter) (e : Event) : Threshold :=
  (filter.decisive? e).bind Directive.threshold

/-- The event is written. -/
def admits (filter : LogFilter) (e : Event) : Bool := (filter.threshold e).admits e.level

end LogFilter

end ProgramSupport
