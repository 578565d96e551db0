import PeerFirewall.Text.Blank
import PeerFirewall.Text.Letter

/-!
# Filters of log lines

A filter is a list of directives with commas between them. A directive is a level, or a target that
may name a span with fields, with the level of its lines behind an equals sign. Nothing here depends
on what a filter admits, so it is only checked.

The end of a directive in the text is not where its level ends: white space behind the level belongs
to it, and white space in front of the directive counts as much again. So both make the level wrong.
-/
namespace PeerFirewall.LogFilter

/-- What is wrong with a filter. -/
inductive Fault where
  | badDirective
  | badLevel
deriving DecidableEq, Repr

/-- The text of a fault. -/
def Fault.message : Fault → String
  | badDirective => "invalid filter directive"
  | badLevel =>
    "error parsing level filter: expected one of \"off\", \"error\", \"warn\", \"info\", " ++
      "\"debug\", \"trace\", or a number 0-5"

/-- How far a directive has been read. -/
inductive State where
  | start
  /-- In the name of a target, which may as well be that of a level. -/
  | name
  /-- In the name of a span, behind its bracket. -/
  | span
  /-- In a field of a span; whether it is empty so far. -/
  | field (empty : Bool)
  /-- Behind the fields of a span. -/
  | fieldsEnd
  /-- Behind the closing bracket of a span. -/
  | spanEnd
  /-- In the level, which has that many bytes before it. -/
  | level (before : Nat)
deriving DecidableEq, Repr

/-- Whether a directive may begin with a character. -/
def mayBegin (c : Char) : Bool := c = '-' || c = ':' || c = '_' || Text.isLetterOrNumber c

/-- Reads one character, which has that many bytes before it. -/
def step (place : Nat) (c : Char) : State → Option State
  | .start => if c = '[' then some .span else if mayBegin c then some .name else none
  | .name =>
    some (if c = '=' then .level (place + 1) else if c = '[' then .span else .name)
  | .span => some (if c = ']' then .spanEnd else if c = '{' then .field true else .span)
  | .field empty =>
    if c = '}' then (if empty then none else some .fieldsEnd) else some (.field false)
  | .fieldsEnd => if c = ']' then some .spanEnd else none
  | .spanEnd => if c = '=' then some (.level (place + 1)) else none
  | .level before => some (.level before)

/-- Reads characters one after the other. -/
def steps : Nat → State → List Char → Option State
  | _, state, [] => some state
  | place, state, c :: rest =>
    match step place c state with
    | none => none
    | some state => steps (place + c.utf8Size) state rest

/-- The text without that many bytes in front. -/
def dropBytes : Nat → List Char → List Char
  | _, [] => []
  | 0, text => text
  | n + 1, c :: rest => dropBytes (n + 1 - c.utf8Size) rest

/-- The names of the levels. -/
def levels : List String := ["off", "error", "warn", "info", "debug", "trace"]

/-- Whether a text is the number of a level: with a plus sign or none, and any zeros in front. -/
def isLevelNumber (text : List Char) : Bool :=
  let digits := if text.head? = some '+' then text.drop 1 else text
  let value := digits.dropWhile (· = '0')
  !digits.isEmpty && (value.isEmpty || (['1', '2', '3', '4', '5'].map ([·])).contains value)

/-- Whether a text names a level; no text names one as well. -/
def isLevel (text : List Char) : Bool :=
  text.isEmpty || isLevelNumber text || levels.contains (String.ofList (text.map Char.toLower))

/-- Checks one directive. -/
def checkDirective (text : List Char) : Except Fault Unit :=
  match steps 0 .start (Text.trim text) with
  | some (.level before) =>
    if isLevel (dropBytes before text) then .ok () else .error .badLevel
  | some .name | some .spanEnd => .ok ()
  | some .start | some .span | some (.field _) | some .fieldsEnd | none => .error .badDirective

/-- Checks directives one after the other. -/
def checkAll : List (List Char) → Except Fault Unit
  | [] => .ok ()
  | directive :: rest =>
    match checkDirective directive with
    | .error fault => .error fault
    | .ok () => checkAll rest

/-- Checks a filter; nothing between two commas is no directive. -/
def check (text : String) : Except Fault Unit :=
  checkAll ((Text.pieces text.toList).filter (· ≠ []))

end PeerFirewall.LogFilter
