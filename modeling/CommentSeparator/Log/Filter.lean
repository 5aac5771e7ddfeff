import CommentSeparator.Log.Event
import CommentSeparator.Log.Pattern
import CommentSeparator.Text.Blank
import CommentSeparator.Text.Count

/-!
# Log filters

A filter is a list of directives.  A directive is about the events of a target, compared by prefix,
and perhaps only about those with a certain field; it lets the ones through that are urgent enough.
**The most specific directive decides**: the one with the longest target; of two with the same
target the one that names a field, or else the one whose field comes later in the alphabet; and of
two equal ones the later.  Where no directive is about an event, it does not get through.

* `Filter.ofSetting?` — reads a setting: directives with commas between them.
* `Filter.default` — the filter for a count of `-v`, which a valid setting replaces.
* `Filter.passes` — does an event get through?

A directive is written `target[span{field=pattern}]=threshold`, and every part of it can be left
out, but not all of them.  A word alone is a threshold if it can be read as one, else a target.
Blanks around a directive do not count for its form, but its pieces are cut out of the text as it
stands, so behind a blank every piece begins a character too early: what was a threshold is none,
and what was a target matches nothing.
-/

namespace CommentSeparator

/-- How much of the log of a target is wanted: nothing, or all up to a level. -/
abbrev Threshold := Option Level

/-- What is wanted of the events whose target begins with a text. -/
structure Directive where
  target : String := ""
  /-- A field that the events must have. -/
  field : Option String := none
  /-- Is it about spans, by their name or the value of a field?  The program opens none. -/
  withinSpan : Bool := false
  threshold : Threshold
  deriving DecidableEq, Repr

/-- Directives in the order they were given. -/
abbrev Filter := List Directive

namespace Threshold

/-- The threshold of a rank; zero wants nothing. -/
def ofRank? (rank : Nat) : Option Threshold :=
  match rank with
  | 0 => some none
  | 1 => some (some .error)
  | 2 => some (some .warn)
  | 3 => some (some .info)
  | 4 => some (some .debug)
  | 5 => some (some .trace)
  | _ => none

/-- The names of thresholds, in upper case. -/
def names : List (String × Threshold) :=
  [("OFF", none), ("ERROR", some .error), ("WARN", some .warn), ("INFO", some .info),
    ("DEBUG", some .debug), ("TRACE", some .trace)]

/-- The threshold that a word names, by rank or by name in letters of either case. -/
def ofWord? (word : String) : Option Threshold :=
  match (Text.count? word).bind fun rank => ofRank? rank.toNat with
  | some threshold => some threshold
  | none => names.lookup (String.ofList (word.toList.map Char.toUpper))

/-- The threshold behind an equals sign; everything is wanted where nothing is there. -/
def ofPart? (part : List Char) : Option Threshold :=
  if part = [] then some (some .trace) else ofWord? (String.ofList part)

/-- Is an event of this level wanted? -/
def allows (threshold : Threshold) (level : Level) : Bool :=
  threshold.any fun most => level.rank ≤ most.rank

end Threshold

namespace Directive

/-- May a directive begin with this character? -/
def mayBegin (c : Char) : Bool :=
  c = '[' || c = '-' || c = ':' || c = '_' || Text.isLetterOrNumber c

/-- A single word: a threshold for all targets, or a target of which everything is wanted. -/
def ofWord (word : List Char) : Directive :=
  match Threshold.ofWord? (String.ofList word) with
  | some threshold => { threshold }
  | none => { target := String.ofList word, threshold := some .trace }

/-- What a directive says in brackets. -/
structure Brackets where
  field : Option String
  withinSpan : Bool
  deriving DecidableEq, Repr

/-- A field in braces, behind the name of a span or none.  What is behind an equals sign is a
pattern for the value, which makes the directive one about spans; a second equals sign ends it. -/
def ofField? (spanName written : List Char) : Option Brackets :=
  let name := written.takeWhile (· ≠ '=')
  let field := some (String.ofList name)
  match written.drop name.length with
  | [] => some ⟨field, spanName ≠ []⟩
  | _ :: value =>
    if Pattern.isWellFormed (value.takeWhile (· ≠ '=')) then some ⟨field, true⟩ else none

/-- Reads what is inside brackets, and gives what is left behind them.  With `cut`, what stands at
the place of a rest of the directive is taken from the text as it stands. -/
def readBrackets? (cut : List Char → List Char) (inside : List Char) :
    Option (Brackets × List Char) :=
  let spanName := inside.takeWhile fun c => c ≠ ']' ∧ c ≠ '\x7b'
  match inside.drop spanName.length with
  | ']' :: rest => some (⟨none, true⟩, rest)
  | '\x7b' :: braced =>
    let written := braced.takeWhile (· ≠ '\x7d')
    match braced.drop written.length with
    | '\x7d' :: ']' :: rest =>
      if written = [] then none
      else (ofField? spanName ((cut braced).take written.length)).map fun read => (read, rest)
    | _ => none
  | _ => none

/-- The threshold at the end of a directive: behind an equals sign, or everything. -/
def readThreshold? (cut : List Char → List Char) (rest : List Char) : Option Threshold :=
  match rest with
  | [] => some (some .trace)
  | '=' :: part => Threshold.ofPart? (cut part)
  | _ => none

/-- Reads a directive. -/
def ofText? (text : List Char) : Option Directive :=
  let form := Text.trim text
  let cut (rest : List Char) := text.drop (form.length - rest.length)
  if form.head?.any mayBegin then
    let name := form.takeWhile fun c => c ≠ '=' ∧ c ≠ '['
    let target := String.ofList (text.take name.length)
    match form.drop name.length with
    | [] => some (ofWord text)
    | '[' :: inside => do
      let (brackets, rest) ← readBrackets? cut inside
      let threshold ← readThreshold? cut rest
      some { target, field := brackets.field, withinSpan := brackets.withinSpan, threshold }
    | rest => (readThreshold? cut rest).map fun threshold => { target, threshold }
  else none

/-- Is a directive about an event? -/
def concerns (directive : Directive) (event : Event) : Bool :=
  !directive.withinSpan && directive.target.toList.isPrefixOf event.target.toList &&
    directive.field.all event.fieldNames.contains

/-- The order of fields by name; no field comes first. -/
def fieldBefore : Option String → Option String → Bool
  | _, none => false
  | none, some _ => true
  | some field, some other =>
    List.lex field.toList other.toList fun c d => Nat.blt c.toNat d.toNat

/-- Is one directive less specific than another one that is about the same event? -/
def lessSpecific (directive other : Directive) : Bool :=
  directive.target.length < other.target.length ||
    (directive.target.length = other.target.length && fieldBefore directive.field other.field)

end Directive

namespace Filter

/-- The pieces of a text between commas. -/
def splitComma : List Char → List (List Char)
  | [] => [[]]
  | c :: rest =>
    if c = ',' then [] :: splitComma rest
    else
      match splitComma rest with
      | [] => [[c]]
      | piece :: pieces => (c :: piece) :: pieces

/-- Reads a setting.  Empty pieces are passed over; a setting without directives wants errors of all
targets; one bad directive spoils the setting. -/
def ofSetting? (setting : String) : Option Filter :=
  match (splitComma setting.toList).filter (· ≠ []) with
  | [] => some [{ threshold := some .error }]
  | pieces => pieces.mapM Directive.ofText?

/-- The target that all events of the program have in common. -/
def programTarget : String := "sepgen"

/-- The level that is logged for a count of `-v`. -/
def defaultLevel (verbosity : UInt8) : Level :=
  if verbosity = 0 then .warn else if verbosity = 1 then .info else .debug

/-- The directive for a count of `-v`, as it would be written. -/
def defaultText (verbosity : UInt8) : String :=
  programTarget ++ "=" ++ String.ofList ((defaultLevel verbosity).name.toList.map Char.toLower)

/-- The filter for a count of `-v`. -/
def default (verbosity : UInt8) : Filter :=
  [{ target := programTarget, threshold := some (defaultLevel verbosity) }]

/-- The filter in effect: that of the setting if there is a valid one, else that of the count. -/
def effective (setting : Option String) (verbosity : UInt8) : Filter :=
  (setting.bind ofSetting?).getD (default verbosity)

/-- The directive that decides about an event: the last one of the most specific. -/
def deciding? (filter : Filter) (event : Event) : Option Directive :=
  (filter.filter fun directive => directive.concerns event).foldl
    (fun best directive =>
      if best.any directive.lessSpecific then best else some directive)
    none

/-- Does an event get through? -/
def passes (filter : Filter) (event : Event) : Bool :=
  (filter.deciding? event).any fun directive => directive.threshold.allows event.level

end Filter

end CommentSeparator
