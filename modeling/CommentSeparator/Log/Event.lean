import CommentSeparator.Path
import CommentSeparator.Session.Policy
import CommentSeparator.Text.Quoted

/-!
# Log events

Every event the program can report is a case of `Event`.  Its level, the part of the program it
belongs to (its target), its message and its fields are read off the case, so what is logged is one
table.

`Logged` is a value together with the events reported on the way to it, in order.  A computation
that is `Logged` cannot depend on what becomes of its events.
-/

namespace CommentSeparator

/-- How urgent an event is, the most urgent first. -/
inductive Level where
  | error
  | warn
  | info
  | debug
  | trace
  deriving DecidableEq, Repr

/-- Levels in the order of urgency: 1 is the most urgent. -/
def Level.rank : Level → Nat
  | .error => 1
  | .warn => 2
  | .info => 3
  | .debug => 4
  | .trace => 5

/-- The name of a level as log lines show it. -/
def Level.name : Level → String
  | .error => "ERROR"
  | .warn => "WARN"
  | .info => "INFO"
  | .debug => "DEBUG"
  | .trace => "TRACE"

/-- Something worth reporting. -/
inductive Event where
  /-- An input line was taken as a header label. -/
  | headerRequested (label : String)
  /-- An input line was taken as a region request. -/
  | regionRequested (label : String)
  /-- A region had no room for fill, so its label was left out. -/
  | labelDropped (label : String) (width : UInt64)
  /-- A line has no room for its parts; `count` is how much is missing, below zero. -/
  | fillClamped (count : Int)
  /-- The styles come from a file. -/
  | styleFileLoaded (path : Path)
  /-- No style file was found. -/
  | builtinStylesUsed
  /-- A session ended without an error. -/
  | sessionFinished (summary : Summary)
  deriving DecidableEq, Repr

/-- The name of a reason to stop, as the log shows it. -/
def Stop.name : Stop → String
  | .endOfInput => "EndOfInput"
  | .quitWord => "QuitWord"
  | .countReached => "CountReached"

namespace Event

def level : Event → Level
  | headerRequested _ | regionRequested _ | fillClamped _ => .debug
  | labelDropped _ _ => .warn
  | styleFileLoaded _ | builtinStylesUsed | sessionFinished _ => .info

/-- The part of the program that an event belongs to. -/
def target : Event → String
  | headerRequested _ | regionRequested _ => "sepgen::dispatch"
  | labelDropped _ _ => "sepgen::region"
  | fillClamped _ => "sepgen::fill"
  | styleFileLoaded _ | builtinStylesUsed => "sepgen::styles"
  | sessionFinished _ => "sepgen::session"

def message : Event → String
  | headerRequested _ => "header separator"
  | regionRequested _ => "region separator"
  | labelDropped _ _ => "region label dropped: no room left for fill"
  | fillClamped _ => "negative fill clamped to zero"
  | styleFileLoaded _ => "loaded style file"
  | builtinStylesUsed => "no style file, using built-in defaults"
  | sessionFinished _ => "session finished"

/-- The fields of an event with their shown values; a label is quoted, a path is not. -/
def fields : Event → List (String × String)
  | headerRequested label | regionRequested label => [("label", Text.quote label)]
  | labelDropped label width =>
    [("label", Text.quote label), ("max_width", toString width.toNat)]
  | fillClamped count => [("count", toString count)]
  | styleFileLoaded path => [("path", path.text)]
  | builtinStylesUsed => []
  | sessionFinished summary =>
    [("rendered", toString summary.rendered), ("stop", summary.stop.name)]

/-- The names under which an event can be asked for; its message counts as a field. -/
def fieldNames (event : Event) : List String :=
  "message" :: event.fields.map Prod.fst

/-- The line that the log shows for an event: level, message, and the fields as `name=value`. -/
def line (event : Event) : String :=
  event.fields.foldl (fun shown field => shown ++ " " ++ field.1 ++ "=" ++ field.2)
    (event.level.name ++ " " ++ event.message)

end Event

/-- A value and the events reported on the way to it. -/
structure Logged (α : Type) where
  value : α
  events : List Event := []

namespace Logged

variable {α β : Type}

/-- Reports one event. -/
def report (event : Event) : Logged Unit :=
  ⟨(), [event]⟩

/-- Goes on with a value; the later events come after the earlier ones. -/
def andThen (first : Logged α) (next : α → Logged β) : Logged β :=
  let second := next first.value
  ⟨second.value, first.events ++ second.events⟩

instance : Monad Logged where
  pure value := ⟨value, []⟩
  bind := andThen

@[simp]
theorem value_pure (a : α) : (pure a : Logged α).value = a := rfl

@[simp]
theorem events_pure (a : α) : (pure a : Logged α).events = [] := rfl

@[simp]
theorem value_bind (first : Logged α) (next : α → Logged β) :
    (first >>= next).value = (next first.value).value := rfl

@[simp]
theorem events_bind (first : Logged α) (next : α → Logged β) :
    (first >>= next).events = first.events ++ (next first.value).events := rfl

@[simp]
theorem value_map (f : α → β) (first : Logged α) : (f <$> first).value = f first.value := rfl

@[simp]
theorem events_map (f : α → β) (first : Logged α) : (f <$> first).events = first.events :=
  List.append_nil _

@[simp]
theorem value_report (event : Event) : (report event).value = () := rfl

@[simp]
theorem events_report (event : Event) : (report event).events = [event] := rfl

end Logged

end CommentSeparator
