import AspectAgent.Archive
import AspectAgent.Comparison
import AspectAgent.Diagnostics.Template
import AspectAgent.Sorting

/-!
# Diagnostics records and entries

A record is what a logging call hands to the handlers. A handler turns it into an entry: a time, a
level name, a message and attributes. The attributes are written in a fixed order of sources, a
later source replacing the values of an earlier one: the included fields of the record, the
handler's context, the scalar extra fields, and the fields of the failure. An extra field that has
the name of a standard field stands in its place.
-/

namespace AspectAgent

def levelName (level : Int) : String :=
  if level = 10 then "DEBUG"
  else if level = 20 then "INFO"
  else if level = 30 then "WARNING"
  else if level = 40 then "ERROR"
  else if level = 50 then "CRITICAL"
  else if level = 0 then "NOTSET"
  else "Level " ++ toString level

def levelOfName? (name : String) : Option Int :=
  [10, 20, 30, 40, 50, 0].find? fun level => levelName level == name

/-- The failure that a record reports: its class and the failure itself, either of which may lack,
and how the failure is written out with the way it has come. -/
structure FailureReport where
  kind : Option FailureKind := none
  failure : Option Failure := none
  trace : String := ""
  deriving Inhabited

namespace FailureReport

/-- A failure's class and text on a line of its own. -/
def line (f : Failure) : String :=
  if f.text.isEmpty then f.kind.name ++ "\n" else f.kind.name ++ ": " ++ f.text ++ "\n"

/-- The report of a failure of whose way nothing is known, by its class and the failure itself. -/
def ofParts (kind : Option FailureKind) (failure : Option Failure) : FailureReport :=
  ⟨kind, failure, (failure.map line).getD ""⟩

def of (f : Failure) : FailureReport := ofParts (some f.kind) (some f)

/-- The report that a value stands for. A value that counts as false, or a triple without class and
failure, reports nothing; no other value can be one. -/
def ofValue? (v : Value) : Except Failure FailureReport :=
  if !v.truthy then .ok {}
  else
    match v with
    | .list [.null, .null, _] => .ok {}
    | .list [_, _, _] | .map [_, _, _] => .error (.malformedRecord .attribute)
    | .text s => .error (.malformedRecord (if s.length = 3 then .attribute else .value))
    | .list _ | .map _ => .error (.malformedRecord .value)
    | _ => .error (.malformedRecord .type)

def attributes (r : FailureReport) : Table Value :=
  (match r.kind with
    | some k => [("exc_type", .text k.name)]
    | none => []) ++
  (match r.failure with
    | some f => [("exc_message", .text f.text), ("exc_traceback", .text r.trace)]
    | none => [])

end FailureReport

/-- A record of a logging call. -/
structure LogRecord where
  logger : String
  level : Int
  message : Value
  arguments : List Value := []
  created : Value := .int 0
  path : String := ""
  line : Int := 0
  function : Option String := none
  report : FailureReport := {}
  extra : Table Value := []
  deriving Inhabited

structure LogEntry where
  timestamp : Value
  level : Value
  message : String
  attributes : Table Value
  deriving Inhabited

namespace LogRecord

/-- The fields every record has; an extra field of such a name is no attribute. -/
def standardFields : List String :=
  ["args", "asctime", "created", "exc_info", "exc_text", "filename", "funcName", "levelname",
    "levelno", "lineno", "message", "module", "msecs", "msg", "name", "pathname", "process",
    "processName", "relativeCreated", "stack_info", "taskName", "thread", "threadName"]

/-- A standard field of the record: an extra field of that name stands in its place. -/
def standard (r : LogRecord) (name : String) (own : Value) : Value := (r.extra.get? name).getD own

/-- The fields that an entry may include. The module of an entry is the name of the logger. -/
def includable? (r : LogRecord) (name : String) : Option Value :=
  if name = "module" then some (r.standard "name" (.text r.logger))
  else if name = "funcName" then
    let v := r.standard "funcName" (Value.ofText? r.function)
    some (if v.truthy then v else .text "")
  else if name = "lineno" then some (r.standard "lineno" (.int r.line))
  else if name = "pathname" then some (r.standard "pathname" (.text r.path))
  else none

def scalarExtra (r : LogRecord) : Table Value :=
  r.extra.filter fun e => !standardFields.contains e.1 && e.2.isScalar

def levelShown (r : LogRecord) : Value := r.standard "levelname" (.text (levelName r.level))

/-- Is the record's level, which must be a number, below another level? A not-a-number is below
every level. -/
def isBelow (r : LogRecord) (level : Int) : Except Failure Bool :=
  let own := r.standard "levelno" (.int r.level)
  if own.isNumber then .ok (own.point?.all (·.lt (.ofInt level)))
  else .error (.malformedRecord .type)

def reported (r : LogRecord) : Except Failure FailureReport :=
  match r.extra.get? "exc_info" with
  | some v => FailureReport.ofValue? v
  | none => .ok r.report

/-- What the message is filled in with; nothing at all leaves it as it is. -/
def supply? (r : LogRecord) : Option Template.Supply :=
  match r.extra.get? "args" with
  | some v => if v.truthy then some (.single v) else none
  | none => if r.arguments.isEmpty then none else some (.ofArguments r.arguments)

/-- The field of a record that makes its message. No value that an extra field can put in its place
can do so. -/
def messageMaker : String := "getMessage"

def text (r : LogRecord) : Except Failure String :=
  let template := (r.standard "msg" r.message).plain
  match r.extra.get? messageMaker, r.supply? with
  | some v, _ => .error (.notCallable v.typeName)
  | none, some s => Template.fill template s
  | none, none => .ok template

end LogRecord

/-- How a handler builds entries: the fields it includes, and a context of its own that it may fail
to provide. -/
structure EntryFormat where
  included : List String := []
  context : Option (Except Failure (Table Value)) := none

namespace EntryFormat

def defaultIncluded : List String := ["module", "funcName", "lineno"]

def fields (f : EntryFormat) : List String :=
  if f.included.isEmpty then defaultIncluded else f.included

def attributes (f : EntryFormat) (context : Table Value) (report : FailureReport) (r : LogRecord) :
    Table Value :=
  let included := Table.ofPairs (f.fields.filterMap fun k => (r.includable? k).map (k, ·))
  ((included.putAll context).putAll r.scalarExtra).putAll report.attributes

def entry (f : EntryFormat) (r : LogRecord) : Except Failure LogEntry := do
  let context ← f.context.getD (.ok [])
  let report ← r.reported
  let message ← r.text
  return ⟨r.standard "created" r.created, r.levelShown, message, f.attributes context report r⟩

end EntryFormat

/-- Reads the items of an archive later than a time, in ascending order of time, ties in the order
of writing. The time of every item must be comparable with it, and with those of the others. -/
def Archive.readSince {α : Type} (time : α → Value) (a : Archive α) (since : Value) :
    Except Failure (List α) := do
  let later ← a.items.filterM fun x => Value.isOrdered .greater (time x) since
  Sorting.sort (fun x y => Value.isOrdered .less (time x) (time y)) later

end AspectAgent
