import AspectAgent.Host.CallMismatch
import AspectAgent.Value

/-!
# Failures

A failure is held by its cause; its class, its argument and its text are computed from that.
Failures of an ordinary class can be caught by a handler for ordinary failures; an interruption, an
exit or a cancelled phase passes through such a handler.
-/

namespace AspectAgent

/-- The class of a failure. -/
inductive FailureKind where
  | value
  | runtime
  | key
  | type
  | operatingSystem
  | lookup
  | index
  | zeroDivision
  | attribute
  | frozenField
  | overflow
  | moduleNotFound
  | phaseFailed
  | phaseCancelled
  | interrupted
  | exit
  | generatorExit
  | matchEvaluation
  | advice
  deriving DecidableEq, Repr, Inhabited

namespace FailureKind

def name : FailureKind → String
  | .value => "ValueError"
  | .runtime => "RuntimeError"
  | .key => "KeyError"
  | .type => "TypeError"
  | .operatingSystem => "OSError"
  | .lookup => "LookupError"
  | .index => "IndexError"
  | .zeroDivision => "ZeroDivisionError"
  | .attribute => "AttributeError"
  | .frozenField => "FrozenInstanceError"
  | .overflow => "OverflowError"
  | .moduleNotFound => "ModuleNotFoundError"
  | .phaseFailed => "PhaseFailed"
  | .phaseCancelled => "PhaseCancelled"
  | .interrupted => "KeyboardInterrupt"
  | .exit => "SystemExit"
  | .generatorExit => "GeneratorExit"
  | .matchEvaluation => "MatchEvaluationFault"
  | .advice => "AdviceFault"

/-- The classes that a host program or a scripted source may raise by name. -/
def requestable : List FailureKind :=
  [.value, .runtime, .key, .type, .operatingSystem, .lookup, .index, .zeroDivision, .attribute,
    .phaseFailed, .phaseCancelled, .interrupted, .exit, .generatorExit]

def ofName? (s : String) : Option FailureKind := requestable.find? fun k => k.name == s

/-- Does a handler for ordinary failures catch it? -/
def isOrdinary : FailureKind → Bool
  | .phaseCancelled | .interrupted | .exit | .generatorExit => false
  | _ => true

end FailureKind

/-- What went wrong. -/
inductive Failure where
  /-- Raised on purpose by the host, by advice or by a source, with an argument or without. -/
  | requested (kind : FailureKind) (argument : Option String)
  | negativeArgumentIndex
  | noAlternatives
  | adviceNotCallable
  | notAPhase (found : Value)
  | duplicateModule (name : String)
  | duplicateInstrument (name : String)
  | callbackNotCallable
  | categoryCount (found : Nat)
  /-- A reading that is not a number; truth values are none. -/
  | readingNotNumber (typeName : String)
  | readingNaN
  | notBoolean (setting raw : String)
  | capacityNotPositive
  | capacityTooLarge
  /-- The arguments of a call do not fit the parameters that advice sees. -/
  | missingArgument (name : String)
  | surplusArguments
  | repeatedArgument (name : String)
  | unknownKeyword (name : String)
  | positionalOnlyKeyword (name : String)
  | argumentOutOfRange
  | readOnlyArguments
  /-- The arguments of a call do not fit a function of the host. -/
  | callMismatch (function : String) (cause : CallMismatch)
  /-- A class whose instances take no arguments was given some. -/
  | takesNothing (className : String)
  /-- What prepares any instance was given more than the instance. -/
  | surplusPreparation (className : String)
  /-- What prepares any instance was called without one. -/
  | instanceMissing
  /-- What makes any instance was called without a class; the type of what it was given instead. -/
  | classMissing (found : Option String)
  /-- What everything does about subclasses was given arguments. -/
  | surplusAnnouncement (className : String) (given : Nat)
  /-- What prepares a new instance returned something. -/
  | preparationResult (typeName : String)
  | notCallable (typeName : String)
  /-- A thing does not have a member. -/
  | noMember (owner : Value) (member : String)
  /-- A field of a thing that cannot be changed. -/
  | frozen (field : String)
  /-- Advice asked for a part of a call when it was run without one. -/
  | noCall (part : String)
  | lockedMember (name : String)
  | integerTooLarge
  | notConvertible (typeName : String)
  | textNotConvertible (s : String)
  | unhashable (typeName : String)
  | positionOutOfRange
  | positionTooWide
  | missingKey (key : String)
  /-- A name under which nothing is known. -/
  | unknownName (name : String)
  | reservedField (name : String)
  | noSuchModule (name : String)
  /-- The base classes of a class cannot be put into one order. -/
  | inconsistentBases
  /-- A message template and its arguments do not fit. -/
  | template (kind : FailureKind)
  /-- A standard field of a record holds what it cannot hold. -/
  | malformedRecord (kind : FailureKind)
  /-- Two values of types without a common order are compared. -/
  | incomparable (sign left right : String)
  /-- Two values of types that do not go together are combined. -/
  | uncombinable (sign left right : String)
  | relativeImport
  | emptyImport
  /-- A matcher failed on a target. -/
  | matcherFailed (descriptor target : String) (cause : Failure)
  /-- Advice failed at a site. -/
  | adviceFailed (site : Option String) (cause : Failure)
  /-- A failure that is not worded by this library but by the program around it. -/
  | outside (f : Failure)
  deriving Inhabited

namespace Failure

def kind : Failure → FailureKind
  | .requested k _ | .template k | .malformedRecord k => k
  | .negativeArgumentIndex | .noAlternatives | .duplicateModule _ | .duplicateInstrument _
  | .categoryCount _ | .notBoolean .. | .capacityNotPositive | .textNotConvertible _
  | .emptyImport => .value
  | .adviceNotCallable | .notAPhase _ | .callbackNotCallable | .readingNotNumber _ | .readingNaN
  | .missingArgument _ | .surplusArguments | .repeatedArgument _ | .unknownKeyword _
  | .positionalOnlyKeyword _ | .readOnlyArguments | .callMismatch .. | .takesNothing _
  | .surplusPreparation _ | .instanceMissing | .classMissing _ | .surplusAnnouncement ..
  | .preparationResult _ | .notCallable _ | .notConvertible _ | .unhashable _ | .inconsistentBases
  | .incomparable .. | .uncombinable .. | .relativeImport => .type
  | .argumentOutOfRange | .positionOutOfRange | .positionTooWide => .index
  | .noMember .. | .noCall _ | .lockedMember _ => .attribute
  | .frozen _ => .frozenField
  | .capacityTooLarge | .integerTooLarge => .overflow
  | .missingKey _ | .unknownName _ | .reservedField _ => .key
  | .noSuchModule _ => .moduleNotFound
  | .matcherFailed .. => .matchEvaluation
  | .adviceFailed .. => .advice
  | .outside f => f.kind

def isOrdinary (f : Failure) : Bool := f.kind.isOrdinary

/-- A failure as an expression: its class with its argument in parentheses. -/
def express (kind : FailureKind) (argument : Option String) : String :=
  kind.name ++ "(" ++ (match argument with | some a => Text.quoted a | none => "") ++ ")"

/-- How many bytes of the names of types a message shows that compares or combines their values. -/
def operandBytes : Nat := 100

/-- How many bytes of the name of a type other messages show. -/
def typeNameBytes : Nat := 200

/-- What advice that is run without a call is given instead of one. -/
def bareCall : Value := .object "types.SimpleNamespace"

/-- The argument the failure carries, if any. -/
def argument : Failure → Option String
  | .requested _ a => a
  | .negativeArgumentIndex => some "argument index must be non-negative"
  | .noAlternatives => some "any_of() needs at least one matcher"
  | .adviceNotCallable => some "advice must be callable"
  | .notAPhase v => some ("phase must be a Phase, got " ++ v.shown)
  | .duplicateModule n =>
    some ("instrumentation module " ++ Text.quoted n ++ " already registered")
  | .duplicateInstrument n => some ("instrument " ++ Text.quoted n ++ " already registered")
  | .callbackNotCallable => some "callback must be callable"
  | .categoryCount n =>
    some ("dual_aggregate needs exactly two categories, got " ++ toString n)
  | .readingNotNumber t => some ("reading must be a number, got " ++ t)
  | .readingNaN => some "reading is NaN"
  | .notBoolean v raw => some (v ++ " must be a boolean, got " ++ Text.quoted raw)
  | .capacityNotPositive => some "max_size must be positive"
  | .capacityTooLarge => some "Python int too large to convert to C ssize_t"
  | .missingArgument n => some ("missing a required argument: " ++ Text.quoted n)
  | .surplusArguments => some "too many positional arguments"
  | .repeatedArgument n => some ("multiple values for argument " ++ Text.quoted n)
  | .unknownKeyword n => some ("got an unexpected keyword argument " ++ Text.quoted n)
  | .positionalOnlyKeyword n =>
    some (Text.quoted n ++ " parameter is positional only, but was passed as a keyword")
  | .argumentOutOfRange => some "list index out of range"
  | .readOnlyArguments => some "'mappingproxy' object does not support item assignment"
  | .callMismatch f m => some (f ++ "() " ++ m.text)
  | .takesNothing c =>
    some (String.ofList (Text.clip typeNameBytes c.toList) ++ "() takes no arguments")
  | .surplusPreparation c =>
    some (String.ofList (Text.clip typeNameBytes c.toList) ++
      ".__init__() takes exactly one argument (the instance to initialize)")
  | .instanceMissing => some "descriptor '__init__' of 'object' object needs an argument"
  | .classMissing none => some "object.__new__(): not enough arguments"
  | .classMissing (some t) => some ("object.__new__(X): X is not a type object (" ++ t ++ ")")
  | .surplusAnnouncement c n =>
    some (c ++ ".__init_subclass__() takes no arguments (" ++ toString n ++ " given)")
  | .preparationResult t =>
    some ("__init__() should return None, not " ++ Text.clipped typeNameBytes t)
  | .notCallable t => some (Text.clipped typeNameBytes t ++ " object is not callable")
  | .noMember owner m => some (owner.kindShown ++ " has no attribute '" ++ m ++ "'")
  | .noCall m => some (bareCall.kindShown ++ " has no attribute '" ++ m ++ "'")
  | .frozen n => some ("cannot assign to field " ++ Text.quoted n)
  | .lockedMember n => some ("locked " ++ n)
  | .integerTooLarge => some "int too large to convert to float"
  | .notConvertible t =>
    some ("float() argument must be a string or a real number, not " ++
      Text.clipped typeNameBytes t)
  | .textNotConvertible s => some ("could not convert string to float: " ++ Text.quoted s)
  | .unhashable t => some ("unhashable type: " ++ Text.clipped typeNameBytes t)
  | .positionOutOfRange => some "tuple index out of range"
  | .positionTooWide => some "cannot fit 'int' into an index-sized integer"
  | .incomparable sign a b =>
    some ("'" ++ sign ++ "' not supported between instances of " ++ Text.clipped operandBytes a ++
      " and " ++ Text.clipped operandBytes b)
  | .uncombinable sign a b =>
    some ("unsupported operand type(s) for " ++ sign ++ ": " ++ Text.clipped operandBytes a ++
      " and " ++ Text.clipped operandBytes b)
  | .missingKey k | .unknownName k => some k
  | .reservedField _ | .noSuchModule _ | .template _ | .malformedRecord _ | .inconsistentBases
  | .relativeImport | .emptyImport => none
  | .matcherFailed descriptor target cause =>
    some ("matcher of " ++ descriptor ++ " failed on " ++ target ++ ": " ++
      express cause.kind (argument cause))
  | .adviceFailed site cause =>
    some ("advice at " ++ site.getD "None" ++ " raised " ++
      express cause.kind (argument cause))
  | .outside f => argument f

def shown (f : Failure) : String := express f.kind f.argument

/-- The text: the argument, quoted for a missing key, or nothing. -/
def text (f : Failure) : String :=
  match f.argument with
  | none => ""
  | some a => if f.kind = .key then Text.quoted a else a

def ifNone {α : Type} (f : Failure) : Option α → Except Failure α
  | some a => .ok a
  | none => .error f

/-- Is the wording part of this library? A call mismatch and the like are worded by the host. -/
def isWorded : Failure → Bool
  | .callMismatch .. | .takesNothing _ | .surplusPreparation _ | .instanceMissing | .classMissing _
  | .surplusAnnouncement .. | .preparationResult _ | .notCallable _ | .frozen _ | .noCall _
  | .uncombinable .. | .unknownName _ | .reservedField _ | .noSuchModule _ | .template _
  | .malformedRecord _ | .textNotConvertible _ | .inconsistentBases | .relativeImport
  | .emptyImport | .outside _ => false
  | _ => true

end Failure

end AspectAgent
