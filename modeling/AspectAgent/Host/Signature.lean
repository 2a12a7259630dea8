import AspectAgent.Description
import AspectAgent.Text.Name
import AspectAgent.Text.Normal
import AspectAgent.Value

/-!
# Signatures of host functions

A host function has parameters of five kinds, with annotations and defaults. The numbered parameters
are those that are not variadic. Textual annotations are resolved for the whole function at once: if
one of them does not resolve, all are taken as they are written.
-/

namespace AspectAgent

/-- How a parameter takes its argument. -/
inductive ParameterKind where
  | positionalOnly
  | positional
  /-- Takes all surplus positional arguments. -/
  | surplus
  | keywordOnly
  /-- Takes all surplus keyword arguments. -/
  | surplusKeywords
  deriving DecidableEq, Repr, Inhabited

/-- What is written as the type of a parameter or a result. -/
inductive Annotation where
  /-- A class, by its module and its qualified name in it. -/
  | ofClass (module qualname : String)
  /-- A text, to be resolved to a class by name. -/
  | text (s : String)
  /-- The null value. -/
  | nothing
  /-- Some other thing, known by the type name that it has as it is, and by the one it has once
  everything that is written inside it has been resolved, if that can be. -/
  | other (shown : String) (resolved : Option String := some shown)
  deriving DecidableEq, Repr, Inhabited

/-- A parameter. -/
structure Parameter where
  name : String
  kind : ParameterKind := .positional
  annotation : Option Annotation := none
  default : Option Value := none
  deriving Inhabited

namespace Parameter

def isVariadic (p : Parameter) : Bool := p.kind == .surplus || p.kind == .surplusKeywords

end Parameter

/-- What textual annotations can say: names, over the built-in ones, and texts that are more than a
name, such as the application of a class to others. Any other text of that sort says nothing. -/
structure Vocabulary where
  names : Table Annotation := []
  phrases : Table Annotation := []
  deriving Inhabited

namespace Vocabulary

def size (v : Vocabulary) : Nat := v.names.length + v.phrases.length

end Vocabulary

/-- The declared side of a host function. -/
structure Signature where
  parameters : List Parameter
  returns : Option Annotation := none
  scope : Vocabulary := {}
  deriving Inhabited

namespace Annotation

/-- The module whose classes go by their bare name. -/
def builtinModule : String := "builtins"

/-- The classes that a textual annotation can always name. -/
def builtinClasses : List String :=
  ["ArithmeticError", "AssertionError", "AttributeError", "BaseException", "BaseExceptionGroup",
    "BlockingIOError", "BrokenPipeError", "BufferError", "BytesWarning", "ChildProcessError",
    "ConnectionAbortedError", "ConnectionError", "ConnectionRefusedError",
    "ConnectionResetError", "DeprecationWarning", "EOFError", "EncodingWarning", "Exception",
    "ExceptionGroup", "FileExistsError", "FileNotFoundError", "FloatingPointError",
    "FutureWarning", "GeneratorExit", "ImportError", "ImportWarning", "IndentationError",
    "IndexError", "InterruptedError", "IsADirectoryError", "KeyError", "KeyboardInterrupt",
    "LookupError", "MemoryError", "ModuleNotFoundError", "NameError", "NotADirectoryError",
    "NotImplementedError", "OSError", "OverflowError", "PendingDeprecationWarning",
    "PermissionError", "ProcessLookupError", "RecursionError", "ReferenceError",
    "ResourceWarning", "RuntimeError", "RuntimeWarning", "StopAsyncIteration", "StopIteration",
    "SyntaxError", "SyntaxWarning", "SystemError", "SystemExit", "TabError", "TimeoutError",
    "TypeError", "UnboundLocalError", "UnicodeDecodeError", "UnicodeEncodeError", "UnicodeError",
    "UnicodeTranslateError", "UnicodeWarning", "UserWarning", "ValueError", "Warning",
    "ZeroDivisionError", "bool", "bytearray", "bytes", "classmethod", "complex", "dict",
    "enumerate", "filter", "float", "frozenset", "int", "list", "map", "memoryview", "object",
    "property", "range", "reversed", "set", "slice", "staticmethod", "str", "super", "tuple",
    "type", "zip"]

/-- The class of the null value. -/
def nullClass : Annotation := .ofClass builtinModule "NoneType"

/-- The words that are no names. -/
def reservedWords : List String :=
  ["False", "None", "True", "and", "as", "assert", "async", "await", "break", "class", "continue",
    "def", "del", "elif", "else", "except", "finally", "for", "from", "global", "if", "import",
    "in", "is", "lambda", "nonlocal", "not", "or", "pass", "raise", "return", "try", "while",
    "with", "yield"]

/-- Is a text a name? Reserved words are none. -/
def isName (s : String) : Bool := Text.isName s.toList && !reservedWords.contains s

/-- The functions that a textual annotation can always name. -/
def builtinFunctions : List String :=
  ["__build_class__", "__import__", "abs", "aiter", "all", "anext", "any", "ascii", "bin",
    "breakpoint", "callable", "chr", "compile", "delattr", "dir", "divmod", "eval", "exec",
    "format", "getattr", "globals", "hasattr", "hash", "hex", "id", "input", "isinstance",
    "issubclass", "iter", "len", "locals", "max", "min", "next", "oct", "open", "ord", "pow",
    "print", "repr", "round", "setattr", "sorted", "sum", "vars"]

/-- The constants that a textual annotation can always name, as they are printed. -/
def builtinConstants : Table String :=
  [("True", "True"), ("False", "False"), ("__debug__", "True"), ("Ellipsis", "Ellipsis"),
    ("...", "Ellipsis"), ("NotImplemented", "NotImplemented")]

/-- Is a text a whole number, written without zeros before it? -/
def isNumeral (s : String) : Bool :=
  !s.isEmpty && s.toList.all Char.isDigit && (s = "0" || !s.startsWith "0")

def builtin? (s : String) : Option Annotation :=
  if s = "None" then some nullClass
  else if builtinClasses.contains s then some (.ofClass builtinModule s)
  else if s = "EnvironmentError" || s = "IOError" then some (.ofClass builtinModule "OSError")
  else if builtinFunctions.contains s then some (.other ("<built-in function " ++ s ++ ">"))
  else if isNumeral s then some (.other s)
  else (builtinConstants.get? s).map fun shown => .other shown

/-- The characters that can stand around a name. -/
def isSpacing (c : Char) : Bool :=
  c = ' ' || c = '\t' || c = '\n' || c = '\r' || c = '\x0c'

/-- What a text says: what is left without the spacing at its ends. A text that is indented says
nothing. -/
def unspaced? (s : String) : Option String :=
  match (s.toList.takeWhile isSpacing).getLast? with
  | some ' ' | some '\t' => none
  | _ => some (String.ofList
    ((s.toList.dropWhile isSpacing).reverse.dropWhile isSpacing).reverse)

/-- What the scope says about a text: about a name in its one spelling, or about a phrase. -/
def said? (scope : Vocabulary) (s : String) : Option Annotation :=
  if isName s then scope.names.get? (Text.normal s) else scope.phrases.get? s

/-- What a text means in a scope. It means what the scope says, and a text there is resolved in
turn; a text about which it says nothing has its built-in meaning. A text that leads back to itself
means a reference to it. `passed` holds the texts on the way: all but the first stand in the scope,
so that its size bounds the steps. -/
def resolveText? (scope : Vocabulary) : Nat → List String → String → Option Annotation
  | 0, _, _ => none
  | steps + 1, passed, s =>
    if passed.contains s then some (.other ("ForwardRef(" ++ Text.quoted s ++ ")"))
    else
      match unspaced? s with
      | none => none
      | some word =>
        match said? scope word with
        | some .nothing => some nullClass
        | some (.text t) => resolveText? scope steps (s :: passed) t
        | some (.other _ resolved) => resolved.map fun shown => .other shown
        | some a => some a
        | none => builtin? (if isName word then Text.normal word else word)

/-- What an annotation means in a scope. Null means its class. -/
def resolve? (scope : Vocabulary) : Annotation → Option Annotation
  | .nothing => some nullClass
  | .text s => resolveText? scope (scope.size + 2) [] s
  | .other _ resolved => resolved.map fun shown => .other shown
  | a => some a

def typeName : Annotation → String
  | .ofClass module qualname =>
    if module = builtinModule then qualname else module ++ "." ++ qualname
  | .text s => s
  | .nothing => "None"
  | .other shown _ => shown

end Annotation

namespace Signature

/-- All annotations of the function, that of the result included. -/
def annotations (s : Signature) : List Annotation :=
  s.parameters.filterMap Parameter.annotation ++ s.returns.toList

def resolves (s : Signature) : Bool := s.annotations.all fun a => (a.resolve? s.scope).isSome

/-- The declared type name of a parameter: that of the resolved annotation if all annotations of the
function resolve, else that of the annotation as written. -/
def declaredType (s : Signature) (p : Parameter) : Option String :=
  p.annotation.map fun a =>
    if s.resolves then ((a.resolve? s.scope).getD a).typeName else a.typeName

/-- The parameters that are numbered: all but the variadic ones. -/
def numbered (parameters : List Parameter) : List Parameter :=
  parameters.filter fun p => !p.isVariadic

/-- The parameters that a description shows: the numbered ones, the first of which is the receiver
of a method that has one. -/
def described (s : Signature) (kind : MethodKind) : List Parameter :=
  match kind with
  | .receiverless => numbered s.parameters
  | _ => (numbered s.parameters).drop 1

/-- The parameters that advice sees: all but the first, which is the receiver of a method that has
one. -/
def withoutReceiver (s : Signature) (kind : MethodKind) : List Parameter :=
  match kind with
  | .receiverless => s.parameters
  | _ => s.parameters.drop 1

def describe (s : Signature) (name : String) (kind : MethodKind) : MethodDescription :=
  ⟨name, (s.described kind).map s.declaredType, kind⟩

end Signature

end AspectAgent
