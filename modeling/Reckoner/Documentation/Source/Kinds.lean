import Reckoner.Documentation.Source.Datum

/-!
Kinds of data by their names: which ones there are, which are special cases of others, and
the functions that belong to their data.

* §1 `faultParents`, `parent?` — what a kind is a special case of.
* §2 `isUnder`, `isOf` — whether a kind or a datum falls under a kind.
* §3 `methodNames` — the functions that belong to the data of a kind.
* §4 `builtinName?` — what the names stand for that are always there.
-/

namespace Reckoner.Documentation.Source

/-! ## §1 Kinds -/

/-- The kinds of faults, each with the one that it is a special case of. -/
def faultParents : List (String × String) :=
  [("BaseException", "object"), ("Exception", "BaseException"),
    ("GeneratorExit", "BaseException"), ("KeyboardInterrupt", "BaseException"),
    ("SystemExit", "BaseException"), ("ArithmeticError", "Exception"),
    ("AssertionError", "Exception"), ("AttributeError", "Exception"),
    ("BufferError", "Exception"), ("EOFError", "Exception"), ("ImportError", "Exception"),
    ("LookupError", "Exception"), ("MemoryError", "Exception"), ("NameError", "Exception"),
    ("OSError", "Exception"), ("ReferenceError", "Exception"), ("RuntimeError", "Exception"),
    ("StopAsyncIteration", "Exception"), ("StopIteration", "Exception"),
    ("SyntaxError", "Exception"), ("SystemError", "Exception"), ("TypeError", "Exception"),
    ("ValueError", "Exception"), ("Warning", "Exception"),
    ("FloatingPointError", "ArithmeticError"), ("OverflowError", "ArithmeticError"),
    ("ZeroDivisionError", "ArithmeticError"), ("ModuleNotFoundError", "ImportError"),
    ("IndexError", "LookupError"), ("KeyError", "LookupError"),
    ("UnboundLocalError", "NameError"), ("BlockingIOError", "OSError"),
    ("ChildProcessError", "OSError"), ("ConnectionError", "OSError"),
    ("BrokenPipeError", "ConnectionError"), ("ConnectionAbortedError", "ConnectionError"),
    ("ConnectionRefusedError", "ConnectionError"), ("ConnectionResetError", "ConnectionError"),
    ("FileExistsError", "OSError"), ("FileNotFoundError", "OSError"),
    ("InterruptedError", "OSError"), ("IsADirectoryError", "OSError"),
    ("NotADirectoryError", "OSError"), ("PermissionError", "OSError"),
    ("ProcessLookupError", "OSError"), ("TimeoutError", "OSError"),
    ("NotImplementedError", "RuntimeError"), ("RecursionError", "RuntimeError"),
    ("IndentationError", "SyntaxError"), ("TabError", "IndentationError"),
    ("UnicodeError", "ValueError"), ("UnicodeDecodeError", "UnicodeError"),
    ("UnicodeEncodeError", "UnicodeError"), ("UnicodeTranslateError", "UnicodeError"),
    ("BytesWarning", "Warning"), ("DeprecationWarning", "Warning"),
    ("EncodingWarning", "Warning"), ("FutureWarning", "Warning"), ("ImportWarning", "Warning"),
    ("PendingDeprecationWarning", "Warning"), ("ResourceWarning", "Warning"),
    ("RuntimeWarning", "Warning"), ("SyntaxWarning", "Warning"), ("UnicodeWarning", "Warning"),
    ("UserWarning", "Warning")]

/-- The kinds of data that have names. -/
def kindNames : List String :=
  ["object", "type", "bool", "int", "float", "complex", "str", "bytes", "bytearray", "list", "tuple",
    "dict", "set", "frozenset", "range", "slice", "enumerate", "zip", "map", "filter", "reversed",
    "memoryview", "property", "staticmethod", "classmethod", "super"]

/-- What a kind is a special case of. -/
def parent? (name : String) : Option String :=
  if name == "object" then none
  else if name == "bool" then some "int"
  else some (((faultParents.find? fun p => p.1 == name).map Prod.snd).getD "object")

/-! ## §2 Special cases -/

/-- Whether a kind is another one or a special case of it, at most `fuel` steps away. -/
def isUnderFrom : (fuel : Nat) → String → String → Bool
  | 0, _, _ => false
  | fuel + 1, name, other =>
      name == other || (parent? name).any fun parent => isUnderFrom fuel parent other

/-- Whether a kind is another one or a special case of it. -/
def isUnder (name other : String) : Bool :=
  isUnderFrom (faultParents.length + 3) name other

/-- Whether a kind falls under a kind or under one out of a tuple. -/
def isUnderAny? (name : String) : Datum → Option Bool
  | .kind other => some (isUnder name other)
  | .tuple kinds | .alternatives kinds => kinds.foldlM (fun found d => match d with
      | .kind other => some (found || isUnder name other)
      | .nothing => some (found || name == "NoneType")
      | _ => none) false
  | _ => none

/-! ## §3 Functions of kinds -/

/-- The functions that belong to the bytes and to the texts. -/
def commonMethodNames : List String :=
  ["capitalize", "center", "count", "endswith", "expandtabs", "find", "index", "isalnum", "isalpha",
    "isascii", "isdigit", "islower", "isspace", "istitle", "isupper", "join", "ljust", "lower",
    "lstrip", "partition", "removeprefix", "removesuffix", "replace", "rfind", "rindex", "rjust",
    "rpartition", "rsplit", "rstrip", "split", "splitlines", "startswith", "strip", "swapcase",
    "title", "translate", "upper", "zfill"]

/-- The functions that belong to frozen sets. -/
def setMethodNames : List String :=
  ["copy", "difference", "intersection", "isdisjoint", "issubset", "issuperset",
    "symmetric_difference", "union"]

/-- The functions that belong to lists. -/
def listMethodNames : List String :=
  ["append", "clear", "copy", "count", "extend", "index", "insert", "pop", "remove", "reverse"]

/-- The functions that belong to the data of a kind. -/
def methodNames : String → List String
  | "str" =>
      commonMethodNames ++ ["casefold", "encode", "format", "format_map", "isdecimal",
        "isidentifier", "isnumeric", "isprintable"]
  | "bytes" => commonMethodNames ++ ["decode", "hex"]
  | "bytearray" => commonMethodNames ++ ["decode", "hex"] ++ listMethodNames
  | "list" => "sort" :: listMethodNames
  | "tuple" => ["count", "index"]
  | "range" => ["count", "index"]
  | "slice" => ["indices"]
  | "dict" =>
      ["clear", "copy", "get", "items", "keys", "pop", "popitem", "setdefault", "update", "values"]
  | "frozenset" => setMethodNames
  | "set" =>
      setMethodNames ++ ["add", "clear", "difference_update", "discard", "intersection_update",
        "pop", "remove", "symmetric_difference_update", "update"]
  | "int" | "bool" => ["as_integer_ratio", "bit_count", "bit_length", "conjugate", "to_bytes"]
  | "float" => ["as_integer_ratio", "conjugate", "hex", "is_integer"]
  | "complex" => ["conjugate"]
  | _ => []

/-! ## §4 Names -/

/-- The functions that have names. -/
def functionNames : List String :=
  ["abs", "aiter", "all", "anext", "any", "ascii", "bin", "breakpoint", "callable", "chr", "compile",
    "delattr", "dir", "divmod", "eval", "exec", "format", "getattr", "globals", "hasattr", "hash",
    "hex", "id", "input", "isinstance", "issubclass", "iter", "len", "locals", "max", "min", "next",
    "oct", "open", "ord", "pow", "print", "repr", "round", "setattr", "sorted", "sum", "vars",
    "__import__", "__build_class__"]

/-- What a name stands for that is always there. -/
def builtinName? (name : String) : Option Datum :=
  match name with
  | "None" => some .nothing
  | "True" | "__debug__" => some (.truth true)
  | "False" => some (.truth false)
  | "Ellipsis" => some .ellipsis
  | "NotImplemented" => some .notImplemented
  | "EnvironmentError" | "IOError" => some (.kind "OSError")
  | _ =>
      if kindNames.contains name || faultParents.any (fun p => p.1 == name) then some (.kind name)
      else if functionNames.contains name then some (.function name)
      else none

end Reckoner.Documentation.Source
