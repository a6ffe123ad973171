import Reckoner.Session.Assignment

/-!
What a line of a session asks for. Blanks around the line do not count; the command
words come first, then derivatives, then assignments, and every other line is an
expression.

* `Command` and `Command.read`.
-/

namespace Reckoner

/-- What a line asks for. -/
inductive Command where
  | nothing
  | leave
  | help
  | list
  /-- The derivative of an expression. -/
  | differentiate (text : String)
  /-- The value of an expression, to be bound to a name. -/
  | assign (assignment : Assignment)
  | evaluate (text : String)
  deriving DecidableEq, Repr

namespace Command

/-- The word that starts a line that asks for a derivative. -/
def derivativeWord : List Char := ['d', 'i', 'f', 'f', ' ']

/-- What a line without blanks around it asks for. -/
def ofStripped (line : String) : Command :=
  if line.isEmpty then nothing
  else if line == "quit" || line == "exit" then leave
  else if line == "help" then help
  else if line == "vars" then list
  else if derivativeWord.isPrefixOf line.toList then
    differentiate (String.ofList (line.toList.drop derivativeWord.length))
  else
    match Assignment.read? line with
    | some a => assign a
    | none => evaluate line

/-- What a line asks for. -/
def read (line : String) : Command :=
  ofStripped (Text.stripped line)

end Command

end Reckoner
