import Reckoner.Number.Basic
import Reckoner.Text.Quoted

/-!
What can go wrong, and how it is reported.

* §1 `Fault` — a failure of a calculation, with its kind and its wording.
* §2 `Divergence` — why a sequence of approximations has no limit.
* §3 `Error` — every reason to refuse an expression, with its wording and its code.
-/

namespace Reckoner

open Text (quoted)

/-! ## §1 Calculations -/

/-- The kinds of failure that a calculation is expected to meet, and others. -/
inductive FaultKind where
  | divisionByZero
  | value
  | overflow
  | type
  | member
  | pattern
  | other
  deriving DecidableEq, Repr

/-- A failure of a calculation. -/
inductive Fault where
  | integerDivision
  | realDivision
  | complexDivision
  | integerModulo
  | realModulo
  | exactModulo
  | zeroToNegativePower
  | zeroToComplexPower
  | outsideDomain
  | notRealText (text : String)
  | notIntegerText (text : String)
  | integerTextTooLong (digits : Nat)
  | integerTooLong
  | undefinedToInteger
  | negativeCount
  | notACount
  | noRules
  | tooFewValues (wanted got : Nat)
  | tooManyValues (wanted : Nat)
  | missingDerivative
  | onePointNeeded
  | twoPointsNeeded
  | intervalNeeded
  | unknownMethod (name : String) (known : List String)
  | malformedLevel (entry : String)
  | unknownLevel (name : String)
  | functionOverflow
  | powerOverflow
  | complexPowerOverflow
  | sizeOverflow
  | integerTooLarge
  | quotientTooLarge
  | infinityToInteger
  | complexArgument
  | notRealKind (kind : String)
  | notIntegerKind (kind : String)
  | unordered (relation : String)
  | notASequence (kind : String)
  | unboundSymbol
  | incomparable (relation first second : String)
  | noLength (kind : String)
  | notJoined (place : Nat) (kind : String)
  | notIterable
  | notConcatenated (own other : String)
  | notOperands (sign first second : String)
  | noMember (kind name : String)
  /-- A failure that the surroundings of a calculation report. -/
  | reported (kind : FaultKind) (message : String)
  deriving DecidableEq, Repr

namespace Fault

/-- The kind of a failure. -/
def kind : Fault → FaultKind
  | integerDivision | realDivision | complexDivision | integerModulo | realModulo
  | exactModulo | zeroToNegativePower | zeroToComplexPower => .divisionByZero
  | outsideDomain | notRealText _ | notIntegerText _ | integerTextTooLong _ | integerTooLong
  | undefinedToInteger | negativeCount | notACount | noRules | tooFewValues .. | tooManyValues _
  | missingDerivative | onePointNeeded | twoPointsNeeded | intervalNeeded | unknownMethod ..
  | malformedLevel _ | unknownLevel _ => .value
  | functionOverflow | powerOverflow | complexPowerOverflow | sizeOverflow | integerTooLarge
  | quotientTooLarge | infinityToInteger => .overflow
  | complexArgument | notRealKind _ | notIntegerKind _ | unordered _ | notASequence _
  | unboundSymbol | incomparable .. | noLength _ | notJoined .. | notIterable
  | notConcatenated .. | notOperands .. => .type
  | noMember .. => .member
  | reported kind _ => kind

/-- What is said about an integer with too many digits. -/
def digitLimitText : String :=
  "Exceeds the limit (" ++ toString digitLimit ++ " digits) for integer string conversion"

/-- What can be done about it. -/
def digitLimitAdvice : String :=
  "use sys.set_int_max_str_digits() to increase the limit"

/-- The wording of a failure. -/
def message : Fault → String
  | integerDivision => "division by zero"
  | realDivision => "float division by zero"
  | complexDivision => "complex division by zero"
  | integerModulo => "integer modulo by zero"
  | realModulo => "float modulo"
  | exactModulo => "Modulo by zero"
  | zeroToNegativePower => "0.0 cannot be raised to a negative power"
  | zeroToComplexPower => "0.0 to a negative or complex power"
  | outsideDomain => "math domain error"
  | notRealText text => "could not convert string to float: " ++ quoted text
  | notIntegerText text =>
      "invalid literal for int() with base 10: " ++
        String.ofList ((quoted text).toList.take 200)
  | integerTextTooLong digits =>
      digitLimitText ++ ": value has " ++ toString digits ++ " digits; " ++ digitLimitAdvice
  | integerTooLong => digitLimitText ++ "; " ++ digitLimitAdvice
  | undefinedToInteger => "cannot convert float NaN to integer"
  | negativeCount => "take() needs a non-negative count"
  | notACount =>
      "Stop argument for islice() must be None or an integer: 0 <= x <= sys.maxsize."
  | noRules => "Tokenizer needs at least one rule"
  | tooFewValues wanted got =>
      "not enough values to unpack (expected " ++ toString wanted ++ ", got " ++
        toString got ++ ")"
  | tooManyValues wanted => "too many values to unpack (expected " ++ toString wanted ++ ")"
  | missingDerivative => "Newton-Raphson needs the derivative df"
  | onePointNeeded => "Newton-Raphson needs exactly one starting point"
  | twoPointsNeeded => "Secant method needs two starting points"
  | intervalNeeded => "Bisection needs an interval (a, b)"
  | unknownMethod name known =>
      "Unknown root-finding method " ++ quoted name ++ " (expected one of " ++
        String.intercalate ", " known ++ ")"
  | malformedLevel entry => "Expected MODULE=LEVEL, got " ++ quoted entry
  | unknownLevel name => "Unknown logging level " ++ quoted name
  | functionOverflow => "math range error"
  | powerOverflow => "(34, 'Numerical result out of range')"
  | complexPowerOverflow => "complex exponentiation"
  | sizeOverflow => "absolute value too large"
  | integerTooLarge => "int too large to convert to float"
  | quotientTooLarge => "integer division result too large for a float"
  | infinityToInteger => "cannot convert float infinity to integer"
  | complexArgument => "must be real number, not complex"
  | notRealKind kind =>
      "float() argument must be a string or a real number, not " ++ quoted kind
  | notIntegerKind kind =>
      "int() argument must be a string, a bytes-like object or a real number, not " ++
        quoted kind
  | unordered relation =>
      quoted relation ++ " not supported between instances of 'complex' and 'int'"
  | incomparable relation first second =>
      quoted relation ++ " not supported between instances of " ++ quoted first ++ " and " ++
        quoted second
  | noLength kind => "object of type " ++ quoted kind ++ " has no len()"
  | notJoined place kind =>
      "sequence item " ++ toString place ++ ": expected str instance, " ++ kind ++ " found"
  | notIterable => "can only join an iterable"
  | notConcatenated own other =>
      "can only concatenate " ++ own ++ " (not \"" ++ other ++ "\") to " ++ own
  | notOperands sign first second =>
      "unsupported operand type(s) for " ++ sign ++ ": " ++ quoted first ++ " and " ++
        quoted second
  | noMember kind name => quoted kind ++ " object has no attribute " ++ quoted name
  | notASequence kind => quoted kind ++ " object is not iterable"
  | unboundSymbol => "Cannot convert expression to float"
  | reported _ message => message

end Fault

/-! ## §2 Sequences without a limit -/

/-- Why a sequence of approximations has no limit. -/
inductive Divergence (K : Type) where
  /-- The secant through two points is level away from zero. -/
  | flatSecant (first second value : K)
  /-- The two ends of an interval have values of one sign. -/
  | sameSign (first second : K)
  | emptySequence
  | sequenceEnded
  | undefinedAfter (steps : Nat)
  | noConvergence (steps : Int)

namespace Divergence

/-- The wording, for a given way to write numbers. -/
def message {K : Type} (text : K → String) : Divergence K → String
  | flatSecant x y f =>
      "Secant through x=" ++ text x ++ " and x=" ++ text y ++ " is flat at f=" ++ text f
  | sameSign a b =>
      "f(" ++ text a ++ ") and f(" ++ text b ++ ") have the same sign, no root is bracketed"
  | emptySequence => "Empty sequence has no limit"
  | sequenceEnded => "Sequence ended before converging"
  | undefinedAfter steps => "Sequence diverged (NaN) after " ++ toString steps ++ " steps"
  | noConvergence steps => "No convergence within " ++ toString steps ++ " iterations"

/-- The code of a failed search. -/
def code {K : Type} : Divergence K → String
  | flatSecant .. => "FLAT_SECANT"
  | sameSign .. => "BAD_BRACKET"
  | _ => "NO_CONVERGENCE"

end Divergence

/-! ## §3 Refused expressions -/

/-- Every reason to refuse an expression or to stop its calculation. -/
inductive Error where
  | notText
  | emptyInput
  | tooLong (limit : Int)
  | tooDeep (depth : Nat) (limit : Int)
  /-- The stack of the interpreter is used up. -/
  | stackExhausted
  /-- No rule of the lexer matches at the position. -/
  | unexpectedCharacter (character : Char) (position : Nat)
  /-- The first token that belongs to no complete expression. -/
  | unexpectedToken (text : String)
  | noParse
  | unknownOperation (name : String) (arity : Nat)
  | divergence (cause : Divergence Number)
  | fault (cause : Fault)

namespace Error

/-- The wording of an error. -/
def message : Error → String
  | notText => "Expression must be a string"
  | emptyInput => "Empty input"
  | tooLong limit => "Input too long (>" ++ toString limit ++ " characters)"
  | tooDeep depth limit =>
      "Expression nested too deeply (" ++ toString depth ++ " > " ++ toString limit ++ ")"
  | stackExhausted => "Expression nested too deeply"
  | unexpectedCharacter c position =>
      "Unexpected character " ++ quoted (String.singleton c) ++ " at position " ++
        toString position
  | unexpectedToken text => "Unexpected token " ++ quoted text
  | noParse => "Invalid expression: no parse"
  | unknownOperation name arity => "Unknown operation " ++ name ++ "/" ++ toString arity
  | divergence cause => cause.message Number.text
  | fault cause => cause.message

/-- The code of an error; failures of a calculation have none of their own. -/
def code? : Error → Option String
  | notText => some "VALIDATION_ERROR"
  | emptyInput => some "EMPTY_INPUT"
  | tooLong _ => some "TOO_LONG"
  | tooDeep .. | stackExhausted => some "TOO_DEEP"
  | unexpectedCharacter .. => some "TOKENIZE_ERROR"
  | unexpectedToken _ | noParse => some "NO_PARSE"
  | unknownOperation .. => some "UNKNOWN_OPERATION"
  | divergence cause => some cause.code
  | fault _ => none

end Error

end Reckoner
