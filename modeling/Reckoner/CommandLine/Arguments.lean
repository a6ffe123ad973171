import Reckoner.Text.DecimalDigit
import Reckoner.Text.Quoted

/-!
Options on a command line. An option has short and long names and takes no argument, one
argument or several. All words are first sorted into options and values; only then are
options taken, from left to right.

* §1 `OptionSpec` — an option: its names, its arity, and its effect on the settings `α`.
* §2 `Word` and `classify` — what a word is. Long names may be cut short as long as they
  stay unique, `--name=value` and `-nvalue` carry their value, and a word that looks like
  a negative number or holds a space is a value unless it names an option.
* §3 `expand` — the options in one word, as in `-ab` for `-a -b`.
* §4 `consume` and `readArguments` — the effects of all options, in order.
-/

namespace Reckoner.CommandLine

open Text (quoted)

/-! ## §1 Options -/

/-- How many arguments an option takes. -/
inductive Arity where
  | none
  | one
  | many
  deriving DecidableEq, Repr

/-- Why the reading of a command line stops. -/
inductive Stop where
  /-- Help is asked for. -/
  | help
  /-- The command line cannot be understood. -/
  | usage (message : String)
  deriving DecidableEq, Repr

/-- The effect of an option. -/
inductive Effect (α : Type) where
  /-- Changes the settings by the arguments, or says why it cannot. -/
  | update (apply : List String → α → Except String α)
  /-- Asks for help. -/
  | help

/-- An option. -/
structure OptionSpec (α : Type) where
  names : List String
  arity : Arity
  effect : Effect α

variable {α : Type}

/-- The name of an option in messages. -/
def OptionSpec.title (o : OptionSpec α) : String :=
  String.intercalate "/" o.names

/-- A complaint about an option. -/
def OptionSpec.complaint (o : OptionSpec α) (message : String) : Stop :=
  .usage ("argument " ++ o.title ++ ": " ++ message)

/-- What is said of a value where no value belongs. -/
def OptionSpec.ignored (o : OptionSpec α) (value : List Char) : Stop :=
  o.complaint ("ignored explicit argument " ++ quoted (String.ofList value))

/-- All names with their options, in order. -/
def namesOf (options : List (OptionSpec α)) : List (String × OptionSpec α) :=
  options.flatMap fun o => o.names.map fun n => (n, o)

/-- The option of a full name. -/
def optionOf? (options : List (OptionSpec α)) (name : String) : Option (OptionSpec α) :=
  ((namesOf options).find? (fun e => e.1 == name)).map Prod.snd

/-! ## §2 Words -/

/-- A value that is written in one word with its option. -/
structure Attached where
  /-- Whether an equals sign stands before the value. -/
  afterEquals : Bool
  value : List Char

/-- What a word of a command line is. -/
inductive Word (α : Type) where
  | value (text : String)
  /-- Two dashes: all words after it are values. -/
  | dashes
  /-- An option by one of its names, perhaps with a value. -/
  | option (spec : OptionSpec α) (long : Bool) (attached : Option Attached)
  /-- A word that looks like an option but is none. -/
  | unknown (text : String)

/-- The text of a word that belongs to no option. -/
def Word.text : Word α → String
  | value text => text
  | dashes => "--"
  | option spec .. => spec.title
  | unknown text => text

/-- Whether the name of an option is a long one. -/
def isLong : List Char → Bool
  | '-' :: '-' :: _ => true
  | _ => false

/-- The part of a word before its first equals sign, and the value after it. -/
def splitEquals (cs : List Char) : List Char × Option Attached :=
  match cs.dropWhile (· != '=') with
  | _ :: value => (cs.takeWhile (· != '='), some ⟨true, value⟩)
  | [] => (cs, none)

/-- A decimal digit of any script. -/
def isDigit (c : Char) : Bool :=
  (Text.decimalDigit? c).isSome

/-- A row of digits, perhaps with a line feed after it. -/
def allDigits (cs : List Char) : Bool :=
  match cs.takeWhile isDigit, cs.dropWhile isDigit with
  | _ :: _, [] => true
  | _ :: _, ['\n'] => true
  | _, _ => false

/-- Whether a word looks like a negative number: digits, perhaps with a point that has
digits after it. -/
def looksNegative : List Char → Bool
  | '-' :: cs =>
      allDigits cs ||
        match cs.dropWhile isDigit with
        | '.' :: fraction => allDigits fraction
        | _ => false
  | _ => false

/-- The readings of a word as an option by the beginning of its name. -/
def candidates (options : List (OptionSpec α)) (cs : List Char) :
    List (String × OptionSpec α × Option Attached) :=
  if isLong cs then
    let (name, attached) := splitEquals cs
    ((namesOf options).filter (fun e => name.isPrefixOf e.1.toList)).map fun e =>
      (e.1, e.2, attached)
  else
    ((namesOf options).filter (fun e => e.1.toList == cs.take 2)).map fun e =>
      (e.1, e.2, some ⟨false, cs.drop 2⟩)

/-- A word that is no full name of an option. -/
def classifyOther (options : List (OptionSpec α)) (text : String) : Except Stop (Word α) :=
  let cs := text.toList
  match candidates options cs with
  | [(name, o, attached)] => .ok (.option o (isLong name.toList) attached)
  | [] =>
      if looksNegative cs || cs.contains ' ' then .ok (.value text) else .ok (.unknown text)
  | several =>
      .error (.usage ("ambiguous option: " ++ text ++ " could match " ++
        String.intercalate ", " (several.map (·.1))))

/-- What a word is, two dashes apart. -/
def classify (options : List (OptionSpec α)) (text : String) : Except Stop (Word α) :=
  match text.toList with
  | '-' :: c :: cs =>
      match optionOf? options text with
      | some o => .ok (.option o (isLong ('-' :: c :: cs)) none)
      | none =>
          let (name, attached) := splitEquals ('-' :: c :: cs)
          match attached, optionOf? options (String.ofList name) with
          | some a, some o => .ok (.option o (isLong name) (some a))
          | _, _ => classifyOther options text
  | _ => .ok (.value text)

/-- What the words of a command line are. -/
def classifyAll (options : List (OptionSpec α)) : List String → Except Stop (List (Word α))
  | [] => .ok []
  | "--" :: rest => .ok (.dashes :: rest.map .value)
  | text :: rest => do
      let word ← classify options text
      return word :: (← classifyAll options rest)

/-! ## §3 Options in one word -/

/-- What a word with an option amounts to: options without arguments, then perhaps one that
takes the attached value or the values after the word, or a part that names no option. -/
structure Expansion (α : Type) where
  flags : List (OptionSpec α)
  last : Option (OptionSpec α × Option (List Char))
  unknown : Option String

/-- The options in a word that starts with the given one. Only short options without
arguments are followed by others. -/
def expand (options : List (OptionSpec α)) (o : OptionSpec α) (long : Bool)
    (afterEquals : Bool) : List Char → Except Stop (Expansion α)
  | [] => if o.arity = .none then .error (o.ignored []) else .ok ⟨[], some (o, some []), none⟩
  | c :: cs =>
      if o.arity ≠ .none then .ok ⟨[], some (o, some (c :: cs)), none⟩
      else if long || afterEquals || c == '-' then .error (o.ignored (c :: cs))
      else
        match optionOf? options (String.ofList ['-', c]) with
        | none => .ok ⟨[o], none, some (String.ofList ('-' :: c :: cs))⟩
        | some next => do
            let e ← match cs with
              | [] => .ok ⟨[], some (next, none), none⟩
              | '=' :: value => expand options next false true value
              | value => expand options next false false value
            return { e with flags := o :: e.flags }
termination_by cs => cs.length
decreasing_by all_goals simp only [List.length_cons]; omega

/-- The options in a word. -/
def expandWord (options : List (OptionSpec α)) (o : OptionSpec α) (long : Bool) :
    Option Attached → Except Stop (Expansion α)
  | none => .ok ⟨[], some (o, none), none⟩
  | some a => expand options o long a.afterEquals a.value

/-! ## §4 Effects -/

/-- The values at the head of some words. -/
def leadingValues : List (Word α) → List String
  | .value text :: rest => text :: leadingValues rest
  | _ => []

/-- The arguments of an option: the attached value, or as many of the words after it as the
option takes; with the count of those words. -/
def argumentsOf (o : OptionSpec α) (attached : Option (List Char)) (rest : List (Word α)) :
    Except Stop (List String × Nat) :=
  match attached with
  | some value => .ok ([String.ofList value], 0)
  | none =>
      match o.arity, leadingValues rest with
      | .none, _ => .ok ([], 0)
      | .one, v :: _ => .ok ([v], 1)
      | .one, [] => .error (o.complaint "expected one argument")
      | .many, [] => .error (o.complaint "expected at least one argument")
      | .many, values => .ok (values, values.length)

/-- The effect of an option with its arguments. -/
def OptionSpec.take (o : OptionSpec α) (arguments : List String) (settings : α) :
    Except Stop α :=
  match o.effect with
  | .help => .error .help
  | .update apply =>
      match apply arguments settings with
      | .ok s => .ok s
      | .error message => .error (o.complaint message)

/-- The effects of the options of some words, in order. The first `skip` words belong to the
option before them; words that belong to no option are collected. -/
def consume (options : List (OptionSpec α)) (settings : α) :
    (skip : Nat) → List (Word α) → Except Stop (α × List String)
  | _, [] => .ok (settings, [])
  | skip + 1, _ :: rest => consume options settings skip rest
  | 0, .option o long attached :: rest => do
      let e ← expandWord options o long attached
      let last ← match e.last with
        | none => .ok none
        | some (l, value) => do
            let (arguments, used) ← argumentsOf l value rest
            .ok (some (l, arguments, used))
      let settings ← e.flags.foldlM (fun s flag => flag.take [] s) settings
      let (settings, used) ← match last with
        | none => .ok (settings, 0)
        | some (l, arguments, used) => do .ok (← l.take arguments settings, used)
      let (settings, extras) ← consume options settings used rest
      return (settings, e.unknown.toList ++ extras)
  | 0, word :: rest => do
      let (settings, extras) ← consume options settings 0 rest
      return (settings, word.text :: extras)

/-- The settings after all options of a command line; every word must belong to one. -/
def readArguments (options : List (OptionSpec α)) (settings : α) (arguments : List String) :
    Except Stop α := do
  let words ← classifyAll options arguments
  let (settings, extras) ← consume options settings 0 words
  if extras.isEmpty then return settings
  else .error (.usage ("unrecognized arguments: " ++ String.intercalate " " extras))

end Reckoner.CommandLine
