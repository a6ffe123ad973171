import Reckoner.Documentation.Source.Lexeme
import Reckoner.Documentation.Source.Term

/-!
The grammar of terms. An operation binds its operands by the level of its sign; operations
of one level are grouped from the left, powers from the right.

* §1 `Reading` — reading from a row of lexemes.
* §2 the levels of signs, and words that are no names.
* §3 pieces of texts with values in them.
* §4 `expression` and the forms that it is made of.
* §5 `Parameter`, `parameters?` — parameters with notes and values.
-/

namespace Reckoner.Documentation.Source

/-! ## §1 Reading -/

/-- Something read from a row of lexemes. -/
abbrev Reading := StateT (List Lexeme) Option

namespace Reading

/-- The next lexeme. -/
def next? : Reading (Option Lexeme) := do
  return (← get).head?

/-- Passes over a lexeme. -/
def skip : Reading Unit := do
  set ((← get).drop 1)

/-- Whether the next lexeme is a sign. -/
def atSign (s : String) : Reading Bool := do
  match ← next? with
  | some (.sign t) => return s == t
  | _ => return false

/-- Whether the next lexeme is a word. -/
def atWord (s : String) : Reading Bool := do
  match ← next? with
  | some (.word t) => return s == t
  | _ => return false

/-- Passes over a sign if it is there. -/
def acceptSign (s : String) : Reading Bool := do
  let found ← atSign s
  if found then skip
  return found

/-- Passes over a word if it is there. -/
def acceptWord (s : String) : Reading Bool := do
  let found ← atWord s
  if found then skip
  return found

/-- Passes over a sign that has to be there. -/
def expectSign (s : String) : Reading Unit := do
  if !(← acceptSign s) then failure

/-- Passes over a word that has to be there. -/
def expectWord (s : String) : Reading Unit := do
  if !(← acceptWord s) then failure

end Reading

open Reading

/-! ## §2 Signs and words -/

/-- The signs between two values by levels, the loosest first. -/
def levels : List (List String) :=
  [["|"], ["^"], ["&"], ["<<", ">>"], ["+", "-"], ["*", "//", "/", "%", "@"]]

/-- Words that are no names. -/
def reserved : List String :=
  ["False", "None", "True", "and", "as", "assert", "async", "await", "break", "class", "continue",
    "def", "del", "elif", "else", "except", "finally", "for", "from", "global", "if", "import",
    "in", "is", "lambda", "nonlocal", "not", "or", "pass", "raise", "return", "try", "while",
    "with", "yield"]

/-- A sign out of some. -/
def signOf (signs : List String) : Reading (Option String) := do
  match ← next? with
  | some (.sign s) =>
      if signs.contains s then
        skip
        return some s
      else return none
  | _ => return none

/-- A sign that compares two values; some are words. -/
def comparison : Reading (Option String) := do
  if let some s ← signOf ["<", ">", "==", ">=", "<=", "!="] then return some s
  else if ← acceptWord "in" then return some "in"
  else if ← acceptWord "is" then
    return some (if ← acceptWord "not" then "is not" else "is")
  else if ← atWord "not" then
    match (← get) with
    | _ :: .word "in" :: rest =>
        set rest
        return some "not in"
    | _ => return none
  else return none

/-! ## §3 Texts with values in them -/

/-- A piece of a text with values in it. -/
inductive Piece where
  | plain (cs : List Char)
  /-- A value by its source text. `labelled` values come after their own source text. -/
  | field (source : List Char) (labelled : Bool) (conversion : Option Char) (layout : List Char)

/-- The source text of a value up to the character that ends it, and the rest. `closers` are
the brackets and quotes that have to be closed before. -/
def sourceAt : (closers : List Char) → List Char → Option (List Char × List Char)
  | _, [] => none
  | closers, c :: rest =>
      let keep (closers : List Char) := (sourceAt closers rest).map fun (s, r) => (c :: s, r)
      match closers with
      | q :: outer =>
          if q == '\'' || q == '"' then keep (if c == q then outer else closers)
          else if c == q then keep outer
          else if c == '(' then keep (')' :: closers)
          else if c == '[' then keep (']' :: closers)
          else if c == '\x7b' then keep ('\x7d' :: closers)
          else if c == '\'' || c == '"' then keep (c :: closers)
          else keep closers
      | [] =>
          if c == '\x7d' || c == ':' then some ([], c :: rest)
          else if c == '!' && rest.head? != some '=' then some ([], c :: rest)
          else if c == '=' && rest.head? != some '=' then some ([], c :: rest)
          else if c == '(' then keep [')']
          else if c == '[' then keep [']']
          else if c == '\x7b' then keep ['\x7d']
          else if c == '\'' || c == '"' then keep [c]
          else
            match c, rest with
            | '=', '=' :: rest | '!', '=' :: rest | '<', '=' :: rest | '>', '=' :: rest =>
                (sourceAt [] rest).map fun (s, r) => (c :: '=' :: s, r)
            | _, _ => keep []

/-- A layout up to the brace that closes its field, and the rest; `depth` braces are open. -/
def layoutAt : (depth : Nat) → List Char → Option (List Char × List Char)
  | _, [] => none
  | 0, '\x7d' :: rest => some ([], rest)
  | depth + 1, '\x7d' :: rest => (layoutAt depth rest).map fun (l, r) => ('\x7d' :: l, r)
  | depth, '\x7b' :: rest => (layoutAt (depth + 1) rest).map fun (l, r) => ('\x7b' :: l, r)
  | depth, c :: rest => (layoutAt depth rest).map fun (l, r) => (c :: l, r)

/-- A field after its opening brace, and the rest. -/
def fieldAt (cs : List Char) : Option (Piece × List Char) := do
  let (source, rest) ← sourceAt [] cs
  let (labelled, source, rest) := match rest with
    | '=' :: r =>
        let blanks := r.takeWhile (· == ' ')
        (true, source ++ '=' :: blanks, r.drop blanks.length)
    | r => (false, source, r)
  let (conversion, rest) ← match rest with
    | '!' :: c :: r => some (some c, r)
    | r => some (none, r)
  match rest with
  | '\x7d' :: rest => return (.field source labelled conversion [], rest)
  | ':' :: rest =>
      let (layout, rest) ← layoutAt 0 rest
      return (.field source labelled conversion layout, rest)
  | _ => none

/-- The pieces of a text with values in it. A doubled brace is a brace. -/
def piecesFrom : (fuel : Nat) → (current : List Char) → List Char → Option (List Piece)
  | _, current, [] => some [.plain current.reverse]
  | 0, _, _ :: _ => none
  | fuel + 1, current, c :: rest =>
      match c, rest with
      | '\x7b', '\x7b' :: rest => piecesFrom fuel ('\x7b' :: current) rest
      | '\x7d', '\x7d' :: rest => piecesFrom fuel ('\x7d' :: current) rest
      | '\x7d', _ => none
      | '\x7b', rest => do
          let (field, rest) ← fieldAt rest
          return .plain current.reverse :: field :: (← piecesFrom fuel [] rest)
      | c, rest => piecesFrom fuel (c :: current) rest

/-- The source text of a value without the sign that labels it. -/
def unlabelled (source : List Char) : List Char :=
  ((source.reverse.dropWhile (· == ' ')).drop 1).reverse

/-! ## §4 Expressions -/

/-- What the terms of a row are. -/
inductive RowKind where
  | items
  /-- Items of something, or ranges of items. -/
  | index
  /-- What gets its value from a clause. -/
  | targets
  deriving DecidableEq, Repr

/-- Whether the next lexeme ends a row of terms. -/
def atEnd : Reading Bool := do
  match ← next? with
  | some (.sign s) => return s == ")" || s == "]" || s == "\x7d"
  | some (.word w) => return w == "in"
  | some _ => return false
  | none => return true

/-- One term, or several as a tuple. -/
def rowOf (items : List Term) (trailing : Bool) : Term :=
  match items, trailing with
  | [item], false => item
  | items, _ => .tuple items

mutual

/-- A term of any form. -/
def expression : (fuel : Nat) → Reading Term
  | 0 => failure
  | fuel + 1 => do
      if ← acceptWord "lambda" then
        let parameters ← boundNames fuel .any
        expectSign ":"
        return .function parameters (← expression fuel)
      else
        let yes ← disjunction fuel
        if ← acceptWord "if" then
          let test ← disjunction fuel
          expectWord "else"
          return .choice test yes (← expression fuel)
        else return yes

/-- A term that may get a name. -/
def namedExpression : (fuel : Nat) → Reading Term
  | 0 => failure
  | fuel + 1 => do
      match (← get) with
      | .word name :: .sign ":=" :: rest =>
          set rest
          return .bind name (← expression fuel)
      | _ => expression fuel

/-- The parameters of a function up to its colon. -/
def boundNames : (fuel : Nat) → Place → Reading (List (Place × String × Option Term))
  | 0, _ => failure
  | fuel + 1, place => do
      if ← atSign ":" then return []
      else
        let (own, after) ← (do
          if ← acceptSign "/" then return ([], place)
          else if ← acceptSign "**" then
            match ← next? with
            | some (.word name) =>
                skip
                return ([(Place.restOfNames, name, none)], place)
            | _ => failure
          else if ← acceptSign "*" then
            match ← next? with
            | some (.word name) =>
                skip
                return ([(Place.restOfPlaces, name, none)], Place.named)
            | _ => return ([], Place.named)
          else
            match ← next? with
            | some (.word name) =>
                skip
                if ← acceptSign "=" then
                  return ([(place, name, some (← expression fuel))], place)
                else return ([(place, name, none)], place)
            | _ => failure)
        if ← acceptSign "," then return own ++ (← boundNames fuel after)
        else return own

/-- Conditions of which one has to hold. -/
def disjunction : (fuel : Nat) → Reading Term
  | 0 => failure
  | fuel + 1 => do
      let a ← conjunction fuel
      if ← acceptWord "or" then return .either a (← disjunction fuel) else return a

/-- Conditions that all have to hold. -/
def conjunction : (fuel : Nat) → Reading Term
  | 0 => failure
  | fuel + 1 => do
      let a ← inversion fuel
      if ← acceptWord "and" then return .both a (← conjunction fuel) else return a

/-- A condition that must not hold, or a chain of comparisons. -/
def inversion : (fuel : Nat) → Reading Term
  | 0 => failure
  | fuel + 1 => do
      if ← acceptWord "not" then return .unary "not" (← inversion fuel)
      else
        let first ← level fuel levels
        let links ← comparisons fuel
        return if links.isEmpty then first else .chain first links

/-- The comparisons of a chain after its first term. -/
def comparisons : (fuel : Nat) → Reading (List (String × Term))
  | 0 => failure
  | fuel + 1 => do
      match ← comparison with
      | some s =>
          let a ← level fuel levels
          return (s, a) :: (← comparisons fuel)
      | none => return []

/-- Operations with signs of the given levels. -/
def level : (fuel : Nat) → List (List String) → Reading Term
  | 0, _ => failure
  | fuel + 1, [] => factor fuel
  | fuel + 1, signs :: tighter => do
      operations fuel signs tighter (← level fuel tighter)

/-- Further operations of one level on a first operand. -/
def operations : (fuel : Nat) → List String → List (List String) → Term → Reading Term
  | 0, _, _, _ => failure
  | fuel + 1, signs, tighter, a => do
      match ← signOf signs with
      | some s =>
          let b ← level fuel tighter
          operations fuel signs tighter (.binary s a b)
      | none => return a

/-- A term with signs before it, or a power. -/
def factor : (fuel : Nat) → Reading Term
  | 0 => failure
  | fuel + 1 => do
      match ← signOf ["+", "-", "~"] with
      | some s => return .unary s (← factor fuel)
      | none =>
          let a ← primary fuel (← atom fuel)
          if ← acceptSign "**" then return .binary "**" a (← factor fuel) else return a

/-- What may follow a term: members, arguments, items. -/
def primary : (fuel : Nat) → Term → Reading Term
  | 0, _ => failure
  | fuel + 1, a => do
      if ← acceptSign "." then
        match ← next? with
        | some (.word name) =>
            skip
            primary fuel (.member a name)
        | _ => failure
      else if ← acceptSign "(" then
        primary fuel (.call a (← arguments fuel))
      else if ← acceptSign "[" then
        let (items, trailing) ← row fuel .index
        expectSign "]"
        if items.isEmpty then failure
        primary fuel (.item a (rowOf items trailing))
      else return a

/-- The arguments of a call up to its closing parenthesis. -/
def arguments : (fuel : Nat) → Reading (List Term)
  | 0 => failure
  | fuel + 1 => do
      if ← acceptSign ")" then return []
      else
        let first ← (do
          if ← acceptSign "*" then return Term.spread (← expression fuel)
          else if ← acceptSign "**" then return Term.spreadEntries (← expression fuel)
          else
            match (← get) with
            | .word name :: .sign "=" :: rest =>
                set rest
                return Term.argument name (← expression fuel)
            | _ =>
                let a ← namedExpression fuel
                let clauses ← clauses fuel
                return if clauses.isEmpty then a else .repeated .stream a clauses)
        if ← acceptSign "," then return first :: (← arguments fuel)
        else
          expectSign ")"
          return [first]

/-- Terms between commas, and whether there is a comma after the last one. -/
def row : (fuel : Nat) → RowKind → Reading (List Term × Bool)
  | 0, _ => failure
  | fuel + 1, kind => do
      if ← atEnd then return ([], true)
      else
        let first ← (do
          if ← acceptSign "*" then return Term.spread (← level fuel levels)
          else
            match kind with
            | .items => namedExpression fuel
            | .index => sliceOrTerm fuel
            | .targets => level fuel levels)
        if ← acceptSign "," then
          let (others, trailing) ← row fuel kind
          return (first :: others, trailing)
        else return ([first], false)

/-- A term, or a range of items by its bounds and its step. -/
def sliceOrTerm : (fuel : Nat) → Reading Term
  | 0 => failure
  | fuel + 1 => do
      let bound : Reading (Option Term) := do
        match ← next? with
        | some (.sign s) =>
            if s == ":" || s == "]" || s == "," then return none
            else return some (← expression fuel)
        | _ => return some (← namedExpression fuel)
      let start ← bound
      if ← acceptSign ":" then
        let stop ← bound
        let step ← if ← acceptSign ":" then bound else pure none
        return .slice start stop step
      else
        match start with
        | some a => return a
        | none => failure

/-- The clauses of a repeated term. -/
def clauses : (fuel : Nat) → Reading (List (Option Term × Term))
  | 0 => failure
  | fuel + 1 => do
      if ← acceptWord "for" then
        let (items, trailing) ← row fuel .targets
        expectWord "in"
        let source ← disjunction fuel
        return (some (rowOf items trailing), source) :: (← clauses fuel)
      else if ← acceptWord "if" then
        let test ← disjunction fuel
        return (none, test) :: (← clauses fuel)
      else return []

/-- What stands in parentheses: a term, a tuple, or a stream. -/
def parenthesized : (fuel : Nat) → Reading Term
  | 0 => failure
  | fuel + 1 => do
      let (items, trailing) ← row fuel .items
      let clauses ← clauses fuel
      expectSign ")"
      match items, clauses with
      | [item], _ :: _ => return .repeated .stream item clauses
      | _, _ :: _ => failure
      | items, [] => return rowOf items trailing

/-- What stands in square brackets. -/
def bracketed : (fuel : Nat) → Reading Term
  | 0 => failure
  | fuel + 1 => do
      let (items, _) ← row fuel .items
      let clauses ← clauses fuel
      expectSign "]"
      match items, clauses with
      | [item], _ :: _ => return .repeated .list item clauses
      | _, _ :: _ => failure
      | items, [] => return .list items

/-- A term inside braces: an item of a set, or an entry of a mapping. -/
def entry : (fuel : Nat) → Reading Term
  | 0 => failure
  | fuel + 1 => do
      if ← acceptSign "**" then return .spreadEntries (← level fuel levels)
      else if ← acceptSign "*" then return .spread (← level fuel levels)
      else
        let key ← namedExpression fuel
        if ← acceptSign ":" then return .entry key (← expression fuel)
        else return key

/-- The terms inside braces. -/
def entries : (fuel : Nat) → Reading (List Term)
  | 0 => failure
  | fuel + 1 => do
      if ← atSign "\x7d" then return []
      else
        let first ← entry fuel
        if ← acceptSign "," then return first :: (← entries fuel) else return [first]

/-- What stands in braces: a set or a mapping. -/
def braced : (fuel : Nat) → Reading Term
  | 0 => failure
  | fuel + 1 => do
      let items ← entries fuel
      let clauses ← clauses fuel
      expectSign "\x7d"
      let isEntry : Term → Bool
        | .entry .. | .spreadEntries _ => true
        | _ => false
      match items, clauses with
      | [item], _ :: _ =>
          return .repeated (if isEntry item then .mapping else .set) item clauses
      | _, _ :: _ => failure
      | items, [] => return if items.all isEntry then .mapping items else .set items

/-- A text with values in it. -/
def joinedPieces : (fuel : Nat) → (raw : Bool) → List Piece → Option (List Term)
  | _, _, [] => some []
  | 0, _, _ :: _ => none
  | fuel + 1, raw, .plain cs :: rest => do
      let cs ← unescaped true raw cs
      return .text (String.ofList cs) :: (← joinedPieces fuel raw rest)
  | fuel + 1, raw, .field source labelled conversion layout :: rest => do
      let lexemes ← Lexeme.read? (if labelled then unlabelled source else source)
      let ((items, trailing), unread) ← (row fuel .items).run lexemes
      if !unread.isEmpty then none
      else
        let pieces ← piecesFrom layout.length [] layout
        let parts ← joinedPieces fuel raw pieces
        let conversion :=
          if labelled && conversion.isNone && layout.isEmpty then some 'r' else conversion
        let value := Term.laidOut (rowOf items trailing) conversion (.joined parts)
        let label := if labelled then [Term.text (String.ofList source)] else []
        return label ++ value :: (← joinedPieces fuel raw rest)

/-- Texts that stand one after the other are one text. -/
def texts : (fuel : Nat) → Reading (List Term)
  | 0 => failure
  | fuel + 1 => do
      match ← next? with
      | some (.text s) =>
          skip
          return .text s :: (← texts fuel)
      | some (.pattern raw body) =>
          skip
          let pieces ← liftM (piecesFrom body.length [] body)
          let parts ← liftM (joinedPieces fuel raw pieces)
          return .joined parts :: (← texts fuel)
      | _ => return []

/-- Bytes that stand one after the other. -/
def byteTexts : (fuel : Nat) → Reading (List Nat)
  | 0 => failure
  | fuel + 1 => do
      match ← next? with
      | some (.bytes bs) =>
          skip
          return bs ++ (← byteTexts fuel)
      | _ => return []

/-- A term without operations. -/
def atom : (fuel : Nat) → Reading Term
  | 0 => failure
  | fuel + 1 => do
      match ← next? with
      | some (.number n) =>
          skip
          return .number n
      | some (.bytes _) => return .bytes (← byteTexts fuel)
      | some (.text _) | some (.pattern ..) =>
          match ← texts fuel with
          | [a] => return a
          | parts => return .joined parts
      | some (.word w) =>
          skip
          if w == "None" || w == "True" || w == "False" || !reserved.contains w then
            return .name w
          else failure
      | some (.sign s) =>
          skip
          match s with
          | "..." => return .name "Ellipsis"
          | "(" => parenthesized fuel
          | "[" => bracketed fuel
          | "\x7b" => braced fuel
          | _ => failure
      | none => failure

end

/-! ## §5 Parameters -/

/-- A parameter of a signature. -/
structure Parameter where
  /-- What stands before the name: nothing, or asterisks; a slash stands without a name. -/
  mark : String
  name : String
  note : Option Term
  value : Option Term

/-- A parameter at the head of some lexemes. -/
def parameter (fuel : Nat) : Reading Parameter := do
  let mark ← signOf ["*", "**", "/"]
  match ← next? with
  | some (.word name) =>
      skip
      let note ← if ← acceptSign ":" then some <$> expression fuel else pure none
      let value ← if ← acceptSign "=" then some <$> expression fuel else pure none
      return ⟨mark.getD "", name, note, value⟩
  | _ =>
      match mark with
      | some mark => return ⟨mark, "", none, none⟩
      | none => failure

/-- Parameters between commas, at most `count` of them. -/
def parametersUpTo (fuel : Nat) : (count : Nat) → Reading (List Parameter)
  | 0 => return []
  | count + 1 => do
      if (← next?).isNone then return []
      else
        let first ← parameter fuel
        if ← acceptSign "," then return first :: (← parametersUpTo fuel count)
        else return [first]

/-- The parameters that a text lists. -/
def parameters? (text : String) : Option (List Parameter) := do
  let lexemes ← Lexeme.read? text.toList
  let fuel := 20 * text.length + 40
  let (parameters, rest) ← (parametersUpTo fuel lexemes.length).run lexemes
  if rest.isEmpty then some parameters else none

end Reckoner.Documentation.Source
