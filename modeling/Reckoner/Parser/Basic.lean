/-!
Parser combinators. A parser takes a row of items to the list of all its results: a
value and the rest of the row for every way to read a beginning of it. No result means
failure, so an alternative is tried by running it on the same row. Running a parser is
an action of a monad `m`: the identity for pure parsers, a monad with exceptions or a
log where values are built by actions.

* §1 `Parser`, `satisfy`, `pure`, `empty`, `lift` — the primitive parsers.
* §2 `map`, `mapM`, `ap`, `lift2` — values.
* §3 `bind`, `seqRight`, `seqLeft`, `join` — sequences.
* §4 `orElse`, `choice` — ordered, exclusive choice.
* §5 `many`, `many1` — repetition; only the first result of a step is carried on, and a
  step that does not shorten the row ends it.
-/

namespace Reckoner

/-! ## §1 Primitive parsers -/

/-- A parser of rows of `σ` with values in `α`, run in `m`. -/
structure Parser (m : Type → Type) (σ α : Type) where
  /-- All results: a value and the rest of the row. -/
  run : List σ → m (List (α × List σ))

namespace Parser

variable {m : Type → Type} [Monad m] {σ α β γ : Type}

/-- Reads nothing and gives the value. -/
protected def pure (a : α) : Parser m σ α :=
  ⟨fun s => return [(a, s)]⟩

/-- Never has a result. -/
protected def empty : Parser m σ α :=
  ⟨fun _ => return []⟩

/-- Reads nothing and gives the value of an action. -/
def lift (action : m α) : Parser m σ α :=
  ⟨fun s => return [(← action, s)]⟩

/-- Reads one item that satisfies the predicate. -/
def satisfy (p : σ → Bool) : Parser m σ σ :=
  ⟨fun
    | [] => return []
    | c :: rest => if p c then return [(c, rest)] else return []⟩

/-- Builds the parser only when it is run. -/
def delay (p : Unit → Parser m σ α) : Parser m σ α :=
  ⟨fun s => (p ()).run s⟩

/-! ## §2 Values -/

/-- Applies a function to every value. -/
protected def map (f : α → β) (p : Parser m σ α) : Parser m σ β :=
  ⟨fun s => return (← p.run s).map fun (a, rest) => (f a, rest)⟩

/-- Applies an action to every value. -/
protected def mapM (f : α → m β) (p : Parser m σ α) : Parser m σ β :=
  ⟨fun s => do (← p.run s).mapM fun (a, rest) => return (← f a, rest)⟩

/-- Replaces every value. -/
def replace (p : Parser m σ α) (b : β) : Parser m σ β :=
  p.map fun _ => b

/-- Runs `q` on what each result of `p` leaves, and collects the results in order. -/
def andThen (results : List (α × List σ)) (q : α → Parser m σ β) :
    m (List (β × List σ)) :=
  return (← results.mapM fun (a, rest) => (q a).run rest).flatten

/-- Applies every function to every value that follows it. -/
def ap (p : Parser m σ (α → β)) (q : Parser m σ α) : Parser m σ β :=
  ⟨fun s => do andThen (← p.run s) fun f => q.map f⟩

/-- A function of the values of two parsers in a row. -/
def lift2 (f : α → β → γ) (p : Parser m σ α) (q : Parser m σ β) : Parser m σ γ :=
  (p.map f).ap q

/-! ## §3 Sequences -/

/-- Chooses the next parser by each value. -/
protected def bind (p : Parser m σ α) (f : α → Parser m σ β) : Parser m σ β :=
  ⟨fun s => do andThen (← p.run s) f⟩

/-- Two parsers in a row, with the value of the second. -/
def seqRight (p : Parser m σ α) (q : Parser m σ β) : Parser m σ β :=
  p.bind fun _ => q

/-- Two parsers in a row, with the value of the first. -/
def seqLeft (p : Parser m σ α) (q : Parser m σ β) : Parser m σ α :=
  p.bind fun a => q.map fun _ => a

/-- Runs each parser that another one gives as a value. -/
def join (p : Parser m σ (Parser m σ α)) : Parser m σ α :=
  p.bind id

/-! ## §4 Choice -/

/-- The results of `p` if it has any, else those of `q`. -/
protected def orElse (p q : Parser m σ α) : Parser m σ α :=
  ⟨fun s => do
    let results ← p.run s
    if results.isEmpty then q.run s else return results⟩

/-- The results of the first parser that has any. -/
def choice (ps : List (Parser m σ α)) : Parser m σ α :=
  ps.foldr Parser.orElse Parser.empty

/-! ## §5 Repetition -/

/-- The first results of a parser run again and again, while they shorten the row. -/
def repeatFrom (p : Parser m σ α) (s : List σ) : m (List α × List σ) := do
  match ← p.run s with
  | [] => return ([], s)
  | (a, rest) :: _ =>
      if _h : rest.length < s.length then
        let (as, last) ← p.repeatFrom rest
        return (a :: as, last)
      else return ([], s)
termination_by s.length

/-- Zero or more times. -/
def many (p : Parser m σ α) : Parser m σ (List α) :=
  ⟨fun s => return [← p.repeatFrom s]⟩

/-- One or more times. -/
def many1 (p : Parser m σ α) : Parser m σ (List α) :=
  lift2 (· :: ·) p p.many

end Parser

end Reckoner
