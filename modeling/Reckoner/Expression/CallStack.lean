import Reckoner.Error
import Reckoner.Expression.Grammar

/-!
The stack of the interpreter. The grammar is run by functions that call each other, so every
parenthesis and every sign takes some of the frames that the interpreter has. A parse that
needs more of them than there are is given up, and its text refused.

The frames that are in use only matter between two calls of the handler: a call that raises
comes before everything that the parse would have done after it.

* §1 `CallStack` — how many frames a parse needs, and how many there are.
* §2 `CallStack.parse` — a parse while the stack lasts.
* §3 `CallStack.counted`, `CallStack.standard` — frames counted by what is open.
-/

namespace Reckoner

open Grammar (observed)

/-! ## §1 Stacks -/

/-- The stack of the interpreter. -/
structure CallStack where
  /-- The most frames in use up to the end of each call of the handler, since the one before;
  and after the last call. Tokens take them by their kinds and texts, wherever they stand. -/
  peaksOf : List Token → List Nat
  /-- The frames that there are. -/
  limit : Nat

/-- The most frames in use on a row, up to the end of each call and after the last one. -/
def CallStack.peaks (stack : CallStack) (ts : List Token) : List Nat :=
  stack.peaksOf (ts.map Token.unplaced)

/-- A stack that no parse needs any frames of. -/
def CallStack.endless : CallStack := ⟨fun _ => [], 0⟩

/-! ## §2 Parsing -/

variable {m : Type → Type} [Monad m] [MonadLiftT (Except Error) m] {α : Type}

/-- The parse goes on up to the next call if the stack lasts; the state is what is needed from
there on. -/
def CallStack.check (stack : CallStack) : StateT (List Nat) m Unit
  | [] => pure ((), [])
  | peak :: later =>
      if stack.limit < peak then liftM (throw .stackExhausted : Except Error (Unit × List Nat))
      else pure ((), later)

/-- A handler that is called if the stack lasts up to the end of the call. -/
def Handler.onStack (stack : CallStack) (h : Handler m α) : Handler (StateT (List Nat) m) α where
  number text := do
    stack.check
    h.number text
  operation name args := do
    stack.check
    h.operation name args

/-- The results of the grammar on a row, if the stack lasts. -/
def CallStack.parse (stack : CallStack) (h : Handler m α) (ts : List Token) :
    m (List (α × List Token)) :=
  let run : StateT (List Nat) m (List (α × List Token)) := do
    let results ← (Grammar.expression (h.onStack stack)).run ts
    stack.check
    return results
  run.run' (stack.peaks ts)

/-! ## §3 Counting frames -/

/-- The frames that a parse needs: those around it, and those of a production that is entered
inside another one. -/
structure FrameCosts where
  base : Nat
  nested : Nested → Nat

/-- The frames in use while productions are open inside each other. -/
def FrameCosts.total (c : FrameCosts) (stack : List Nested) : Nat :=
  stack.foldr (fun k frames => c.nested k + frames) c.base

/-- What a parse has used of the stack. -/
structure Gauge where
  /-- The productions that are open, the last one first. -/
  stack : List Nested
  /-- The most frames in use since the last call of the handler. -/
  peak : Nat
  /-- The peaks up to each call. -/
  before : List Nat

namespace Gauge

variable (c : FrameCosts)

/-- Before anything is entered. -/
def initial : Gauge := ⟨[], c.base, []⟩

def enter (k : Nested) (g : Gauge) : Gauge :=
  { g with stack := k :: g.stack, peak := max g.peak (c.total (k :: g.stack)) }

def leave (g : Gauge) : Gauge :=
  { g with stack := g.stack.tail }

/-- A call of the handler ends a peak and begins the next one. -/
def call (g : Gauge) : Gauge :=
  ⟨g.stack, c.total g.stack, g.before ++ [g.peak]⟩

/-- A parser that is run inside a nested production. -/
def around (k : Nested) (p : Parser (StateM Gauge) Token Unit) :
    Parser (StateM Gauge) Token Unit :=
  ⟨fun ts => do
    modify (enter c k)
    let results ← p.run ts
    modify leave
    return results⟩

/-- A handler that counts its calls. -/
def handler : Handler (StateM Gauge) Unit where
  number _ := modify (call c)
  operation _ _ := modify (call c)

/-- The gauge after a parse of a row. -/
def parse (ts : List Token) : Gauge :=
  (((observed (around c) (handler c) Productions.expression).run ts).run (initial c)).2

end Gauge

namespace CallStack

/-- A stack whose frames are counted. -/
def counted (c : FrameCosts) (limit : Nat) : CallStack where
  peaksOf ts :=
    let g := Gauge.parse c ts
    g.before ++ [g.peak]
  limit

/-- The stack of a standard installation has a thousand frames. Twenty-five of them are used
around a parse, nineteen for an open parenthesis and seven for an open sign. -/
def standard : CallStack :=
  counted ⟨25, fun | .group => 19 | .sign => 7⟩ 1000

end CallStack

end Reckoner
