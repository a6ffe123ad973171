import Reckoner.Arithmetic
import Reckoner.Sequence.Basic

/-!
Roots of functions as limits of sequences.

* §1 `Failure` — why a sequence has no next element.
* §2 `newtonStep` and `newton` — the map `x ↦ x - f x / f' x`, repeated.
* §3 `secant` — from two points; a level secant away from zero fails, at zero it stays.
* §4 `bisection` — midpoints of an interval whose ends have values of opposite signs.
* §5 `limit` — the first element within a tolerance of the one before.
* §6 `Search` and `findRoot` — one of the methods, run to its limit.

A step that asks a function for values is written for functions `K → m K` of any monad `m` in
which a calculation may fail; a sequence takes the steps with a function that does no more
than fail.
-/

namespace Reckoner

/-! ## §1 Failures -/

/-- Why a sequence of approximations has no next element, or no limit. -/
inductive Failure (K : Type) where
  | divergence (cause : Divergence K)
  | error (cause : Error)

/-- A failure in a calculation with the program's numbers. -/
def Failure.toError : Failure Number → Error
  | divergence cause => .divergence cause
  | error cause => cause

namespace RootFinding

variable {K : Type} {m : Type → Type} [Monad m]

/-- A real function, undefined where it fails. -/
abbrev Function (K : Type) := K → Except Error K

/-- A calculation as a step of a sequence. -/
def stepping {α : Type} (x : Except Error α) : Except (Failure K) α :=
  x.mapError Failure.error

instance liftStepping : MonadLift (Except Error) (Except (Failure K)) := ⟨stepping⟩

/-- The values of a function as steps of a sequence. -/
def Function.stepped (f : Function K) : K → Except (Failure K) K :=
  fun x => stepping (f x)

/-! ## §2 Newton's method -/

/-- One step: `x - f x / f' x`. -/
def newtonStep [Arithmetic K] [MonadLiftT (Except Error) m] (f df : K → m K) (x : K) : m K := do
  let y ← f x
  let d ← df x
  let ratio ← Arithmetic.div y d
  liftM (Arithmetic.sub x ratio)

/-- Steps of a function from a point on. -/
def iterate (step : Function K) : Sequence.Iterate K → Pull (Failure K) (Sequence.Iterate K) K :=
  Sequence.iterate step.stepped

/-- Newton's method. -/
def newton [Arithmetic K] (f df : Function K) :
    Sequence.Iterate K → Pull (Failure K) (Sequence.Iterate K) K :=
  iterate (newtonStep f df)

/-! ## §3 The secant method -/

/-- The two points of a list of exactly two. -/
def twoPoints : List K → Except Error (K × K)
  | [a, b] => .ok (a, b)
  | _ :: _ :: _ :: _ => .error (.fault (.tooManyValues 2))
  | short => .error (.fault (.tooFewValues 2 short.length))

/-- Where the secant method stands: two points and the values there. -/
structure SecantPoints (K : Type) where
  x0 : K
  x1 : K
  f0 : K
  f1 : K

/-- The states of the secant method. -/
inductive Secant (K : Type) where
  /-- Nothing is worked out yet. -/
  | fresh (start : List K)
  /-- The first point was given, the second is next. -/
  | second (points : SecantPoints K)
  /-- The second point was given. -/
  | going (points : SecantPoints K)

/-- The values at the two starting points. -/
def secantStart [MonadLiftT (Except (Failure K)) m] (f : K → m K) (start : List K) :
    m (K × Secant K) := do
  let (x0, x1) ← stepping (K := K) (twoPoints start)
  let f0 ← f x0
  let f1 ← f x1
  return (x0, .second ⟨x0, x1, f0, f1⟩)

/-- Where the secant through two points meets zero. -/
def secantMeet [Arithmetic K] (p : SecantPoints K) : Except (Failure K) K := do
  let run ← stepping (Arithmetic.sub p.x1 p.x0)
  let lift ← stepping (Arithmetic.mul p.f1 run)
  let rise ← stepping (Arithmetic.sub p.f1 p.f0)
  stepping (Arithmetic.sub p.x1 (← stepping (Arithmetic.div lift rise)))

/-- The next point: where the secant meets zero, or the last point again if it is a root. -/
def secantStep [Arithmetic K] [Comparable K] [MonadLiftT (Except (Failure K)) m] (f : K → m K)
    (p : SecantPoints K) : m (K × Secant K) := do
  if Comparable.same p.f1 p.f0 then
    if Comparable.isZero p.f1 then return (p.x1, .going p)
    else liftM (Except.error (Failure.divergence (.flatSecant p.x0 p.x1 p.f1)))
  else
    let x2 ← secantMeet p
    let f2 ← f x2
    return (x2, .going ⟨p.x1, x2, p.f1, f2⟩)

/-- The next point with the state after it. -/
def Secant.next [Arithmetic K] [Comparable K] [MonadLiftT (Except (Failure K)) m] (f : K → m K) :
    Secant K → m (K × Secant K)
  | fresh start => secantStart f start
  | second p => return (p.x1, going p)
  | going p => secantStep f p

/-- The secant method. -/
def secant [Arithmetic K] [Comparable K] (f : Function K) (s : Secant K) :
    Pull (Failure K) (Secant K) K :=
  Sequence.answer (s.next f.stepped)

/-! ## §4 Bisection -/

/-- An interval with the value at its first end. -/
structure Bracket (K : Type) where
  a : K
  b : K
  fa : K

/-- The states of bisection. -/
inductive Bisection (K : Type) where
  /-- Nothing is worked out yet. -/
  | fresh (interval : List K)
  /-- An end of the interval is a root. -/
  | root (x : K)
  /-- A midpoint of the bracket was given. -/
  | halving (bracket : Bracket K) (mid : K)

/-- The midpoint of a bracket, as an element. -/
def midpoint [Arithmetic K] (s : Bracket K) : Except (Failure K) (K × Bisection K) := do
  let total ← stepping (Arithmetic.add s.a s.b)
  let mid ← stepping (Arithmetic.div total (Arithmetic.ofInt 2))
  return (mid, .halving s mid)

/-- The midpoint of an interval by the values at its ends, neither of them zero, if they have
opposite signs. -/
def firstMidpoint [Arithmetic K] [Comparable K] (a b fa fb : K) :
    Except (Failure K) (K × Bisection K) := do
  let product ← stepping (Arithmetic.mul fa fb)
  if ← stepping (Comparable.isPositive product) then throw (.divergence (.sameSign a b))
  else midpoint ⟨a, b, fa⟩

/-- The values at the ends decide whether there is a root at an end, a sign change, or
neither. -/
def bisectionStart [Arithmetic K] [Comparable K] [MonadLiftT (Except (Failure K)) m]
    (f : K → m K) (interval : List K) : m (K × Bisection K) := do
  let (a, b) ← stepping (K := K) (twoPoints interval)
  let fa ← f a
  let fb ← f b
  if Comparable.isZero fa then return (a, .root a)
  else if Comparable.isZero fb then return (b, .root b)
  else liftM (firstMidpoint a b fa fb)

/-- The half of a bracket in which the sign changes; a midpoint that is a root becomes both
ends. -/
def halve [Arithmetic K] [Comparable K] (s : Bracket K) (mid fm : K) :
    Except (Failure K) (Bracket K) := do
  if Comparable.isZero fm then return ⟨mid, mid, s.fa⟩
  else
    let product ← stepping (Arithmetic.mul s.fa fm)
    if ← stepping (Comparable.isNegative product) then return ⟨s.a, mid, s.fa⟩
    else return ⟨mid, s.b, fm⟩

/-- The midpoint of the half in which the sign changes. -/
def bisectionStep [Arithmetic K] [Comparable K] [MonadLiftT (Except (Failure K)) m] (f : K → m K)
    (s : Bracket K) (mid : K) : m (K × Bisection K) := do
  let fm ← f mid
  let half ← halve s mid fm
  liftM (midpoint half)

/-- The next midpoint, or the root at an end, with the state after it. -/
def Bisection.next [Arithmetic K] [Comparable K] [MonadLiftT (Except (Failure K)) m]
    (f : K → m K) : Bisection K → m (K × Bisection K)
  | fresh interval => bisectionStart f interval
  | root x => return (x, root x)
  | halving s mid => bisectionStep f s mid

/-- Bisection. -/
def bisection [Arithmetic K] [Comparable K] (f : Function K) (s : Bisection K) :
    Pull (Failure K) (Bisection K) K :=
  Sequence.answer (s.next f.stepped)

/-! ## §5 Limits -/

/-- A limit with the count of steps to it, or a failure; and the count of elements taken. -/
structure LimitResult (K : Type) where
  outcome : Except (Failure K) (K × Nat)
  pulled : Nat

/-- Whether two elements are within a tolerance of each other; the second one must be
defined. -/
def closeTo [Arithmetic K] [Comparable K] (tolerance previous current : K) (step : Nat) :
    Except (Failure K) Bool := do
  if ← stepping (Comparable.isUndefined current) then
    throw (.divergence (.undefinedAfter step))
  else
    let gap ← stepping (Arithmetic.sub current previous)
    let size ← stepping (Comparable.magnitude gap)
    stepping (Comparable.atMost size tolerance)

/-- The search after `taken` elements, the last of which is `previous`, with `left` of
`cap` steps to go. -/
def limitFrom [Arithmetic K] [Comparable K] {σ : Type} (tolerance : K) (cap : Int)
    (next : σ → Pull (Failure K) σ K) : (left taken : Nat) → (previous : K) → σ → LimitResult K
  | 0, taken, _, _ => ⟨.error (.divergence (.noConvergence cap)), taken⟩
  | left + 1, taken, previous, s =>
      match next s with
      | .ended => ⟨.error (.divergence .sequenceEnded), taken⟩
      | .failed e => ⟨.error e, taken⟩
      | .element current s' =>
          match closeTo tolerance previous current taken with
          | .error e => ⟨.error e, taken + 1⟩
          | .ok true => ⟨.ok (current, taken), taken + 1⟩
          | .ok false => limitFrom tolerance cap next left (taken + 1) current s'

/-- The first element within the tolerance of the one before, among the first `cap` steps. -/
def limit [Arithmetic K] [Comparable K] {σ : Type} (tolerance : K) (cap : Int)
    (next : σ → Pull (Failure K) σ K) (s : σ) : LimitResult K :=
  match next s with
  | .ended => ⟨.error (.divergence .emptySequence), 0⟩
  | .failed e => ⟨.error e, 0⟩
  | .element first s' => limitFrom tolerance cap next cap.toNat 1 first s'

/-! ## §6 Roots -/

/-- The names of the methods. -/
def methods : List String := ["newton", "secant", "bisection"]

/-- A search that has all it needs to start. -/
inductive Search (K : Type) where
  | newton (df : Function K) (x : K)
  | secant (start : List K)
  | bisection (interval : List K)

/-- The search of a named method from some points; Newton's method needs the derivative and
one point, the others need two points. -/
def Search.prepare (method : String) (start : List K) (df : Option (Function K)) :
    Except Fault (Search K) :=
  if method == "newton" then
    match df, start with
    | none, _ => .error .missingDerivative
    | some df, [x] => .ok (.newton df x)
    | some _, _ => .error .onePointNeeded
  else if method == "secant" then
    if start.length != 2 then .error .twoPointsNeeded else .ok (.secant start)
  else if method == "bisection" then
    if start.length != 2 then .error .intervalNeeded else .ok (.bisection start)
  else .error (.unknownMethod method methods)

/-- The limit of the sequence of a search. -/
def Search.limit [Arithmetic K] [Comparable K] (f : Function K) (tolerance : K) (cap : Int) :
    Search K → LimitResult K
  | .newton df x => RootFinding.limit tolerance cap (RootFinding.newton f df) (.first x)
  | .secant start => RootFinding.limit tolerance cap (RootFinding.secant f) (.fresh start)
  | .bisection interval =>
      RootFinding.limit tolerance cap (RootFinding.bisection f) (.fresh interval)

/-- The limit that a named method finds, with the count of steps to it. -/
def findRoot [Arithmetic K] [Comparable K] (f : Function K) (method : String) (start : List K)
    (df : Option (Function K)) (tolerance : K) (cap : Int) :
    Except (Failure K) (K × Nat) :=
  match Search.prepare method start df with
  | .error cause => .error (.error (.fault cause))
  | .ok search => (search.limit f tolerance cap).outcome

end RootFinding

end Reckoner
