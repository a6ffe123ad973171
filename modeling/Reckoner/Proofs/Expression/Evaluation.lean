import Reckoner.Number.Functions
import Reckoner.Proofs.Expression.Recording
import Reckoner.Queries

/-!
What evaluation comes to: a float, or an error of a calculation. Numbers of other kinds never
arise, as literals, constants and variables are floats and every operation on floats gives
floats.

* §1 `Error.IsCalculation`, `Calculates` — what a calculation comes to.
* §2 the operations on floats; §3 the names that have a meaning.
* §4 `evaluation_handlers` — the handler, and `calculates_perform` — attempts under it.
-/

namespace Reckoner

/-! ## §1 Calculations -/

/-- The kinds of failure that a calculation is expected to meet. -/
def Fault.IsExpected (cause : Fault) : Prop :=
  cause.kind ∈ [FaultKind.divisionByZero, .value, .overflow, .type]

instance (cause : Fault) : Decidable cause.IsExpected :=
  inferInstanceAs (Decidable (_ ∈ _))

/-- An unknown operation, or a failure that a calculation is expected to meet. -/
inductive Error.IsCalculation : Error → Prop where
  | unknown (name : String) (arity : Nat) : IsCalculation (.unknownOperation name arity)
  | fault {cause : Fault} (h : cause.IsExpected) : IsCalculation (.fault cause)

/-- A number that is a float. -/
def Number.IsReal (n : Number) : Prop := ∃ x, n = .real x

/-- A calculation comes to a float, or to an error of its own. -/
inductive Calculates : Except Error Number → Prop where
  | value (x : Float) : Calculates (.ok (.real x))
  | error {e : Error} (h : e.IsCalculation) : Calculates (.error e)

theorem Calculates.bind {x : Except Error Number} {f : Number → Except Error Number}
    (hx : Calculates x) (hf : ∀ y, Calculates (f (.real y))) : Calculates (x >>= f) := by
  cases hx with
  | value y => exact hf y
  | error he => exact .error he

namespace Number

theorem calculates_fail {cause : Fault} (h : cause.IsExpected) :
    Calculates (fail cause : Except Error Number) :=
  .error (.fault h)

/-! ## §2 Operations on floats -/

theorem calculates_div (x y : Float) : Calculates (div (.real x) (.real y)) := by
  show Calculates (divReal x y)
  unfold divReal
  split
  · exact calculates_fail (by decide)
  · exact .value _

theorem calculates_mod (x y : Float) : Calculates (mod (.real x) (.real y)) := by
  show Calculates (modReal x y)
  unfold modReal
  dsimp only
  split
  · exact calculates_fail (by decide)
  · split
    · exact .value _
    · split <;> exact .value _

theorem calculates_applyReal {unbounded : Fault} (h : unbounded.IsExpected) (f : Float → Float)
    (x : Float) : Calculates (applyReal unbounded f (.real x)) := by
  show Calculates (if (f x).isNaN && !x.isNaN then fail .outsideDomain
    else if (f x).isInf && !x.isInf && !x.isNaN then fail unbounded else .ok (.real (f x)))
  split
  · exact calculates_fail (by decide)
  · split
    · exact calculates_fail h
    · exact .value _

theorem calculates_ln (x : Float) : Calculates (ln (.real x)) := by
  show Calculates (if x ≤ 0 then fail .outsideDomain else .ok (.real x.log))
  split
  · exact calculates_fail (by decide)
  · exact .value _

theorem calculates_realPow (x y : Float) : Calculates (realPow (.real x) (.real y)) := by
  show Calculates (if x.isNaN || x.isInf || y.isNaN || y.isInf then
    .ok (.real (realPowSpecial x y)) else _)
  split
  · exact .value _
  · show Calculates (if (x.pow y).isNaN then fail .outsideDomain
      else if (x.pow y).isInf then (if x == 0 then fail .outsideDomain else fail .functionOverflow)
      else .ok (.real (x.pow y)))
    split
    · exact calculates_fail (by decide)
    · split
      · split <;> exact calculates_fail (by decide)
      · exact .value _

theorem calculates_logarithm (x y : Float) :
    Calculates (logarithm (K := Number) (.real x) (.real y)) :=
  (calculates_ln x).bind fun a => (calculates_ln y).bind fun b => calculates_div a b

/-! ## §3 Names -/

theorem isReal_constant {name : String} {n : Number} (h : constant? name = some n) :
    n.IsReal := by
  unfold constant? at h
  split at h <;> first | exact ⟨_, (Option.some.inj h).symm⟩ | cases h

theorem calculates_unary {name : String} {f : Number → Except Error Number}
    (h : unary? name = some f) (x : Float) : Calculates (f (.real x)) := by
  unfold unary? at h
  split at h
  case h_17 => cases h
  all_goals
    obtain rfl := Option.some.inj h
    first
    | exact .value _
    | exact calculates_ln x
    | exact calculates_applyReal (by decide) _ x

theorem calculates_binary {name : String} {f : Number → Number → Except Error Number}
    (h : binary? name = some f) (x y : Float) : Calculates (f (.real x) (.real y)) := by
  unfold binary? at h
  split at h
  case h_10 => cases h
  all_goals
    obtain rfl := Option.some.inj h
    first
    | exact .value _
    | exact calculates_div x y
    | exact calculates_mod x y
    | exact calculates_realPow x y
    | exact calculates_logarithm x y

end Number

theorem calculates_literal (text : String) : Calculates (Number.ofLiteral text) := by
  unfold Number.ofLiteral
  split
  · exact .value _
  · exact .error (.fault (by simp [Fault.IsExpected, Fault.kind]))

/-- The value of a variable, whatever it is bound to. -/
theorem calculates_lookup {bindings : Bindings} {name : String} {value : Except Error Number}
    (h : bindings.lookup name = some value) : Calculates value := by
  obtain ⟨⟨_, v⟩, -, rfl⟩ := Option.map_eq_some_iff.mp h
  show Calculates (Number.real <$> v.toReal)
  cases v with
  | truth b => exact .value _
  | number n =>
    cases n with
    | int n =>
      show Calculates (Number.real <$> Number.floatOfInt n)
      unfold Number.floatOfInt
      split
      · exact .value _
      · exact .error (.fault (by decide))
    | real x => exact .value x
    | complex re im => exact .error (.fault (by decide))
  | text s =>
    simp only [Value.toReal]
    split
    · exact .value _
    · exact .error (.fault (by simp [Fault.IsExpected, Fault.kind]))
  | missing | list | record => exact .error (.fault (by simp [Fault.IsExpected, Fault.kind]))

theorem calculates_name (bindings : Bindings) (name : String) :
    Calculates (nameValue bindings.lookup name) := by
  unfold nameValue
  split
  · rename_i h
    exact calculates_lookup h
  · split
    · rename_i h
      obtain ⟨x, rfl⟩ := Number.isReal_constant h
      exact .value x
    · exact .error (.unknown name 0)

/-- Every operation on floats calculates, as there are names for one and two arguments only. -/
theorem calculates_operation (bindings : Bindings) (name : String) (xs : List Float) :
    Calculates (applyOperation bindings.lookup name (xs.map .real)) := by
  match xs with
  | [] => exact calculates_name bindings name
  | [x] =>
    simp only [List.map_cons, List.map_nil, applyOperation]
    split
    · rename_i h
      exact Number.calculates_unary h x
    · exact .error (.unknown name 1)
  | [x, y] =>
    simp only [List.map_cons, List.map_nil, applyOperation]
    split
    · rename_i h
      exact Number.calculates_binary h x y
    · exact .error (.unknown name 2)
  | _ :: _ :: _ :: _ => exact .error (.unknown name _)

/-! ## §4 The handler -/

namespace Grammar

/-- One float on both sides. -/
def SameReal (n n' : Number) : Prop := n = n' ∧ n.IsReal

theorem agree_of_calculates {x : Except Error Number} (h : Calculates x) :
    Agree Error.IsCalculation SameReal x x := by
  cases h with
  | value x => exact .ok ⟨rfl, x, rfl⟩
  | error he => exact .error he

theorem exists_reals {args args' : List Number} (h : List.Forall₂ SameReal args args') :
    ∃ xs : List Float, args = xs.map .real ∧ args' = xs.map .real := by
  induction h with
  | nil => exact ⟨[], rfl, rfl⟩
  | cons hsame _ ih =>
    obtain ⟨rfl, x, rfl⟩ := hsame
    obtain ⟨xs, rfl, rfl⟩ := ih
    exact ⟨x :: xs, rfl, rfl⟩

theorem evaluation_handlers (bindings : Bindings) (ts : List Token) :
    (agreeing Error.IsCalculation).Handlers SameReal (evaluation bindings.lookup)
      (evaluation bindings.lookup) ts where
  number t _ _ := agree_of_calculates (calculates_literal t.text)
  bare t _ _ := agree_of_calculates (calculates_operation bindings t.text [])
  operation := by
    rintro t - a a' args args' hsame hargs
    obtain ⟨xs, h, h'⟩ := exists_reals (.cons hsame hargs)
    rw [h, h']
    exact agree_of_calculates (calculates_operation bindings t.text xs)

variable {bindings : Bindings} {ts : List Token}

/-- The values of attempts are floats, their errors those of calculations. -/
theorem Attempt.agree_perform (bindings : Bindings) {s : Symbol} {o : Outcome s}
    (a : Attempt s ts o) :
    Agree Error.IsCalculation (o.Related SameReal)
      (a.perform .silent (evaluation bindings.lookup))
      (a.perform .silent (evaluation bindings.lookup)) :=
  a.perform_related (agreeing _) (ActionRelation.silent _) (evaluation_handlers bindings ts)

/-- What a run raises is an error of a calculation. -/
theorem isCalculation_of_raised {e : Error}
    (hrun : (expression (evaluation bindings.lookup)).run ts = .error e) : e.IsCalculation := by
  obtain ⟨o, ⟨a⟩⟩ := exists_attempt (.phrase .expression) ts
  have hresults : o.results <$> a.perform .silent (evaluation bindings.lookup) = .error e :=
    (a.parser_run _).symm.trans hrun
  have hagree := a.agree_perform bindings
  generalize a.perform .silent (evaluation bindings.lookup) = act at hagree hresults
  cases hagree with
  | ok _ => cases hresults
  | error he =>
    cases hresults
    exact he

/-- The value of a tree is a float. -/
theorem Derivation.isReal_fold {p : Phrase} {d : Derivation (.phrase p)} {n : Number}
    (hfold : d.fold (evaluation bindings.lookup) = .ok n) : n.IsReal := by
  obtain ⟨o, ⟨a⟩⟩ := exists_attempt (.phrase p) d.tokens
  obtain rfl : o = some (d, []) := a.of_tokens
  have hagree := a.agree_perform bindings
  rw [a.perform_complete, hfold] at hagree
  cases hagree with
  | ok hsame => exact hsame.2

end Grammar

end Reckoner
