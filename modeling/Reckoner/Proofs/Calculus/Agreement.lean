import Mathlib
import Reckoner.Calculus.Reading
import Reckoner.Number.Functions
import Reckoner.Proofs.Calculus.Sampling
import Reckoner.Proofs.Expression.Reading
import Reckoner.Proofs.Expression.Recording

/-!
Evaluating an expression where its variable is bound to a point, and reading the expression as a
function and applying that to the point, come to one value, or neither has a value. The first way
works out every operation as it is read. The second one builds a function; it works out what is
constant as it reads, and the rest at the point.

* §1 `Action.IsShared` — the calls that both ways answer in the same terms.
* §2 the operations; §3 chains and calls.
* §4 `Derivation.toOption_fold` — trees, and `evaluation_iff_application` — texts.
-/

namespace Reckoner

open Reckoner.Differentiable

variable {K : Type} [Elementary K] {x : K} {argument : String}

/-! ## §1 Calls -/

/-- The variable of a function, bound to a point. -/
def boundTo (argument : String) (x : K) (name : String) : Option (Except Error K) :=
  if name = argument then some (.ok x) else none

/-- The operations of one argument that have derivatives, but for the root. -/
def sharedUnary : List String := ["+", "-", "ln", "log", "exp", "sin", "cos", "tan"]

/-- The operations of two arguments that have derivatives, but for powers. -/
def sharedBinary : List String := ["+", "-", "*", "/", "log"]

/-- The calls that evaluation and differentiation answer by the same operations on numbers:
those of all literals and names, and of operations other than powers, roots and remainders. -/
def Action.IsShared : Action → Prop
  | .number _ => True
  | .operation _ 0 => True
  | .operation name 1 => name ∈ sharedUnary
  | .operation name 2 => name ∈ sharedBinary
  | .operation _ _ => False

open Grammar

/-! ## §2 Operations -/

/-- A name is the variable, a constant, or unknown to both. -/
theorem sampled_name (name : String) :
    sampled x (differentiableName argument name)
      = (nameValue (boundTo argument x) name).toOption := by
  unfold differentiableName nameValue boundTo
  by_cases hname : name = argument
  · simp only [hname, BEq.rfl, if_true]
    rfl
  · simp only [if_neg hname, beq_false_of_ne hname, Bool.false_eq_true, if_false]
    cases constant? (K := K) name <;> rfl

/-- A shared operation of one argument is one operation on numbers. -/
theorem sampled_unary (argument : String) (hplus : ∀ a : K, Elementary.plus a = .ok a)
    {name : String} (h : name ∈ sharedUnary) (f : Differentiable K) :
    sampled x (differentiableOperation argument name [f])
      = onValue (fun a => applyOperation (boundTo argument x) name [a]) (f.sample x) := by
  simp only [sharedUnary, List.mem_cons, List.not_mem_nil, or_false] at h
  rcases h with rfl | rfl | rfl | rfl | rfl | rfl | rfl | rfl
  · show f.sample x = onValue Elementary.plus (f.sample x)
    rw [funext hplus]
    exact (Option.bind_fun_some _).symm
  · exact sampled_neg f
  · exact sample_lnOf f
  · exact sample_lnOf f
  · exact sample_expOf f
  · exact sample_sinOf f
  · exact sample_cosOf f
  · exact sample_tanOf f

/-- The quotient of logarithms is a logarithm, whichever argument is worked out first. -/
theorem onValues_logarithm (a b : Option K) :
    onValues Arithmetic.div (onValue Arithmetic.ln a) (onValue Arithmetic.ln b)
      = onValues logarithm a b := by
  have hlogarithm : ∀ u v : K, (logarithm u v).toOption
      = (Arithmetic.ln u).toOption.bind fun p => (Arithmetic.ln v).toOption.bind fun q =>
          (Arithmetic.div p q).toOption := by
    intro u v
    unfold logarithm
    rw [toOption_bind]
    simp only [toOption_bind]
  simp only [onValues, onValue, bind_interchange, hlogarithm]

/-- A shared operation of two arguments is one operation on numbers. -/
theorem lifts_binary (argument : String) {name : String} (h : name ∈ sharedBinary) :
    Lifts x (fun f g => differentiableOperation argument name [f, g])
      (fun a b => applyOperation (boundTo argument x) name [a, b]) := by
  simp only [sharedBinary, List.mem_cons, List.not_mem_nil, or_false] at h
  rcases h with rfl | rfl | rfl | rfl | rfl
  · exact lifts_add
  · exact lifts_sub
  · exact lifts_mul
  · exact lifts_div
  · exact fun f g => (sampled_log f g).trans (onValues_logarithm _ _)

/-! ## §3 Rows of operands -/

/-- The values at a point of the items of a series, with their separators. -/
def sampleLinks (x : K) : List (String × Differentiable K) → Option (List (String × K))
  | [] => some []
  | (name, f) :: rest =>
      (f.sample x).bind fun v => (sampleLinks x rest).bind fun vs => some ((name, v) :: vs)

/-- A chain of shared operations is folded on functions as it is on numbers. -/
theorem sampled_foldLinks {links : List (String × Differentiable K)}
    (h : ∀ name ∈ links.map Prod.fst, name ∈ sharedBinary) (f : Differentiable K) :
    sampled x (foldLinks (differentiation argument) f links)
      = (f.sample x).bind fun v => (sampleLinks x links).bind fun vs =>
          (foldLinks (evaluation (boundTo argument x)) v vs).toOption := by
  induction links generalizing f with
  | nil => exact (Option.bind_fun_some _).symm
  | cons link rest ih =>
    obtain ⟨name, g⟩ := link
    obtain ⟨hname, hrest⟩ := List.forall_mem_cons.mp h
    have hfirst := lifts_binary (x := x) argument hname f g
    simp only [foldLinks, List.foldlM_cons] at ih ⊢
    rw [sampled_bind]
    simp only [ih hrest]
    -- the first operation is carried out before the other operands are sampled
    have hlater : ∀ built : Option (Differentiable K), ∀ next : K → Option K,
        (built.bind fun f => (f.sample x).bind next)
          = (built.bind (sample x)).bind next := fun _ _ => (Option.bind_assoc _ _ _).symm
    rw [hlater]
    show (sampled x (differentiableOperation argument name [f, g])).bind _ = _
    rw [hfirst, onValues]
    simp only [sampleLinks, Option.bind_assoc, Option.bind_some, List.foldlM_cons, toOption_bind]
    refine congrArg _ (funext fun a => congrArg _ (funext fun b => ?_))
    exact Option.bind_comm _ _

/-- A shared call on functions is the call on their values. -/
theorem sampled_call (hplus : ∀ a : K, Elementary.plus a = .ok a) {name : String}
    {others : List (String × Differentiable K)}
    (h : (Action.operation name (others.length + 1)).IsShared) (f : Differentiable K) :
    sampled x (differentiableOperation argument name (f :: others.map Prod.snd))
      = (f.sample x).bind fun v => (sampleLinks x others).bind fun vs =>
          (applyOperation (boundTo argument x) name (v :: vs.map Prod.snd)).toOption := by
  match others, h with
  | [], h => exact sampled_unary argument hplus h f
  | [(_, g)], h =>
    refine (lifts_binary (x := x) argument h f g).trans ?_
    simp only [onValues, sampleLinks, Option.bind_assoc, Option.bind_some, List.map_cons,
      List.map_nil]

/-! ## §4 Trees and texts -/

namespace Grammar

/-- What a meaning comes to at a point. -/
def Symbol.sampled (x : K) :
    (s : Symbol) → s.Meaning (Differentiable K) → Option (s.Meaning K)
  | .phrase _, f => f.sample x
  | .series _, fs => sampleLinks x fs

/-- The value of a series has the texts of its separators. -/
theorem Derivation.fits_fold {α : Type} {h : Handler (Except Error) α} {s : Symbol}
    (d : Derivation s) {v : s.Meaning α} (hfold : d.fold h = .ok v) : d.Fits v := by
  induction d with
  | done =>
    cases hfold
    rfl
  | link sep hs item rest _ ih =>
    rw [fold] at hfold
    cases hitem : item.fold h with
    | error e =>
      rw [hitem] at hfold
      cases hfold
    | ok w =>
      cases hrest : rest.fold h with
      | error e =>
        rw [hitem, hrest] at hfold
        cases hfold
      | ok ws =>
        rw [hitem, hrest] at hfold
        cases hfold
        exact congrArg (sep.text :: ·) (ih hrest)
  | _ => trivial

/-- A tree has the value under the binding that its function has at the point. -/
theorem Derivation.toOption_fold (argument : String)
    (hplus : ∀ a : K, Elementary.plus a = .ok a) {s : Symbol} (d : Derivation s)
    (h : ∀ a ∈ d.actions, a.IsShared) :
    (d.fold (evaluation (boundTo argument x))).toOption
      = (d.fold (differentiation argument)).toOption.bind (s.sampled x) := by
  induction d with
  | chain first links ih ihs =>
    simp only [actions, List.forall_mem_append, List.forall_mem_map] at h
    obtain ⟨hfirst, hlinks, hnames⟩ := h
    simp only [fold, toOption_bind, ih hfirst, ihs hlinks]
    rw [bind_interchange]
    simp only [Option.bind_assoc]
    refine congrArg _ (funext fun f => Option.bind_congr fun fs hfs => ?_)
    have hfits : fs.map Prod.fst = links.separators :=
      links.fits_fold (toOption_eq_some.mp hfs)
    exact (sampled_foldLinks (hfits ▸ hnames) f).symm
  | sign op hop arg ih =>
    simp only [actions, List.forall_mem_append, List.forall_mem_singleton] at h
    simp only [fold, toOption_bind, ih h.1, Option.bind_assoc]
    exact congrArg _ (funext fun f => (sampled_unary argument hplus h.2 f).symm)
  | plain b ih => exact ih h
  | power b op hop exponent ih ihe =>
    simp only [actions, List.forall_mem_append, List.forall_mem_singleton] at h
    -- a power is no shared operation
    have hop := hop.2
    have hshared : op.text ∈ sharedBinary := h.2.2
    simp only [List.mem_cons, List.not_mem_nil, or_false] at hop
    rcases hop with hop | hop <;> rw [hop] at hshared <;> exact absurd hshared (by decide)
  | number t ht =>
    show (Arithmetic.ofLiteral t.text : Except Error K).toOption
      = sampled x (Arithmetic.ofLiteral t.text >>= fun c => pure (constant c))
    rw [sampled_bind]
    exact (Option.bind_fun_some _).symm
  | group opening ho inner closing hc ih => exact ih h
  | call name hn opening ho first others closing hc ih ihs =>
    simp only [actions, List.forall_mem_append, List.forall_mem_singleton] at h
    obtain ⟨hfirst, hothers, hname⟩ := h
    simp only [fold, toOption_bind, ih hfirst, ihs hothers]
    rw [bind_interchange]
    simp only [Option.bind_assoc]
    refine congrArg _ (funext fun f => Option.bind_congr fun fs hfs => ?_)
    have hfits : fs.map Prod.fst = others.separators :=
      others.fits_fold (toOption_eq_some.mp hfs)
    rw [← hfits, List.length_map] at hname
    exact (sampled_call hplus hname f).symm
  | identifier name hn => exact (sampled_name name.text).symm
  | done => rfl
  | link sep hs item rest ih ihs =>
    simp only [actions, List.forall_mem_append] at h
    simp only [fold, toOption_bind, ih h.1, ihs h.2]
    rw [bind_interchange]
    simp only [Option.bind_assoc]
    rfl

end Grammar

/-- Evaluating a text where its variable is bound to a point, and applying the function of the
text to the point, give the same value. The numbers and their operations may be any; a sign `+`
must not change them. -/
theorem evaluation_iff_application (hplus : ∀ a : K, Elementary.plus a = .ok a) (limits : Limits)
    (argument text : String) (x : K)
    (hshared : ∀ d : Derivation (.phrase .expression),
      tokensOf limits .standard text = .ok d.tokens → ∀ a ∈ d.actions, a.IsShared) (v : K) :
    readExpression limits (evaluation (boundTo argument x)) text = .ok v
      ↔ ∃ f, Differentiable.read limits argument text = .ok f ∧ f.apply x = .ok v := by
  have htree : ∀ d : Derivation (.phrase .expression),
      tokensOf limits .standard text = .ok d.tokens →
        (d.fold (evaluation (boundTo argument x)) = .ok v
          ↔ ∃ f, d.fold (differentiation argument) = .ok f ∧ f.apply x = .ok v) := by
    intro d htokens
    have hfold := d.toOption_fold (x := x) argument hplus (hshared d htokens)
    rw [← toOption_eq_some, hfold, Option.bind_eq_some_iff]
    simp only [toOption_eq_some, Symbol.sampled, sample]
  unfold Differentiable.read
  simp only [readExpression_eq_ok]
  constructor
  · rintro ⟨d, htokens, hfold⟩
    obtain ⟨f, hf, happly⟩ := (htree d htokens).mp hfold
    exact ⟨f, ⟨d, htokens, hf⟩, happly⟩
  · rintro ⟨f, ⟨d, htokens, hf⟩, happly⟩
    exact ⟨d, htokens, (htree d htokens).mpr ⟨f, hf, happly⟩⟩

/-- The tree of `1/2*e`. -/
def halfTree : Derivation (.phrase .expression) :=
  .chain (.chain (.plain (.number ⟨"number", "1", 0⟩ (.refl "number")))
    (.link ⟨"operator", "/", 1⟩ (by decide) (.plain (.number ⟨"number", "2", 2⟩ rfl))
      (.link ⟨"operator", "*", 3⟩ (by decide) (.plain (.identifier ⟨"identifier", "e", 4⟩ rfl))
        .done))) .done

theorem tokensOf_half : tokensOf {} .standard "1/2*e" = .ok halfTree.tokens := by
  have htokens : Lexer.standard.tokens "1/2*e" = .ok halfTree.tokens := by cbv
  exact tokensOf_of_lexed (by decide +kernel) htokens

theorem isShared_half : ∀ a ∈ halfTree.actions, a.IsShared := by
  simp [halfTree, Derivation.actions, Derivation.separators, Action.IsShared, sharedBinary]

/-- In `1/2*e` as a function of `e` the quotient is worked out while it is read, and the variable
hides the constant of its name. -/
theorem evaluation_iff_application_half :
    (∀ a : Number, Elementary.plus a = .ok a) ∧
    tokensOf {} .standard "1/2*e" = .ok halfTree.tokens ∧
    (∀ a ∈ halfTree.actions, a.IsShared) ∧
    (readExpression {} (evaluation (boundTo "e" (Number.real 4))) "1/2*e"
        = .ok (Number.real 2)
      ↔ ∃ f, Differentiable.read {} "e" "1/2*e" = .ok f
        ∧ f.apply (Number.real 4) = .ok (Number.real 2)) := by
  have hplus : ∀ a : Number, Elementary.plus a = .ok a := fun _ => rfl
  refine ⟨hplus, tokensOf_half, isShared_half, ?_⟩
  refine evaluation_iff_application hplus {} "e" "1/2*e" (Number.real 4) ?_ (Number.real 2)
  intro d htokens
  rw [Derivation.eq_of_tokens_eq (Except.ok.inj (htokens.symm.trans tokensOf_half))]
  exact isShared_half

end Reckoner
