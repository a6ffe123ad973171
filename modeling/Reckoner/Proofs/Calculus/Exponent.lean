import Mathlib
import Reckoner.Calculus.Reading
import Reckoner.Proofs.Calculus.Rules
import Reckoner.Proofs.Expression.Reading
import Reckoner.Proofs.Expression.Recording

/-!
Powers whose exponents are written without names. An exponent of numbers, parentheses, signs and
the operations `+ - * /` is worked out while it is read, so that the power is differentiated by
the power rule, at negative bases too. A power inside the exponent is kept as it is. The exponent
is then no constant to the reader, and the general rule asks for the logarithm of the base.

* §1 `Token.IsNumeric`, `calculation` — exponents without names, and their values.
* §2 `Stands` — functions that stand for a number; what the operations make of them.
* §3 `Derivation.exists_fold` — what an exponent is read as.
* §4 `slope_powerRule`, `slope_generalRule` — the slopes of the two kinds of powers.
* §5 `numeric_exponent_slope`, `power_in_exponent_undefined` — the derivative of a power with such
  an exponent.
-/

namespace Reckoner

variable {K : Type}

/-! ## §1 Exponents -/

/-- The tokens that an exponent without names is written with. -/
def Token.IsNumeric (t : Token) : Prop :=
  t.kind = "number" ∨ t.kind = "lparen" ∨ t.kind = "rparen" ∨ t.kind = "operator" ∧ t.text ≠ "%"

/-- Calculation with numbers alone. -/
def calculation [Arithmetic K] : Handler (Except Error) K where
  number := Arithmetic.ofLiteral
  operation
    | "+", [a] => .ok a
    | "-", [a] => Arithmetic.neg a
    | "+", [a, b] => Arithmetic.add a b
    | "-", [a, b] => Arithmetic.sub a b
    | "*", [a, b] => Arithmetic.mul a b
    | "/", [a, b] => Arithmetic.div a b
    | "^", [a, b] => Arithmetic.pow a b
    | "**", [a, b] => Arithmetic.pow a b
    | name, args => .error (.unknownOperation name args.length)

namespace Differentiable

/-! ## §2 Functions that stand for numbers -/

/-- The function is known to be constant. -/
def IsConstant (e : Differentiable K) : Prop := e.value?.isSome

/-- The variable does not occur. -/
def Closed : Differentiable K → Prop
  | identity => False
  | constant _ => True
  | sum f g | difference f g | product f g | quotient f g | power f g => f.Closed ∧ g.Closed
  | negation f | powerConst f _ | expOf f | lnOf f | sinOf f | cosOf f | tanOf f => f.Closed

variable [Arithmetic K]

/-- A function without the variable, with the same value everywhere. -/
structure Stands (e : Differentiable K) (v : K) : Prop where
  closed : e.Closed
  value : ∀ x, e.sample x = some v

variable {f g e : Differentiable K} {a b c : K}

theorem stands_constant (c : K) : (constant c).Stands c := ⟨trivial, fun _ => rfl⟩

theorem Stands.eq_constant (h : e.Stands c) (hconstant : e.IsConstant) : e = constant c := by
  cases e with
  | constant c' =>
    obtain rfl : c' = c := Option.some.inj (h.value c)
    rfl
  | _ => exact absurd hconstant (by simp [IsConstant, value?])

/-- What a folded operation makes of functions that stand for numbers; it is constant if both of
them are. -/
theorem exists_folding {op : K → K → Except Error K}
    {node : Differentiable K → Differentiable K → Differentiable K}
    (hsample : ∀ x f g, (node f g).sample x = onValues op (f.sample x) (g.sample x))
    (hclosed : ∀ f g, f.Closed → g.Closed → (node f g).Closed)
    (hkept : ∀ f g, ¬ (node f g).IsConstant) (hf : f.Stands a) (hg : g.Stands b)
    (hop : op a b = .ok c) :
    ∃ h, folding op node f g = .ok h ∧ h.Stands c ∧
      (h.IsConstant ↔ f.IsConstant ∧ g.IsConstant) := by
  unfold folding
  split
  · rename_i a' b'
    obtain rfl : a' = a := Option.some.inj (hf.value a)
    obtain rfl : b' = b := Option.some.inj (hg.value b)
    refine ⟨constant c, ?_, stands_constant c, by simp [IsConstant, value?]⟩
    rw [hop]
    rfl
  · rename_i hother
    refine ⟨node f g, rfl, ⟨hclosed f g hf.closed hg.closed, fun x => ?_⟩, ?_⟩
    · rw [hsample, hf.value, hg.value]
      exact onValues_eq_some.mpr ⟨a, b, rfl, rfl, hop⟩
    · refine iff_of_false (hkept f g) ?_
      rintro ⟨hfconstant, hgconstant⟩
      exact hother a b (hf.eq_constant hfconstant) (hg.eq_constant hgconstant)

theorem exists_negation (hf : f.Stands a) (hop : Arithmetic.neg a = .ok c) :
    ∃ h, neg f = .ok h ∧ h.Stands c ∧ (h.IsConstant ↔ f.IsConstant) := by
  unfold neg
  split
  · rename_i a'
    obtain rfl : a' = a := Option.some.inj (hf.value a)
    refine ⟨constant c, ?_, stands_constant c, by simp [IsConstant, value?]⟩
    rw [hop]
    rfl
  · rename_i hother
    refine ⟨negation f, rfl, ⟨hf.closed, fun x => ?_⟩, ?_⟩
    · rw [sample_negation, hf.value]
      exact onValue_eq_some.mpr ⟨a, rfl, hop⟩
    · refine iff_of_false (by simp [IsConstant, value?]) fun hconstant => ?_
      exact hother a (hf.eq_constant hconstant)

omit [Arithmetic K] in
/-- A power is kept, whether its exponent is constant or not. -/
theorem not_isConstant_pow (f g : Differentiable K) : ¬ (f.pow g).IsConstant := by
  unfold pow
  split <;> simp [IsConstant, value?]

theorem Stands.pow (hf : f.Stands a) (hg : g.Stands b) (hop : Arithmetic.pow a b = .ok c) :
    (f.pow g).Stands c where
  closed := by
    unfold Differentiable.pow
    split
    · exact hf.closed
    · exact ⟨hf.closed, hg.closed⟩
  value x := by
    rw [sample_pow, hf.value, hg.value]
    exact onValues_eq_some.mpr ⟨a, b, rfl, rfl, hop⟩

end Differentiable

open Grammar Reckoner.Differentiable

/-! ## §3 Reading exponents -/

section Reading

variable [Arithmetic K] {f : Differentiable K} {a c : K}

/-- The operators of chains that are worked out at once on constants. -/
def foldedOperators : List String := ["+", "-", "*", "/"]

theorem exists_operation (argument : String) {name : String} (hname : name ∈ foldedOperators)
    {g : Differentiable K} {b : K} (hf : f.Stands a) (hg : g.Stands b)
    (hop : calculation.operation name [a, b] = .ok c) :
    ∃ h, differentiableOperation argument name [f, g] = .ok h ∧ h.Stands c ∧
      (h.IsConstant ↔ f.IsConstant ∧ g.IsConstant) := by
  have hkept : ∀ {node : Differentiable K}, node.value? = none → ¬ node.IsConstant :=
    fun hnode hconstant => by simp [IsConstant, hnode] at hconstant
  have hclosed : ∀ f g : Differentiable K, f.Closed → g.Closed → f.Closed ∧ g.Closed :=
    fun _ _ => And.intro
  simp only [foldedOperators, List.mem_cons, List.not_mem_nil, or_false] at hname
  rcases hname with rfl | rfl | rfl | rfl
  · exact exists_folding (fun _ => sample_sum) hclosed (fun _ _ => hkept rfl) hf hg hop
  · exact exists_folding (fun _ => sample_difference) hclosed (fun _ _ => hkept rfl) hf hg hop
  · exact exists_folding (fun _ => sample_product) hclosed (fun _ _ => hkept rfl) hf hg hop
  · exact exists_folding (fun _ => sample_quotient) hclosed (fun _ _ => hkept rfl) hf hg hop

/-- A link with a folded operator and a function that stands for its number. -/
def StandingLink (l : String × Differentiable K) (l' : String × K) : Prop :=
  l.1 = l'.1 ∧ l.1 ∈ foldedOperators ∧ l.2.Stands l'.2

theorem exists_foldLinks (argument : String) {es : List (String × Differentiable K)}
    {vs : List (String × K)} (hlinks : List.Forall₂ StandingLink es vs) (hf : f.Stands a)
    (hfold : foldLinks calculation a vs = .ok c) :
    ∃ h, foldLinks (differentiation argument) f es = .ok h ∧ h.Stands c ∧
      (h.IsConstant ↔ f.IsConstant ∧ ∀ l ∈ es, l.2.IsConstant) := by
  induction hlinks generalizing f a with
  | nil =>
    cases hfold
    exact ⟨f, rfl, hf, by simp⟩
  | @cons l l' es vs hlink _ ih =>
    obtain ⟨hname, hfolded, hg⟩ := hlink
    simp only [foldLinks, List.foldlM_cons] at ih hfold ⊢
    obtain ⟨b, hop, hfold⟩ := bind_eq_ok.mp hfold
    rw [← hname] at hop
    obtain ⟨g, hbuilt, hg, hgconstant⟩ := exists_operation argument hfolded hf hg hop
    obtain ⟨h, hrest, hh, hconstant⟩ := ih hg hfold
    refine ⟨h, bind_eq_ok.mpr ⟨g, hbuilt, hrest⟩, hh, ?_⟩
    rw [hconstant, hgconstant, List.forall_mem_cons, and_assoc]

end Reading

namespace Grammar

/-- What is read stands for what is calculated. -/
def Symbol.Stands [Arithmetic K] :
    (s : Symbol) → s.Meaning (Differentiable K) → s.Meaning K → Prop
  | .phrase _, e, v => e.Stands v
  | .series _, es, vs => List.Forall₂ StandingLink es vs

/-- All of what is read is known to be constant. -/
def Symbol.IsConstant : (s : Symbol) → s.Meaning (Differentiable K) → Prop
  | .phrase _, e => e.IsConstant
  | .series _, es => ∀ l ∈ es, l.2.IsConstant

theorem IsSign.text_eq {t : Token} (h : IsSign t) : t.text = "+" ∨ t.text = "-" := by
  simpa using h.2

theorem IsPower.text_eq {t : Token} (h : IsPower t) : t.text = "^" ∨ t.text = "**" := by
  simpa using h.2

theorem IsSign.not_isPower {t : Token} (h : IsSign t) : ¬ IsPower t := by
  intro hpower
  rcases h.text_eq with htext | htext <;> simp [IsPower, Token.IsOperator, htext] at hpower

/-- A separator in an exponent without names is a folded operator. -/
theorem Series.Separates.foldedOperator {s : Series} {t : Token} (h : s.Separates t)
    (hnumeric : t.IsNumeric) : t.text ∈ foldedOperators ∧ ¬ IsPower t := by
  have hsimp : ∀ text ∈ foldedOperators, text ≠ "^" ∧ text ≠ "**" := by decide
  suffices hfolded : t.text ∈ foldedOperators from
    ⟨hfolded, fun hpower => hpower.text_eq.elim (hsimp _ hfolded).1 (hsimp _ hfolded).2⟩
  rcases s with (_ | _) | _
  · have htext : t.text = "+" ∨ t.text = "-" := by simpa [Chain.symbols] using h.2
    rcases htext with htext | htext <;> simp [htext, foldedOperators]
  · have htext : t.text = "*" ∨ t.text = "/" ∨ t.text = "%" := by simpa [Chain.symbols] using h.2
    have hnot : t.text ≠ "%" := by simpa [Token.IsNumeric, h.1] using hnumeric
    rcases htext with htext | htext | htext
    · simp [htext, foldedOperators]
    · simp [htext, foldedOperators]
    · exact absurd htext hnot
  · have hkind : t.kind = "comma" := h
    simp [Token.IsNumeric, hkind] at hnumeric

/-- An exponent without names that has a value is read as a function that stands for its value,
and known to be constant if there is no power in it. -/
theorem Derivation.exists_fold [Arithmetic K] (argument : String) {s : Symbol}
    (d : Derivation s) (hnumeric : ∀ t ∈ d.tokens, t.IsNumeric) {v : s.Meaning K}
    (hvalue : d.fold calculation = .ok v) :
    ∃ e, d.fold (differentiation argument) = .ok e ∧ s.Stands e v ∧
      (s.IsConstant e ↔ ∀ t ∈ d.tokens, ¬ IsPower t) := by
  induction d with
  | chain first links ih ihs =>
    simp only [tokens, List.forall_mem_append] at hnumeric ⊢
    obtain ⟨a, hfirst, hvalue⟩ := bind_eq_ok.mp hvalue
    obtain ⟨vs, hlinks, hvalue⟩ := bind_eq_ok.mp hvalue
    obtain ⟨f, hf, hstands, hconstant⟩ := ih hnumeric.1 hfirst
    obtain ⟨es, hes, hall, hconstants⟩ := ihs hnumeric.2 hlinks
    obtain ⟨h, hbuilt, hh, hiff⟩ := exists_foldLinks argument hall hstands hvalue
    refine ⟨h, bind_eq_ok.mpr ⟨f, hf, bind_eq_ok.mpr ⟨es, hes, hbuilt⟩⟩, hh, ?_⟩
    exact hiff.trans (and_congr hconstant hconstants)
  | sign op hop arg ih =>
    simp only [tokens, List.forall_mem_cons] at hnumeric ⊢
    obtain ⟨a, harg, hvalue⟩ := bind_eq_ok.mp hvalue
    obtain ⟨f, hf, hstands, hconstant⟩ := ih hnumeric.2 harg
    have hpower : ¬ IsPower op ∧ (∀ t ∈ arg.tokens, ¬ IsPower t) ↔ ∀ t ∈ arg.tokens, ¬ IsPower t :=
      and_iff_right hop.not_isPower
    rcases hop.text_eq with htext | htext <;> rw [htext] at hvalue
    · cases hvalue
      refine ⟨f, bind_eq_ok.mpr ⟨f, hf, ?_⟩, hstands, hconstant.trans hpower.symm⟩
      rw [htext]
      rfl
    · obtain ⟨h, hbuilt, hh, hiff⟩ := exists_negation hstands hvalue
      refine ⟨h, bind_eq_ok.mpr ⟨f, hf, ?_⟩, hh, hiff.trans (hconstant.trans hpower.symm)⟩
      rw [htext]
      exact hbuilt
  | plain b ih => exact ih hnumeric hvalue
  | power b op hop exponent ih ihe =>
    simp only [tokens, List.forall_mem_append, List.forall_mem_cons] at hnumeric ⊢
    obtain ⟨u, hb, hvalue⟩ := bind_eq_ok.mp hvalue
    obtain ⟨w, hexponent, hvalue⟩ := bind_eq_ok.mp hvalue
    obtain ⟨f, hf, hstands, -⟩ := ih hnumeric.1 hb
    obtain ⟨g, hg, hstandsg, -⟩ := ihe hnumeric.2.2 hexponent
    have hop' : Arithmetic.pow u w = .ok v ∧
        differentiableOperation argument op.text [f, g] = .ok (f.pow g) := by
      rcases hop.text_eq with htext | htext <;> rw [htext] at hvalue ⊢ <;> exact ⟨hvalue, rfl⟩
    refine ⟨f.pow g, bind_eq_ok.mpr ⟨f, hf, bind_eq_ok.mpr ⟨g, hg, hop'.2⟩⟩,
      hstands.pow hstandsg hop'.1, ?_⟩
    exact iff_of_false (not_isConstant_pow f g) fun h => h.2.1 hop
  | number t ht =>
    have hliteral : (Arithmetic.ofLiteral t.text : Except Error K) = .ok v := hvalue
    refine ⟨constant v, bind_eq_ok.mpr ⟨v, hliteral, rfl⟩, stands_constant v, ?_⟩
    refine iff_of_true rfl ?_
    simp [tokens, IsPower, Token.IsOperator, ht]
  | group opening ho inner closing hc ih =>
    simp only [tokens, List.forall_mem_cons, List.forall_mem_append] at hnumeric ⊢
    obtain ⟨e, he, hstands, hconstant⟩ := ih hnumeric.2.1 hvalue
    refine ⟨e, he, hstands, hconstant.trans ?_⟩
    simp [IsPower, Token.IsOperator, ho, hc]
  | call name hn =>
    have hname := hnumeric name (List.mem_cons_self ..)
    simp [Token.IsNumeric, hn] at hname
  | identifier name hn =>
    have hname := hnumeric name (List.mem_cons_self ..)
    simp [Token.IsNumeric, hn] at hname
  | done =>
    cases hvalue
    exact ⟨[], rfl, .nil, by simp [Symbol.IsConstant, tokens]⟩
  | link sep hs item rest ih ihs =>
    simp only [tokens, List.forall_mem_cons, List.forall_mem_append] at hnumeric ⊢
    obtain ⟨a, hitem, hvalue⟩ := bind_eq_ok.mp hvalue
    obtain ⟨vs, hrest, hvalue⟩ := bind_eq_ok.mp hvalue
    cases hvalue
    obtain ⟨f, hf, hstands, hconstant⟩ := ih hnumeric.2.1 hitem
    obtain ⟨es, hes, hall, hconstants⟩ := ihs hnumeric.2.2 hrest
    obtain ⟨hfolded, hpower⟩ := hs.foldedOperator hnumeric.1
    refine ⟨(sep.text, f) :: es, bind_eq_ok.mpr ⟨f, hf, bind_eq_ok.mpr ⟨es, hes, rfl⟩⟩,
      .cons ⟨rfl, hfolded, hstands⟩ hall, ?_⟩
    rw [Symbol.IsConstant, List.forall_mem_cons, and_iff_right hpower]
    exact and_congr hconstant hconstants

end Grammar

/-! ## §4 Slopes of powers -/

section Slopes

variable [Field K] [Arithmetic K] {f e : Differentiable K} {x v d : K}

/-- A function without the variable has no slope but zero. -/
theorem slope_of_closed (h : Differentiates x e v d) (hclosed : e.Closed) : d = 0 := by
  induction h with
  | identity => exact hclosed.elim
  | constant => rfl
  | sum _ _ ihf ihg => rw [ihf hclosed.1, ihg hclosed.2, add_zero]
  | difference _ _ ihf ihg => rw [ihf hclosed.1, ihg hclosed.2, sub_zero]
  | negation _ ih => rw [ih hclosed, neg_zero]
  | product _ _ ihf ihg => rw [ihf hclosed.1, ihg hclosed.2, zero_mul, mul_zero, add_zero]
  | quotient _ _ _ ihf ihg =>
    rw [ihf hclosed.1, ihg hclosed.2, zero_mul, mul_zero, sub_zero, zero_div]
  | power _ _ _ _ _ ihf ihg =>
    rw [ihf hclosed.1, ihg hclosed.2, zero_mul, mul_zero, add_zero, mul_zero]
  | lnOf _ _ _ ih => rw [ih hclosed, zero_div]
  | tanOf _ _ _ ih => rw [ih hclosed, zero_div]
  | powerConst _ _ _ ih => rw [ih hclosed, mul_zero]
  | expOf _ _ ih => rw [ih hclosed, mul_zero]
  | sinOf _ _ _ ih => rw [ih hclosed, mul_zero]
  | cosOf _ _ _ ih => rw [ih hclosed, mul_zero]

variable [Exact K]

/-- The power rule, where the base is not zero. -/
theorem slope_powerRule (hv : f.sample x = some v) (hne : v ≠ 0) (hd : slope x f = some d)
    (c : ℤ) : slope x (powerConst f (c : K)) = some (c * v ^ (c - 1) * d) := by
  have hlowered : (Arithmetic.sub (c : K) (Arithmetic.ofInt 1)).toOption
      = some ((c - 1 : ℤ) : K) := by
    rw [Exact.sub_eq, Exact.ofInt_eq]
    push_cast
    rfl
  have hpower : (Arithmetic.pow v ((c - 1 : ℤ) : K)) = .ok (v ^ (c - 1)) :=
    Exact.pow_eq_ok.mpr ⟨.inl hne, rfl⟩
  rw [slope_powerConst, hlowered, Option.bind_some, hv, hd, onValues_mul]
  refine ⟨c * v ^ (c - 1), d, onValues_mul.mpr ⟨c, v ^ (c - 1), rfl, ?_, rfl⟩, rfl, rfl⟩
  exact onValue_eq_some.mpr ⟨v, rfl, hpower⟩

/-- The general rule for an exponent that stands for an integer. It has a value where the base has
a logarithm and the exponent a slope, and that is the value of the power rule. -/
theorem slope_generalRule (hv : f.sample x = some v) (hne : v ≠ 0) (hd : slope x f = some d)
    {c : ℤ} (he : e.Stands (c : K)) {w : K} :
    slope x (power f e) = some w ↔
      (∃ l, Arithmetic.ln v = .ok l) ∧ (∃ z, slope x e = some z) ∧ w = c * v ^ (c - 1) * d := by
  have hpower : onValues Arithmetic.pow (some v) (some (c : K)) = some (v ^ c) :=
    onValues_eq_some.mpr ⟨v, c, rfl, rfl, Exact.pow_eq_ok.mpr ⟨.inl hne, rfl⟩⟩
  have hquotient : onValues Arithmetic.div (some (c : K)) (some v) = some (c / v) :=
    onValues_div.mpr ⟨c, v, rfl, rfl, hne, rfl⟩
  have hrule : v ^ c * (c / v * d) = c * v ^ (c - 1) * d := by
    rw [zpow_sub_one₀ hne]
    ring
  rw [slope_power, hv, he.value, hd, hpower, hquotient]
  simp only [onValues_mul, onValues_add, onValue_eq_some]
  constructor
  · rintro ⟨_, _, ⟨⟩, ⟨_, _, ⟨z, l, hz, ⟨_, ⟨⟩, hl⟩, rfl⟩, ⟨_, _, ⟨⟩, ⟨⟩, rfl⟩, rfl⟩, rfl⟩
    obtain rfl : z = 0 := slope_of_closed (differentiates_of_slope e (he.value x) hz) he.closed
    exact ⟨⟨l, hl⟩, ⟨0, hz⟩, by rw [zero_mul, zero_add, hrule]⟩
  · rintro ⟨⟨l, hl⟩, ⟨z, hz⟩, rfl⟩
    obtain rfl : z = 0 := slope_of_closed (differentiates_of_slope e (he.value x) hz) he.closed
    refine ⟨v ^ c, c / v * d, rfl, ⟨0 * l, c / v * d, ⟨0, l, hz, ⟨v, rfl, hl⟩, rfl⟩,
      ⟨c / v, d, rfl, rfl, rfl⟩, by rw [zero_mul, zero_add]⟩, hrule⟩

end Slopes

/-! ## §5 Powers in a text -/

/-- The tree of a power whose exponent stands in parentheses. -/
def powerTree (b : Derivation (.phrase .base)) (op : Token) (hop : IsPower op) (opening : Token)
    (ho : opening.kind = "lparen") (g : Derivation (.phrase .expression)) (closing : Token)
    (hc : closing.kind = "rparen") : Derivation (.phrase .expression) :=
  .chain (.chain (.power b op hop (.group opening ho g closing hc)) .done) .done

theorem pow_of_not_isConstant {f e : Differentiable K} (he : ¬ e.IsConstant) :
    f.pow e = power f e := by
  cases e with
  | constant c => exact absurd rfl he
  | _ => rfl

section Texts

variable [Field K] [Arithmetic K] {limits : Limits} {argument text : String}
  {b : Derivation (.phrase .base)} {op opening closing : Token}
  {g : Derivation (.phrase .expression)} {c : ℤ} {f f' : Differentiable K}

/-- What a power with an exponent without names is read as. -/
theorem exists_read_power (hop : IsPower op) (ho : opening.kind = "lparen")
    (hc : closing.kind = "rparen") (hnumeric : ∀ t ∈ g.tokens, t.IsNumeric)
    (htext : tokensOf limits .standard text
      = .ok (b.tokens ++ op :: opening :: (g.tokens ++ [closing])))
    (hvalue : g.fold calculation = .ok (c : K)) (hf : b.fold (differentiation argument) = .ok f) :
    ∃ e : Differentiable K, g.fold (differentiation argument) = .ok e ∧ e.Stands (c : K) ∧
      (e.IsConstant ↔ ∀ t ∈ g.tokens, ¬ IsPower t) ∧
      Differentiable.read limits argument text = .ok (f.pow e) := by
  obtain ⟨e, he, hstands, hconstant⟩ := g.exists_fold argument hnumeric hvalue
  refine ⟨e, he, hstands, hconstant, readExpression_eq_ok.mpr
    ⟨powerTree b op hop opening ho g closing hc, ?_, ?_⟩⟩
  · simpa [powerTree, Derivation.tokens] using htext
  · have hpower : differentiableOperation argument op.text [f, e] = .ok (f.pow e) := by
      rcases hop.text_eq with htext | htext <;> rw [htext] <;> rfl
    simp only [powerTree, Derivation.fold, hf, he]
    exact bind_eq_ok.mpr ⟨f.pow e, bind_eq_ok.mpr ⟨f.pow e, hpower, rfl⟩, rfl⟩

/-- A power with an exponent of numbers, parentheses, signs and operations, the value of which is
an integer `c`. Without a power inside the exponent, the derivative of `f ^ c` is that of the power
rule wherever `f` has a derivative and is not zero, negative values included. With a power inside,
the derivative has a value, and the same one, only where `f` has a logarithm, so for no negative
value of a real function, and the exponent has a derivative. -/
theorem numeric_exponent_slope [Exact K] (hop : IsPower op) (ho : opening.kind = "lparen")
    (hc : closing.kind = "rparen") (hnumeric : ∀ t ∈ g.tokens, t.IsNumeric)
    (htext : tokensOf limits .standard text
      = .ok (b.tokens ++ op :: opening :: (g.tokens ++ [closing])))
    (hvalue : g.fold calculation = .ok (c : K)) (hf : b.fold (differentiation argument) = .ok f)
    (hderivative : f.derivative = .ok f') :
    ∃ e h : Differentiable K, g.fold (differentiation argument) = .ok e ∧
      Differentiable.read limits argument text = .ok h ∧
      ∀ x v d, f.apply x = .ok v → v ≠ 0 → f'.apply x = .ok d →
        ((∀ t ∈ g.tokens, ¬ IsPower t) →
          ∃ h', h.derivative = .ok h' ∧ h'.apply x = .ok (c * v ^ (c - 1) * d)) ∧
        ((∃ t ∈ g.tokens, IsPower t) → ∀ w,
          (∃ h', h.derivative = .ok h' ∧ h'.apply x = .ok w) ↔
            (∃ l, Arithmetic.ln v = .ok l) ∧
              (∃ e' z, e.derivative = .ok e' ∧ e'.apply x = .ok z) ∧
              w = c * v ^ (c - 1) * d) := by
  obtain ⟨e, he, hstands, hconstant, hread⟩ :=
    exists_read_power hop ho hc hnumeric htext hvalue hf
  refine ⟨e, f.pow e, he, hread, fun x v d hv hne hd => ?_⟩
  have hsample : f.sample x = some v := toOption_eq_some.mpr hv
  have hslope : slope x f = some d := slope_eq_some.mpr ⟨f', hderivative, hd⟩
  constructor
  · intro hnone
    rw [hstands.eq_constant (hconstant.mpr hnone)]
    exact slope_eq_some.mp (slope_powerRule hsample hne hslope c)
  · rintro ⟨t, ht, hpower⟩ w
    have hkept : ¬ e.IsConstant := fun h => hconstant.mp h t ht hpower
    rw [pow_of_not_isConstant hkept, ← slope_eq_some,
      slope_generalRule hsample hne hslope hstands]
    simp only [slope_eq_some, exists_comm (α := K)]

end Texts

/-- The variable by its name. -/
def variableBase : Derivation (.phrase .base) := .identifier ⟨"identifier", "x", 0⟩ (.refl "identifier")

/-- The tree of `-2/2`. -/
def minusOneTree : Derivation (.phrase .expression) :=
  .chain (.chain (.sign ⟨"operator", "-", 4⟩ (by decide) (.plain (.number ⟨"number", "2", 5⟩ rfl)))
    (.link ⟨"operator", "/", 6⟩ (by decide) (.plain (.number ⟨"number", "2", 7⟩ rfl)) .done)) .done

/-- The slope of `x**(-2/2)` at -2 is -1/4. -/
theorem numeric_exponent_slope_reciprocal :
    (∀ t ∈ minusOneTree.tokens, t.IsNumeric ∧ ¬ IsPower t) ∧
    tokensOf {} .standard "x**(-2/2)" = .ok (variableBase.tokens ++ ⟨"operator", "**", 1⟩ ::
      ⟨"lparen", "(", 3⟩ :: (minusOneTree.tokens ++ [⟨"rparen", ")", 8⟩])) ∧
    minusOneTree.fold calculation = .ok ((-1 : ℤ) : ℚ) ∧
    ∃ h h' : Differentiable ℚ, Differentiable.read {} "x" "x**(-2/2)" = .ok h ∧
      h.derivative = .ok h' ∧ h'.apply (-2) = .ok (-1 / 4) := by
  have hnumeric : ∀ t ∈ minusOneTree.tokens, t.IsNumeric ∧ ¬ IsPower t := by
    simp [minusOneTree, Derivation.tokens, Token.IsNumeric, IsPower, Token.IsOperator]
  have hlexed : Lexer.standard.tokens "x**(-2/2)" = .ok (variableBase.tokens ++
      ⟨"operator", "**", 1⟩ :: ⟨"lparen", "(", 3⟩ ::
        (minusOneTree.tokens ++ [⟨"rparen", ")", 8⟩])) := by cbv
  have htext : tokensOf {} .standard "x**(-2/2)" = .ok (variableBase.tokens ++
      ⟨"operator", "**", 1⟩ :: ⟨"lparen", "(", 3⟩ ::
        (minusOneTree.tokens ++ [⟨"rparen", ")", 8⟩])) :=
    tokensOf_of_lexed (by decide +kernel) hlexed
  have hvalue : minusOneTree.fold calculation = .ok ((-1 : ℤ) : ℚ) := by cbv
  have hbase : variableBase.fold (differentiation "x") = .ok (identity : Differentiable ℚ) := rfl
  have hone : (identity : Differentiable ℚ).derivative = .ok (constant 1) := by cbv
  obtain ⟨e, h, -, hread, hslope⟩ := numeric_exponent_slope (by decide) rfl rfl
    (fun t ht => (hnumeric t ht).1) htext hvalue hbase hone
  obtain ⟨h', hderivative, hvalue'⟩ := (hslope (-2) (-2) 1 rfl (by norm_num) rfl).1
    fun t ht => (hnumeric t ht).2
  refine ⟨hnumeric, htext, hvalue, h, h', hread, hderivative, ?_⟩
  rw [hvalue']
  norm_num

/-- The tree of `2^1`, as the exponent of `x^(2^1)`. -/
def twoTree : Derivation (.phrase .expression) :=
  .chain (.chain (.power (.number ⟨"number", "2", 3⟩ rfl) ⟨"operator", "^", 4⟩ (by decide)
    (.number ⟨"number", "1", 5⟩ rfl)) .done) .done

/-- The power rule does not hold for every exponent without names. The exponent of `x^(2^1)` has
the value 2, but the derivative has no value at -1, which has no logarithm. -/
theorem power_in_exponent_undefined :
    ¬ ∀ (text : String) (b : Derivation (.phrase .base)) (op opening closing : Token)
      (g : Derivation (.phrase .expression)) (c : ℤ) (f f' : Differentiable ℝ) (x v d : ℝ),
      IsPower op → opening.kind = "lparen" → closing.kind = "rparen" →
      (∀ t ∈ g.tokens, t.IsNumeric) →
      tokensOf {} .standard text = .ok (b.tokens ++ op :: opening :: (g.tokens ++ [closing])) →
      g.fold calculation = .ok (c : ℝ) → b.fold (differentiation "x") = .ok f →
      f.derivative = .ok f' → f.apply x = .ok v → v ≠ 0 → f'.apply x = .ok d →
      ∃ h h', Differentiable.read {} "x" text = .ok h ∧ h.derivative = .ok h' ∧
        h'.apply x = .ok (c * v ^ (c - 1) * d) := by
  intro hclaim
  have hop : IsPower ⟨"operator", "^", 1⟩ := by decide
  have hnumeric : ∀ t ∈ twoTree.tokens, t.IsNumeric := by
    simp [twoTree, Derivation.tokens, Token.IsNumeric]
  have hlexed : Lexer.standard.tokens "x^(2^1)" = .ok (variableBase.tokens ++
      ⟨"operator", "^", 1⟩ :: ⟨"lparen", "(", 2⟩ ::
        (twoTree.tokens ++ [⟨"rparen", ")", 6⟩])) := by cbv
  have htext : tokensOf {} .standard "x^(2^1)" = .ok (variableBase.tokens ++
      ⟨"operator", "^", 1⟩ :: ⟨"lparen", "(", 2⟩ ::
        (twoTree.tokens ++ [⟨"rparen", ")", 6⟩])) :=
    tokensOf_of_lexed (by decide +kernel) hlexed
  have hliteral {s : String} {a : ℤ} (h : exactLiteral s = .ok (a : ℚ)) :
      (Arithmetic.ofLiteral s : Except Error ℝ) = .ok (a : ℝ) := by
    simp only [Arithmetic.ofLiteral, h]
    exact congrArg Except.ok (Rat.cast_intCast a)
  have hpower : Arithmetic.pow ((2 : ℤ) : ℝ) ((1 : ℤ) : ℝ) = .ok ((2 : ℤ) : ℝ) :=
    Exact.pow_eq_ok.mpr ⟨.inr zero_le_one, (zpow_one _).symm⟩
  have hvalue : twoTree.fold calculation = .ok ((2 : ℤ) : ℝ) :=
    bind_eq_ok.mpr ⟨_, bind_eq_ok.mpr ⟨_, bind_eq_ok.mpr ⟨_, hliteral (by cbv), bind_eq_ok.mpr
      ⟨_, hliteral (by cbv), hpower⟩⟩, rfl⟩, rfl⟩
  have hbase : variableBase.fold (differentiation "x") = .ok (identity : Differentiable ℝ) := rfl
  have hderivative : (identity : Differentiable ℝ).derivative = .ok (constant ((1 : ℤ) : ℝ)) := rfl
  have hnegative : (-1 : ℝ) ≠ 0 := by norm_num
  obtain ⟨h, h', hread, hderivative', happly⟩ := hclaim _ _ _ _ _ _ _ _ _ (-1) (-1) _ hop rfl rfl
    hnumeric htext hvalue hbase hderivative rfl hnegative rfl
  obtain ⟨e, -, hstands, hconstant, hread'⟩ :=
    exists_read_power hop rfl rfl hnumeric htext hvalue hbase
  obtain rfl : h = identity.pow e := Except.ok.inj (hread.symm.trans hread')
  have hkept : ¬ e.IsConstant := fun h =>
    hconstant.mp h ⟨"operator", "^", 4⟩ (by decide) (by decide)
  rw [pow_of_not_isConstant hkept] at hderivative'
  obtain ⟨⟨l, hl⟩, -⟩ := (slope_generalRule rfl hnegative rfl hstands).mp
    (slope_eq_some.mpr ⟨h', hderivative', happly⟩)
  obtain ⟨hpositive, -⟩ := realLn_eq_ok.mp hl
  norm_num at hpositive

end Reckoner
