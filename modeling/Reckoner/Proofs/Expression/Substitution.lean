import Reckoner.Proofs.Expression.Completion
import Reckoner.Queries

/-!
Binding a name to a value is as good as writing an expression with that value, in parentheses,
wherever the name stands alone. A name before an opening parenthesis is one of a function and
stays.

* §1 `substitute` — the new row of tokens.
* §2 `Derivation.replace` — the new tree, which derives that row.
* §3 `Handler.Binds`, `Derivation.fold_replace` — its value.
* §4 `binding_substitutes` — evaluation under a binding.
-/

namespace Reckoner

namespace Grammar

/-! ## §1 Rows -/

/-- A token that is a name by itself, given what follows it: no opening parenthesis. -/
def IsBare (x : String) (t : Token) (rest : List Token) : Prop :=
  t.kind = "identifier" ∧ t.text = x ∧ Lacks (fun u => u.kind = "lparen") rest

instance (x : String) (t : Token) (rest : List Token) : Decidable (IsBare x t rest) :=
  inferInstanceAs (Decidable (_ ∧ _ ∧ ∀ u ∈ rest.head?, ¬ u.kind = "lparen"))

/-- A row with an operand in the place of a name wherever that stands by itself. -/
def substitute (x : String) (operand : List Token) : List Token → List Token
  | [] => []
  | t :: ts =>
      if IsBare x t ts then operand ++ substitute x operand ts
      else t :: substitute x operand ts

variable {x : String} {operand : List Token} {t : Token} {ts : List Token}

theorem substitute_bare (h : IsBare x t ts) :
    substitute x operand (t :: ts) = operand ++ substitute x operand ts := if_pos h

theorem substitute_other (h : ¬ IsBare x t ts) :
    substitute x operand (t :: ts) = t :: substitute x operand ts := if_neg h

theorem substitute_kind (h : t.kind ≠ "identifier") :
    substitute x operand (t :: ts) = t :: substitute x operand ts :=
  substitute_other fun hbare => h hbare.1

/-! ## §2 Trees -/

/-- A tree with a base in the place of a name wherever that stands by itself. -/
def Derivation.replace :
    {s : Symbol} → Derivation s → String → Derivation (.phrase .base) → Derivation s
  | _, .chain first links, x, r => .chain (first.replace x r) (links.replace x r)
  | _, .sign op hop arg, x, r => .sign op hop (arg.replace x r)
  | _, .plain b, x, r => .plain (b.replace x r)
  | _, .power b op hop exponent, x, r => .power (b.replace x r) op hop (exponent.replace x r)
  | _, .number t ht, _, _ => .number t ht
  | _, .group opening ho inner closing hc, x, r =>
      .group opening ho (inner.replace x r) closing hc
  | _, .call name hn opening ho first others closing hc, x, r =>
      .call name hn opening ho (first.replace x r) (others.replace x r) closing hc
  | _, .identifier name hn, x, r => if name.text = x then r else .identifier name hn
  | _, .done, _, _ => .done
  | _, .link sep hs item rest, x, r => .link sep hs (item.replace x r) (rest.replace x r)

theorem Series.Separates.kind_ne {s : Series} {sep : Token} (h : s.Separates sep) :
    sep.kind ≠ "identifier" ∧ sep.kind ≠ "lparen" := by
  cases s with
  | links c => simp [show sep.kind = "operator" from h.1]
  | arguments => simp [show sep.kind = "comma" from h]

/-- No parenthesis opens where a series goes on or ends. -/
theorem lacks_opening_series {s : Series} {rest : List Token}
    (h : Lacks (fun u => u.kind = "lparen") rest) (vs : Derivation (.series s)) :
    Lacks (fun u => u.kind = "lparen") (vs.tokens ++ rest) := by
  cases vs with
  | done => exact h
  | link sep hs item more => exact lacks_cons hs.kind_ne.2

/-- The new tree derives the new row. What follows a tree must not make a call of its last
name. -/
theorem Derivation.tokens_replace {s : Symbol} (d : Derivation s) (x : String)
    (r : Derivation (.phrase .base)) {rest : List Token}
    (h : Lacks (fun u => u.kind = "lparen") rest) :
    substitute x r.tokens (d.tokens ++ rest)
      = (d.replace x r).tokens ++ substitute x r.tokens rest := by
  induction d generalizing rest with
  | chain first links ih ihs =>
    simp only [tokens, replace, List.append_assoc]
    rw [ih (lacks_opening_series h links), ihs h]
  | sign op hop arg ih =>
    simp only [tokens, replace, List.cons_append]
    rw [substitute_kind (by simp [hop.1]), ih h]
  | plain b ih => exact ih h
  | power b op hop exponent ih ihe =>
    simp only [tokens, replace, List.append_assoc, List.cons_append]
    rw [ih (lacks_cons (by simp [hop.1])), substitute_kind (by simp [hop.1]), ihe h]
  | number t ht => exact substitute_kind (by simp [ht])
  | group opening ho inner closing hc ih =>
    simp only [tokens, replace, List.append_assoc, List.cons_append, List.nil_append]
    rw [substitute_kind (by simp [ho]), ih (lacks_cons (by simp [hc])),
      substitute_kind (by simp [hc])]
  | call name hn opening ho first others closing hc ih ihs =>
    have hclosing : Lacks (fun u => u.kind = "lparen") (closing :: rest) :=
      lacks_cons (by simp [hc])
    simp only [tokens, replace, List.append_assoc, List.cons_append, List.nil_append]
    rw [substitute_other fun hbare => hbare.2.2 opening rfl ho, substitute_kind (by simp [ho]),
      ih (lacks_opening_series hclosing others), ihs hclosing, substitute_kind (by simp [hc])]
  | identifier name hn =>
    show substitute x r.tokens (name :: rest) = _
    by_cases hname : name.text = x
    · rw [substitute_bare ⟨hn, hname, h⟩, replace, if_pos hname]
    · rw [substitute_other fun hbare => hname hbare.2.1, replace, if_neg hname]
      rfl
  | done => rfl
  | link sep hs item more ih ihs =>
    simp only [tokens, replace, List.append_assoc, List.cons_append]
    rw [substitute_kind hs.kind_ne.1, ih (lacks_opening_series h more), ihs h]

end Grammar

/-! ## §3 Values -/

section Values

variable {m : Type → Type} [Monad m] {α : Type}

/-- A handler does what another one does, but for a name by itself, which is answered by an
action. -/
structure Handler.Binds (h h' : Handler m α) (x : String) (act : m α) : Prop where
  number : ∀ text, h'.number text = h.number text
  bound : h'.operation x [] = act
  other : ∀ y, y ≠ x → h'.operation y [] = h.operation y []
  applied : ∀ name a args, h'.operation name (a :: args) = h.operation name (a :: args)

namespace Grammar

variable {h h' : Handler m α} {x : String}

theorem foldLinks_congr {act : m α} (hbinds : h.Binds h' x act) (v : α)
    (links : List (String × α)) : foldLinks h v links = foldLinks h' v links := by
  unfold foldLinks
  simp only [hbinds.applied]

/-- The value of the new tree is that of the old one under the binding. -/
theorem Derivation.fold_replace {r : Derivation (.phrase .base)}
    (hbinds : h.Binds h' x (r.fold h)) {s : Symbol} (d : Derivation s) :
    (d.replace x r).fold h = d.fold h' := by
  induction d with
  | chain first links ih ihs =>
    simp only [replace, fold, ih, ihs, foldLinks_congr hbinds]
  | sign op hop arg ih => simp only [replace, fold, ih, hbinds.applied]
  | plain b ih => exact ih
  | power b op hop exponent ih ihe => simp only [replace, fold, ih, ihe, hbinds.applied]
  | number t ht => exact (hbinds.number t.text).symm
  | group opening ho inner closing hc ih => exact ih
  | call name hn opening ho first others closing hc ih ihs =>
    simp only [replace, fold, ih, ihs, hbinds.applied]
  | identifier name hn =>
    by_cases hname : name.text = x
    · rw [replace, if_pos hname, fold, hname, hbinds.bound]
    · rw [replace, if_neg hname, fold, fold, hbinds.other _ hname]
  | done => rfl
  | link sep hs item more ih ihs => simp only [replace, fold, ih, ihs]

/-- Reading the new row does what reading the old one does under the binding. -/
theorem run_substitute [LawfulMonad m] (d t : Derivation (.phrase .expression))
    {opening closing : Token} (ho : opening.kind = "lparen") (hc : closing.kind = "rparen")
    (hbinds : h.Binds h' x (t.fold h)) :
    (expression h').run d.tokens = (fun v => [(v, [])]) <$> d.fold h' ∧
      (expression h).run (substitute x (opening :: (t.tokens ++ [closing])) d.tokens)
        = (fun v => [(v, [])]) <$> d.fold h' := by
  let r : Derivation (.phrase .base) := .group opening ho t closing hc
  have hrow : substitute x r.tokens d.tokens = (d.replace x r).tokens := by
    have hlacks : Lacks (fun u => u.kind = "lparen") [] := nofun
    have h := d.tokens_replace x r hlacks
    rwa [substitute, List.append_nil, List.append_nil] at h
  have hold : (expression h').run d.tokens = (fun v => [(v, [])]) <$> d.fold h' :=
    d.run_tokens (p := .expression) h'
  have hnew : (expression h).run (d.replace x r).tokens
      = (fun v => [(v, [])]) <$> (d.replace x r).fold h :=
    (d.replace x r).run_tokens (p := .expression) h
  refine ⟨hold, ?_⟩
  rw [d.fold_replace (r := r) hbinds] at hnew
  exact hrow ▸ hnew

end Grammar

end Values

/-! ## §4 Bindings -/

/-- Bindings with one more; it hides an earlier one of the same name. -/
def Bindings.bind (bindings : Bindings) (x : String) (v : Float) : Bindings :=
  bindings ++ [(x, .number (.real v))]

theorem Bindings.lookup_bind (bindings : Bindings) (x : String) (v : Float) (y : String) :
    (bindings.bind x v).lookup y = if y = x then some (.ok (.real v)) else bindings.lookup y := by
  unfold bind lookup
  rw [List.reverse_append, List.reverse_singleton, List.singleton_append, List.find?_cons]
  by_cases hy : y = x
  · simp only [hy, BEq.rfl, if_true]
    rfl
  · rw [if_neg hy, show (x == y) = false from beq_false_of_ne (Ne.symm hy)]

theorem binds_evaluation (bindings : Bindings) (x : String) (v : Float) :
    (evaluation bindings.lookup).Binds (evaluation (bindings.bind x v).lookup) x
      (.ok (.real v)) where
  number _ := rfl
  bound := by
    show nameValue _ x = _
    rw [nameValue, Bindings.lookup_bind, if_pos rfl]
  other y hy := by
    show nameValue _ y = nameValue _ y
    rw [nameValue, nameValue, Bindings.lookup_bind, if_neg hy]
  applied name a args := by
    cases args with
    | nil => rfl
    | cons b args => cases args <;> rfl

open Grammar

/-- A name bound to the value of an expression means that expression. Where an expression is
read under the binding, and where the other one in parentheses has taken the place of the name,
all tokens are read and the values are the same, or the errors are. -/
theorem binding_substitutes (bindings : Bindings) (x : String) (v : Float)
    {row definition : List Token} (hrow : Derivable (.phrase .expression) row)
    (hdefinition : Derivable (.phrase .expression) definition)
    (hvalue : (expression (evaluation bindings.lookup)).run definition = .ok [(.real v, [])])
    {opening closing : Token} (ho : opening.kind = "lparen") (hc : closing.kind = "rparen") :
    ∃ outcome : Except Error Number,
      (expression (evaluation (bindings.bind x v).lookup)).run row
        = (fun n => [(n, [])]) <$> outcome ∧
      (expression (evaluation bindings.lookup)).run
          (substitute x (opening :: (definition ++ [closing])) row)
        = (fun n => [(n, [])]) <$> outcome := by
  obtain ⟨d, rfl⟩ := hrow
  obtain ⟨t, rfl⟩ := hdefinition
  have hfold : t.fold (evaluation bindings.lookup) = .ok (.real v) := by
    have hrun : (fun n => [(n, [])]) <$> t.fold (evaluation bindings.lookup)
        = .ok [(Number.real v, [])] := (t.run_tokens (p := .expression) _).symm.trans hvalue
    generalize t.fold (evaluation bindings.lookup) = result at hrun
    cases result with
    | error e => cases hrun
    | ok n =>
      cases hrun
      rfl
  have hbinds := binds_evaluation bindings x v
  rw [← hfold] at hbinds
  exact ⟨_, run_substitute d t ho hc hbinds⟩

/-- The tree of `x+x`. -/
def doubleTree : Derivation (.phrase .expression) :=
  .chain (.chain (.plain (.identifier ⟨"identifier", "x", 0⟩ rfl)) .done)
    (.link ⟨"operator", "+", 1⟩ (by decide)
      (.chain (.plain (.identifier ⟨"identifier", "x", 2⟩ rfl)) .done) .done)

/-- The tree of `x*x`. -/
def squareTree : Derivation (.phrase .expression) :=
  .chain (.chain (.plain (.identifier ⟨"identifier", "x", 0⟩ rfl))
    (.link ⟨"operator", "*", 1⟩ (by decide) (.plain (.identifier ⟨"identifier", "x", 2⟩ rfl))
      .done)) .done

/-- Where `x` is 3, `x*x` under the binding of `x` to `x+x` is `(x+x)*(x+x)`: a definition may
mention the name that it defines, with its old value. -/
theorem binding_substitutes_ownName :
    (expression (evaluation (Bindings.lookup [("x", .number (.real 3))]))).run doubleTree.tokens
        = .ok [(.real (3 + 3), [])] ∧
      ∃ outcome : Except Error Number,
        (expression (evaluation (Bindings.bind [("x", .number (.real 3))] "x" (3 + 3)).lookup)).run
            squareTree.tokens = (fun n => [(n, [])]) <$> outcome ∧
          (expression (evaluation (Bindings.lookup [("x", .number (.real 3))]))).run
            [⟨"lparen", "(", 0⟩, ⟨"identifier", "x", 0⟩, ⟨"operator", "+", 1⟩,
              ⟨"identifier", "x", 2⟩, ⟨"rparen", ")", 0⟩, ⟨"operator", "*", 1⟩,
              ⟨"lparen", "(", 0⟩, ⟨"identifier", "x", 0⟩, ⟨"operator", "+", 1⟩,
              ⟨"identifier", "x", 2⟩, ⟨"rparen", ")", 0⟩] = (fun n => [(n, [])]) <$> outcome := by
  have hvalue : (expression (evaluation (Bindings.lookup [("x", .number (.real 3))]))).run
      doubleTree.tokens = .ok [(.real (3 + 3), [])] :=
    (doubleTree.run_tokens (p := .expression) _).trans rfl
  have ho : (⟨"lparen", "(", 0⟩ : Token).kind = "lparen" := rfl
  have hc : (⟨"rparen", ")", 0⟩ : Token).kind = "rparen" := rfl
  exact ⟨hvalue, binding_substitutes _ "x" _ ⟨squareTree, rfl⟩ ⟨doubleTree, rfl⟩ hvalue ho hc⟩

end Reckoner
