import Reckoner.Expression.Grammar

/-!
The grammar of expressions as a context-free grammar, apart from the parser that reads it.

    expression := term (('+' | '-') term)*
    term       := factor (('*' | '/' | '%') factor)*
    factor     := ('+' | '-') factor
                | base (('^' | '**') base)?
    base       := number
                | '(' expression ')'
                | identifier '(' expression (',' expression)* ')'
                | identifier

The starred parts are symbols of their own, `Series`: separators, each with an item after
it. A derivation is a tree of the rules that are applied, so a token sequence has as many
derivations as it has readings.

* §1 `Phrase`, `Series`, `Symbol` — the symbols; `Series.Separates` — the separators.
* §2 `Derivation`, `Derivation.tokens`, `Derivable` — trees and the rows that they derive;
  `Derivation.separators` — the separators of a series.
* §3 `Derivation.fold` — the value of a tree under a handler.
* §4 `Symbol.Extends` — the tokens that a longer tree may go on with where a shorter one
  ends.
-/

namespace Reckoner

/-- An operator of one of some symbols. -/
def Token.IsOperator (symbols : List String) (t : Token) : Prop :=
  t.kind = "operator" ∧ t.text ∈ symbols

instance (symbols : List String) (t : Token) : Decidable (t.IsOperator symbols) :=
  inferInstanceAs (Decidable (_ ∧ _))

namespace Grammar

/-! ## §1 Symbols -/

/-- The two kinds of chains of binary operations. -/
inductive Chain where
  | sum
  | product
  deriving DecidableEq, Repr

/-- The operators of a chain. -/
def Chain.symbols : Chain → List String
  | sum => ["+", "-"]
  | product => ["*", "/", "%"]

/-- The four productions: an expression is a chain of sums, a term one of products. -/
inductive Phrase where
  | chain (c : Chain)
  | factor
  | base
  deriving DecidableEq, Repr

@[match_pattern] abbrev Phrase.expression : Phrase := .chain .sum

@[match_pattern] abbrev Phrase.term : Phrase := .chain .product

/-- What a chain is a chain of. -/
def Chain.operand : Chain → Phrase
  | sum => .term
  | product => .factor

/-- The starred parts: the links of a chain, and the further arguments of a call. -/
inductive Series where
  | links (c : Chain)
  | arguments
  deriving DecidableEq, Repr

namespace Series

/-- What stands before every item. -/
def Separates : Series → Token → Prop
  | links c, t => t.IsOperator c.symbols
  | arguments, t => t.kind = "comma"

instance (s : Series) (t : Token) : Decidable (s.Separates t) :=
  match s with
  | links c => inferInstanceAs (Decidable (t.IsOperator c.symbols))
  | arguments => inferInstanceAs (Decidable (t.kind = "comma"))

/-- What the items are. -/
def item : Series → Phrase
  | links c => c.operand
  | arguments => .expression

end Series

/-- The symbols of the grammar. -/
inductive Symbol where
  | phrase (p : Phrase)
  | series (s : Series)
  deriving DecidableEq, Repr

/-- A sign in front of a factor. -/
abbrev IsSign (t : Token) : Prop := t.IsOperator ["+", "-"]

/-- The operator of a power. -/
abbrev IsPower (t : Token) : Prop := t.IsOperator ["^", "**"]

/-! ## §2 Derivations -/

/-- Derivation trees by their root symbols. -/
inductive Derivation : Symbol → Type where
  | chain {c : Chain} (first : Derivation (.phrase c.operand))
      (links : Derivation (.series (.links c))) : Derivation (.phrase (.chain c))
  | sign (op : Token) (hop : IsSign op) (arg : Derivation (.phrase .factor)) :
      Derivation (.phrase .factor)
  | plain (b : Derivation (.phrase .base)) : Derivation (.phrase .factor)
  | power (b : Derivation (.phrase .base)) (op : Token) (hop : IsPower op)
      (exponent : Derivation (.phrase .base)) : Derivation (.phrase .factor)
  | number (t : Token) (ht : t.kind = "number") : Derivation (.phrase .base)
  | group (opening : Token) (ho : opening.kind = "lparen")
      (inner : Derivation (.phrase .expression)) (closing : Token)
      (hc : closing.kind = "rparen") : Derivation (.phrase .base)
  | call (name : Token) (hn : name.kind = "identifier") (opening : Token)
      (ho : opening.kind = "lparen") (first : Derivation (.phrase .expression))
      (others : Derivation (.series .arguments)) (closing : Token)
      (hc : closing.kind = "rparen") : Derivation (.phrase .base)
  | identifier (name : Token) (hn : name.kind = "identifier") : Derivation (.phrase .base)
  | done {s : Series} : Derivation (.series s)
  | link {s : Series} (sep : Token) (hs : s.Separates sep) (item : Derivation (.phrase s.item))
      (rest : Derivation (.series s)) : Derivation (.series s)

namespace Derivation

/-- The row of tokens that a tree derives. -/
def tokens : {s : Symbol} → Derivation s → List Token
  | _, chain first links => first.tokens ++ links.tokens
  | _, sign op _ arg => op :: arg.tokens
  | _, plain b => b.tokens
  | _, power b op _ exponent => b.tokens ++ op :: exponent.tokens
  | _, number t _ => [t]
  | _, group opening _ inner closing _ => opening :: (inner.tokens ++ [closing])
  | _, call name _ opening _ first others closing _ =>
      name :: opening :: (first.tokens ++ (others.tokens ++ [closing]))
  | _, identifier name _ => [name]
  | _, done => []
  | _, link sep _ item rest => sep :: (item.tokens ++ rest.tokens)

/-- The texts of the separators of a series. -/
def separators : {s : Symbol} → Derivation s → List String
  | _, link sep _ _ rest => sep.text :: rest.separators
  | _, _ => []

theorem exists_of_mem_separators {s : Symbol} {d : Derivation s} {name : String}
    (h : name ∈ d.separators) : ∃ t ∈ d.tokens, t.text = name := by
  induction d with
  | link sep hs item rest _ ih =>
    rcases List.mem_cons.mp h with rfl | h
    · exact ⟨sep, List.mem_cons_self .., rfl⟩
    · obtain ⟨t, ht, hname⟩ := ih h
      exact ⟨t, by simp [tokens, ht], hname⟩
  | _ => exact nomatch h

end Derivation

/-- A row that some tree of the symbol derives. -/
def Derivable (s : Symbol) (ts : List Token) : Prop :=
  ∃ d : Derivation s, d.tokens = ts

/-! ## §3 Values -/

/-- What a symbol stands for: a phrase for a value, a series for its separators' texts with
the values of its items. -/
abbrev Symbol.Meaning (α : Type) : Symbol → Type
  | .phrase _ => α
  | .series _ => List (String × α)

section Values

variable {m : Type → Type} [Monad m] {α : Type}

/-- The binary operations of a chain, from left to right. -/
def foldLinks (h : Handler m α) (first : α) (links : List (String × α)) : m α :=
  links.foldlM (fun lhs (name, rhs) => h.operation name [lhs, rhs]) first

/-- The value of a tree. Children come before their operator, from left to right, and all
the operands of a chain before its operations. -/
def Derivation.fold (h : Handler m α) : {s : Symbol} → Derivation s → m (s.Meaning α)
  | _, .chain first links => do
      let v ← first.fold h
      let vs ← links.fold h
      foldLinks h v vs
  | _, .sign op _ arg => do
      let v ← arg.fold h
      h.operation op.text [v]
  | _, .plain b => b.fold h
  | _, .power b op _ exponent => do
      let v ← b.fold h
      let w ← exponent.fold h
      h.operation op.text [v, w]
  | _, .number t _ => h.number t.text
  | _, .group _ _ inner _ _ => inner.fold h
  | _, .call name _ _ _ first others _ _ => do
      let v ← first.fold h
      let vs ← others.fold h
      h.operation name.text (v :: vs.map Prod.snd)
  | _, .identifier name _ => h.operation name.text []
  | _, .done => pure []
  | _, .link sep _ item rest => do
      let v ← item.fold h
      let vs ← rest.fold h
      return (sep.text, v) :: vs

end Values

/-! ## §4 Extensions -/

/-- The tokens that a tree of a phrase may go on with after a shorter tree's end. -/
def Phrase.Extends : Phrase → Token → Prop
  | .base, t => t.kind = "lparen"
  | .factor, t => IsPower t ∨ t.kind = "lparen"
  | .term, t => t.IsOperator Chain.product.symbols ∨ IsPower t ∨ t.kind = "lparen"
  | .expression, t => t.IsOperator Chain.sum.symbols ∨ t.IsOperator Chain.product.symbols ∨
      IsPower t ∨ t.kind = "lparen"

/-- The tokens that a tree of a symbol may go on with after a shorter tree's end. -/
def Symbol.Extends : Symbol → Token → Prop
  | .phrase p, t => p.Extends t
  | .series s, t => s.Separates t ∨ s.item.Extends t

theorem extends_chain {c : Chain} {t : Token} :
    (Phrase.chain c).Extends t ↔ (Symbol.series (.links c)).Extends t := by
  cases c <;> rfl

/-- An item never goes on with a separator of its own series. -/
theorem Series.Separates.not_extends_item {s : Series} {t : Token} (h : s.Separates t) :
    ¬ s.item.Extends t := by
  rcases s with (_ | _) | _ <;>
    simp_all [Series.Separates, Series.item, Chain.operand, Phrase.Extends, Token.IsOperator,
      Chain.symbols] <;> grind

end Grammar

end Reckoner
