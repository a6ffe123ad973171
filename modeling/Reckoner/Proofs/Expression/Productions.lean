import Reckoner.Proofs.Expression.Performance
import Reckoner.Proofs.Parser.Outcome

/-!
What the productions do on a row: they perform an attempt for it. Each production is run on
rows of every kind, given what the productions inside it do on the rest.

* §1 the parsers that stand for the symbols, and `Reads` — a parser's part in an attempt.
* §2 tokens, separators and nested mentions.
* §3 chains; §4 bases; §5 factors.
* §6 `Attempt.reads` — at every level beyond the length of the row, and `Attempt.run_eq`,
  `Attempt.parser_run` — the results of the productions;
  `observed_related`, `parser_related` — those under related handlers.
-/

namespace Reckoner.Grammar

open Reckoner.Parser

variable {m : Type → Type} [Monad m] {α β : Type}

/-! ## §1 The parsers of the symbols -/

/-- A production among the four. -/
def Phrase.of (productions : Productions m α) : Phrase → Parser m Token α
  | .expression => productions.expression
  | .term => productions.term
  | .factor => productions.factor
  | .base => productions.base

/-- The parser of a separator. -/
def Series.separator : Series → Parser m Token Token
  | .links c => operator c.symbols
  | .arguments => tokenOf "comma"

/-- The parser of an item, `depth` productions being allowed inside each other below it. -/
def Series.itemAt (w : Watch m) (h : Handler m α) (deepest : Productions m α) (depth : Nat) :
    Series → Parser m Token α
  | .links c => c.operand.of (level w.around h deepest (depth + 1))
  | .arguments => w.around .group (level w.around h deepest depth).expression

/-- The parser of an item with its separator. -/
def Series.linkAt (w : Watch m) (h : Handler m α) (deepest : Productions m α) (depth : Nat)
    (f : String → α → β) (s : Series) : Parser m Token β :=
  s.separator.bind fun t => (s.itemAt w h deepest depth).map (f t.text)

theorem chain_of_level (w : Watch m) (h : Handler m α) (deepest : Productions m α) (depth : Nat)
    (c : Chain) :
    (Phrase.chain c).of (level w.around h deepest (depth + 1))
      = chain h (c.operand.of (level w.around h deepest (depth + 1))) c.symbols := by
  cases c <;> rfl

/-- What a parser does for an outcome. -/
def Reads (w : Watch m) (h : Handler m α) (deepest : Productions m α) (depth : Nat) :
    {s : Symbol} → List Token → (o : Outcome s) → m (o.Meaning α) → Prop
  | .phrase p, ts, none, act => (p.of (level w.around h deepest (depth + 1))).Refuses ts act
  | .phrase p, ts, some (_, r), act => (p.of (level w.around h deepest (depth + 1))).Yields ts act r
  | .series _, _, none, _ => True
  | .series s, ts, some (_, r), act => ∀ (β : Type) (f : String → α → β),
      (s.linkAt w h deepest depth f).many.Yields ts (List.map (fun l => f l.1 l.2) <$> act) r

variable [LawfulMonad m]

/-! ## §2 Tokens and nested mentions -/

theorem yields_operator {symbols : List String} {t : Token} (ht : t.IsOperator symbols)
    (ts : List Token) : (operator symbols : Parser m Token Token).Yields (t :: ts) (pure t) ts :=
  yields_satisfy (by simpa [Token.IsOperator] using ht) ts

theorem refuses_operator {symbols : List String} {ts : List Token}
    (h : Lacks (Token.IsOperator symbols) ts) :
    (operator symbols : Parser m Token Token).Refuses ts (pure ()) :=
  refuses_satisfy fun t ht => by simpa [Token.IsOperator] using h t ht

theorem yields_tokenOf {kind : String} {t : Token} (ht : t.kind = kind) (ts : List Token) :
    (tokenOf kind : Parser m Token Token).Yields (t :: ts) (pure t) ts :=
  yields_satisfy (by simpa using ht) ts

theorem refuses_tokenOf {kind : String} {ts : List Token}
    (h : Lacks (fun t => t.kind = kind) ts) :
    (tokenOf kind : Parser m Token Token).Refuses ts (pure ()) :=
  refuses_satisfy fun t ht => by simpa using h t ht

/-- After its token, a sequence does what its second part does. -/
theorem yields_after {kind : String} {t : Token} (ht : t.kind = kind) {ts r : List Token}
    {q : Parser m Token β} {act : m β} (hq : q.Yields ts act r) :
    ((tokenOf kind).bind fun _ => q).Yields (t :: ts) act r :=
  ((yields_tokenOf ht ts).bind fun _ => hq).congr (by simp)

theorem refuses_after {kind : String} {t : Token} (ht : t.kind = kind) {ts : List Token}
    {q : Parser m Token β} {act : m Unit} (hq : q.Refuses ts act) :
    ((tokenOf kind).bind fun _ => q).Refuses (t :: ts) act :=
  ((yields_tokenOf ht ts).bind_refuses fun _ => hq).congr (by simp)

theorem yields_separator {s : Series} {t : Token} (ht : s.Separates t) (ts : List Token) :
    (s.separator : Parser m Token Token).Yields (t :: ts) (pure t) ts := by
  cases s with
  | links c => exact yields_operator ht ts
  | arguments => exact yields_tokenOf ht ts

theorem refuses_separator {s : Series} {ts : List Token} (h : Lacks s.Separates ts) :
    (s.separator : Parser m Token Token).Refuses ts (pure ()) := by
  cases s with
  | links c => exact refuses_operator h
  | arguments => exact refuses_tokenOf h

variable {w : Watch m} {h : Handler m α} {deepest : Productions m α}

theorem yields_around {p : Parser m Token α} {ts r : List Token} {act : m α}
    (hp : p.Yields ts act r) (k : Nested) : (w.around k p).Yields ts (w.during k act) r := by
  simp only [Yields, Watch.around, Watch.during] at hp ⊢
  simp [hp]

theorem refuses_around {p : Parser m Token α} {ts : List Token} {act : m Unit}
    (hp : p.Refuses ts act) (k : Nested) : (w.around k p).Refuses ts (w.during k act) := by
  simp only [Refuses, Watch.around, Watch.during] at hp ⊢
  simp [hp]

theorem yields_inner {p : Phrase} {ts r : List Token} {v : Derivation (.phrase p)} {act : m α}
    (ih : ∀ depth, ts.length ≤ depth → Reads w h deepest depth ts (some (v, r)) act) {depth : Nat}
    (hd : ts.length < depth) (k : Nested) :
    (w.around k (p.of (level w.around h deepest depth))).Yields ts (w.during k act) r := by
  obtain ⟨d, rfl⟩ : ∃ d, depth = d + 1 := ⟨depth - 1, by omega⟩
  exact yields_around (ih d (by omega)) k

theorem refuses_inner {p : Phrase} {ts : List Token} {act : m Unit}
    (ih : ∀ depth, ts.length ≤ depth → Reads w h deepest depth (s := .phrase p) ts none act)
    {depth : Nat} (hd : ts.length < depth) (k : Nested) :
    (w.around k (p.of (level w.around h deepest depth))).Refuses ts (w.during k act) := by
  obtain ⟨d, rfl⟩ : ∃ d, depth = d + 1 := ⟨depth - 1, by omega⟩
  exact refuses_around (ih d (by omega)) k

theorem yields_link {s : Series} {sep : Token} {ts r : List Token}
    {v : Derivation (.phrase s.item)} {act : m α} (hs : s.Separates sep)
    (ih : ∀ depth, ts.length ≤ depth → Reads w h deepest depth ts (some (v, r)) act) {depth : Nat}
    (hd : ts.length < depth) (f : String → α → β) :
    (s.linkAt w h deepest depth f).Yields (sep :: ts) (f sep.text <$> w.item s act) r := by
  have hitem : (s.itemAt w h deepest depth).Yields ts (w.item s act) r := by
    cases s with
    | links c => exact ih depth (by omega)
    | arguments => exact yields_inner (p := .expression) ih hd .group
  refine ((yields_separator hs ts).bind fun t => hitem.map (f t.text)).congr (by simp)

theorem refuses_link {s : Series} {sep : Token} {ts : List Token} {act : m Unit}
    (hs : s.Separates sep)
    (ih : ∀ depth, ts.length ≤ depth → Reads w h deepest depth (s := .phrase s.item) ts none act)
    {depth : Nat} (hd : ts.length < depth) (f : String → α → β) :
    (s.linkAt w h deepest depth f).Refuses (sep :: ts) (w.item s act) := by
  have hitem : (s.itemAt w h deepest depth).Refuses ts (w.item s act) := by
    cases s with
    | links c => exact ih depth (by omega)
    | arguments => exact refuses_inner (p := .expression) ih hd .group
  exact ((yields_separator hs ts).bind_refuses fun t => hitem.map (f t.text)).congr (by simp)

/-! ## §3 Chains -/

theorem yields_chain {c : Chain} {ts r r' : List Token} {v : Derivation (.phrase c.operand)}
    {vs : Derivation (.series (.links c))} {act : m α} {next : m (List (String × α))} {depth : Nat}
    (hfirst : Reads w h deepest depth ts (some (v, r)) act)
    (hlinks : Reads w h deepest depth r (some (vs, r')) next) :
    ((Phrase.chain c).of (level w.around h deepest (depth + 1))).Yields ts
      (act >>= fun v => next >>= fun vs => foldLinks h v vs) r' := by
  have hmany : (Series.linkAt w h deepest depth Prod.mk (.links c)).many.Yields r next r' :=
    (hlinks _ Prod.mk).congr (by simp)
  rw [chain_of_level]
  exact hfirst.bind fun v => hmany.mapM fun vs => foldLinks h v vs

theorem refuses_chain {c : Chain} {ts : List Token} {act : m Unit} {depth : Nat}
    (hfirst : Reads w h deepest depth (s := .phrase c.operand) ts none act) :
    ((Phrase.chain c).of (level w.around h deepest (depth + 1))).Refuses ts act := by
  rw [chain_of_level]
  exact Refuses.bind hfirst _

/-! ## §4 Bases -/

/-- The alternatives of a base. -/
def numberParser (h : Handler m α) : Parser m Token α :=
  (tokenOf "number").mapM fun t => h.number t.text

def groupParser (group : Parser m Token α) : Parser m Token α :=
  ((tokenOf "lparen").bind fun _ => group).seqLeft (tokenOf "rparen")

def argumentsParser (group : Parser m Token α) : Parser m Token (List α) :=
  (((tokenOf "comma").seqRight group).many).seqLeft (tokenOf "rparen")

def callParser (h : Handler m α) (group : Parser m Token α) : Parser m Token α :=
  (tokenOf "identifier").bind fun name =>
    ((tokenOf "lparen").seqRight group).bind fun first =>
      (argumentsParser group).bind fun others => .lift (h.operation name.text (first :: others))

def nameParser (h : Handler m α) : Parser m Token α :=
  (tokenOf "identifier").bind fun name => .lift (h.operation name.text [])

omit [LawfulMonad m] in
theorem baseOf_eq (h : Handler m α) (group : Parser m Token α) :
    baseOf h group = (((numberParser h).orElse (groupParser group)).orElse
      (callParser h group)).orElse (nameParser h) := rfl

theorem lacks_kind {t : Token} {kind kind' : String} (ht : t.kind = kind) (hne : kind ≠ kind')
    (ts : List Token) : Lacks (fun t => t.kind = kind') (t :: ts) := by
  simp [Lacks, ht, hne]

variable {group : Parser m Token α}

theorem refuses_number {ts : List Token} (hts : Lacks (fun t => t.kind = "number") ts) :
    (numberParser h).Refuses ts (pure ()) :=
  (refuses_tokenOf hts).mapM _

theorem refuses_group {ts : List Token} (hts : Lacks (fun t => t.kind = "lparen") ts) :
    (groupParser group).Refuses ts (pure ()) :=
  ((refuses_tokenOf hts).bind _).bind _

theorem refuses_call {ts : List Token} (hts : Lacks (fun t => t.kind = "identifier") ts) :
    (callParser h group).Refuses ts (pure ()) :=
  (refuses_tokenOf hts).bind _

theorem refuses_name {ts : List Token} (hts : Lacks (fun t => t.kind = "identifier") ts) :
    (nameParser h).Refuses ts (pure ()) :=
  (refuses_tokenOf hts).bind _

theorem refuses_base {ts : List Token} (hn : Lacks (fun t => t.kind = "number") ts)
    (ho : Lacks (fun t => t.kind = "lparen") ts)
    (hi : Lacks (fun t => t.kind = "identifier") ts) :
    (baseOf h group).Refuses ts (pure ()) := by
  rw [baseOf_eq]
  exact ((((refuses_number hn).orElse_refuses (refuses_group ho)).orElse_refuses
    (refuses_call hi)).orElse_refuses (refuses_name hi)).congr (by simp)

theorem base_number {t : Token} (ht : t.kind = "number") (ts : List Token) :
    (baseOf h group).Yields (t :: ts) (h.number t.text) ts := by
  have hnumber : (numberParser h).Yields (t :: ts) (h.number t.text) ts :=
    ((yields_tokenOf ht ts).mapM fun t => h.number t.text).congr (by simp)
  rw [baseOf_eq]
  exact ((hnumber.orElse_left _).orElse_left _).orElse_left _

theorem base_group {opening closing : Token} {ts r : List Token} {act : m α}
    (ho : opening.kind = "lparen") (hg : group.Yields ts act (closing :: r))
    (hc : closing.kind = "rparen") : (baseOf h group).Yields (opening :: ts) act r := by
  have hgroup : (groupParser group).Yields (opening :: ts) act r :=
    (yields_after ho hg).seqLeft (yields_tokenOf hc r)
  have hnumber := refuses_number (h := h) (lacks_kind ho (by decide) ts)
  rw [baseOf_eq]
  exact (((hnumber.orElse hgroup).orElse_left _).orElse_left _).congr (by simp)

/-- After an opening parenthesis, a base that is no group is none. -/
theorem refuses_base_group {opening : Token} {ts : List Token} {act : m Unit}
    (ho : opening.kind = "lparen") (hg : (groupParser group).Refuses (opening :: ts) act) :
    (baseOf h group).Refuses (opening :: ts) act := by
  have hnumber := refuses_number (h := h) (lacks_kind ho (by decide) ts)
  have hcall : (callParser h group).Refuses (opening :: ts) (pure ()) :=
    refuses_call (lacks_kind ho (by decide) ts)
  have hname := refuses_name (h := h) (lacks_kind ho (by decide) ts)
  rw [baseOf_eq]
  exact (((hnumber.orElse_refuses hg).orElse_refuses hcall).orElse_refuses hname).congr (by simp)

theorem base_groupNone {opening : Token} {ts : List Token} {act : m Unit}
    (ho : opening.kind = "lparen") (hg : group.Refuses ts act) :
    (baseOf h group).Refuses (opening :: ts) act :=
  refuses_base_group ho ((refuses_after ho hg).bind _)

theorem base_groupOpen {opening : Token} {ts r : List Token} {act : m α}
    (ho : opening.kind = "lparen") (hg : group.Yields ts act r)
    (hr : Lacks (fun t => t.kind = "rparen") r) :
    (baseOf h group).Refuses (opening :: ts) (act >>= fun _ => pure ()) :=
  refuses_base_group ho ((yields_after ho hg).seqLeft_refuses (refuses_tokenOf hr))

/-- A name stands for itself if it is not called. -/
theorem base_bare {name : Token} {ts : List Token} {act : m Unit}
    (hn : name.kind = "identifier") (hcall : (callParser h group).Refuses (name :: ts) act) :
    (baseOf h group).Yields (name :: ts) (act >>= fun _ => h.operation name.text []) ts := by
  have hnumber := refuses_number (h := h) (lacks_kind hn (by decide) ts)
  have hgroup : (groupParser group).Refuses (name :: ts) (pure ()) :=
    refuses_group (lacks_kind hn (by decide) ts)
  have hname : (nameParser h).Yields (name :: ts) (h.operation name.text []) ts :=
    ((yields_tokenOf hn ts).bind fun name => yields_lift _ ts).congr (by simp)
  rw [baseOf_eq]
  exact (((hnumber.orElse_refuses hgroup).orElse_refuses hcall).orElse hname).congr (by simp)

theorem refuses_call_bare {name : Token} {ts : List Token} (hn : name.kind = "identifier")
    (hts : Lacks (fun t => t.kind = "lparen") ts) :
    (callParser h group).Refuses (name :: ts) (pure ()) :=
  ((yields_tokenOf hn ts).bind_refuses fun _ => ((refuses_tokenOf hts).bind _).bind _).congr
    (by simp)

theorem refuses_call_none {name opening : Token} {ts : List Token} {act : m Unit}
    (hn : name.kind = "identifier") (ho : opening.kind = "lparen")
    (hg : group.Refuses ts act) :
    (callParser h group).Refuses (name :: opening :: ts) act :=
  ((yields_tokenOf hn (opening :: ts)).bind_refuses fun _ =>
    (refuses_after ho hg).bind _).congr (by simp)

theorem refuses_call_open {name opening : Token} {ts r r' : List Token} {act : m α}
    {next : m (List α)} (hn : name.kind = "identifier") (ho : opening.kind = "lparen")
    (hg : group.Yields ts act r)
    (hothers : ((tokenOf "comma").seqRight group).many.Yields r next r')
    (hr' : Lacks (fun t => t.kind = "rparen") r') :
    (callParser h group).Refuses (name :: opening :: ts)
      (act >>= fun _ => next >>= fun _ => pure ()) := by
  have hunclosed := hothers.seqLeft_refuses (refuses_tokenOf hr')
  exact ((yields_tokenOf hn (opening :: ts)).bind_refuses fun _ =>
    (yields_after ho hg).bind_refuses fun _ => hunclosed.bind _).congr (by simp)

theorem base_call {name opening closing : Token} {ts r r' : List Token} {act : m α}
    {next : m (List α)} (hn : name.kind = "identifier") (ho : opening.kind = "lparen")
    (hg : group.Yields ts act r)
    (hothers : ((tokenOf "comma").seqRight group).many.Yields r next (closing :: r'))
    (hc : closing.kind = "rparen") :
    (baseOf h group).Yields (name :: opening :: ts)
      (act >>= fun v => next >>= fun vs => h.operation name.text (v :: vs)) r' := by
  have hclosed := hothers.seqLeft (yields_tokenOf hc r')
  have hcall : (callParser h group).Yields (name :: opening :: ts)
      (act >>= fun v => next >>= fun vs => h.operation name.text (v :: vs)) r' :=
    ((yields_tokenOf hn (opening :: ts)).bind fun name => (yields_after ho hg).bind fun v =>
      hclosed.bind fun vs => yields_lift (h.operation name.text (v :: vs)) r').congr (by simp)
  have hnumber := refuses_number (h := h) (lacks_kind hn (by decide) (opening :: ts))
  have hgroup : (groupParser group).Refuses (name :: opening :: ts) (pure ()) :=
    refuses_group (lacks_kind hn (by decide) (opening :: ts))
  rw [baseOf_eq]
  exact (((hnumber.orElse_refuses hgroup).orElse hcall).orElse_left _).congr (by simp)

theorem yields_arguments {ts r : List Token} {vs : Derivation (.series .arguments)}
    {act : m (List (String × α))} {depth : Nat}
    (hothers : Reads w h deepest depth ts (some (vs, r)) act) :
    ((tokenOf "comma").seqRight
      (w.around .group (level w.around h deepest depth).expression)).many.Yields
      ts (List.map Prod.snd <$> act) r := by
  have hlink : Series.arguments.linkAt w h deepest depth (fun _ v => v)
      = (tokenOf "comma").seqRight
          (w.around .group (level w.around h deepest depth).expression) := by
    simp only [Series.linkAt, map_id]
    rfl
  have hmany := hothers α fun _ v => v
  rw [hlink] at hmany
  exact hmany

/-! ## §5 Factors -/

/-- The parser of a signed factor. -/
def signedAt (w : Watch m) (h : Handler m α) (deepest : Productions m α) (depth : Nat) :
    Parser m Token α :=
  (operator ["+", "-"]).bind fun t =>
    (w.around .sign (level w.around h deepest depth).factor).bind fun arg =>
      .lift (h.operation t.text [arg])

/-- The parser of a base with an optional power. -/
def powerAt (w : Watch m) (h : Handler m α) (deepest : Productions m α) (depth : Nat) :
    Parser m Token α :=
  let base := (level w.around h deepest (depth + 1)).base
  base.bind fun lhs =>
    ((operator ["^", "**"]).bind fun t =>
      base.bind fun rhs => .lift (h.operation t.text [lhs, rhs])).orElse (.pure lhs)

omit [LawfulMonad m] in
theorem factor_of_level (w : Watch m) (h : Handler m α) (deepest : Productions m α) (depth : Nat) :
    (level w.around h deepest (depth + 1)).factor
      = (signedAt w h deepest depth).orElse (powerAt w h deepest depth) := rfl

theorem refuses_base_operator {op : Token} {symbols : List String} (hop : op.IsOperator symbols)
    (ts : List Token) (depth : Nat) :
    (level w.around h deepest (depth + 1)).base.Refuses (op :: ts) (pure ()) :=
  refuses_base (lacks_kind hop.1 (by decide) ts) (lacks_kind hop.1 (by decide) ts)
    (lacks_kind hop.1 (by decide) ts)

theorem signed_none {op : Token} {ts : List Token} {act : m Unit} (hop : IsSign op)
    (ih : ∀ depth, ts.length ≤ depth → Reads w h deepest depth (s := .phrase .factor) ts none act)
    {depth : Nat} (hd : ts.length < depth) :
    (level w.around h deepest (depth + 1)).factor.Refuses (op :: ts) (w.during .sign act) := by
  have harg := refuses_inner ih hd .sign
  have hsigned : (signedAt w h deepest depth).Refuses (op :: ts) (w.during .sign act) :=
    ((yields_operator hop ts).bind_refuses fun t => harg.bind _).congr (by simp)
  have hpower : (powerAt w h deepest depth).Refuses (op :: ts) (pure ()) :=
    (refuses_base_operator hop ts depth).bind _
  rw [factor_of_level]
  exact (hsigned.orElse_refuses hpower).congr (by simp)

theorem yields_signed {op : Token} {ts r : List Token} {v : Derivation (.phrase .factor)}
    {act : m α} (hop : IsSign op)
    (ih : ∀ depth, ts.length ≤ depth → Reads w h deepest depth ts (some (v, r)) act)
    {depth : Nat} (hd : ts.length < depth) :
    (level w.around h deepest (depth + 1)).factor.Yields (op :: ts)
      (w.during .sign act >>= fun v => h.operation op.text [v]) r := by
  have harg := yields_inner ih hd .sign
  have hsigned : (signedAt w h deepest depth).Yields (op :: ts)
      (w.during .sign act >>= fun v => h.operation op.text [v]) r :=
    ((yields_operator hop ts).bind fun t => harg.bind fun v => yields_lift _ r).congr (by simp)
  rw [factor_of_level]
  exact hsigned.orElse_left _

theorem refuses_signed {ts : List Token} (hlacks : Lacks IsSign ts) (depth : Nat) :
    (signedAt w h deepest depth).Refuses ts (pure ()) :=
  (refuses_operator hlacks).bind _

theorem factor_unsigned_refuses {ts : List Token} {act : m Unit} (hlacks : Lacks IsSign ts)
    {depth : Nat} (hpower : (powerAt w h deepest depth).Refuses ts act) :
    (level w.around h deepest (depth + 1)).factor.Refuses ts act := by
  rw [factor_of_level]
  exact ((refuses_signed hlacks depth).orElse_refuses hpower).congr (by simp)

theorem factor_unsigned_yields {ts r : List Token} {act : m α} (hlacks : Lacks IsSign ts)
    {depth : Nat} (hpower : (powerAt w h deepest depth).Yields ts act r) :
    (level w.around h deepest (depth + 1)).factor.Yields ts act r := by
  rw [factor_of_level]
  exact ((refuses_signed hlacks depth).orElse hpower).congr (by simp)

theorem powerAt_plain {ts r : List Token} {act : m α} {depth : Nat}
    (hb : (level w.around h deepest (depth + 1)).base.Yields ts act r) (hr : Lacks IsPower r) :
    (powerAt w h deepest depth).Yields ts act r := by
  have hrest : ∀ lhs, (((operator ["^", "**"]).bind fun t =>
      (level w.around h deepest (depth + 1)).base.bind fun rhs =>
        .lift (h.operation t.text [lhs, rhs])).orElse (.pure lhs)).Yields r (pure lhs) r :=
    fun lhs => (((refuses_operator hr).bind _).orElse (yields_pure lhs r)).congr (by simp)
  exact (hb.bind hrest).congr (by simp)

theorem powerAt_none {op : Token} {ts r : List Token} {act : m α} {next : m Unit} {depth : Nat}
    (hb : (level w.around h deepest (depth + 1)).base.Yields ts act (op :: r)) (hop : IsPower op)
    (hexponent : (level w.around h deepest (depth + 1)).base.Refuses r next) :
    (powerAt w h deepest depth).Yields ts (act >>= fun v => next >>= fun _ => pure v)
      (op :: r) := by
  refine hb.bind fun lhs => ?_
  have hnone := (yields_operator hop r).bind_refuses fun t =>
    hexponent.bind fun rhs => .lift (h.operation t.text [lhs, rhs])
  exact (hnone.orElse (yields_pure lhs (op :: r))).congr (by simp)

theorem powerAt_power {op : Token} {ts r r' : List Token} {act next : m α} {depth : Nat}
    (hb : (level w.around h deepest (depth + 1)).base.Yields ts act (op :: r)) (hop : IsPower op)
    (hexponent : (level w.around h deepest (depth + 1)).base.Yields r next r') :
    (powerAt w h deepest depth).Yields ts
      (act >>= fun v => next >>= fun u => h.operation op.text [v, u]) r' := by
  refine hb.bind fun lhs => ?_
  have hpower := (yields_operator hop r).bind fun t =>
    hexponent.bind fun rhs => yields_lift (h.operation t.text [lhs, rhs]) r'
  exact (hpower.orElse_left _).congr (by simp)


/-! ## §6 Performances -/

/-- A parser performs the attempt for its row, at every level beyond the row's length, whatever
is in place of the productions that are too deep for the level. -/
theorem Attempt.reads (w : Watch m) (h : Handler m α) (deepest : Productions m α) {s : Symbol}
    {ts : List Token} {o : Outcome s} (a : Attempt s ts o) :
    ∀ depth, ts.length ≤ depth → Reads w h deepest depth ts o (a.perform w h) := by
  -- the depth goes down only at nested mentions, and each of them comes after a token
  induction a with
  | chainNone _ ih => exact fun depth hd => refuses_chain (ih depth hd)
  | chain first _ ih ihs =>
    intro depth hd
    exact yields_chain (ih depth hd) (ihs depth (Nat.le_trans first.length_le hd))
  | stop hlacks =>
    intro depth _ β f
    have hlink : (Series.linkAt w h deepest depth f _).Refuses _ (pure ()) :=
      (refuses_separator hlacks).bind _
    exact hlink.many.congr (by simp [perform])
  | breakOff hs _ ih =>
    intro depth hd β f
    exact (refuses_link hs ih hd f).many.congr (by simp [perform])
  | link sep hs item _ ih ihs =>
    intro depth hd β f
    have hlen := item.length_le
    rw [List.length_cons] at hd
    have hrest := ihs depth (by omega) β f
    have hshorter := Nat.lt_of_le_of_lt hlen (Nat.lt_succ_self _)
    exact ((yields_link hs ih hd f).many hshorter hrest).congr (by simp [perform])
  | signNone hop _ ih => exact fun depth hd => signed_none hop ih hd
  | sign op hop _ ih => exact fun depth hd => yields_signed hop ih hd
  | factorNone hlacks b ih =>
    exact fun depth hd => factor_unsigned_refuses hlacks (Refuses.bind (ih depth hd) _)
  | plain hlacks b hr ih =>
    exact fun depth hd => factor_unsigned_yields hlacks (powerAt_plain (ih depth hd) hr)
  | powerNone hlacks b hop _ ih ihe =>
    intro depth hd
    have hlen := b.length_lt
    rw [List.length_cons] at hlen
    exact factor_unsigned_yields hlacks (powerAt_none (ih depth hd) hop (ihe depth (by omega)))
  | power hlacks op b hop _ ih ihe =>
    intro depth hd
    have hlen := b.length_lt
    rw [List.length_cons] at hlen
    exact factor_unsigned_yields hlacks (powerAt_power (ih depth hd) hop (ihe depth (by omega)))
  | number t ht => exact fun depth _ => base_number ht _
  | groupNone ho _ ih =>
    intro depth hd
    exact base_groupNone ho (refuses_inner (p := .expression) ih hd .group)
  | groupOpen ho _ hlacks ih =>
    intro depth hd
    exact base_groupOpen ho (yields_inner (p := .expression) ih hd .group) hlacks
  | group ho _ hc ih =>
    intro depth hd
    exact base_group ho (yields_inner (p := .expression) ih hd .group) hc
  | bare name hn hlacks =>
    intro depth _
    exact (base_bare hn (refuses_call_bare hn hlacks)).congr (by simp [perform])
  | callNone name hn ho _ ih =>
    intro depth hd
    rw [List.length_cons, List.length_cons] at hd
    have hfirst : (w.around .group (level w.around h deepest depth).expression).Refuses _ _ :=
      refuses_inner (p := .expression) ih (by omega) .group
    exact base_bare hn (refuses_call_none hn ho hfirst)
  | callOpen name hn ho first others hlacks ih ihs =>
    intro depth hd
    have hlen := first.length_le
    rw [List.length_cons, List.length_cons] at hd
    have hfirst : (w.around .group (level w.around h deepest depth).expression).Yields _ _ _ :=
      yields_inner (p := .expression) ih (by omega) .group
    have hothers := yields_arguments (ihs depth (by omega))
    exact (base_bare hn (refuses_call_open hn ho hfirst hothers hlacks)).congr (by simp [perform])
  | call name hn ho first others hc ih ihs =>
    intro depth hd
    have hlen := first.length_le
    rw [List.length_cons, List.length_cons] at hd
    have hfirst : (w.around .group (level w.around h deepest depth).expression).Yields _ _ _ :=
      yields_inner (p := .expression) ih (by omega) .group
    have hothers := yields_arguments (ihs depth (by omega))
    exact (base_call hn ho hfirst hothers hc).congr (by simp [perform])
  | baseNone hn ho hi => exact fun depth _ => refuses_base hn ho hi

/-- The results that an outcome stands for. -/
def Outcome.results {p : Phrase} :
    (o : Outcome (.phrase p)) → o.Meaning α → List (α × List Token)
  | none, _ => []
  | some (_, r), v => [(v, r)]

/-- The results of a production at every level beyond the length of the row. -/
theorem Attempt.run_eq (w : Watch m) (h : Handler m α) (deepest : Productions m α) {p : Phrase}
    {ts : List Token} {o : Outcome (.phrase p)} (a : Attempt (.phrase p) ts o) {depth : Nat}
    (hd : ts.length < depth) :
    (p.of (level w.around h deepest depth)).run ts = o.results <$> a.perform w h := by
  obtain ⟨d, rfl⟩ : ∃ d, depth = d + 1 := ⟨depth - 1, by omega⟩
  match o, a with
  | none, a => exact a.reads w h deepest d (by omega)
  | some _, a => exact a.reads w h deepest d (by omega)

/-- The results of an observed production. -/
theorem Attempt.observed_run (w : Watch m) (h : Handler m α) {p : Phrase} {ts : List Token}
    {o : Outcome (.phrase p)} (a : Attempt (.phrase p) ts o) :
    (observed w.around h p.of).run ts = o.results <$> a.perform w h :=
  a.run_eq w h .empty (Nat.lt_succ_self _)

/-- The production of a phrase, as it is run. -/
def Phrase.parser (h : Handler m α) : Phrase → Parser m Token α
  | .expression => Grammar.expression h
  | .term => Grammar.term h
  | .factor => Grammar.factor h
  | .base => Grammar.base h

theorem parser_eq_observed (h : Handler m α) (p : Phrase) :
    p.parser h = observed Watch.silent.around h p.of := by
  rw [Watch.silent_around]
  match p with
  | .expression | .term | .factor | .base => rfl

/-- The results of a production. -/
theorem Attempt.parser_run (h : Handler m α) {p : Phrase} {ts : List Token}
    {o : Outcome (.phrase p)} (a : Attempt (.phrase p) ts o) :
    (p.parser h).run ts = o.results <$> a.perform .silent h := by
  rw [parser_eq_observed, a.observed_run]

/-- Related watches and handlers give related results of a production. -/
theorem observed_related {m' : Type → Type} [Monad m'] [LawfulMonad m'] (R : ActionRelation m m')
    {w : Watch m} {w' : Watch m'} (hw : R.Watches w w') {h : Handler m α} {h' : Handler m' α}
    {ts : List Token} (hh : R.Handlers Eq h h' ts) (p : Phrase) :
    R.Rel Eq ((observed w.around h p.of).run ts) ((observed w'.around h' p.of).run ts) := by
  obtain ⟨o, ⟨a⟩⟩ := exists_attempt (.phrase p) ts
  rw [a.observed_run, a.observed_run, map_eq_pure_bind, map_eq_pure_bind]
  exact R.bind (a.perform_related R hw hh) fun v w hvw =>
    R.pure (congrArg o.results (Outcome.eq_of_related hvw))

theorem parser_related {m' : Type → Type} [Monad m'] [LawfulMonad m'] (R : ActionRelation m m')
    {h : Handler m α} {h' : Handler m' α} {ts : List Token} (hh : R.Handlers Eq h h' ts)
    (p : Phrase) : R.Rel Eq ((p.parser h).run ts) ((p.parser h').run ts) := by
  rw [parser_eq_observed, parser_eq_observed]
  exact observed_related R R.silent hh p

end Reckoner.Grammar
