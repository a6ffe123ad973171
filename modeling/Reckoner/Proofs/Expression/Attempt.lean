import Reckoner.Proofs.Expression.Derivation

/-!
Every way in which reading a symbol from a row of tokens can go, for any row. An attempt
records the choices of the reader together with what it gave up on the way: the choices
look at one token, a failure is never mended by another choice for the same tokens, and a
repetition or an option that breaks off leaves the row where it last succeeded.

* §1 `Attempt` — attempts, by symbol, row and outcome.
* §2 `Attempt.tokens_append` — an outcome splits the row.
* §3 `exists_attempt` — there is an attempt for every symbol and row.
-/

namespace Reckoner.Grammar

/-! ## §1 Attempts -/

/-- What reading a symbol comes to: nothing, or a tree and the rest of the row. -/
abbrev Outcome (s : Symbol) : Type := Option (Derivation s × List Token)

/-- The row does not start with a token of a kind. -/
def Lacks (P : Token → Prop) (ts : List Token) : Prop := ∀ t ∈ ts.head?, ¬ P t

/-- One way that reading a symbol from a row goes. -/
inductive Attempt : (s : Symbol) → List Token → Outcome s → Type where
  | chainNone {c : Chain} {ts : List Token} (operand : Attempt (.phrase c.operand) ts none) :
      Attempt (.phrase (.chain c)) ts none
  | chain {c : Chain} {ts r r' : List Token} {v : Derivation (.phrase c.operand)}
      {vs : Derivation (.series (.links c))}
      (first : Attempt (.phrase c.operand) ts (some (v, r)))
      (links : Attempt (.series (.links c)) r (some (vs, r'))) :
      Attempt (.phrase (.chain c)) ts (some (.chain v vs, r'))
  /-- No separator follows. -/
  | stop {s : Series} {ts : List Token} (h : Lacks s.Separates ts) :
      Attempt (.series s) ts (some (.done, ts))
  /-- A separator without an item is left where it is. -/
  | breakOff {s : Series} {sep : Token} {ts : List Token} (h : s.Separates sep)
      (item : Attempt (.phrase s.item) ts none) :
      Attempt (.series s) (sep :: ts) (some (.done, sep :: ts))
  | link {s : Series} {ts r r' : List Token} {v : Derivation (.phrase s.item)}
      {vs : Derivation (.series s)} (sep : Token) (h : s.Separates sep)
      (item : Attempt (.phrase s.item) ts (some (v, r)))
      (rest : Attempt (.series s) r (some (vs, r'))) :
      Attempt (.series s) (sep :: ts) (some (.link sep h v vs, r'))
  | signNone {op : Token} {ts : List Token} (h : IsSign op)
      (arg : Attempt (.phrase .factor) ts none) : Attempt (.phrase .factor) (op :: ts) none
  | sign {ts r : List Token} {v : Derivation (.phrase .factor)} (op : Token) (h : IsSign op)
      (arg : Attempt (.phrase .factor) ts (some (v, r))) :
      Attempt (.phrase .factor) (op :: ts) (some (.sign op h v, r))
  | factorNone {ts : List Token} (h : Lacks IsSign ts)
      (b : Attempt (.phrase .base) ts none) : Attempt (.phrase .factor) ts none
  | plain {ts r : List Token} {v : Derivation (.phrase .base)} (h : Lacks IsSign ts)
      (b : Attempt (.phrase .base) ts (some (v, r))) (hr : Lacks IsPower r) :
      Attempt (.phrase .factor) ts (some (.plain v, r))
  /-- A power without an exponent is left where it is. -/
  | powerNone {op : Token} {ts r : List Token} {v : Derivation (.phrase .base)}
      (h : Lacks IsSign ts) (b : Attempt (.phrase .base) ts (some (v, op :: r)))
      (hop : IsPower op) (exponent : Attempt (.phrase .base) r none) :
      Attempt (.phrase .factor) ts (some (.plain v, op :: r))
  | power {ts r r' : List Token} {v w : Derivation (.phrase .base)} (h : Lacks IsSign ts)
      (op : Token) (b : Attempt (.phrase .base) ts (some (v, op :: r))) (hop : IsPower op)
      (exponent : Attempt (.phrase .base) r (some (w, r'))) :
      Attempt (.phrase .factor) ts (some (.power v op hop w, r'))
  | number {ts : List Token} (t : Token) (h : t.kind = "number") :
      Attempt (.phrase .base) (t :: ts) (some (.number t h, ts))
  | groupNone {opening : Token} {ts : List Token} (ho : opening.kind = "lparen")
      (inner : Attempt (.phrase .expression) ts none) :
      Attempt (.phrase .base) (opening :: ts) none
  /-- A group that is not closed. -/
  | groupOpen {opening : Token} {ts r : List Token} {v : Derivation (.phrase .expression)}
      (ho : opening.kind = "lparen") (inner : Attempt (.phrase .expression) ts (some (v, r)))
      (h : Lacks (fun t => t.kind = "rparen") r) : Attempt (.phrase .base) (opening :: ts) none
  | group {opening closing : Token} {ts r : List Token} {v : Derivation (.phrase .expression)}
      (ho : opening.kind = "lparen")
      (inner : Attempt (.phrase .expression) ts (some (v, closing :: r)))
      (hc : closing.kind = "rparen") :
      Attempt (.phrase .base) (opening :: ts) (some (.group opening ho v closing hc, r))
  /-- A name without arguments. -/
  | bare {ts : List Token} (name : Token) (hn : name.kind = "identifier")
      (h : Lacks (fun t => t.kind = "lparen") ts) :
      Attempt (.phrase .base) (name :: ts) (some (.identifier name hn, ts))
  /-- A name before a parenthesis that no argument follows. -/
  | callNone {opening : Token} {ts : List Token} (name : Token) (hn : name.kind = "identifier")
      (ho : opening.kind = "lparen") (first : Attempt (.phrase .expression) ts none) :
      Attempt (.phrase .base) (name :: opening :: ts)
        (some (.identifier name hn, opening :: ts))
  /-- A name before arguments that are not closed. -/
  | callOpen {opening : Token} {ts r r' : List Token} {v : Derivation (.phrase .expression)}
      {vs : Derivation (.series .arguments)} (name : Token) (hn : name.kind = "identifier")
      (ho : opening.kind = "lparen")
      (first : Attempt (.phrase .expression) ts (some (v, r)))
      (others : Attempt (.series .arguments) r (some (vs, r')))
      (h : Lacks (fun t => t.kind = "rparen") r') :
      Attempt (.phrase .base) (name :: opening :: ts)
        (some (.identifier name hn, opening :: ts))
  | call {opening closing : Token} {ts r r' : List Token} {v : Derivation (.phrase .expression)}
      {vs : Derivation (.series .arguments)} (name : Token) (hn : name.kind = "identifier")
      (ho : opening.kind = "lparen")
      (first : Attempt (.phrase .expression) ts (some (v, r)))
      (others : Attempt (.series .arguments) r (some (vs, closing :: r')))
      (hc : closing.kind = "rparen") :
      Attempt (.phrase .base) (name :: opening :: ts)
        (some (.call name hn opening ho v vs closing hc, r'))
  /-- The row starts with nothing that a base starts with. -/
  | baseNone {ts : List Token} (hn : Lacks (fun t => t.kind = "number") ts)
      (ho : Lacks (fun t => t.kind = "lparen") ts)
      (hi : Lacks (fun t => t.kind = "identifier") ts) : Attempt (.phrase .base) ts none

/-! ## §2 Rests -/

/-- What is read and what is left are the row. -/
theorem Attempt.tokens_append {s : Symbol} {ts : List Token} {o : Outcome s}
    (a : Attempt s ts o) : ∀ found ∈ o, ts = found.1.tokens ++ found.2 := by
  induction a <;> simp_all [Derivation.tokens]

/-- A tree of a phrase derives at least one token. -/
theorem Derivation.tokens_ne_nil {s : Symbol} (d : Derivation s) :
    ∀ p, s = .phrase p → d.tokens ≠ [] := by
  induction d <;> simp_all [Derivation.tokens]

/-! ## §3 Existence -/

/-- Some attempt to read the symbol from the row. -/
def Attempted (s : Symbol) (ts : List Token) : Prop :=
  ∃ o, Nonempty (Attempt s ts o)

/-- Every symbol is attempted on all shorter rows. -/
def ShorterAttempted (ts : List Token) : Prop :=
  ∀ (s : Symbol) (r : List Token), r.length < ts.length → Attempted s r

/-- What a phrase leaves is shorter. -/
theorem Attempt.length_lt {p : Phrase} {ts r : List Token} {v : Derivation (.phrase p)}
    (a : Attempt (.phrase p) ts (some (v, r))) : r.length < ts.length := by
  have happend : ts = v.tokens ++ r := a.tokens_append _ rfl
  have hpos : 0 < v.tokens.length := List.length_pos_iff.mpr (v.tokens_ne_nil p rfl)
  rw [happend, List.length_append]
  omega

/-- What a symbol leaves is no longer. -/
theorem Attempt.length_le {s : Symbol} {ts r : List Token} {v : Derivation s}
    (a : Attempt s ts (some (v, r))) : r.length ≤ ts.length := by
  rw [a.tokens_append _ rfl, List.length_append]
  exact Nat.le_add_left _ _

theorem attempted_series {s : Series} {ts : List Token} (shorter : ShorterAttempted ts) :
    Attempted (.series s) ts := by
  cases ts with
  | nil => exact ⟨_, ⟨.stop (by simp [Lacks])⟩⟩
  | cons sep ts =>
    by_cases h : s.Separates sep
    · obtain ⟨o, ⟨item⟩⟩ := shorter (.phrase s.item) ts (by simp)
      match o, item with
      | none, item => exact ⟨_, ⟨.breakOff h item⟩⟩
      | some (v, r), item =>
        obtain ⟨o, ⟨rest⟩⟩ := shorter (.series s) r (by
          have := item.length_le
          rw [List.length_cons]
          omega)
        match o, rest with
        | some (vs, r'), rest => exact ⟨_, ⟨.link sep h item rest⟩⟩
    · exact ⟨_, ⟨.stop (by simpa [Lacks] using h)⟩⟩

theorem attempted_call {name opening : Token} {ts : List Token} (hn : name.kind = "identifier")
    (ho : opening.kind = "lparen") (shorter : ShorterAttempted (name :: opening :: ts)) :
    Attempted (.phrase .base) (name :: opening :: ts) := by
  have hlen : ts.length < (name :: opening :: ts).length := by
    rw [List.length_cons, List.length_cons]
    omega
  obtain ⟨o, ⟨first⟩⟩ := shorter (.phrase .expression) ts hlen
  match o, first with
  | none, first => exact ⟨_, ⟨.callNone name hn ho first⟩⟩
  | some (v, r), first =>
    obtain ⟨o, ⟨others⟩⟩ := shorter (.series .arguments) r (Nat.lt_of_le_of_lt first.length_le hlen)
    match o, others with
    | some (vs, []), others => exact ⟨_, ⟨.callOpen name hn ho first others (by simp [Lacks])⟩⟩
    | some (vs, closing :: r'), others =>
      by_cases hc : closing.kind = "rparen"
      · exact ⟨_, ⟨.call name hn ho first others hc⟩⟩
      · exact ⟨_, ⟨.callOpen name hn ho first others (by simpa [Lacks] using hc)⟩⟩

theorem attempted_group {opening : Token} {ts : List Token} (ho : opening.kind = "lparen")
    (shorter : ShorterAttempted (opening :: ts)) : Attempted (.phrase .base) (opening :: ts) := by
  obtain ⟨o, ⟨inner⟩⟩ := shorter (.phrase .expression) ts (by simp)
  match o, inner with
  | none, inner => exact ⟨_, ⟨.groupNone ho inner⟩⟩
  | some (v, []), inner => exact ⟨_, ⟨.groupOpen ho inner (by simp [Lacks])⟩⟩
  | some (v, closing :: r), inner =>
    by_cases hc : closing.kind = "rparen"
    · exact ⟨_, ⟨.group ho inner hc⟩⟩
    · exact ⟨_, ⟨.groupOpen ho inner (by simpa [Lacks] using hc)⟩⟩

theorem attempted_base {ts : List Token} (shorter : ShorterAttempted ts) :
    Attempted (.phrase .base) ts := by
  cases ts with
  | nil => exact ⟨_, ⟨.baseNone (by simp [Lacks]) (by simp [Lacks]) (by simp [Lacks])⟩⟩
  | cons t ts =>
    by_cases hn : t.kind = "number"
    · exact ⟨_, ⟨.number t hn⟩⟩
    by_cases ho : t.kind = "lparen"
    · exact attempted_group ho shorter
    by_cases hi : t.kind = "identifier"
    · match ts with
      | [] => exact ⟨_, ⟨.bare t hi (by simp [Lacks])⟩⟩
      | opening :: ts =>
        by_cases ho : opening.kind = "lparen"
        · exact attempted_call hi ho shorter
        · exact ⟨_, ⟨.bare t hi (by simpa [Lacks] using ho)⟩⟩
    · exact ⟨_, ⟨.baseNone (by simpa [Lacks] using hn) (by simpa [Lacks] using ho)
        (by simpa [Lacks] using hi)⟩⟩

theorem attempted_unsigned {ts : List Token} (h : Lacks IsSign ts)
    (shorter : ShorterAttempted ts) : Attempted (.phrase .factor) ts := by
  obtain ⟨o, ⟨b⟩⟩ := attempted_base shorter
  match o, b with
  | none, b => exact ⟨_, ⟨.factorNone h b⟩⟩
  | some (v, []), b => exact ⟨_, ⟨.plain h b (by simp [Lacks])⟩⟩
  | some (v, op :: r), b =>
    by_cases hop : IsPower op
    · obtain ⟨o, ⟨exponent⟩⟩ := shorter (.phrase .base) r (by
        have := b.length_lt
        rw [List.length_cons] at this
        omega)
      match o, exponent with
      | none, exponent => exact ⟨_, ⟨.powerNone h b hop exponent⟩⟩
      | some (w, r'), exponent => exact ⟨_, ⟨.power h op b hop exponent⟩⟩
    · exact ⟨_, ⟨.plain h b (by simpa [Lacks] using hop)⟩⟩

theorem attempted_factor {ts : List Token} (shorter : ShorterAttempted ts) :
    Attempted (.phrase .factor) ts := by
  cases ts with
  | nil => exact attempted_unsigned (by simp [Lacks]) shorter
  | cons op ts =>
    by_cases h : IsSign op
    · obtain ⟨o, ⟨arg⟩⟩ := shorter (.phrase .factor) ts (by simp)
      match o, arg with
      | none, arg => exact ⟨_, ⟨.signNone h arg⟩⟩
      | some (v, r), arg => exact ⟨_, ⟨.sign op h arg⟩⟩
    · exact attempted_unsigned (by simpa [Lacks] using h) shorter

theorem attempted_chain {c : Chain} {ts : List Token}
    (operand : Attempted (.phrase c.operand) ts) (shorter : ShorterAttempted ts) :
    Attempted (.phrase (.chain c)) ts := by
  obtain ⟨o, ⟨first⟩⟩ := operand
  match o, first with
  | none, first => exact ⟨_, ⟨.chainNone first⟩⟩
  | some (v, r), first =>
    obtain ⟨o, ⟨links⟩⟩ := shorter (.series (.links c)) r first.length_lt
    match o, links with
    | some (vs, r'), links => exact ⟨_, ⟨.chain first links⟩⟩

theorem attempted_of_shorter {ts : List Token} (shorter : ShorterAttempted ts) (s : Symbol) :
    Attempted s ts := by
  have factor : Attempted (.phrase .factor) ts := attempted_factor shorter
  have term : Attempted (.phrase .term) ts := attempted_chain factor shorter
  match s with
  | .phrase .base => exact attempted_base shorter
  | .phrase .factor => exact factor
  | .phrase .term => exact term
  | .phrase .expression => exact attempted_chain term shorter
  | .series s => exact attempted_series shorter

/-- Every symbol is attempted on every row. -/
theorem exists_attempt (s : Symbol) (ts : List Token) : ∃ o, Nonempty (Attempt s ts o) := by
  -- by the length of the row: what is nested comes after a token, and so in a shorter row
  induction hn : ts.length using Nat.strongRecOn generalizing s ts with
  | ind n ih =>
    subst hn
    exact attempted_of_shorter (fun s r hr => ih r.length hr s r rfl) s

end Reckoner.Grammar
