import Reckoner.Proofs.Expression.Attempt

/-!
Attempts find the longest derivation, and derivations are unique. Where the tree `d` derives
the beginning of a row, an attempt for the same symbol comes to `d` itself or to a tree that
goes on; and a tree can only go on with a token that extends its symbol, which is never a
token that the rules put after the symbol.

* §1 `Derivation.Grows` — a tree that goes on after another one's end.
* §2 `Greedy` — outcomes that find at least what is derived.
* §3 to §5 the kinds of attempts are greedy, if their parts are.
* §6 `Attempt.greedy`, and from it `Derivation.eq_of_tokens_eq`, `Attempt.of_tokens` and
  `Attempt.longest`.
-/

namespace Reckoner.Grammar

/-! ## §1 Longer trees -/

/-- A tree derives what another one does and goes on. -/
def Derivation.Grows {s : Symbol} (d d' : Derivation s) : Prop :=
  ∃ x w, s.Extends x ∧ d'.tokens = d.tokens ++ x :: w

namespace Derivation.Grows

theorem extends_head {s : Symbol} {d d' : Derivation s} (hg : d.Grows d') {y : Token}
    {rest rest' : List Token} (h : d.tokens ++ y :: rest = d'.tokens ++ rest') :
    s.Extends y := by
  obtain ⟨x, w, hx, hd'⟩ := hg
  rw [hd', List.append_assoc, List.append_cancel_left_eq, List.cons_append] at h
  obtain ⟨rfl, -⟩ := List.cons.inj h
  exact hx

/-- No closing parenthesis stands where an expression goes on. -/
theorem not_closing {d d' : Derivation (.phrase .expression)} (hg : d.Grows d') {closing : Token}
    (hc : closing.kind = "rparen") {rest rest' : List Token} :
    d.tokens ++ closing :: rest ≠ d'.tokens ++ rest' := by
  intro h
  have hx : Phrase.expression.Extends closing := hg.extends_head h
  simp [Phrase.Extends, Token.IsOperator, hc] at hx

theorem arguments_not_closing {d d' : Derivation (.series .arguments)} (hg : d.Grows d')
    {closing : Token} (hc : closing.kind = "rparen") {rest rest' : List Token} :
    d.tokens ++ closing :: rest ≠ d'.tokens ++ rest' := by
  intro h
  have hx : (Symbol.series .arguments).Extends closing := hg.extends_head h
  simp [Symbol.Extends, Series.Separates, Series.item, Phrase.Extends, Token.IsOperator, hc] at hx

/-- Where an item goes on, no separator follows it. -/
theorem series_done {s : Series} {d d' : Derivation (.phrase s.item)} (hg : d.Grows d')
    {links : Derivation (.series s)} {rest rest' : List Token}
    (h : d.tokens ++ (links.tokens ++ rest) = d'.tokens ++ rest') : links = .done := by
  cases links with
  | done => rfl
  | link sep hs item more => exact absurd (hg.extends_head h) hs.not_extends_item

theorem chain_first {c : Chain} {v v' : Derivation (.phrase c.operand)} (hg : v.Grows v')
    (vs : Derivation (.series (.links c))) : (chain v done).Grows (chain v' vs) := by
  obtain ⟨x, w, hx, hv'⟩ := hg
  exact ⟨x, w ++ vs.tokens, extends_chain.mpr (.inr hx), by simp [tokens, hv']⟩

theorem chain_links {c : Chain} {vs vs' : Derivation (.series (.links c))} (hg : vs.Grows vs')
    (v : Derivation (.phrase c.operand)) : (chain v vs).Grows (chain v vs') := by
  obtain ⟨x, w, hx, hvs'⟩ := hg
  exact ⟨x, w, extends_chain.mpr hx, by simp [tokens, hvs']⟩

theorem done_link {s : Series} {sep : Token} (hs : s.Separates sep)
    (v : Derivation (.phrase s.item)) (vs : Derivation (.series s)) :
    done.Grows (link sep hs v vs) :=
  ⟨sep, v.tokens ++ vs.tokens, .inl hs, rfl⟩

theorem link_item {s : Series} {v v' : Derivation (.phrase s.item)} (hg : v.Grows v')
    {sep : Token} (hs : s.Separates sep) (vs : Derivation (.series s)) :
    (link sep hs v done).Grows (link sep hs v' vs) := by
  obtain ⟨x, w, hx, hv'⟩ := hg
  exact ⟨x, w ++ vs.tokens, .inr hx, by simp [tokens, hv']⟩

theorem link_rest {s : Series} {vs vs' : Derivation (.series s)} (hg : vs.Grows vs')
    {sep : Token} (hs : s.Separates sep) (v : Derivation (.phrase s.item)) :
    (link sep hs v vs).Grows (link sep hs v vs') := by
  obtain ⟨x, w, hx, hvs'⟩ := hg
  exact ⟨x, w, hx, by simp [tokens, hvs']⟩

theorem sign {v v' : Derivation (.phrase .factor)} (hg : v.Grows v') {op : Token}
    (hop : IsSign op) : (Derivation.sign op hop v).Grows (.sign op hop v') := by
  obtain ⟨x, w, hx, hv'⟩ := hg
  exact ⟨x, w, hx, by simp [tokens, hv']⟩

theorem plain {v v' : Derivation (.phrase .base)} (hg : v.Grows v') :
    (Derivation.plain v).Grows (.plain v') := by
  obtain ⟨x, w, hx, hv'⟩ := hg
  exact ⟨x, w, .inr hx, hv'⟩

theorem plain_power_base {v v' : Derivation (.phrase .base)} (hg : v.Grows v') {op : Token}
    (hop : IsPower op) (e : Derivation (.phrase .base)) :
    (Derivation.plain v).Grows (.power v' op hop e) := by
  obtain ⟨x, w, hx, hv'⟩ := hg
  exact ⟨x, w ++ op :: e.tokens, .inr hx, by simp [tokens, hv']⟩

theorem plain_power (v : Derivation (.phrase .base)) {op : Token} (hop : IsPower op)
    (e : Derivation (.phrase .base)) : (Derivation.plain v).Grows (.power v op hop e) :=
  ⟨op, e.tokens, .inl hop, rfl⟩

theorem power {e e' : Derivation (.phrase .base)} (hg : e.Grows e') (v : Derivation (.phrase .base))
    {op : Token} (hop : IsPower op) :
    (Derivation.power v op hop e).Grows (.power v op hop e') := by
  obtain ⟨x, w, hx, he'⟩ := hg
  exact ⟨x, w, .inr hx, by simp [tokens, he']⟩

theorem identifier_call {name opening closing : Token} (hn : name.kind = "identifier")
    (ho : opening.kind = "lparen") (hc : closing.kind = "rparen")
    (v : Derivation (.phrase .expression)) (vs : Derivation (.series .arguments)) :
    (Derivation.identifier name hn).Grows (.call name hn opening ho v vs closing hc) :=
  ⟨opening, v.tokens ++ (vs.tokens ++ [closing]), ho, rfl⟩

/-- A power is no longer base. -/
theorem not_power {d d' : Derivation (.phrase .base)} (hg : d.Grows d') {op : Token}
    (hop : IsPower op) {rest rest' : List Token} :
    d.tokens ++ op :: rest ≠ d'.tokens ++ rest' := by
  intro h
  have hx : Phrase.base.Extends op := hg.extends_head h
  simp [Phrase.Extends, hop.1] at hx

end Derivation.Grows

/-! ## §2 Greed -/

/-- Where the row starts with a derived one, the outcome is its tree, or a longer one. -/
def Greedy {s : Symbol} (ts : List Token) (o : Outcome s) : Prop :=
  ∀ (d : Derivation s) (r : List Token), ts = d.tokens ++ r →
    ∃ found ∈ o, found = (d, r) ∨ d.Grows found.1

theorem Greedy.not_append {s : Symbol} {ts : List Token} (hg : Greedy (s := s) ts none)
    (d : Derivation s) (r : List Token) : ts ≠ d.tokens ++ r := by
  intro h
  obtain ⟨found, hfound, -⟩ := hg d r h
  cases hfound

theorem Greedy.cases {s : Symbol} {ts r₀ : List Token} {v : Derivation s}
    (hg : Greedy ts (some (v, r₀))) {d : Derivation s} {r : List Token}
    (h : ts = d.tokens ++ r) : (v = d ∧ r₀ = r) ∨ d.Grows v := by
  obtain ⟨found, hfound, hcase⟩ := hg d r h
  cases hfound
  exact hcase.imp_left Prod.mk.inj

theorem greedy_none {s : Symbol} {ts : List Token}
    (h : ∀ (d : Derivation s) (r : List Token), ts ≠ d.tokens ++ r) :
    Greedy (s := s) ts none := fun d r hts => absurd hts (h d r)

theorem greedy_some {s : Symbol} {ts r₀ : List Token} {v : Derivation s}
    (h : ∀ (d : Derivation s) (r : List Token), ts = d.tokens ++ r →
      (v = d ∧ r₀ = r) ∨ d.Grows v) : Greedy ts (some (v, r₀)) :=
  fun d r hts => ⟨_, rfl, (h d r hts).imp_left fun ⟨hd, hr⟩ => by rw [hd, hr]⟩

/-! ## §3 Chains and series -/

/-- An item before the rest of its series is read as it is, or goes on and is the last. -/
theorem Greedy.item_cases {s : Series} {ts r₀ r : List Token} {v d : Derivation (.phrase s.item)}
    (hg : Greedy ts (some (v, r₀))) (happend : ts = v.tokens ++ r₀)
    {ds : Derivation (.series s)} (h : ts = d.tokens ++ (ds.tokens ++ r)) :
    (v = d ∧ r₀ = ds.tokens ++ r) ∨ (ds = .done ∧ d.Grows v) := by
  rcases hg.cases h with hsame | hgrows
  · exact .inl hsame
  · exact .inr ⟨hgrows.series_done (h.symm.trans happend), hgrows⟩

theorem Greedy.chainNone {c : Chain} {ts : List Token}
    (hg : Greedy (s := .phrase c.operand) ts none) :
    Greedy (s := .phrase (.chain c)) ts none := by
  refine greedy_none fun d r h => ?_
  cases d with
  | chain d ds => exact hg.not_append d (ds.tokens ++ r) (by simpa [Derivation.tokens] using h)

theorem Greedy.chain {c : Chain} {ts r₀ r' : List Token} {v : Derivation (.phrase c.operand)}
    {vs : Derivation (.series (.links c))} (hg : Greedy ts (some (v, r₀)))
    (happend : ts = v.tokens ++ r₀) (hlinks : Greedy r₀ (some (vs, r'))) :
    Greedy ts (some (Derivation.chain v vs, r')) := by
  refine greedy_some fun d r h => ?_
  cases d with
  | chain d ds =>
    rw [Derivation.tokens, List.append_assoc] at h
    rcases hg.item_cases (s := .links c) happend h with ⟨rfl, hr₀⟩ | ⟨rfl, hgrows⟩
    · rcases hlinks.cases hr₀ with ⟨rfl, rfl⟩ | hgrows
      · exact .inl ⟨rfl, rfl⟩
      · exact .inr (hgrows.chain_links v)
    · exact .inr (hgrows.chain_first vs)

theorem greedy_stop {s : Series} {ts : List Token} (hlacks : Lacks s.Separates ts) :
    Greedy ts (some (Derivation.done (s := s), ts)) := by
  refine greedy_some fun d r h => ?_
  cases d with
  | done => exact .inl ⟨rfl, h⟩
  | link sep hs d ds => exact absurd hs (hlacks sep (by simp [h, Derivation.tokens]))

theorem Greedy.breakOff {s : Series} {sep : Token} {ts : List Token}
    (hg : Greedy (s := .phrase s.item) ts none) :
    Greedy (sep :: ts) (some (Derivation.done (s := s), sep :: ts)) := by
  refine greedy_some fun d r h => ?_
  cases d with
  | done => exact .inl ⟨rfl, h⟩
  | link sep' hs d ds =>
    obtain ⟨-, hts⟩ := List.cons.inj h
    exact absurd (by simpa using hts) (hg.not_append d (ds.tokens ++ r))

theorem Greedy.link {s : Series} {sep : Token} {ts r₀ r' : List Token}
    {v : Derivation (.phrase s.item)} {vs : Derivation (.series s)} (hs : s.Separates sep)
    (hg : Greedy ts (some (v, r₀))) (happend : ts = v.tokens ++ r₀)
    (hrest : Greedy r₀ (some (vs, r'))) :
    Greedy (sep :: ts) (some (Derivation.link sep hs v vs, r')) := by
  refine greedy_some fun d r h => ?_
  cases d with
  | done => exact .inr (.done_link hs v vs)
  | link sep' hs' d ds =>
    rw [Derivation.tokens, List.cons_append, List.append_assoc] at h
    obtain ⟨rfl, hts⟩ := List.cons.inj h
    rcases hg.item_cases happend hts with ⟨rfl, hr₀⟩ | ⟨rfl, hgrows⟩
    · rcases hrest.cases hr₀ with ⟨rfl, rfl⟩ | hgrows
      · exact .inl ⟨rfl, rfl⟩
      · exact .inr (hgrows.link_rest hs v)
    · exact .inr (hgrows.link_item hs vs)

/-! ## §4 Factors -/

/-- The first token of a base. -/
theorem base_head {d : Derivation (.phrase .base)} {t : Token} {r ts : List Token}
    (h : t :: ts = d.tokens ++ r) :
    t.kind = "number" ∨ t.kind = "lparen" ∨ t.kind = "identifier" := by
  cases d <;> simp_all [Derivation.tokens]

theorem base_ne_operator {symbols : List String} {t : Token} (ht : t.IsOperator symbols)
    {d : Derivation (.phrase .base)} {r ts : List Token} : t :: ts ≠ d.tokens ++ r := by
  intro h
  rcases base_head h with hk | hk | hk <;> simp [ht.1] at hk

/-- A factor after a sign is a signed one. -/
theorem factor_of_sign {op : Token} (hop : IsSign op) {d : Derivation (.phrase .factor)}
    {r ts : List Token} (h : op :: ts = d.tokens ++ r) :
    ∃ arg, d = .sign op hop arg ∧ ts = arg.tokens ++ r := by
  cases d with
  | sign op' hop' arg =>
    obtain ⟨rfl, hts⟩ := List.cons.inj h
    exact ⟨arg, rfl, hts⟩
  | plain b => exact absurd h (base_ne_operator hop)
  | power b op' hop' e =>
    rw [Derivation.tokens, List.append_assoc] at h
    exact absurd h (base_ne_operator hop)

/-- A factor that does not start with a sign is a base, alone or in a power. -/
theorem factor_unsigned {ts : List Token} (hlacks : Lacks IsSign ts)
    {d : Derivation (.phrase .factor)} {r : List Token} (h : ts = d.tokens ++ r) :
    (∃ b, d = .plain b ∧ ts = b.tokens ++ r) ∨
      ∃ b op hop e, d = .power b op hop e ∧ ts = b.tokens ++ op :: (e.tokens ++ r) := by
  cases d with
  | sign op hop arg => exact absurd hop (hlacks op (by simp [h, Derivation.tokens]))
  | plain b => exact .inl ⟨b, rfl, h⟩
  | power b op hop e => exact .inr ⟨b, op, hop, e, rfl, by simpa [Derivation.tokens] using h⟩

theorem Greedy.signNone {op : Token} {ts : List Token} (hop : IsSign op)
    (hg : Greedy (s := .phrase .factor) ts none) :
    Greedy (s := .phrase .factor) (op :: ts) none := by
  refine greedy_none fun d r h => ?_
  obtain ⟨arg, -, hts⟩ := factor_of_sign hop h
  exact hg.not_append arg r hts

theorem Greedy.sign {op : Token} {ts r₀ : List Token} {v : Derivation (.phrase .factor)}
    (hop : IsSign op) (hg : Greedy ts (some (v, r₀))) :
    Greedy (op :: ts) (some (Derivation.sign op hop v, r₀)) := by
  refine greedy_some fun d r h => ?_
  obtain ⟨arg, rfl, hts⟩ := factor_of_sign hop h
  rcases hg.cases hts with ⟨rfl, rfl⟩ | hgrows
  · exact .inl ⟨rfl, rfl⟩
  · exact .inr (hgrows.sign hop)

theorem Greedy.factorNone {ts : List Token} (hlacks : Lacks IsSign ts)
    (hg : Greedy (s := .phrase .base) ts none) : Greedy (s := .phrase .factor) ts none := by
  refine greedy_none fun d r h => ?_
  rcases factor_unsigned hlacks h with ⟨b, -, hts⟩ | ⟨b, op, hop, e, -, hts⟩
  · exact hg.not_append b r hts
  · exact hg.not_append b (op :: (e.tokens ++ r)) hts

/-- The base of a power is read as it is. -/
theorem Greedy.base_of_power {ts r₀ r : List Token} {v b : Derivation (.phrase .base)}
    (hg : Greedy ts (some (v, r₀))) (happend : ts = v.tokens ++ r₀) {op : Token}
    (hop : IsPower op) (h : ts = b.tokens ++ op :: r) : v = b ∧ r₀ = op :: r := by
  rcases hg.cases h with hsame | hgrows
  · exact hsame
  · exact absurd (h.symm.trans happend) (hgrows.not_power hop)

theorem Greedy.plain {ts r₀ : List Token} {v : Derivation (.phrase .base)}
    (hlacks : Lacks IsSign ts) (hg : Greedy ts (some (v, r₀))) (happend : ts = v.tokens ++ r₀)
    (hr₀ : Lacks IsPower r₀) : Greedy ts (some (Derivation.plain v, r₀)) := by
  refine greedy_some fun d r h => ?_
  rcases factor_unsigned hlacks h with ⟨b, rfl, hts⟩ | ⟨b, op, hop, e, rfl, hts⟩
  · exact (hg.cases hts).imp (fun ⟨hv, hr⟩ => ⟨hv ▸ rfl, hr⟩) (·.plain)
  · obtain ⟨-, rfl⟩ := hg.base_of_power happend hop hts
    exact absurd hop (hr₀ op rfl)

theorem Greedy.powerNone {op : Token} {ts r₀ : List Token} {v : Derivation (.phrase .base)}
    (hlacks : Lacks IsSign ts) (hg : Greedy ts (some (v, op :: r₀)))
    (happend : ts = v.tokens ++ op :: r₀) (hexponent : Greedy (s := .phrase .base) r₀ none) :
    Greedy ts (some (Derivation.plain v, op :: r₀)) := by
  refine greedy_some fun d r h => ?_
  rcases factor_unsigned hlacks h with ⟨b, rfl, hts⟩ | ⟨b, op', hop', e, rfl, hts⟩
  · exact (hg.cases hts).imp (fun ⟨hv, hr⟩ => ⟨hv ▸ rfl, hr⟩) (·.plain)
  · obtain ⟨-, hr₀⟩ := hg.base_of_power happend hop' hts
    exact absurd (List.cons.inj hr₀).2 (hexponent.not_append e r)

theorem Greedy.power {op : Token} {ts r₀ r' : List Token} {v w : Derivation (.phrase .base)}
    (hlacks : Lacks IsSign ts) (hg : Greedy ts (some (v, op :: r₀)))
    (happend : ts = v.tokens ++ op :: r₀) (hop : IsPower op)
    (hexponent : Greedy r₀ (some (w, r'))) :
    Greedy ts (some (Derivation.power v op hop w, r')) := by
  refine greedy_some fun d r h => ?_
  rcases factor_unsigned hlacks h with ⟨b, rfl, hts⟩ | ⟨b, op', hop', e, rfl, hts⟩
  · rcases hg.cases hts with ⟨rfl, -⟩ | hgrows
    · exact .inr (.plain_power v hop w)
    · exact .inr (hgrows.plain_power_base hop w)
  · obtain ⟨rfl, hr₀⟩ := hg.base_of_power happend hop' hts
    obtain ⟨rfl, he⟩ := List.cons.inj hr₀
    rcases hexponent.cases he with ⟨rfl, rfl⟩ | hgrows
    · exact .inl ⟨rfl, rfl⟩
    · exact .inr (hgrows.power v hop)

/-! ## §5 Bases -/

theorem base_of_number {t : Token} (ht : t.kind = "number") {d : Derivation (.phrase .base)}
    {r ts : List Token} (h : t :: ts = d.tokens ++ r) : d = .number t ht ∧ ts = r := by
  cases d <;> simp_all [Derivation.tokens] <;> grind

theorem base_of_opening {opening : Token} (ho : opening.kind = "lparen")
    {d : Derivation (.phrase .base)} {r ts : List Token} (h : opening :: ts = d.tokens ++ r) :
    ∃ inner closing hc, d = .group opening ho inner closing hc ∧
      ts = inner.tokens ++ closing :: r := by
  cases d with
  | group opening' ho' inner closing hc =>
    obtain ⟨rfl, hts⟩ := List.cons.inj h
    exact ⟨inner, closing, hc, rfl, by simpa using hts⟩
  | _ =>
    simp_all [Derivation.tokens]
    grind

theorem base_of_name {name : Token} (hn : name.kind = "identifier")
    {d : Derivation (.phrase .base)} {r ts : List Token} (h : name :: ts = d.tokens ++ r) :
    (d = .identifier name hn ∧ ts = r) ∨ ∃ opening ho first others closing hc,
      d = .call name hn opening ho first others closing hc ∧
        ts = opening :: (first.tokens ++ (others.tokens ++ closing :: r)) := by
  cases d with
  | identifier name' hn' =>
    obtain ⟨rfl, hts⟩ := List.cons.inj h
    exact .inl ⟨rfl, hts⟩
  | call name' hn' opening ho first others closing hc =>
    obtain ⟨rfl, hts⟩ := List.cons.inj h
    exact .inr ⟨opening, ho, first, others, closing, hc, rfl, by simpa using hts⟩
  | _ =>
    simp_all [Derivation.tokens]
    grind

/-- What stands before its closing parenthesis is read as it is. -/
theorem Greedy.inner_of_group {ts r₀ r : List Token} {v d : Derivation (.phrase .expression)}
    (hg : Greedy ts (some (v, r₀))) (happend : ts = v.tokens ++ r₀) {closing : Token}
    (hc : closing.kind = "rparen") (h : ts = d.tokens ++ closing :: r) :
    v = d ∧ r₀ = closing :: r := by
  rcases hg.cases h with hsame | hgrows
  · exact hsame
  · exact absurd (h.symm.trans happend) (hgrows.not_closing hc)

/-- Arguments before their closing parenthesis are read as they are. -/
theorem Greedy.arguments_of_call {ts r₀ r' r : List Token}
    {v d : Derivation (.phrase .expression)} {vs ds : Derivation (.series .arguments)}
    (hg : Greedy ts (some (v, r₀))) (happend : ts = v.tokens ++ r₀)
    (hothers : Greedy r₀ (some (vs, r'))) (happend' : r₀ = vs.tokens ++ r') {closing : Token}
    (hc : closing.kind = "rparen") (h : ts = d.tokens ++ (ds.tokens ++ closing :: r)) :
    v = d ∧ vs = ds ∧ r' = closing :: r := by
  rcases hg.item_cases (s := .arguments) happend h with ⟨hv, hr₀⟩ | ⟨rfl, hgrows⟩
  · rcases hothers.cases hr₀ with ⟨hvs, hr'⟩ | hgrows
    · exact ⟨hv, hvs, hr'⟩
    · exact absurd (hr₀.symm.trans happend') (hgrows.arguments_not_closing hc)
  · exact absurd (h.symm.trans happend) (hgrows.not_closing hc)

/-- A name is read as it is unless a call is read. -/
theorem greedy_name {name : Token} {ts : List Token} (hn : name.kind = "identifier")
    (h : ∀ (opening : Token) (first : Derivation (.phrase .expression))
      (others : Derivation (.series .arguments)) (closing : Token) (r : List Token),
      opening.kind = "lparen" → closing.kind = "rparen" →
      ts ≠ opening :: (first.tokens ++ (others.tokens ++ closing :: r))) :
    Greedy (name :: ts) (some (Derivation.identifier name hn, ts)) := by
  refine greedy_some fun d r hd => ?_
  rcases base_of_name hn hd with ⟨rfl, rfl⟩ | ⟨opening, ho, first, others, closing, hc, -, hts⟩
  · exact .inl ⟨rfl, rfl⟩
  · exact absurd hts (h opening first others closing r ho hc)

theorem Greedy.call {name opening closing : Token} {ts r₀ r' : List Token}
    {v : Derivation (.phrase .expression)} {vs : Derivation (.series .arguments)}
    (hn : name.kind = "identifier") (ho : opening.kind = "lparen")
    (hg : Greedy ts (some (v, r₀))) (happend : ts = v.tokens ++ r₀)
    (hothers : Greedy r₀ (some (vs, closing :: r'))) (happend' : r₀ = vs.tokens ++ closing :: r')
    (hc : closing.kind = "rparen") :
    Greedy (name :: opening :: ts)
      (some (Derivation.call name hn opening ho v vs closing hc, r')) := by
  refine greedy_some fun d r h => ?_
  rcases base_of_name hn h with ⟨rfl, -⟩ | ⟨_, _, d, ds, closing', hc', rfl, hts⟩
  · exact .inr (.identifier_call hn ho hc v vs)
  · obtain ⟨rfl, hd⟩ := List.cons.inj hts
    obtain ⟨rfl, rfl, hr⟩ := hg.arguments_of_call happend hothers happend' hc' hd
    obtain ⟨rfl, rfl⟩ := List.cons.inj hr
    exact .inl ⟨rfl, rfl⟩

/-! ## §6 Attempts -/

/-- A row that starts with a derived one is never refused, and no shorter row is read. -/
theorem Attempt.greedy {s : Symbol} {ts : List Token} {o : Outcome s} (a : Attempt s ts o) :
    Greedy ts o := by
  -- the induction is on the attempt, which fixes the first tokens, and they fix the rule of
  -- the tree that it is compared with
  induction a with
  | chainNone _ ih => exact ih.chainNone
  | chain first _ ih ihs => exact ih.chain (first.tokens_append _ rfl) ihs
  | stop hlacks => exact greedy_stop hlacks
  | breakOff _ _ ih => exact ih.breakOff
  | link _ hs item _ ih ihs => exact ih.link hs (item.tokens_append _ rfl) ihs
  | signNone hop _ ih => exact ih.signNone hop
  | sign _ hop _ ih => exact ih.sign hop
  | factorNone hlacks _ ih => exact ih.factorNone hlacks
  | plain hlacks b hr ih => exact ih.plain hlacks (b.tokens_append _ rfl) hr
  | powerNone hlacks b _ _ ih ihe => exact ih.powerNone hlacks (b.tokens_append _ rfl) ihe
  | power hlacks _ b hop _ ih ihe => exact ih.power hlacks (b.tokens_append _ rfl) hop ihe
  | number _ ht =>
    refine greedy_some fun d r h => .inl ?_
    obtain ⟨rfl, rfl⟩ := base_of_number ht h
    exact ⟨rfl, rfl⟩
  | groupNone ho _ ih =>
    refine greedy_none fun d r h => ?_
    obtain ⟨inner, closing, hc, -, hts⟩ := base_of_opening ho h
    exact ih.not_append inner (closing :: r) hts
  | groupOpen ho inner hlacks ih =>
    refine greedy_none fun d r h => ?_
    obtain ⟨d, closing, hc, -, hts⟩ := base_of_opening ho h
    obtain ⟨-, rfl⟩ := ih.inner_of_group (inner.tokens_append _ rfl) hc hts
    exact hlacks closing rfl hc
  | group ho inner hc ih =>
    refine greedy_some fun d r h => .inl ?_
    obtain ⟨d, closing, hc, rfl, hts⟩ := base_of_opening ho h
    obtain ⟨rfl, hr⟩ := ih.inner_of_group (inner.tokens_append _ rfl) hc hts
    obtain ⟨rfl, rfl⟩ := List.cons.inj hr
    exact ⟨rfl, rfl⟩
  | bare _ hn hlacks =>
    refine greedy_name hn fun opening first others closing r ho _ hts => ?_
    exact hlacks opening (by simp [hts]) ho
  | callNone _ hn ho _ ih =>
    refine greedy_name hn fun opening d ds closing r _ _ hts => ?_
    exact ih.not_append d (ds.tokens ++ closing :: r) (List.cons.inj hts).2
  | callOpen _ hn ho first others hlacks ih ihs =>
    refine greedy_name hn fun opening d ds closing r _ hc hts => ?_
    obtain ⟨-, -, rfl⟩ := ih.arguments_of_call (first.tokens_append _ rfl) ihs
      (others.tokens_append _ rfl) hc (List.cons.inj hts).2
    exact hlacks closing rfl hc
  | call _ hn ho first others hc ih ihs =>
    exact ih.call hn ho (first.tokens_append _ rfl) ihs (others.tokens_append _ rfl) hc
  | baseNone hn ho hi =>
    refine greedy_none fun d r h => ?_
    cases d <;> simp_all [Derivation.tokens, Lacks]

/-- A tree that goes on derives a longer row. -/
theorem Derivation.Grows.length_lt {s : Symbol} {d d' : Derivation s} (hg : d.Grows d') :
    d.tokens.length < d'.tokens.length := by
  obtain ⟨x, w, -, hd'⟩ := hg
  simp [hd']

/-- An attempt on a derived row reads all of it as it was derived. -/
theorem Attempt.of_tokens {s : Symbol} {d : Derivation s} {o : Outcome s}
    (a : Attempt s d.tokens o) : o = some (d, []) := by
  obtain ⟨found, hfound, hcase⟩ := a.greedy d [] (List.append_nil _).symm
  rcases hcase with rfl | hgrows
  · exact hfound
  · have happend : d.tokens = found.1.tokens ++ found.2 := a.tokens_append found hfound
    have hlt : d.tokens.length < found.1.tokens.length := hgrows.length_lt
    rw [happend, List.length_append] at hlt
    omega

/-- A row has at most one derivation. -/
theorem Derivation.eq_of_tokens_eq {s : Symbol} {d d' : Derivation s}
    (h : d.tokens = d'.tokens) : d = d' := by
  obtain ⟨o, ⟨a⟩⟩ := exists_attempt s d.tokens
  have hd : o = some (d, []) := a.of_tokens
  have hd' : o = some (d', []) := (h ▸ a).of_tokens
  rw [hd] at hd'
  exact (Prod.mk.inj (Option.some.inj hd')).1

/-- What is read is at least as long as any derived beginning of the row. -/
theorem Attempt.longest {s : Symbol} {ts r r' : List Token} {v d : Derivation s}
    (a : Attempt s ts (some (v, r))) (h : ts = d.tokens ++ r') : d.tokens <+: v.tokens := by
  rcases a.greedy.cases h with ⟨rfl, -⟩ | ⟨x, w, -, hv⟩
  · exact List.prefix_rfl
  · exact ⟨x :: w, hv.symm⟩

end Reckoner.Grammar
