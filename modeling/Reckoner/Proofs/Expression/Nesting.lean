import Reckoner.Proofs.Expression.Derivation
import Reckoner.Token.Nesting

/-!
The pass over a row of tokens that counts nesting, on rows that are derived. It stands before
an operand or after one, as the grammar does, and the depth it finds is the largest height
of a node: the parentheses that are open there, and the place of a sign among its signs.

* §1 `Nesting.scan` — the pass; the largest nesting only grows.
* §2 `Nesting.Before`, `Nesting.After` — places before and after an operand.
* §3 `Derivation.after_scan` — the place after a tree.
* §4 `Derivation.heights`, `Derivation.max_heights` — the depth of a tree, and the rows that
  are refused for it.
-/

namespace Reckoner

/-! ## §1 The pass -/

namespace Nesting

/-- The place after some more tokens. -/
def scan (s : Nesting) (ts : List Token) : Nesting := ts.foldl step s

@[simp] theorem scan_nil (s : Nesting) : s.scan [] = s := rfl

@[simp] theorem scan_cons (s : Nesting) (t : Token) (ts : List Token) :
    s.scan (t :: ts) = (s.step t).scan ts := rfl

@[simp] theorem scan_append (s : Nesting) (ts us : List Token) :
    s.scan (ts ++ us) = (s.scan ts).scan us :=
  List.foldl_append

/-- A step keeps the largest nesting and counts the new one. -/
theorem deepest_step (s : Nesting) (t : Token) :
    (s.step t).deepest = max s.deepest ((s.step t).depth + (s.step t).signs) := by
  have hmove : (s.move t).deepest = s.deepest := by
    unfold move
    split
    · rfl
    · split
      · rfl
      · split <;> rfl
  show max (s.move t).deepest _ = _
  rw [hmove]
  rfl

theorem deepest_le_scan (s : Nesting) (ts : List Token) : s.deepest ≤ (s.scan ts).deepest := by
  induction ts generalizing s with
  | nil => exact Nat.le_refl _
  | cons t ts ih =>
    rw [scan_cons]
    exact Nat.le_trans (deepest_step s t ▸ Nat.le_max_left _ _) (ih _)

/-! ## §2 Places -/

/-- A place before an operand, inside `n` parentheses and after `k` signs of the operand. -/
structure Before (s : Nesting) (n k : Nat) : Prop where
  depth : s.depth = n
  signs : s.signs = k
  expects : s.expectsOperand = true
  le : n + k ≤ s.deepest

/-- A place after an operand, inside `n` parentheses. -/
structure After (s : Nesting) (n : Nat) : Prop where
  depth : s.depth = n
  signs : s.signs = 0
  expects : s.expectsOperand = false
  le : n ≤ s.deepest

theorem before_initial : initial.Before 0 0 := ⟨rfl, rfl, rfl, Nat.le_refl _⟩

variable {s : Nesting} {t : Token} {n k : Nat}

theorem before_step (hdepth : (s.step t).depth = n) (hsigns : (s.step t).signs = k)
    (hexpects : (s.step t).expectsOperand = true) :
    (s.step t).Before n k ∧ (s.step t).deepest = max s.deepest (n + k) := by
  have hdeepest : (s.step t).deepest = max s.deepest (n + k) := by
    rw [deepest_step, hdepth, hsigns]
  exact ⟨⟨hdepth, hsigns, hexpects, hdeepest ▸ Nat.le_max_right _ _⟩, hdeepest⟩

theorem after_step (hdepth : (s.step t).depth = n) (hsigns : (s.step t).signs = 0)
    (hexpects : (s.step t).expectsOperand = false) :
    (s.step t).After n ∧ (s.step t).deepest = max s.deepest n := by
  have hdeepest : (s.step t).deepest = max s.deepest n := by
    rw [deepest_step, hdepth, hsigns, Nat.add_zero]
  exact ⟨⟨hdepth, hsigns, hexpects, hdeepest ▸ Nat.le_max_right _ _⟩, hdeepest⟩

/-- An operand of one token. -/
theorem Before.atom (h : s.Before n k) (ht : t.kind = "number" ∨ t.kind = "identifier") :
    (s.step t).After n ∧ (s.step t).deepest = max s.deepest n := by
  rcases ht with ht | ht <;> exact after_step (by simp [step, move, ht, h.depth])
    (by simp [step, move, ht]) (by simp [step, move, ht])

/-- One more sign. -/
theorem Before.sign (h : s.Before n k) (ht : Grammar.IsSign t) :
    (s.step t).Before n (k + 1) ∧ (s.step t).deepest = max s.deepest (n + (k + 1)) := by
  obtain ⟨hk, htext⟩ := ht
  have htext : t.text = "+" ∨ t.text = "-" := by simpa using htext
  exact before_step (by simp [step, move, hk, h.depth])
    (by simp [step, move, hk, h.signs, h.expects, htext]) (by simp [step, move, hk])

/-- A binary operator. -/
theorem After.operator (h : s.After n) (ht : t.kind = "operator") :
    (s.step t).Before n 0 ∧ (s.step t).deepest = max s.deepest (n + 0) :=
  before_step (by simp [step, move, ht, h.depth]) (by simp [step, move, ht, h.expects])
    (by simp [step, move, ht])

theorem After.comma (h : s.After n) (ht : t.kind = "comma") :
    (s.step t).Before n 0 ∧ (s.step t).deepest = max s.deepest (n + 0) :=
  before_step (by simp [step, move, ht, h.depth]) (by simp [step, move, ht])
    (by simp [step, move, ht])

/-- An opening parenthesis, wherever it stands. -/
theorem opening_step (h : s.depth = n) (ht : t.kind = "lparen") :
    (s.step t).Before (n + 1) 0 ∧ (s.step t).deepest = max s.deepest (n + 1 + 0) :=
  before_step (by simp [step, move, ht, h]) (by simp [step, move, ht]) (by simp [step, move, ht])

theorem After.closing (h : s.After (n + 1)) (ht : t.kind = "rparen") :
    (s.step t).After n ∧ (s.step t).deepest = max s.deepest n :=
  after_step (by simp [step, move, ht, h.depth]) (by simp [step, move, ht, h.signs])
    (by simp [step, move, ht])

end Nesting

namespace Grammar

/-! ## §3 The place after a tree -/

/-- Where the pass stands before a symbol. The arguments of a call are inside its
parentheses, and so are the commas between them. -/
def Symbol.Starts : Symbol → (s : Nesting) → (n k : Nat) → Prop
  | .phrase _, s, n, k => s.Before n k
  | .series _, s, n, _ => s.After n

/-- A separator comes after an operand and before one. -/
theorem Series.Separates.step {r : Series} {t : Token} (ht : r.Separates t) {s : Nesting}
    {n : Nat} (h : s.After n) :
    (s.step t).Before n 0 ∧ (s.step t).deepest = max s.deepest (n + 0) := by
  cases r with
  | links c => exact h.operator ht.1
  | arguments => exact h.comma ht

/-- After a tree the pass stands after an operand, inside as many parentheses as before. -/
theorem Derivation.after_scan {y : Symbol} (d : Derivation y) :
    ∀ {s : Nesting} {n k : Nat}, y.Starts s n k → (s.scan d.tokens).After n := by
  induction d with
  | chain first links ih ihs =>
    intro s n k hs
    rw [tokens, Nesting.scan_append]
    exact ihs (k := 0) (ih hs)
  | sign op hop arg ih =>
    intro s n k hs
    exact ih (hs.sign hop).1
  | plain b ih => exact ih
  | power b op hop exponent ih ihe =>
    intro s n k hs
    rw [tokens, Nesting.scan_append]
    exact ihe ((ih hs).operator hop.1).1
  | number t ht => exact fun hs => (hs.atom (.inl ht)).1
  | group opening ho inner closing hc ih =>
    intro s n k hs
    rw [tokens, Nesting.scan_cons, Nesting.scan_append]
    exact ((ih (Nesting.opening_step hs.depth ho).1).closing hc).1
  | call name hn opening ho first others closing hc ih ihs =>
    intro s n k hs
    rw [tokens, Nesting.scan_cons, Nesting.scan_cons, Nesting.scan_append, Nesting.scan_append]
    have hname := (hs.atom (.inr hn)).1
    exact ((ihs (k := 0) (ih (Nesting.opening_step hname.depth ho).1)).closing hc).1
  | identifier name hn => exact fun hs => (hs.atom (.inr hn)).1
  | done => exact fun hs => hs
  | link sep hsep item rest ih ihs =>
    intro s n k hs
    rw [tokens, Nesting.scan_cons, Nesting.scan_append]
    exact ihs (k := 0) (ih (hsep.step hs).1)

/-! ## §4 The depth of a tree -/

/-- The heights of the nodes of a tree inside `n` parentheses and after `k` signs: a group
or a call counts itself, and a sign its place among the signs in a row. -/
def Derivation.heights : {y : Symbol} → Derivation y → (n k : Nat) → List Nat
  | _, chain first links, n, k => first.heights n k ++ links.heights n k
  | _, sign _ _ arg, n, k => (n + (k + 1)) :: arg.heights n (k + 1)
  | _, plain b, n, k => b.heights n k
  | _, power b _ _ exponent, n, k => b.heights n k ++ exponent.heights n 0
  | _, number _ _, n, _ => [n]
  | _, group _ _ inner _ _, n, _ => (n + 1) :: inner.heights (n + 1) 0
  | _, call _ _ _ _ first others _ _, n, _ =>
      (n + 1) :: (first.heights (n + 1) 0 ++ others.heights (n + 1) 0)
  | _, identifier _ _, n, _ => [n]
  | _, done, _, _ => []
  | _, link _ _ item rest, n, _ => item.heights n 0 ++ rest.heights n 0

/-- The pass finds the largest height. -/
theorem Derivation.deepest_scan {y : Symbol} (d : Derivation y) :
    ∀ {s : Nesting} {n k : Nat}, y.Starts s n k →
      (s.scan d.tokens).deepest = (d.heights n k).foldl max s.deepest := by
  induction d with
  | chain first links ih ihs =>
    intro s n k hs
    rw [tokens, Nesting.scan_append, heights, List.foldl_append, ← ih hs]
    exact ihs (first.after_scan hs)
  | sign op hop arg ih =>
    intro s n k hs
    obtain ⟨hbefore, hdeepest⟩ := hs.sign hop
    rw [tokens, Nesting.scan_cons, heights, List.foldl_cons, ← hdeepest]
    exact ih hbefore
  | plain b ih => exact ih
  | power b op hop exponent ih ihe =>
    intro s n k hs
    have hafter := b.after_scan hs
    obtain ⟨hbefore, hdeepest⟩ := hafter.operator hop.1
    -- the operator stands no higher than the operand before it
    rw [tokens, Nesting.scan_append, Nesting.scan_cons, heights, List.foldl_append, ← ih hs,
      ihe hbefore, hdeepest, Nat.add_zero, Nat.max_eq_left hafter.le]
  | number t ht => exact fun hs => (hs.atom (.inl ht)).2
  | group opening ho inner closing hc ih =>
    intro s n k hs
    obtain ⟨hbefore, hdeepest⟩ := Nesting.opening_step hs.depth ho
    have hafter := inner.after_scan hbefore
    have hle := hafter.le
    rw [tokens, Nesting.scan_cons, Nesting.scan_append, Nesting.scan_cons, Nesting.scan_nil,
      (hafter.closing hc).2, Nat.max_eq_left (by omega), ih hbefore, hdeepest]
    rfl
  | call name hn opening ho first others closing hc ih ihs =>
    intro s n k hs
    obtain ⟨hname, hdeepest⟩ := hs.atom (.inr hn)
    obtain ⟨hbefore, hdeepest'⟩ := Nesting.opening_step hname.depth ho
    have hafter := others.after_scan (k := 0) (first.after_scan hbefore)
    have hle := hafter.le
    -- the name stands lower than its parentheses, and the closing one lower than the arguments
    have hsame : max (max s.deepest n) (n + 1 + 0) = max s.deepest (n + 1) := by omega
    rw [tokens, Nesting.scan_cons, Nesting.scan_cons, Nesting.scan_append, Nesting.scan_append,
      Nesting.scan_cons, Nesting.scan_nil, (hafter.closing hc).2, Nat.max_eq_left (by omega),
      ihs (k := 0) (first.after_scan hbefore), ih hbefore, hdeepest', hdeepest, hsame, heights,
      List.foldl_cons, List.foldl_append]
  | identifier name hn => exact fun hs => (hs.atom (.inr hn)).2
  | done => exact fun _ => rfl
  | link sep hsep item rest ih ihs =>
    intro s n k hs
    obtain ⟨hbefore, hdeepest⟩ := hsep.step hs
    rw [tokens, Nesting.scan_cons, Nesting.scan_append, heights, List.foldl_append,
      ihs (k := 0) (item.after_scan hbefore), ih hbefore, hdeepest, Nat.add_zero,
      Nat.max_eq_left hs.le]

/-- A phrase has a node. -/
theorem Derivation.heights_ne_nil {y : Symbol} (d : Derivation y) :
    ∀ p, y = .phrase p → ∀ n k, d.heights n k ≠ [] := by
  induction d <;> simp_all [heights]

/-- The nesting depth of a derived row is the largest height in its tree. -/
theorem Derivation.max_heights (d : Derivation (.phrase .expression)) :
    (d.heights 0 0).max? = some (nestingDepth d.tokens) := by
  have hdeepest : nestingDepth d.tokens = (d.heights 0 0).foldl max 0 :=
    d.deepest_scan Nesting.before_initial
  obtain ⟨x, xs, hheights⟩ := List.exists_cons_of_ne_nil (d.heights_ne_nil _ rfl 0 0)
  rw [hdeepest, hheights, List.max?_cons', List.foldl_cons, Nat.zero_max]

/-- A derived row is refused if a node of its tree is higher than the limit. -/
theorem Derivation.checkNesting_eq_error (d : Derivation (.phrase .expression)) {limit : Int}
    {e : Error} : checkNesting limit d.tokens = .error e ↔
      (∃ height ∈ d.heights 0 0, limit < height) ∧ e = .tooDeep (nestingDepth d.tokens) limit := by
  obtain ⟨hmem, hle⟩ := List.max?_eq_some_iff.mp d.max_heights
  have hlimit : (∃ height ∈ d.heights 0 0, limit < height) ↔ limit < nestingDepth d.tokens := by
    constructor
    · rintro ⟨height, hheight, hlt⟩
      have := hle height hheight
      omega
    · exact fun hlt => ⟨_, hmem, hlt⟩
  rw [hlimit, checkNesting]
  by_cases hlt : limit < nestingDepth d.tokens
  · simp [hlt, eq_comm]
  · simp [hlt]

end Grammar

end Reckoner
