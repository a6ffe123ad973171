import Mathlib.Algebra.BigOperators.Intervals
import Mathlib.Algebra.Order.BigOperators.Group.Finset
import Mathlib.Tactic.Linarith
import Reckoner.Proofs.Expression.Nesting
import Reckoner.Proofs.Expression.Productions

/-!
The activations that are on the stack of the grammar, at every moment of a run: expressions in
parentheses and in calls, and factors after a sign. The pass over the tokens bounds them on
every row: it has counted a parenthesis or a sign before the grammar enters what follows it.

* §1 `signsAt`, `Bounded` — the signs at a level of a stack.
* §2 `Moments`, `Attempt.moments` — the stacks of a run, one after the other.
* §3 `Attempt.bounded_moments` — every stack is bounded by the pass.
* §4 `nestingDepth_bounds_stacks` — runs of the grammar on all rows, and the depth of rows
  that are derived.
-/

namespace Reckoner.Grammar

/-! ## §1 Stacks -/

/-- The open parentheses and calls of a stack. -/
def openGroups (stack : List Nested) : Nat := stack.count .group

/-- The signs at a level of a stack, that many parentheses being open there. The stack
starts with what was entered last. -/
def signsAt : List Nested → Nat → Nat
  | [], _ => 0
  | .sign :: stack, level => signsAt stack level + if level = openGroups stack then 1 else 0
  | .group :: stack, level => signsAt stack level

/-- A stack within a depth: at every level, the signs and the parentheses around them. -/
def Bounded (depth : Nat) (stack : List Nested) : Prop :=
  ∀ level ≤ openGroups stack, level + signsAt stack level ≤ depth

@[simp] theorem openGroups_group (stack : List Nested) :
    openGroups (.group :: stack) = openGroups stack + 1 := by
  simp [openGroups]

@[simp] theorem openGroups_sign (stack : List Nested) :
    openGroups (.sign :: stack) = openGroups stack := by
  simp [openGroups]

/-- Nothing is above the innermost level. -/
theorem signsAt_of_openGroups_lt {stack : List Nested} {level : Nat}
    (h : openGroups stack < level) :
    signsAt stack level = 0 := by
  induction stack with
  | nil => rfl
  | cons k stack ih =>
    cases k with
    | group =>
      rw [openGroups_group] at h
      exact ih (by omega)
    | sign =>
      rw [openGroups_sign] at h
      rw [signsAt, ih h, if_neg (by omega)]

theorem bounded_nil (depth : Nat) : Bounded depth [] := by
  intro level hlevel
  simp only [openGroups, List.count_nil, Nat.le_zero] at hlevel
  simp [hlevel, signsAt]

theorem Bounded.group {depth : Nat} {stack : List Nested} (h : Bounded depth stack)
    (hdepth : openGroups stack + 1 ≤ depth) : Bounded depth (.group :: stack) := by
  intro level hlevel
  rw [openGroups_group] at hlevel
  rw [signsAt]
  rcases Nat.lt_or_ge (openGroups stack) level with hlt | hge
  · rw [signsAt_of_openGroups_lt hlt]
    omega
  · exact h level hge

theorem Bounded.sign {depth : Nat} {stack : List Nested} (h : Bounded depth stack)
    (hdepth : openGroups stack + (signsAt stack (openGroups stack) + 1) ≤ depth) :
    Bounded depth (.sign :: stack) := by
  intro level hlevel
  rw [openGroups_sign] at hlevel
  rw [signsAt]
  split
  · rename_i heq
    rwa [heq]
  · exact h level hlevel

/-- The signs of a stack, by their levels. -/
theorem sum_signsAt (stack : List Nested) {n : Nat} (hn : openGroups stack < n) :
    ∑ level ∈ Finset.range n, signsAt stack level = stack.count .sign := by
  induction stack with
  | nil => simp [signsAt]
  | cons k stack ih =>
    cases k with
    | group =>
      rw [openGroups_group] at hn
      rw [List.count_cons_of_ne (by decide), ← ih (by omega)]
      rfl
    | sign =>
      rw [openGroups_sign] at hn
      simp [signsAt, Finset.sum_add_distrib, ih hn, hn]

theorem length_eq_openGroups_add (stack : List Nested) :
    stack.length = openGroups stack + stack.count .sign := by
  induction stack with
  | nil => rfl
  | cons k stack ih => cases k <;> simp [ih] <;> omega

theorem Bounded.openGroups_le {depth : Nat} {stack : List Nested} (h : Bounded depth stack) :
    openGroups stack ≤ depth :=
  Nat.le_trans (Nat.le_add_right _ _) (h _ (Nat.le_refl _))

/-- All the parentheses and signs of a bounded stack. -/
theorem Bounded.length_le {depth : Nat} {stack : List Nested} (h : Bounded depth stack) :
    stack.length ≤ depth * (depth + 3) / 2 := by
  have hgroups : openGroups stack ≤ depth := h.openGroups_le
  -- every level up to the innermost one takes its signs and itself out of the depth
  have hsum : ∑ level ∈ Finset.range (openGroups stack + 1), (level + signsAt stack level)
      ≤ (openGroups stack + 1) * depth := by
    refine (Finset.sum_le_card_nsmul _ _ depth fun level hlevel => ?_).trans (by simp)
    exact h level (by simpa [Nat.lt_succ_iff] using hlevel)
  have hgauss := Finset.sum_range_id_mul_two (openGroups stack + 1)
  rw [Finset.sum_add_distrib, sum_signsAt stack (Nat.lt_succ_self _)] at hsum
  rw [Nat.add_sub_cancel] at hgauss
  rw [Nat.le_div_iff_mul_le (by decide), length_eq_openGroups_add]
  obtain ⟨k, rfl⟩ := Nat.exists_eq_add_of_le hgroups
  nlinarith

/-! ## §2 Moments -/

/-- The stack at a moment, and all stacks up to then. -/
structure Moments where
  stack : List Nested
  seen : List (List Nested)

/-- Before anything is entered. -/
def Moments.initial : Moments := ⟨[], [[]]⟩

variable {m : Type → Type} [Monad m] {α β γ : Type}

/-- The stack goes on with what is entered, and comes back from what is left. -/
def tracing : Watch (StateT Moments m) where
  enter k := modify fun s => ⟨k :: s.stack, s.seen ++ [k :: s.stack]⟩
  leave _ := modify fun s => ⟨s.stack.tail, s.seen ++ [s.stack.tail]⟩

end Reckoner.Grammar

namespace Reckoner

/-- A handler that leaves the stack alone. -/
def Handler.traced {m : Type → Type} [Monad m] {α : Type} (h : Handler m α) :
    Handler (StateT Grammar.Moments m) α where
  number text := StateT.lift (h.number text)
  operation name args := StateT.lift (h.operation name args)

end Reckoner

namespace Reckoner.Grammar

variable {m : Type → Type} [Monad m] {α β γ : Type}

/-- The stacks while something is done inside a nested mention: those of what is done on
the longer stack, and then the stack from before. -/
def inside (k : Nested) (moments : List Nested → List (List Nested)) (stack : List Nested) :
    List (List Nested) :=
  (k :: stack) :: (moments (k :: stack) ++ [stack])

/-- The stacks while an item of a series is read. -/
def Series.inside : Series → (List Nested → List (List Nested)) → List Nested → List (List Nested)
  | .links _ => id
  | .arguments => Grammar.inside .group

/-- The stacks of an attempt that starts with a stack. -/
def Attempt.moments : {s : Symbol} → {ts : List Token} → {o : Outcome s} → Attempt s ts o →
    List Nested → List (List Nested)
  | _, _, _, chainNone operand, stack => operand.moments stack
  | _, _, _, chain first links, stack => first.moments stack ++ links.moments stack
  | _, _, _, stop _, _ => []
  | .series s, _, _, breakOff _ item, stack => s.inside item.moments stack
  | .series s, _, _, link _ _ item rest, stack =>
      s.inside item.moments stack ++ rest.moments stack
  | _, _, _, signNone _ arg, stack => inside .sign arg.moments stack
  | _, _, _, sign _ _ arg, stack => inside .sign arg.moments stack
  | _, _, _, factorNone _ b, stack => b.moments stack
  | _, _, _, plain _ b _, stack => b.moments stack
  | _, _, _, powerNone _ b _ exponent, stack => b.moments stack ++ exponent.moments stack
  | _, _, _, power _ _ b _ exponent, stack => b.moments stack ++ exponent.moments stack
  | _, _, _, number _ _, _ => []
  | _, _, _, groupNone _ inner, stack => inside .group inner.moments stack
  | _, _, _, groupOpen _ inner _, stack => inside .group inner.moments stack
  | _, _, _, group _ inner _, stack => inside .group inner.moments stack
  | _, _, _, bare _ _ _, _ => []
  | _, _, _, callNone _ _ _ first, stack => inside .group first.moments stack
  | _, _, _, callOpen _ _ _ first others _, stack =>
      inside .group first.moments stack ++ others.moments stack
  | _, _, _, call _ _ _ first others _, stack =>
      inside .group first.moments stack ++ others.moments stack
  | _, _, _, baseNone _ _ _, _ => []

/-- A traced action does what another one does, and sees these stacks besides. -/
def Traces (x : StateT Moments m β) (y : m β) (moments : List Nested → List (List Nested)) :
    Prop :=
  ∀ stack seen, x.run ⟨stack, seen⟩ = (fun v => (v, ⟨stack, seen ++ moments stack⟩)) <$> y

variable [LawfulMonad m]

theorem traces_pure (v : β) : Traces (m := m) (pure v) (pure v) fun _ => [] := by
  intro stack seen
  simp

theorem traces_lift (act : m β) : Traces (StateT.lift act) act fun _ => [] := by
  intro stack seen
  simp

theorem Traces.bind {x : StateT Moments m β} {y : m β} {f : β → StateT Moments m γ}
    {g : β → m γ} {moments moments' : List Nested → List (List Nested)}
    (hx : Traces x y moments) (hf : ∀ v, Traces (f v) (g v) moments') :
    Traces (x >>= f) (y >>= g) fun stack => moments stack ++ moments' stack := by
  intro stack seen
  rw [StateT.run_bind, hx stack seen, map_bind, bind_map_left]
  refine bind_congr fun v => ?_
  rw [hf v, List.append_assoc]

theorem Traces.during {x : StateT Moments m β} {y : m β}
    {moments : List Nested → List (List Nested)} (hx : Traces x y moments) (k : Nested) :
    Traces (tracing.during k x) y (inside k moments) := by
  intro stack seen
  simp [Watch.during, tracing, inside, hx (k :: stack)]

omit [LawfulMonad m] in
theorem Traces.congr {x : StateT Moments m β} {y y' : m β}
    {moments moments' : List Nested → List (List Nested)} (hx : Traces x y moments)
    (hy : y = y') (hmoments : ∀ stack, moments stack = moments' stack) :
    Traces x y' moments' := by
  obtain rfl : moments = moments' := funext hmoments
  exact hy ▸ hx

theorem Traces.item {x : StateT Moments m β} {y : m β}
    {moments : List Nested → List (List Nested)} (hx : Traces x y moments) (s : Series) :
    Traces (tracing.item s x) y (s.inside moments) := by
  cases s with
  | links c => exact hx
  | arguments => exact hx.during .group

theorem traces_foldLinks (h : Handler m α) (v : α) (vs : List (String × α)) :
    Traces (foldLinks h.traced v vs) (foldLinks h v vs) fun _ => [] := by
  induction vs generalizing v with
  | nil => exact traces_pure v
  | cons l vs ih => exact (traces_lift (h.operation l.1 [v, l.2])).bind fun v => ih v

/-- A traced attempt does what the attempt does, and sees its stacks. -/
theorem Attempt.traces_perform (h : Handler m α) {s : Symbol} {ts : List Token} {o : Outcome s}
    (a : Attempt s ts o) :
    Traces (a.perform tracing h.traced) (a.perform .silent h) a.moments := by
  induction a with
  | chainNone _ ih => exact ih
  | chain _ _ ih ihs =>
    exact (ih.bind fun v => ihs.bind fun vs => traces_foldLinks h v vs).congr rfl
      (by simp [moments])
  | stop _ => exact traces_pure _
  | breakOff _ _ ih =>
    exact ((ih.item _).bind fun _ => traces_pure _).congr (by simp [perform]) (by simp [moments])
  | link _ _ _ _ ih ihs =>
    exact ((ih.item _).bind fun _ => ihs.bind fun _ => traces_pure _).congr (by simp [perform])
      (by simp [moments])
  | signNone _ _ ih => exact (ih.during .sign).congr (by simp [perform]) fun _ => rfl
  | sign op _ _ ih =>
    exact ((ih.during .sign).bind fun v => traces_lift (h.operation op.text [v])).congr
      (by simp [perform]) (by simp [moments])
  | factorNone _ _ ih => exact ih
  | plain _ _ _ ih => exact ih
  | powerNone _ _ _ _ ih ihe =>
    exact (ih.bind fun v => ihe.bind fun _ => traces_pure v).congr rfl (by simp [moments])
  | power _ op _ _ _ ih ihe =>
    exact (ih.bind fun v => ihe.bind fun u => traces_lift (h.operation op.text [v, u])).congr rfl
      (by simp [moments])
  | number t _ => exact traces_lift (h.number t.text)
  | groupNone _ _ ih => exact (ih.during .group).congr (by simp [perform]) fun _ => rfl
  | groupOpen _ _ _ ih =>
    exact ((ih.during .group).bind fun _ => traces_pure _).congr (by simp [perform])
      (by simp [moments])
  | group _ _ _ ih => exact (ih.during .group).congr (by simp [perform]) fun _ => rfl
  | bare name _ _ => exact traces_lift (h.operation name.text [])
  | callNone name _ _ _ ih =>
    exact ((ih.during .group).bind fun _ => traces_lift (h.operation name.text [])).congr
      (by simp [perform]) (by simp [moments])
  | callOpen name _ _ _ _ _ ih ihs =>
    exact ((ih.during .group).bind fun _ => ihs.bind fun _ =>
      traces_lift (h.operation name.text [])).congr (by simp [perform]) (by simp [moments])
  | call name _ _ _ _ _ ih ihs =>
    exact ((ih.during .group).bind fun v => ihs.bind fun vs =>
      traces_lift (h.operation name.text (v :: vs.map Prod.snd))).congr (by simp [perform])
        (by simp [moments])
  | baseNone _ _ _ => exact traces_pure _

/-! ## §3 Bounds -/

omit [Monad m] [LawfulMonad m]

/-- Where the pass stands when a symbol is entered on a stack. A chain is never entered
directly after a sign, and the signs before a base are over. -/
def Symbol.Entered : Symbol → Nesting → List Nested → Prop
  | .phrase (.chain _), s, stack =>
      s.Before (openGroups stack) 0 ∧ signsAt stack (openGroups stack) = 0
  | .phrase .factor, s, stack => s.Before (openGroups stack) (signsAt stack (openGroups stack))
  | .phrase .base, s, stack => ∃ k, s.Before (openGroups stack) k
  | .series (.links _), s, stack =>
      s.After (openGroups stack) ∧ signsAt stack (openGroups stack) = 0
  | .series .arguments, s, stack => s.After (openGroups stack + 1)

/-- On a bounded stack, where the pass over the row stays within a depth, all further stacks
are bounded by that depth. -/
def Stays (depth : Nat) (y : Symbol) (ts : List Token)
    (moments : List Nested → List (List Nested)) : Prop :=
  ∀ {s : Nesting} {stack : List Nested}, y.Entered s stack → (s.scan ts).deepest ≤ depth →
    Bounded depth stack → ∀ st ∈ moments stack, Bounded depth st

variable {depth : Nat} {s : Nesting} {stack : List Nested} {ts : List Token}
  {moments moments' : List Nested → List (List Nested)}

theorem entered_operand {c : Chain} (h : s.Before (openGroups stack) 0)
    (hsigns : signsAt stack (openGroups stack) = 0) :
    (Symbol.phrase c.operand).Entered s stack := by
  cases c with
  | sum => exact ⟨h, hsigns⟩
  | product =>
    show s.Before (openGroups stack) (signsAt stack (openGroups stack))
    rwa [hsigns]

theorem entered_group (h : s.Before (openGroups stack + 1) 0) :
    (Symbol.phrase .expression).Entered s (.group :: stack) := by
  refine ⟨openGroups_group stack ▸ h, ?_⟩
  rw [openGroups_group, signsAt]
  exact signsAt_of_openGroups_lt (Nat.lt_succ_self _)

theorem entered_sign (h : s.Before (openGroups stack) (signsAt stack (openGroups stack) + 1)) :
    (Symbol.phrase .factor).Entered s (.sign :: stack) := by
  show s.Before (openGroups (.sign :: stack)) (signsAt (.sign :: stack) _)
  rwa [openGroups_sign, signsAt, if_pos rfl]

/-- After an item a series goes on where it was. -/
theorem Series.entered_rest {r : Series} {sep : Token} (hsep : r.Separates sep)
    (h : (Symbol.series r).Entered s stack) (v : Derivation (.phrase r.item)) :
    (Symbol.series r).Entered ((s.step sep).scan v.tokens) stack := by
  cases r with
  | links c => exact ⟨v.after_scan (hsep.step h.1).1, h.2⟩
  | arguments => exact v.after_scan (hsep.step h).1

theorem mem_append_bounded (h : ∀ st ∈ moments stack, Bounded depth st)
    (h' : ∀ st ∈ moments' stack, Bounded depth st) :
    ∀ st ∈ moments stack ++ moments' stack, Bounded depth st :=
  List.forall_mem_append.mpr ⟨h, h'⟩

theorem bounded_inside {k : Nested} (hstack : Bounded depth stack)
    (hlonger : Bounded depth (k :: stack))
    (hmoments : ∀ st ∈ moments (k :: stack), Bounded depth st) :
    ∀ st ∈ inside k moments stack, Bounded depth st := by
  intro st hst
  simp only [inside, List.mem_cons, List.mem_append, List.not_mem_nil, or_false] at hst
  rcases hst with rfl | hst | rfl
  · exact hlonger
  · exact hmoments st hst
  · exact hstack

/-- The stacks in parentheses, the pass having counted them. -/
theorem Stays.group (h : Stays depth (.phrase .expression) ts moments)
    (hs : s.Before (openGroups stack + 1) 0) (hdepth : (s.scan ts).deepest ≤ depth)
    (hstack : Bounded depth stack) : ∀ st ∈ inside .group moments stack, Bounded depth st := by
  have hle := hs.le
  have hscan := s.deepest_le_scan ts
  have hlonger : Bounded depth (.group :: stack) := hstack.group (by omega)
  exact bounded_inside hstack hlonger (h (entered_group hs) hdepth hlonger)

/-- The stacks after a sign, the pass having counted it. -/
theorem Stays.sign (h : Stays depth (.phrase .factor) ts moments)
    (hs : s.Before (openGroups stack) (signsAt stack (openGroups stack) + 1))
    (hdepth : (s.scan ts).deepest ≤ depth) (hstack : Bounded depth stack) :
    ∀ st ∈ inside .sign moments stack, Bounded depth st := by
  have hle := hs.le
  have hscan := s.deepest_le_scan ts
  have hlonger : Bounded depth (.sign :: stack) := hstack.sign (by omega)
  exact bounded_inside hstack hlonger (h (entered_sign hs) hdepth hlonger)

theorem Stays.item {r : Series} (h : Stays depth (.phrase r.item) ts moments) {sep : Token}
    (hsep : r.Separates sep) (hs : (Symbol.series r).Entered s stack)
    (hdepth : ((s.step sep).scan ts).deepest ≤ depth) (hstack : Bounded depth stack) :
    ∀ st ∈ r.inside moments stack, Bounded depth st := by
  cases r with
  | links c => exact h (entered_operand (hsep.step hs.1).1 hs.2) hdepth hstack
  | arguments => exact h.group (hsep.step hs).1 hdepth hstack

/-- What follows a tree is within the depth of the row. -/
theorem scan_rest {y : Symbol} {v : Derivation y} {r : List Token} (hts : ts = v.tokens ++ r)
    (hdepth : (s.scan ts).deepest ≤ depth) : ((s.scan v.tokens).scan r).deepest ≤ depth := by
  rwa [← Nesting.scan_append, ← hts]

/-- After the tree that is read the pass stands after an operand. -/
theorem Attempt.after_scan {p : Phrase} {r : List Token} {v : Derivation (.phrase p)} {n k : Nat}
    (_ : Attempt (.phrase p) ts (some (v, r))) (hs : s.Before n k) : (s.scan v.tokens).After n :=
  Derivation.after_scan v hs

/-- The stacks of every attempt stay within the depth of its row. -/
theorem Attempt.bounded_moments {y : Symbol} {o : Outcome y} (a : Attempt y ts o) :
    Stays depth y ts a.moments := by
  induction a with
  | chainNone _ ih => exact fun hs => ih (entered_operand hs.1 hs.2)
  | chain first _ ih ihs =>
    intro s stack hs hdepth hstack
    have hrest := scan_rest (first.tokens_append _ rfl) hdepth
    have hlinks := ihs ⟨first.after_scan hs.1, hs.2⟩ hrest hstack
    exact mem_append_bounded (ih (entered_operand hs.1 hs.2) hdepth hstack) hlinks
  | breakOff hsep _ ih => exact fun hs hdepth hstack => ih.item hsep hs hdepth hstack
  | link sep hsep item _ ih ihs =>
    intro s stack hs hdepth hstack
    have hrest := scan_rest (item.tokens_append _ rfl) hdepth
    exact mem_append_bounded (ih.item hsep hs hdepth hstack)
      (ihs (Series.entered_rest hsep hs _) hrest hstack)
  | signNone hop _ ih | sign _ hop _ ih =>
    exact fun hs hdepth hstack => ih.sign (hs.sign hop).1 hdepth hstack
  | factorNone _ _ ih | plain _ _ _ ih => exact fun hs => ih ⟨_, hs⟩
  -- the signs before a power are still on the stack at its exponent, where the pass has
  -- forgotten them; they were counted when they were entered
  | powerNone _ b hop _ ih ihe | power _ _ b hop _ ih ihe =>
    intro s stack hs hdepth hstack
    have hrest := scan_rest (b.tokens_append _ rfl) hdepth
    have hexponent := ((b.after_scan hs).operator hop.1).1
    exact mem_append_bounded (ih ⟨_, hs⟩ hdepth hstack) (ihe ⟨_, hexponent⟩ hrest hstack)
  | groupNone ho _ ih | groupOpen ho _ _ ih | group ho _ _ ih =>
    rintro s stack ⟨_, hs⟩ hdepth hstack
    exact ih.group (Nesting.opening_step hs.depth ho).1 hdepth hstack
  | callNone _ hn ho _ ih =>
    rintro s stack ⟨_, hs⟩ hdepth hstack
    have hname := (hs.atom (.inr hn)).1
    exact ih.group (Nesting.opening_step hname.depth ho).1 hdepth hstack
  | callOpen _ hn ho first _ _ ih ihs | call _ hn ho first _ _ ih ihs =>
    rintro s stack ⟨_, hs⟩ hdepth hstack
    have hinner := (Nesting.opening_step (hs.atom (.inr hn)).1.depth ho).1
    have hrest := scan_rest (first.tokens_append _ rfl) hdepth
    exact mem_append_bounded (ih.group hinner hdepth hstack)
      (ihs (first.after_scan hinner) hrest hstack)
  | stop | number | bare | baseNone => exact fun _ _ _ _ hst => nomatch hst

/-! ## §4 Runs -/

/-- The grammar, seeing every stack. -/
def tracedExpression {m : Type → Type} [Monad m] {α : Type} (h : Handler m α) :
    Parser (StateT Moments m) Token α :=
  observed tracing.around h.traced Productions.expression

/-- A traced run sees the stacks of its attempt and does nothing else. -/
theorem Attempt.traced_run {m : Type → Type} [Monad m] [LawfulMonad m] {α : Type}
    (h : Handler m α) {o : Outcome (.phrase .expression)} (a : Attempt (.phrase .expression) ts o) :
    ((tracedExpression h).run ts).run .initial
      = (fun results => (results, ⟨[], [] :: a.moments []⟩)) <$> (expression h).run ts := by
  have hobserved : (tracedExpression h).run ts = o.results <$> a.perform tracing h.traced :=
    a.observed_run tracing h.traced
  have hrun : (expression h).run ts = o.results <$> a.perform .silent h := a.parser_run h
  rw [hobserved, hrun, StateT.run_map, Moments.initial, a.traces_perform h [] [[]]]
  simp

/-- The stacks of an attempt on a row are within its depth. -/
theorem Attempt.bounded_seen {o : Outcome (.phrase .expression)}
    (a : Attempt (.phrase .expression) ts o) :
    ∀ stack ∈ [] :: a.moments [], Bounded (nestingDepth ts) stack := by
  have hentered : (Symbol.phrase .expression).Entered .initial [] :=
    ⟨Nesting.before_initial, rfl⟩
  intro stack hstack
  rcases List.mem_cons.mp hstack with rfl | hstack
  · exact bounded_nil _
  · exact a.bounded_moments hentered (Nat.le_refl _) (bounded_nil _) stack hstack

/-- The pass over a row of tokens guards the grammar. On every row the stacks of a run, which
no handler changes, are within the depth at each of their levels, and so are bounded as a
whole; and the depth of a derived row is the largest height in its tree, so that it is refused
only where it is really nested that deeply. -/
theorem nestingDepth_bounds_stacks (ts : List Token) :
    (∃ seen : List (List Nested),
      (∀ (m : Type → Type) [Monad m] [LawfulMonad m] (α : Type) (h : Handler m α),
        ((tracedExpression h).run ts).run .initial
          = (fun results => (results, ⟨[], seen⟩)) <$> (expression h).run ts) ∧
      ∀ stack ∈ seen,
        (∀ p ≤ openGroups stack, p + signsAt stack p ≤ nestingDepth ts) ∧
        openGroups stack ≤ nestingDepth ts ∧
        stack.length ≤ nestingDepth ts * (nestingDepth ts + 3) / 2) ∧
    ∀ d : Derivation (.phrase .expression), d.tokens = ts →
      (d.heights 0 0).max? = some (nestingDepth ts) ∧
      ∀ (limit : Int) (e : Error), checkNesting limit ts = .error e ↔
        (∃ height ∈ d.heights 0 0, limit < height) ∧ e = .tooDeep (nestingDepth ts) limit := by
  constructor
  · obtain ⟨o, ⟨a⟩⟩ := exists_attempt (.phrase .expression) ts
    refine ⟨[] :: a.moments [], fun m _ _ α h => a.traced_run h, fun stack hstack => ?_⟩
    have hbounded : Bounded (nestingDepth ts) stack := a.bounded_seen stack hstack
    exact ⟨hbounded, hbounded.openGroups_le, hbounded.length_le⟩
  · rintro d rfl
    exact ⟨d.max_heights, fun _ _ => d.checkNesting_eq_error⟩

end Reckoner.Grammar
