import Mathlib.Logic.Function.Iterate
import Reckoner.Sequence.Pipeline

/-!
Elements taken from lazy pipelines. What a source is asked for and what the stages are called on is
announced by actions of a monad of any kind, so that equal runs make the same requests and calls, in
the same order; sources may be endless.

* §1 `announcing` — functions that announce their calls; `filter_map_id` — a pipeline of them.
* §2 `Gives` — what a source gives; `through` — what comes through of it.
* §3 `Needed`, `Upto` — elements up to the last that is needed; `Gives.exists_upto` — a source that
  ends, or has enough, is asked up to there.
* §4 `Upto.take_add` — a run pulls these elements and no others, and may be gone on with.
* §5 `take_iterate_first` — the calls of a repeated application.
* §6 `taking_pulls_needed` — all of it for the pipeline that changes elements and then drops some.
-/

namespace Reckoner.Pipeline

variable {m : Type → Type} [Monad m] {σ α β : Type}

/-! ## §1 Announced calls -/

/-- A function whose every call is announced by an action, which may note it, or fail. -/
def announcing (announce : α → m Unit) (f : α → β) (a : α) : m β := do
  announce a
  return f a

/-- Changes an element, and drops it if the result does not satisfy the predicate. -/
def kept (f : α → β) (p : β → Bool) (a : α) : Option β :=
  if p (f a) then some (f a) else none

theorem filter_map_id [LawfulMonad m] (call : α → m Unit) (f : α → β) (test : β → m Unit)
    (p : β → Bool) : (Stage.id.map (announcing call f)).filter (announcing test p)
      = announcing (fun a => do call a; test (f a)) (kept f p) := by
  funext a
  simp [Stage.id, Stage.map, Stage.filter, announcing, kept]

/-! ## §2 Answers of a source -/

/-- Asked again and again from the state `s` on, a source gives some elements, noted with the
states that are asked for them, and comes to the state `t`. -/
inductive Gives (next : σ → Option (α × σ)) : σ → List (σ × α) → σ → Prop where
  | nil (s : σ) : Gives next s [] s
  | cons {s s' t : σ} {a : α} {given : List (σ × α)} (hnext : next s = some (a, s'))
      (hgives : Gives next s' given t) : Gives next s ((s, a) :: given) t

variable {next : σ → Option (α × σ)} {f : α → β} {p : β → Bool} {n : Nat} {s s' t t' : σ} {a : α}
  {given more : List (σ × α)}

/-- A source without effects gives the same elements whenever it is asked. -/
theorem Gives.of_append (h : Gives next s given t) (h' : Gives next s (given ++ more) t') :
    Gives next t more t' := by
  induction h with
  | nil s => exact h'
  | cons hnext _ ih =>
    cases h' with
    | cons hnext' hgives' =>
      obtain ⟨-, rfl⟩ := Prod.mk.inj (Option.some.inj (hnext.symm.trans hnext'))
      exact ih hgives'

/-- What comes through of the elements that are given. -/
def through (f : α → β) (p : β → Bool) (given : List (σ × α)) : List β :=
  ((given.map Prod.snd).map f).filter p

theorem through_cons_of_pos {r : σ × α} (h : p (f r.2) = true) (given : List (σ × α)) :
    through f p (r :: given) = f r.2 :: through f p given :=
  List.filter_cons_of_pos h

theorem through_cons_of_neg {r : σ × α} (h : ¬ p (f r.2) = true) (given : List (σ × α)) :
    through f p (r :: given) = through f p given :=
  List.filter_cons_of_neg h

theorem through_append (given more : List (σ × α)) :
    through f p (given ++ more) = through f p given ++ through f p more := by
  simp [through]

/-! ## §3 No more elements than needed -/

/-- Before each of the elements that are given, fewer than `n` have come through. -/
def Needed (f : α → β) (p : β → Bool) (n : Nat) (given : List (σ × α)) : Prop :=
  ∀ before r after, given = before ++ r :: after → (through f p before).length < n

theorem needed_nil (n : Nat) : Needed f p n ([] : List (σ × α)) := by
  intro before r after h
  simp at h

theorem Needed.pos {r : σ × α} (h : Needed f p n (r :: given)) : 0 < n :=
  h [] r given rfl

theorem needed_cons_of_pos {r : σ × α} (h : p (f r.2) = true) :
    Needed f p (n + 1) (r :: given) ↔ Needed f p n given := by
  constructor
  · rintro hneeded before r' after rfl
    have hbefore := hneeded (r :: before) r' after rfl
    rw [through_cons_of_pos h] at hbefore
    exact Nat.lt_of_succ_lt_succ hbefore
  · intro hneeded before r' after hsplit
    cases before with
    | nil => exact Nat.succ_pos n
    | cons r'' before =>
      obtain ⟨rfl, hgiven⟩ := List.cons.inj hsplit
      rw [through_cons_of_pos h]
      exact Nat.succ_lt_succ (hneeded before r' after hgiven)

theorem needed_cons_of_neg {r : σ × α} (h : ¬ p (f r.2) = true) :
    Needed f p (n + 1) (r :: given) ↔ Needed f p (n + 1) given := by
  constructor
  · rintro hneeded before r' after rfl
    have hbefore := hneeded (r :: before) r' after rfl
    rwa [through_cons_of_neg h] at hbefore
  · intro hneeded before r' after hsplit
    cases before with
    | nil => exact Nat.succ_pos n
    | cons r'' before =>
      obtain ⟨rfl, hgiven⟩ := List.cons.inj hsplit
      rw [through_cons_of_neg h]
      exact hneeded before r' after hgiven

/-- The elements that are given go up to and including the `n`-th that comes through; where fewer
come through, the source has no others. -/
structure Upto (next : σ → Option (α × σ)) (f : α → β) (p : β → Bool) (n : Nat) (s : σ)
    (given : List (σ × α)) (t : σ) : Prop where
  gives : Gives next s given t
  needed : Needed f p n given
  enough : (through f p given).length = n ∨ (through f p given).length < n ∧ next t = none

theorem upto_zero (s : σ) : Upto next f p 0 s [] s :=
  ⟨.nil s, needed_nil 0, .inl rfl⟩

theorem upto_ended (hnext : next s = none) (n : Nat) : Upto next f p (n + 1) s [] s :=
  ⟨.nil s, needed_nil (n + 1), .inr ⟨Nat.succ_pos n, hnext⟩⟩

theorem Upto.cons_of_pos (h : Upto next f p n s' given t) (hnext : next s = some (a, s'))
    (ha : p (f a) = true) : Upto next f p (n + 1) s ((s, a) :: given) t where
  gives := .cons hnext h.gives
  needed := (needed_cons_of_pos ha).mpr h.needed
  enough := by
    rw [through_cons_of_pos ha, List.length_cons, Nat.add_right_cancel_iff,
      Nat.add_lt_add_iff_right]
    exact h.enough

theorem Upto.cons_of_neg (h : Upto next f p (n + 1) s' given t) (hnext : next s = some (a, s'))
    (ha : ¬ p (f a) = true) : Upto next f p (n + 1) s ((s, a) :: given) t where
  gives := .cons hnext h.gives
  needed := (needed_cons_of_neg ha).mpr h.needed
  enough := by
    rw [through_cons_of_neg ha]
    exact h.enough

/-- A source that ends, or has `n` elements that come through, is asked up to there. -/
theorem Gives.exists_upto (h : Gives next s given t)
    (henough : next t = none ∨ n ≤ (through f p given).length) :
    ∃ given t, Upto next f p n s given t := by
  induction h generalizing n with
  | nil s =>
    cases n with
    | zero => exact ⟨[], s, upto_zero s⟩
    | succ n =>
      have hnext : next s = none := henough.resolve_right (Nat.not_succ_le_zero n)
      exact ⟨[], s, upto_ended hnext n⟩
  | @cons s s' t a given hnext _ ih =>
    cases n with
    | zero => exact ⟨[], s, upto_zero s⟩
    | succ n =>
      by_cases ha : p (f a) = true
      · rw [through_cons_of_pos ha, List.length_cons, Nat.add_le_add_iff_right] at henough
        obtain ⟨given, t, h⟩ := ih henough
        exact ⟨_, t, h.cons_of_pos hnext ha⟩
      · rw [through_cons_of_neg ha] at henough
        obtain ⟨given, t, h⟩ := ih henough
        exact ⟨_, t, h.cons_of_neg hnext ha⟩

/-- However far one looks, the first `n` elements that come through are those. -/
theorem Upto.take_through (h : Upto next f p n s given t)
    (hmore : Gives next s (given ++ more) t') :
    (through f p (given ++ more)).take n = through f p given := by
  rw [through_append]
  rcases h.enough with hlength | ⟨hlength, hended⟩
  · exact List.take_left' hlength
  · cases h.gives.of_append hmore with
    | nil =>
      rw [show through f p ([] : List (σ × α)) = [] from rfl, List.append_nil]
      exact List.take_of_length_le (Nat.le_of_lt hlength)
    | cons hnext => rw [hended] at hnext; cases hnext

/-! ## §4 Runs -/

/-- Nothing is asked for where no elements are wanted. -/
theorem take_zero (source : Source m σ α) (stage : Stage m α β) (fuel : Nat) (s : σ) :
    take source stage fuel 0 s = pure ([], some s) := by
  cases fuel <;> rfl

variable [LawfulMonad m]

/-- A run over some elements, each of which is needed: they are pulled and called on in their order,
and then the run goes on for what is still missing. -/
theorem Gives.take_eq (h : Gives next s given t) (hneeded : Needed f p n given)
    (ask : σ → m Unit) (tell : α → m Unit) (fuel : Nat) :
    take (announcing ask next) (announcing tell (kept f p)) (given.length + fuel) n s = do
      given.forM fun r => do ask r.1; tell r.2
      let (bs, last) ← take (announcing ask next) (announcing tell (kept f p)) fuel
        (n - (through f p given).length) t
      return (through f p given ++ bs, last) := by
  induction h generalizing n with
  | nil s => simp [through]
  | @cons s s' t a given hnext _ ih =>
    obtain ⟨n, rfl⟩ := Nat.exists_eq_add_one_of_ne_zero (Nat.ne_of_gt hneeded.pos)
    rw [List.length_cons, Nat.add_right_comm]
    by_cases ha : p (f a) = true
    · have hrest := ih ((needed_cons_of_pos ha).mp hneeded)
      simp [take, announcing, kept, hnext, ha, hrest, through_cons_of_pos]
    · have hrest := ih ((needed_cons_of_neg ha).mp hneeded)
      simp [take, announcing, kept, hnext, ha, hrest, through_cons_of_neg]

theorem take_ended (hnext : next s = none) (ask : σ → m Unit) (stage : Stage m α β) (fuel : Nat) :
    take (announcing ask next) stage (fuel + 1) (n + 1) s = (do ask s; return ([], none)) := by
  simp [take, announcing, hnext]

/-- How often a source is asked: once for each element that is given, and once more where it ends
before `n` have come through. -/
def requests (f : α → β) (p : β → Bool) (n : Nat) (given : List (σ × α)) : Nat :=
  given.length + if (through f p given).length < n then 1 else 0

/-- All that is needed is pulled and called on; then more may be wanted of a source that has not
ended. -/
theorem Upto.take_add (h : Upto next f p n s given t) (ask : σ → m Unit) (tell : α → m Unit)
    (fuel further : Nat) :
    take (announcing ask next) (announcing tell (kept f p)) (requests f p n given + fuel)
        (n + further) s = do
      given.forM fun r => do ask r.1; tell r.2
      if (through f p given).length < n then do
        ask t
        return (through f p given, none)
      else do
        let (bs, last) ← take (announcing ask next) (announcing tell (kept f p)) fuel further t
        return (through f p given ++ bs, last) := by
  have hneeded : Needed f p (n + further) given := fun before r after hsplit =>
    Nat.lt_add_right further (h.needed before r after hsplit)
  rw [requests, Nat.add_assoc, h.gives.take_eq hneeded]
  rcases h.enough with hlength | ⟨hlength, hended⟩
  · simp [hlength]
  · obtain ⟨k, hk⟩ : ∃ k, n + further - (through f p given).length = k + 1 :=
      ⟨n + further - (through f p given).length - 1, by omega⟩
    simp [hlength, hk, Nat.add_comm 1 fuel, take_ended hended]

/-! ## §5 Repeated application -/

/-- Each further element of a repeated application takes one call, on the element before it. -/
theorem take_iterate_after (call : α → m Unit) (f : α → α) (a : α) (n fuel : Nat) :
    take (iterate (announcing call f)) Stage.id (n + fuel) n (.after a) = do
      ((List.range n).map fun k => f^[k] a).forM call
      return ((List.range n).map fun k => f^[k + 1] a, some (.after (f^[n] a))) := by
  induction n generalizing a with
  | zero => simp [take_zero]
  | succ n ih =>
    rw [Nat.add_right_comm]
    simp [take, iterate, announcing, Stage.id, ih (f a), List.range_succ_eq_map, List.map_map,
      Function.comp_def]

theorem take_iterate_first (call : α → m Unit) (f : α → α) (a : α) (n fuel : Nat) :
    take (iterate (announcing call f)) Stage.id (n + 1 + fuel) (n + 1) (.first a) = do
      ((List.range n).map fun k => f^[k] a).forM call
      return ((List.range (n + 1)).map fun k => f^[k] a, some (.after (f^[n] a))) := by
  rw [Nat.add_right_comm]
  simp [take, iterate, Stage.id, take_iterate_after, List.range_succ_eq_map, List.map_map,
    Function.comp_def]

/-! ## §6 Taking -/

/-- A pipeline changes elements by `f` and drops those that do not satisfy `p` then; its source ends
or has enough of them. Taking `n` elements pulls the elements of the source up to and including the
`n`-th that comes through, or all where there are fewer. The elements that are taken are the first
`n` that come through, `f` is called once on each element that is pulled, in their order, and
whoever goes on for more gets what taking all at once gives after them. Taking from a repeated
application gives the values of its iterates, with one call less than there are elements. -/
theorem taking_pulls_needed (ask : σ → m Unit) (next : σ → Option (α × σ)) (call : α → m Unit)
    (f : α → β) (test : β → m Unit) (p : β → Bool) (n : Nat) (s : σ)
    (h : ∃ given t, Gives next s given t ∧ (next t = none ∨ n ≤ (through f p given).length)) :
    let source := announcing ask next
    let stage := (Stage.id.map (announcing call f)).filter (announcing test p)
    (∃ given t, Upto next f p n s given t) ∧
    (∀ given t, Upto next f p n s given t →
      (n = 0 → given = []) ∧
      (∀ more t', Gives next s (given ++ more) t' →
        (through f p (given ++ more)).take n = through f p given) ∧
      (∀ fuel ≥ requests f p n given, take source stage fuel n s = do
        given.forM fun r => do ask r.1; call r.2; test (f r.2)
        if (through f p given).length < n then do ask t; return (through f p given, none)
        else return (through f p given, some t)) ∧
      ∀ further fuel, take source stage (requests f p n given + fuel) (n + further) s = do
        let (bs, last) ← take source stage (requests f p n given) n s
        let (cs, last) ← resume source stage fuel further last
        return (bs ++ cs, last)) ∧
    ∀ (g : α → α) (a : α) (n : Nat), ∀ fuel > n,
      take (iterate (announcing call g)) Stage.id fuel (n + 1) (.first a) = do
        ((List.range n).map fun k => g^[k] a).forM call
        return ((List.range (n + 1)).map fun k => g^[k] a, some (.after (g^[n] a))) := by
  intro source stage
  have hstage : stage = announcing (fun a => do call a; test (f a)) (kept f p) :=
    filter_map_id call f test p
  refine ⟨?found, fun given t hupto => ?taken, fun g a n fuel hfuel => ?iterated⟩
  case found =>
    obtain ⟨given, t, hgives, henough⟩ := h
    exact hgives.exists_upto henough
  case taken =>
    have hrun : ∀ fuel ≥ requests f p n given, take source stage fuel n s = do
        given.forM fun r => do ask r.1; call r.2; test (f r.2)
        if (through f p given).length < n then do ask t; return (through f p given, none)
        else return (through f p given, some t) := by
      intro fuel hfuel
      obtain ⟨spare, rfl⟩ := Nat.exists_eq_add_of_le hfuel
      have hadd := hupto.take_add ask (fun a => do call a; test (f a)) spare 0
      simpa [hstage, source, take_zero] using hadd
    refine ⟨fun hn => ?none, fun more t' => hupto.take_through, hrun, fun further fuel => ?further⟩
    case none =>
      cases given with
      | nil => rfl
      | cons r given => exact absurd hn (Nat.ne_of_gt hupto.needed.pos)
    case further =>
      rw [hrun _ (Nat.le_refl _), hstage, hupto.take_add]
      split <;> simp [resume, source]
  case iterated =>
    obtain ⟨spare, rfl⟩ := Nat.exists_eq_add_of_le (Nat.succ_le_of_lt hfuel)
    exact take_iterate_first call g a n spare

/-- The first two even squares: four numbers are pulled from an endless source, and each of them is
squared once. -/
theorem taking_pulls_needed_evenSquares :
    let next : Nat → Option (Nat × Nat) := fun i => some (i, i + 1)
    let square : Nat → Nat := fun i => i * i
    let even : Nat → Bool := fun x => x % 2 == 0
    let note : Nat → Nat → StateM (List (Nat × Nat)) Unit := fun i x => modify (· ++ [(i, x)])
    let stage := (Stage.id.map (announcing (note 1) square)).filter (announcing (note 2) even)
    (∃ given t, Gives next 1 given t ∧ (next t = none ∨ 2 ≤ (through square even given).length)) ∧
    (take (announcing (note 0) next) stage 4 2 1).run []
      = (([4, 16], some 5), [(0, 1), (1, 1), (2, 1), (0, 2), (1, 2), (2, 4), (0, 3), (1, 3), (2, 9),
          (0, 4), (1, 4), (2, 16)]) := by
  intro next square even note stage
  have hupto : Upto next square even 2 1 [(1, 1), (2, 2), (3, 3), (4, 4)] 5 :=
    .cons_of_neg (.cons_of_pos (.cons_of_neg (.cons_of_pos (upto_zero 5) rfl (by decide)) rfl
      (by decide)) rfl (by decide)) rfl (by decide)
  have hgives : ∃ given t, Gives next 1 given t ∧
      (next t = none ∨ 2 ≤ (through square even given).length) :=
    ⟨_, 5, hupto.gives, .inr (by decide)⟩
  obtain ⟨-, htaken, -⟩ := taking_pulls_needed (note 0) next (note 1) square (note 2) even 2 1 hgives
  obtain ⟨-, -, hrun, -⟩ := htaken _ _ hupto
  have hthrough : through square even [(1, 1), (2, 2), (3, 3), (4, 4)] = [4, 16] := by decide
  refine ⟨hgives, ?_⟩
  rw [hrun 4 (by decide), hthrough]
  rfl

end Reckoner.Pipeline
