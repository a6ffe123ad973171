import Mathlib.Data.List.Basic
import Reckoner.Combinators
import Reckoner.Proofs.Parser.Outcome

/-!
The laws of parsers in a row. A parser without effects is a function from a row to all its
results, of which there may be any number; the laws hold with the results in their order, whatever
the parsers leave of a row.

* §1 `Parser.results` — the results of a parser without effects; those of `pure`, `map`, `bind`
  and `ap`, each from the results of its parts.
* §2 `pure_bind`, `bind_pure`, `bind_bind` — sequences; `map_map`, `map_bind`, `bind_map` — values.
* §3 `lift2_curry2`, `seqRight_eq_lift2`, `seqLeft_eq_lift2`, `join_map` — two parsers in a row.
* §4 `sequencing_laws` — all of them.
-/

namespace Reckoner.Parser

open Combinators

variable {σ α β γ : Type} {s : List σ}

/-! ## §1 Results -/

/-- The results of a parser without effects, in their order. -/
def results (p : Parser Id σ α) (s : List σ) : List (α × List σ) := (p.run s).run

/-- A parser without effects is known by its results. -/
theorem eq_of_results {p q : Parser Id σ α} (h : ∀ s, p.results s = q.results s) : p = q := by
  obtain ⟨run⟩ := p
  obtain ⟨run'⟩ := q
  exact congrArg Parser.mk (funext h)

@[simp] theorem results_pure (a : α) : (Parser.pure a : Parser Id σ α).results s = [(a, s)] := rfl

@[simp] theorem results_map (p : Parser Id σ α) (f : α → β) :
    (p.map f).results s = (p.results s).map fun r => (f r.1, r.2) := rfl

@[simp] theorem results_bind (p : Parser Id σ α) (f : α → Parser Id σ β) :
    (p.bind f).results s = (p.results s).flatMap fun r => (f r.1).results r.2 := by
  show (List.mapM (fun r : α × List σ => (f r.1).run r.2) (p.results s)).run.flatten = _
  rw [List.idRun_mapM]
  exact List.flatMap_def.symm

/-- Every function is applied to the values that are found behind it, before the next function. -/
theorem results_ap (p : Parser Id σ (α → β)) (q : Parser Id σ α) :
    (p.ap q).results s
      = (p.results s).flatMap fun f => (q.results f.2).map fun r => (f.1 r.1, r.2) :=
  results_bind p fun f => q.map f

/-! ## §2 Sequences and values -/

protected theorem pure_bind (a : α) (f : α → Parser Id σ β) : (Parser.pure a).bind f = f a :=
  eq_of_results fun s => by simp

protected theorem bind_pure (p : Parser Id σ α) : p.bind Parser.pure = p :=
  eq_of_results fun s => by simp

/-- The results of a row of three come in the same order, whichever two are taken together. -/
protected theorem bind_bind (p : Parser Id σ α) (f : α → Parser Id σ β) (g : β → Parser Id σ γ) :
    (p.bind f).bind g = p.bind fun a => (f a).bind g :=
  eq_of_results fun s => by simp [List.flatMap_assoc]

protected theorem map_map (p : Parser Id σ α) (f : α → β) (g : β → γ) :
    (p.map f).map g = p.map (compose g f) :=
  eq_of_results fun s => by simp [compose]

protected theorem map_bind (p : Parser Id σ α) (f : α → β) (g : β → Parser Id σ γ) :
    (p.map f).bind g = p.bind fun a => g (f a) :=
  eq_of_results fun s => by simp [List.flatMap_map]

protected theorem bind_map (p : Parser Id σ α) (f : α → Parser Id σ β) (g : β → γ) :
    (p.bind f).map g = p.bind fun a => (f a).map g :=
  eq_of_results fun s => by simp [List.map_flatMap]

/-! ## §3 Two parsers in a row -/

theorem ap_eq_bind (p : Parser Id σ (α → β)) (q : Parser Id σ α) :
    p.ap q = p.bind fun f => q.map f :=
  eq_of_results fun s => by simp [results_ap]

theorem lift2_curry2 (f : α × β → γ) (p : Parser Id σ α) (q : Parser Id σ β) :
    lift2 (curry2 f) p q = p.bind fun a => q.map fun b => f (a, b) :=
  calc lift2 (curry2 f) p q
      = (p.map (curry2 f)).bind fun g => q.map g := ap_eq_bind _ q
    _ = p.bind fun a => q.map (curry2 f a) := Parser.map_bind p _ _

theorem seqRight_eq_lift2 (p : Parser Id σ α) (q : Parser Id σ β) :
    p.seqRight q = lift2 (curry2 Prod.snd) p q :=
  calc p.seqRight q
      = p.bind fun _ => q.map fun b => b := by rw [map_id, seqRight]
    _ = lift2 (curry2 Prod.snd) p q := (lift2_curry2 Prod.snd p q).symm

theorem seqLeft_eq_lift2 (p : Parser Id σ α) (q : Parser Id σ β) :
    p.seqLeft q = lift2 (curry2 Prod.fst) p q :=
  (lift2_curry2 Prod.fst p q).symm

theorem join_map (p : Parser Id σ α) (f : α → Parser Id σ β) : join (p.map f) = p.bind f :=
  Parser.map_bind p f id

theorem seqRight_seqRight (p : Parser Id σ α) (q : Parser Id σ β) (r : Parser Id σ γ) :
    (p.seqRight q).seqRight r = p.seqRight (q.seqRight r) :=
  Parser.bind_bind p (fun _ => q) fun _ => r

/-- The value of the first of three parsers is kept by dropping the others one by one, or both. -/
theorem seqLeft_seqLeft (p : Parser Id σ α) (q : Parser Id σ β) (r : Parser Id σ γ) :
    (p.seqLeft q).seqLeft r = p.seqLeft (q.seqRight r) :=
  calc (p.seqLeft q).seqLeft r
      = p.bind fun a => (q.map fun _ => a).bind fun a => r.map fun _ => a := Parser.bind_bind p _ _
    _ = p.bind fun a => q.bind fun _ => r.map fun _ => a := by simp only [Parser.map_bind]
    _ = p.bind fun a => (q.bind fun _ => r).map fun _ => a := by simp only [Parser.bind_map]

/-! ## §4 All laws -/

/-- Parsers without effects are a monad, and all that puts them in a row is made of its two
operations. The laws are equations of parsers, so both sides have the same results on every row, in
the same order and with the same rests, however many there are. -/
theorem sequencing_laws {σ α β γ : Type} :
    (∀ (a : α) (f : α → Parser Id σ β), (Parser.pure a).bind f = f a) ∧
    (∀ p : Parser Id σ α, p.bind Parser.pure = p) ∧
    (∀ (p : Parser Id σ α) (f : α → Parser Id σ β) (g : β → Parser Id σ γ),
      (p.bind f).bind g = p.bind fun a => (f a).bind g) ∧
    (∀ (p : Parser Id σ α) (f : α → β) (g : β → γ), p.map (compose g f) = (p.map f).map g) ∧
    (∀ (p : Parser Id σ (α → β)) (q : Parser Id σ α), p.ap q = p.bind fun f => q.map f) ∧
    (∀ (f : α × β → γ) (p : Parser Id σ α) (q : Parser Id σ β),
      lift2 (curry2 f) p q = p.bind fun a => q.map fun b => f (a, b)) ∧
    (∀ (p : Parser Id σ α) (q : Parser Id σ β), p.seqRight q = lift2 (curry2 Prod.snd) p q) ∧
    (∀ (p : Parser Id σ α) (q : Parser Id σ β), p.seqLeft q = lift2 (curry2 Prod.fst) p q) ∧
    (∀ (p : Parser Id σ α) (f : α → Parser Id σ β), join (p.map f) = p.bind f) ∧
    (∀ (p : Parser Id σ α) (q : Parser Id σ β) (r : Parser Id σ γ),
      (p.seqRight q).seqRight r = p.seqRight (q.seqRight r)) ∧
    (∀ (p : Parser Id σ α) (q : Parser Id σ β) (r : Parser Id σ γ),
      (p.seqLeft q).seqLeft r = p.seqLeft (q.seqRight r)) :=
  ⟨Parser.pure_bind, Parser.bind_pure, Parser.bind_bind, fun p f g => (Parser.map_map p f g).symm,
    ap_eq_bind, lift2_curry2, seqRight_eq_lift2, seqLeft_eq_lift2, join_map, seqRight_seqRight,
    seqLeft_seqLeft⟩

end Reckoner.Parser
