import Reckoner.Documentation.Source.Template

/-!
What terms stand for. Terms that cannot be understood, or whose data have no text, stand for
nothing.

* §1 `Scope` and `Evaluation` — names and what they stand for.
* §2 `bindTarget`, `bindParameters` — giving names to data.
* §3 `value`, `call` — terms and calls.
* §4 `Parameter.shown` — a parameter in its standard form.
-/

namespace Reckoner.Documentation.Source

/-! ## §1 Names -/

/-- Names with what they stand for; the first one counts. -/
abbrev Scope := List (String × Datum)

/-- Something found with the names of a scope; some terms give names. -/
abbrev Evaluation := StateT Scope Option

/-- What a name stands for. -/
def Scope.find? (scope : Scope) (name : String) : Option Datum :=
  ((List.find? (fun (n : String × Datum) => n.1 == name) scope).map Prod.snd).orElse fun _ =>
    builtinName? name

/-! ## §2 Giving names -/

/-- How many items a spread target takes out of `count`, if it has `others` beside it. -/
def spreadCount (count others : Nat) : Nat :=
  count - others

mutual

/-- Gives a datum to a target: a name, or a row of targets for the items of the datum. -/
def bindTarget : (fuel : Nat) → Term → Datum → Scope → Option Scope
  | 0, _, _, _ => none
  | fuel + 1, target, d, scope =>
      match target with
      | .name name => some ((name, d) :: scope)
      | .tuple targets | .list targets => do bindTargets fuel targets (← d.items?) scope
      | _ => none

/-- Gives data to targets; a spread one takes what is left over. -/
def bindTargets : (fuel : Nat) → List Term → List Datum → Scope → Option Scope
  | 0, _, _, _ => none
  | _ + 1, [], [], scope => some scope
  | fuel + 1, .spread target :: rest, items, scope => do
      let count := spreadCount items.length rest.length
      if items.length < rest.length then none
      else
        let scope ← bindTarget fuel target (.list (items.take count)) scope
        bindTargets fuel rest (items.drop count) scope
  | fuel + 1, target :: rest, d :: items, scope => do
      bindTargets fuel rest items (← bindTarget fuel target d scope)
  | _ + 1, _, _, _ => none

end

/-- The parameters of a function with their arguments; `places` and `names` are the arguments
that are not yet given to a parameter. -/
def bindParameters : List (Place × String × Option Datum) → (places : List Datum) →
    (names : List (String × Datum)) → Scope → Option Scope
  | [], [], [], scope => some scope
  | [], _, _, _ => none
  | (.restOfPlaces, name, _) :: rest, places, names, scope =>
      bindParameters rest [] names ((name, .tuple places) :: scope)
  | (.restOfNames, name, _) :: rest, places, names, scope =>
      bindParameters rest places []
        ((name, .ofEntries (names.map fun n => (.text n.1, n.2))) :: scope)
  | (place, name, standard) :: rest, places, names, scope =>
      match place, places with
      | .any, d :: places =>
          if names.any (·.1 == name) then none
          else bindParameters rest places names ((name, d) :: scope)
      | _, places =>
          match names.find? (·.1 == name), standard with
          | some n, _ =>
              bindParameters rest places (names.filter (·.1 != name)) ((name, n.2) :: scope)
          | none, some d => bindParameters rest places names ((name, d) :: scope)
          | none, none => none

/-! ## §3 Terms -/

/-- Whether a term is a constant. -/
def isConstant : (fuel : Nat) → Term → Bool
  | 0, _ => false
  | fuel + 1, a =>
      match a with
      | .number _ | .text _ | .bytes _ => true
      | .name s => s == "None" || s == "True" || s == "False" || s == "Ellipsis"
      | .unary _ a => isConstant fuel a
      | .binary _ a b => isConstant fuel a && isConstant fuel b
      | .tuple items => items.all (isConstant fuel)
      | _ => false

/-- The set of some items as a term gives it. More than two constants are put into a set of
their own, whose items are put into another one, and that is copied. -/
def displayedSet? (constant : Bool) (items : List Datum) : Option Datum :=
  if !items.all Datum.isKey then none
  else if constant && 2 < items.length then
    let own := Collection.ofItems (Collection.ofItems items).items
    some (own.copied.datum false)
  else some ((Collection.ofItems items).datum false)

/-- What repeated terms make. -/
def Form.make? (form : Form) (items : List Datum) : Option Datum :=
  match form with
  | .list => some (.list items)
  | .set => Datum.ofItems? false items
  | .stream => some (.stream "generator" items)
  | .mapping => do
      let entries ← items.mapM fun d => match d with
        | .tuple [key, value] => if key.isKey then some (key, value) else none
        | _ => none
      return .ofEntries entries

/-- An operation on two data by its sign; a text is filled with what stands behind a per cent
sign. -/
def operation? (sign : String) (a b : Datum) : Option Datum :=
  match sign, a with
  | "%", .text s => Datum.filled? s b
  | sign, a => Datum.binary? sign a b

mutual

/-- What a term stands for. -/
def value : (fuel : Nat) → Term → Evaluation Datum
  | 0, _ => failure
  | fuel + 1, term => do
      match term with
      | .name s => liftM ((← get).find? s)
      | .number n => return .number n
      | .text s => return .text s
      | .bytes bs => return .bytes false bs
      | .unary sign a => liftM (Datum.unary? sign (← value fuel a))
      | .binary sign a b =>
          let x ← value fuel a
          let y ← value fuel b
          liftM (operation? sign x y)
      | .both a b =>
          let x ← value fuel a
          if x.isTrue then value fuel b else return x
      | .either a b =>
          let x ← value fuel a
          if x.isTrue then return x else value fuel b
      | .chain first links => comparisonsHold fuel (← value fuel first) links
      | .choice test yes no => do
          if (← value fuel test).isTrue then value fuel yes else value fuel no
      | .call f terms =>
          match f with
          | .member owner name =>
              let d ← value fuel owner
              let a ← argumentValues fuel terms
              match part? d name with
              | some part => liftM (call fuel part a)
              | none => liftM (call fuel (.method d name) a)
          | f =>
              let d ← value fuel f
              let a ← argumentValues fuel terms
              liftM (call fuel d a)
      | .member owner name =>
          let d ← value fuel owner
          match part? d name, d with
          | some part, _ => return part
          | none, .kind kind =>
              if (methodNames kind).contains name then return .methodOf kind name else failure
          | none, d =>
              if (methodNames d.kindName).contains name then return .method d name else failure
      | .item owner index =>
          let d ← value fuel owner
          liftM (d.item? (← value fuel index))
      | .slice start stop step =>
          let bound (a : Option Term) : Evaluation Datum := match a with
            | some a => value fuel a
            | none => pure .nothing
          return .slice (← bound start) (← bound stop) (← bound step)
      | .list items => return .list (← itemValues fuel items)
      | .tuple items => return .tuple (← itemValues fuel items)
      | .set items =>
          liftM (displayedSet? (items.all (isConstant fuel)) (← itemValues fuel items))
      | .mapping items => return .ofEntries (← entryValues fuel items)
      | .repeated form item clauses =>
          let scope ← get
          let items ← repetitions fuel item clauses
          set scope
          liftM (form.make? items)
      | .function parameters body =>
          let scope ← get
          let parameters ← parameters.mapM fun (place, name, standard) => do
            match standard with
            | some a => return (place, name, some (← value fuel a))
            | none => return (place, name, none)
          return .closure parameters body scope
      | .joined parts =>
          let texts ← parts.mapM fun a => do
            match ← value fuel a with
            | .text s => return s
            | _ => failure
          return .text (String.join texts)
      | .laidOut a conversion layout =>
          let d ← value fuel a
          match ← value fuel layout with
          | .text layout =>
              liftM (((d.converted? conversion).bind (·.laidOut? layout.toList)).map Datum.text)
          | _ => failure
      | .bind name a =>
          let d ← value fuel a
          modify ((name, d) :: ·)
          return d
      | .entry .. | .spread _ | .spreadEntries _ | .argument .. => failure

/-- Whether a chain of comparisons holds; it ends at the first one that does not. -/
def comparisonsHold : (fuel : Nat) → Datum → List (String × Term) → Evaluation Datum
  | 0, _, _ => failure
  | _ + 1, _, [] => return .truth true
  | fuel + 1, a, (sign, term) :: rest => do
      let b ← value fuel term
      if ← liftM (Datum.compare? sign a b) then comparisonsHold fuel b rest
      else return .truth false

/-- The data of some terms, spread ones as their items. -/
def itemValues : (fuel : Nat) → List Term → Evaluation (List Datum)
  | 0, _ => failure
  | fuel + 1, terms => do
      let parts ← terms.mapM fun a => do
        match a with
        | .spread a => liftM (← value fuel a).items?
        | a => return [← value fuel a]
      return parts.flatten

/-- The entries of some terms, spread mappings as their entries. -/
def entryValues : (fuel : Nat) → List Term → Evaluation (List (Datum × Datum))
  | 0, _ => failure
  | fuel + 1, terms => do
      let parts ← terms.mapM fun a => do
        match a with
        | .entry key a =>
            let key ← value fuel key
            if !key.isKey then failure
            return [(key, ← value fuel a)]
        | .spreadEntries a =>
            match ← value fuel a with
            | .mapping entries => return entries
            | _ => failure
        | _ => failure
      return parts.flatten

/-- The arguments of a call. -/
def argumentValues : (fuel : Nat) → List Term → Evaluation Arguments
  | 0, _ => failure
  | fuel + 1, terms => do
      let parts ← terms.mapM fun a => do
        match a with
        | .spread a => return (Arguments.mk (← liftM (← value fuel a).items?) [])
        | .argument name a => return (Arguments.mk [] [(name, ← value fuel a)])
        | .spreadEntries a =>
            match ← value fuel a with
            | .mapping entries =>
                let names ← entries.mapM fun (key, d) => match key with
                  | .text name => pure (name, d)
                  | _ => failure
                return (Arguments.mk [] names)
            | _ => failure
        | a => return (Arguments.mk [← value fuel a] [])
      return ⟨(parts.map Arguments.places).flatten, (parts.map Arguments.names).flatten⟩

/-- The data of a repeated term, one for each choice that its clauses leave; an entry gives a
pair. -/
def repetitions : (fuel : Nat) → Term → List (Option Term × Term) → Evaluation (List Datum)
  | 0, _, _ => failure
  | fuel + 1, item, [] => do
      match item with
      | .entry key a => return [.tuple [← value fuel key, ← value fuel a]]
      | a => return [← value fuel a]
  | fuel + 1, item, (none, test) :: rest => do
      if (← value fuel test).isTrue then repetitions fuel item rest else return []
  | fuel + 1, item, (some target, source) :: rest => do
      let scope ← get
      let parts ← (← liftM (← value fuel source).items?).mapM fun d => do
        set (← liftM (bindTarget fuel target d scope))
        repetitions fuel item rest
      return parts.flatten

/-- The value of a call. -/
def call : (fuel : Nat) → Datum → Arguments → Option Datum
  | 0, _, _ => none
  | fuel + 1, f, a =>
      let apply (f : Datum) (args : List Datum) : Option Datum := call fuel f ⟨args, []⟩
      match f with
      | .function name => function? apply name a
      | .kind "map" =>
          match a.places with
          | f :: rows => do
              let rows ← rows.mapM Datum.items?
              let count := (rows.map List.length).foldl max 0 + 1
              let items ← (zipped count rows).mapM fun d => do apply f (← d.items?)
              return .stream "map" items
          | [] => none
      | .kind "filter" =>
          match a.places with
          | [f, d] => do
              let items ← (← d.items?).filterM fun d => match f with
                | .nothing => some d.isTrue
                | f => (apply f [d]).map Datum.isTrue
              return .stream "filter" items
          | _ => none
      | .kind name | .applied name _ => construct? name a
      | .method (.text s) "format" => template? s a
      | .method (.text s) "format_map" =>
          match a.places with
          | [.mapping entries] => do
              let names ← entries.mapM fun (key, d) => match key with
                | .text name => some (name, d)
                | _ => none
              template? s ⟨[], names⟩
          | _ => none
      | .method (.kind kind) name => do kindMethod? kind name (← a.ordered? (namedArguments name))
      | .method owner name => do method? owner name (← a.ordered? (namedArguments name))
      | .methodOf kind name => do kindMethod? kind name (← a.ordered? (namedArguments name))
      | .closure parameters body scope => do
          let scope ← bindParameters parameters a.places a.names scope
          (value fuel body).run' scope
      | _ => none

end

/-- How deep terms and calls are nested at most. -/
def deepest : Nat := 3000

/-! ## §4 Parameters -/

/-- The text of a parameter in its standard form: blanks stand around the equals sign only
after a note. -/
def Parameter.shown (p : Parameter) : Evaluation String := do
  let note ← p.note.mapM fun a => do liftM (← Source.value deepest a).noted?
  let standard ← p.value.mapM fun a => do liftM (← Source.value deepest a).shown?
  let name := p.mark ++ p.name
  return match note, standard with
    | none, none => name
    | none, some standard => name ++ "=" ++ standard
    | some note, none => name ++ ": " ++ note
    | some note, some standard => name ++ ": " ++ note ++ " = " ++ standard

/-- Parameters in their standard form. -/
def shownParameters? (parameters : List Parameter) (scope : Scope) : Option (List String) :=
  (parameters.mapM Parameter.shown).run' scope

end Reckoner.Documentation.Source
