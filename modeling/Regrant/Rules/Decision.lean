import Regrant.Expr.Formula
import Regrant.Model.Ruleset
import Regrant.Run

/-!
# What a list of rules decides

Compiling checks every expression of every rule, so that evaluation can fail only on the data.  The
first rule whose condition holds decides.  The object that it decides on is layered: reserved
fields, then defaults, then the fields that the rule gives, and reserved fields cannot be given.
-/

namespace Regrant

inductive Action where
  | map
  | skip
  | noMatch
deriving DecidableEq, Inhabited

inductive CompiledField where
  | formula (f : Formula)
  | constant (value : Json)

def CompiledField.value (facts : Json) : CompiledField → Except Failure Json
  | .formula f => f.value facts
  | .constant value => .ok value

inductive RuleEffect where
  | skip
  | map (fields : SortedMap String CompiledField)

structure CompiledRule where
  condition : Formula
  log : Formula
  effect : RuleEffect

/-- Compiled rules in order. -/
structure RuleSet where
  rules : List CompiledRule

/-- What a list of rules decided on one item. -/
structure Decision where
  action : Action
  /-- Reserved fields, defaults and the fields that the deciding rule gave. -/
  object : Fields
  /-- The deciding rule, counted from zero. -/
  index : Option Nat

namespace RuleSet

/-! ### Compiling -/

def compileField (scope : List String) (index : Nat) (name : String) (f : MapField) :
    Except Failure CompiledField :=
  match f.expression, f.value with
  | some source, none => (Formula.ofSource scope source).map .formula
  | none, some value => .ok (.constant value)
  | _, _ => .error (.invalidRule (.ambiguousField index name))

/-- The compiled fields, up to the first in key order that cannot be compiled. -/
def compileFields (scope : List String) (index : Nat) :
    List (String × MapField) → Except Failure (List (String × CompiledField))
  | [] => .ok []
  | (name, f) :: rest => do
    let field ← compileField scope index name f
    let fields ← compileFields scope index rest
    return (name, field) :: fields

def compileEffect (scope : List String) (index : Nat) (r : Rule) :
    Except Failure RuleEffect :=
  match r.skip, r.map with
  | true, some _ => .error (.invalidRule (.skipAndMap index))
  | true, none => .ok .skip
  | false, none => .ok (.map ∅)
  | false, some fields => do
    return .map (.ofList (← compileFields scope index fields.entries))

def compileRule (scope : List String) (index : Nat) (r : Rule) :
    Except Failure CompiledRule := do
  let condition ← Formula.ofSource scope r.condition
  let log ← Formula.ofSource scope r.log
  return ⟨condition, log, ← compileEffect scope index r⟩

def compileFrom (scope : List String) (index : Nat) :
    List Rule → Except Failure (List CompiledRule)
  | [] => .ok []
  | r :: rest => do
    let c ← compileRule scope index r
    let cs ← compileFrom scope (index + 1) rest
    return c :: cs

/-- The compiled rules, up to the first that cannot be compiled. -/
def compile (scope : List String) (rules : List Rule) : Except Failure RuleSet :=
  (compileFrom scope 0 rules).map .mk

def size (s : RuleSet) : Nat := s.rules.length

/-! ### Deciding -/

/-- Defaults on top of the reserved fields, none of which they may be. -/
def layer (base : Fields) : Fields → List (String × Json) → Except Failure Fields
  | object, [] => .ok object
  | object, (key, value) :: rest =>
    if base.contains key then .error (.evaluation (.defaultReserved key))
    else layer base (object.insert key value) rest

/-- The fields that a rule gives on top of an object. -/
def give (facts : Json) (base : Fields) : Fields → List (String × CompiledField) →
    Except Failure Fields
  | object, [] => .ok object
  | object, (key, field) :: rest =>
    if base.contains key then .error (.evaluation (.outputReserved key))
    else match field.value facts with
      | .ok value => give facts base (object.insert key value) rest
      | .error e => .error e

def applyEffect (facts : Json) (base object : Fields) :
    RuleEffect → Except Failure (Action × Fields)
  | .skip => .ok (.skip, object)
  | .map fields => (give facts base object fields.entries).map (.map, ·)

/-- The decision of the first rule that applies; `index` is the number of the first rule here. -/
def decideFrom (facts : Json) (base object : Fields) (index : Nat) :
    List CompiledRule → Run Decision
  | [] => .pure ⟨.noMatch, object, none⟩
  | r :: rest =>
    match r.condition.holds facts with
    | .error e => .fail e
    | .ok false => decideFrom facts base object (index + 1) rest
    | .ok true => do
      let (action, object) ← Run.ofExcept (applyEffect facts base object r.effect)
      if ← Run.ofExcept (r.log.holds facts) then Run.report (.ruleMatched index)
      return ⟨action, object, some index⟩

/-- What the rules decide on an item with these facts, reserved fields and defaults. -/
def decide (s : RuleSet) (facts : Json) (base defaults : Fields) : Run Decision := do
  let object ← Run.ofExcept (layer base base defaults.entries)
  decideFrom facts base object 0 s.rules

end RuleSet

end Regrant
