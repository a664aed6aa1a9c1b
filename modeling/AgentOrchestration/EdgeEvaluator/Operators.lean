import AgentOrchestration.EdgeEvaluator.Grammar

/-!
# Python's operators on values

What `==`, `<`, `in`, `len` and iteration do with the values an edge condition meets,
and from them the tables `COMPARISON_OPERATORS`, `SET_OPERATORS` and
`CUSTOM_FUNCTIONS`. Where Python raises a `TypeError` the result is `none`.
-/

namespace AgentOrchestration

namespace Value

set_option autoImplicit false

/-! ## Equality -/

def number? : Value → Option PyFloat
  | .bool b => some (((if b then 1 else 0 : ℚ)) : PyFloat)
  | .int i => some ((i : ℚ) : PyFloat)
  | .float x => some x
  | _ => none

mutual

/-- `x == y`. -/
def equal : Value → Value → Bool
  | .list xs, .list ys => equalItems xs ys
  | .dict xs, .dict ys => xs.length = ys.length && equalFields xs ys
  | x, y =>
    match x.number?, y.number? with
    | some a, some b => a = b
    | none, none => x = y
    | _, _ => false

def equalItems : List Value → List Value → Bool
  | [], [] => true
  | x :: xs, y :: ys => equal x y && equalItems xs ys
  | _, _ => false

/-- Every entry of the first dictionary is in the second. -/
def equalFields : List (String × Value) → List (String × Value) → Bool
  | [], _ => true
  | (key, x) :: rest, ys => (ys.lookup key).any (equal x) && equalFields rest ys

end

/-! ## Order -/

inductive OrderOperator where
  | lt | le | gt | ge
  deriving DecidableEq, Repr

def OrderOperator.holds {α : Type} [LinearOrder α] : OrderOperator → α → α → Bool
  | .lt, a, b => a < b
  | .le, a, b => a ≤ b
  | .gt, a, b => b < a
  | .ge, a, b => b ≤ a

mutual

def ordered (operator : OrderOperator) : Value → Value → Option Bool
  | .list xs, .list ys => orderedItems operator xs ys
  | .str s, .str t => some (operator.holds s t)
  | x, y =>
    match x.number?, y.number? with
    | some a, some b => some (operator.holds a b)
    | _, _ => none

def orderedItems (operator : OrderOperator) : List Value → List Value → Option Bool
  | x :: xs, y :: ys => if equal x y then orderedItems operator xs ys else ordered operator x y
  | xs, ys => some (operator.holds xs.length ys.length)

end

/-! ## Containers -/

def iterate? : Value → Option (List Value)
  | .list items => some items
  | .dict fields => some (fields.map fun entry => .str entry.1)
  | .str s => some (s.toList.map fun c => .str (String.ofList [c]))
  | _ => none

/-- `len(value)`. -/
def length? : Value → Option ℕ
  | .list items => some items.length
  | .dict fields => some fields.length
  | .str s => some s.toList.length
  | _ => none

def contains (container item : Value) : Option Bool :=
  match container with
  | .list items => some (items.any (equal item))
  | .str s =>
    match item with
    | .str t => some (decide (t.toList <:+: s.toList))
    | _ => none
  | .dict fields =>
    match item with
    | .str key => some (decide (key ∈ fields.map Prod.fst))
    | .list _ => none
    | .dict _ => none
    | _ => some false
  | _ => none

/-- `any(item in container for item in value)`; stops at the first that is. -/
def anyIn (value container : Value) : Option Bool :=
  value.iterate?.bind fun items => items.anyM (contains container)

/-- `all(item in container for item in value)`; stops at the first that is not. -/
def allIn (value container : Value) : Option Bool :=
  value.iterate?.bind fun items => items.allM (contains container)

end Value

namespace EdgeEvaluator

/-! ## Operators -/

structure Interpreter where
  /-- `getattr(value, name)`, if `hasattr(value, name)`. -/
  getattr : Value → String → Option Value
  /-- `x is y`. -/
  same : Value → Value → Bool

/-- `COMPARISON_AND_SET_OPERATORS`. -/
def BinaryOperator.apply (interpreter : Interpreter) (operator : BinaryOperator) (x y : Value) :
    Option Bool :=
  match operator with
  | .equals | .doubleEquals | .eq => some (x.equal y)
  | .notEquals | .ne | .notEqualsSign => some (!x.equal y)
  | .greater | .gt => x.ordered .gt y
  | .greaterEquals | .ge | .greaterEqualsSign => x.ordered .ge y
  | .less | .lt => x.ordered .lt y
  | .lessEquals | .le | .lessEqualsSign => x.ordered .le y
  | .isIn | .elementSign => y.contains x
  | .notIn | .notElementSign => (y.contains x).map not
  | .is => some (interpreter.same x y)
  | .isNot => some (!interpreter.same x y)
  | .subsetSign => x.allIn y
  | .supersetSign => y.allIn x
  | .intersectSign => x.anyIn y
  | .notIntersectSign => (x.anyIn y).map not

/-! ## Functions -/

/-- `CUSTOM_FUNCTIONS`. -/
inductive CustomFunction where
  | hasAny
  | hasAll
  | anyEquals
  | allEquals
  | anyNonEmpty
  | allNonEmpty
  deriving DecidableEq, Repr

namespace CustomFunction

def all : List CustomFunction := [hasAny, hasAll, anyEquals, allEquals, anyNonEmpty, allNonEmpty]

def name : CustomFunction → String
  | hasAny => "HasAny"
  | hasAll => "HasAll"
  | anyEquals => "AnyEquals"
  | allEquals => "AllEquals"
  | anyNonEmpty => "AnyNonEmpty"
  | allNonEmpty => "AllNonEmpty"

def ofName (name : String) : Option CustomFunction := all.find? fun function => function.name = name

/-- A call; `none` where it raises, also for a wrong number of arguments. -/
def apply : CustomFunction → List Value → Option Bool
  | hasAny, [items, values] => items.anyIn values
  | hasAll, [items, values] => items.allIn values
  | anyEquals, [items, value] => items.iterate?.map fun items => items.any (Value.equal · value)
  | allEquals, [items, value] => items.iterate?.map fun items => items.all (Value.equal · value)
  | anyNonEmpty, [items] => items.iterate?.map fun items => items.any Value.truthy
  | allNonEmpty, [.list items] => some (!items.isEmpty && items.all Value.truthy)
  | allNonEmpty, [_] => some false
  | _, _ => none

end CustomFunction

end EdgeEvaluator

end AgentOrchestration
