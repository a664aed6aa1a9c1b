import AgentOrchestration.EdgeEvaluator.Operators

/-!
# The edge evaluator

`EdgeEvaluator._eval` walks over the data a condition was compiled to. It tells calls,
negations, comparisons and chains apart by the length of a list and by the strings in
it. `isTrue` turns every failure into a `DomainValidationException`.
-/

namespace AgentOrchestration

namespace EdgeEvaluator

set_option autoImplicit false

/-! ## Errors -/

/-- A `DomainValidationException`: its message and the `error` of each of its errors. -/
structure DomainError where
  message : String
  errors : List String
  deriving DecidableEq, Repr

/-- What evaluation raises. -/
inductive EvalError where
  | domain (error : DomainError)
  /-- An exception other than a `DomainValidationException`. -/
  | unexpected
  deriving DecidableEq, Repr

/-- `DomainValidationException(message="edge_evaluation_error")`, with errors. -/
def evaluationError (errors : List String) : EvalError :=
  .domain { message := "edge_evaluation_error", errors }

/-- `DomainValidationException(message="edge_condition_not_supported")`. -/
def notSupported : EvalError :=
  .domain { message := "edge_condition_not_supported", errors := ["unsupported_operator"] }

/-- The result of an evaluation. -/
abbrev Evaluated := Except EvalError Value

/-! ## Paths -/

section

variable (interpreter : Interpreter)

/-- The entry of one item in a projection: its key, its attribute, or `None`. What raises there
is caught. -/
def project (name item : Value) : Evaluated :=
  match name with
  | .str key =>
    match item with
    | .dict fields =>
      .ok ((fields.lookup key).getD ((interpreter.getattr item key).getD .null))
    | _ => .ok ((interpreter.getattr item key).getD .null)
  | _ => .error (evaluationError [])

/-- Follow a name: into a dictionary, through a list, or to an attribute. -/
def follow (value name : Value) : Evaluated :=
  match value with
  | .dict fields =>
    match name with
    | .str key => (fields.lookup key).elim (.error (evaluationError [])) .ok
    -- not hashable
    | .list _ => .error .unexpected
    | .dict _ => .error .unexpected
    | _ => .error (evaluationError [])
  | .list items => .list <$> items.mapM (project interpreter name)
  | _ =>
    match name with
    | .str key => (interpreter.getattr value key).elim (.error (evaluationError [])) .ok
    | _ => .error .unexpected

/-- `items[index]` for a number; negative numbers count from the end. -/
def itemAt (items : List Value) (index : ℤ) : Option Value :=
  if 0 ≤ index then items[index.toNat]?
  else if -(items.length : ℤ) ≤ index then items[(items.length + index).toNat]?
  else none

/-- `val[idx]`, where the value has to be a list. -/
def subscript (value index : Value) : Evaluated :=
  match value, index with
  | .list items, .int i => (itemAt items i).elim (.error (evaluationError [])) .ok
  | .list items, .bool b =>
    (itemAt items (if b then 1 else 0)).elim (.error (evaluationError [])) .ok
  | _, _ => .error (evaluationError [])

/-- `segment[0]` and `segment[1:]`; `none` where taking the first item raises. -/
def segmentParts : Value → Option (Value × List Value)
  | .list (name :: indices) => some (name, indices)
  | .str s =>
    match s.toList with
    | [] => none
    | c :: rest => some (.str (String.ofList [c]), rest.map fun c => .str (String.ofList [c]))
  | _ => none

def followSegment (value segment : Value) : Evaluated :=
  match segmentParts segment with
  | none => .error .unexpected
  | some (name, indices) => do
      let entry ← follow interpreter value name
      indices.foldlM subscript entry

def resolve (segments context : Value) : Evaluated :=
  if context = .null then .error (evaluationError [])
  else
    match segments.iterate? with
    | none => .error .unexpected
    | some segments => segments.foldlM (followSegment interpreter) context

/-- `len(...)`, with what it raises caught. -/
def lengthOf (value : Value) : Evaluated :=
  match value.length? with
  | some n => .ok (.int n)
  | none => .error (evaluationError [])

/-! ## Applications -/

/-- `node.lower()` of an item that stands where an operator is expected. -/
def operatorName : Value → Except EvalError String
  | .str s => .ok (String.ofList (s.toList.map Char.toLower))
  | _ => .error .unexpected

/-- A connective on truth values. -/
def connect (operator : String) (left right : Value) : Evaluated :=
  if operator = "and" then .ok (.bool (left.truthy && right.truthy))
  else if operator = "or" then .ok (.bool (left.truthy || right.truthy))
  else .error notSupported

def applyOperator (operator : String) (left right : Value) : Evaluated :=
  match BinaryOperator.ofSymbol operator with
  | some operator =>
    match operator.apply interpreter left right with
    | some result => .ok (.bool result)
    | none => .error (evaluationError ["type_error_on_comparison"])
  | none => connect operator left right

/-- `CUSTOM_FUNCTIONS[func_name](*args)`. -/
def callFunction (function : CustomFunction) (arguments : List Value) : Evaluated :=
  match function.apply arguments with
  | some result => .ok (.bool result)
  | none => .error .unexpected

def evalChain (result : Value) : List (Value × Evaluated) → Evaluated
  | [] => .ok result
  | [_] => .error .unexpected
  | (operator, _) :: (_, right) :: rest => do
      let operator ← operatorName operator
      let right ← right
      let result ← connect operator result right
      evalChain result rest

def functionOf : Value → Option CustomFunction
  | .str name => CustomFunction.ofName name
  | _ => none

/-- The first item of a list of two negates the second. -/
def isNegation : Value → Bool
  | .str s => s.toList.map Char.toLower = "not".toList
  | _ => false

/-- What a list evaluates to, given its items and what they evaluate to. -/
def evalList : List (Value × Evaluated) → Evaluated
  | [] => .error .unexpected
  | (first, left) :: rest =>
    match functionOf first with
    | some function => do
        let arguments ← rest.mapM Prod.snd
        callFunction function arguments
    | none =>
      match rest with
      | [(second, operand)] =>
        if isNegation first then do
          let operand ← operand
          pure (.bool !operand.truthy)
        else do
          let result ← left
          evalChain result [(second, operand)]
      | [(operator, _), (_, right)] => do
          let left ← left
          let operator ← operatorName operator
          let right ← right
          applyOperator interpreter operator left right
      | rest => do
          let result ← left
          evalChain result rest

/-! ## Evaluation -/

/-- `node.get(key)` is a string. -/
def hasType (fields : Fields) (type : String) : Bool := fields.lookup "__type__" = some (.str type)

def evalPath (context : Value) (fields : Fields) : Evaluated :=
  resolve interpreter ((fields.lookup "segments").getD (.list [])) context

def evalLen (context : Value) (fields : Fields) : Evaluated :=
  match (fields.lookup "value").getD .null with
  | .dict path =>
    if hasType path "path" then do
      let value ← evalPath interpreter context path
      lengthOf value
    else lengthOf (.dict path)
  | value => lengthOf value

mutual

def eval (context : Value) : Value → Evaluated
  | .dict fields =>
    if hasType fields "path" then evalPath interpreter context fields
    else if hasType fields "len" then evalLen interpreter context fields
    else if hasType fields "list" then .list <$> evalValues context fields
    else .error (evaluationError [])
  | .list items => evalList interpreter (evalEach context items)
  | node => .ok node

def evalEach (context : Value) : List Value → List (Value × Evaluated)
  | [] => []
  | item :: rest => (item, eval context item) :: evalEach context rest

def evalAll (context : Value) : List Value → Except EvalError (List Value)
  | [] => .ok []
  | item :: rest => do
      let first ← eval context item
      let others ← evalAll context rest
      pure (first :: others)

/-- `[_eval(v) for v in node.get("values", [])]`. -/
def evalValues (context : Value) : List (String × Value) → Except EvalError (List Value)
  | [] => .ok []
  | (key, .list items) :: rest =>
    if key = "values" then evalAll context items else evalValues context rest
  | (key, value) :: rest =>
    if key = "values" then value.iterate?.elim (.error .unexpected) .ok
    else evalValues context rest

end

/-! ## `is_true` -/

/-- The error that `is_true` adds. -/
def DomainError.failed (error : DomainError) : DomainError :=
  { error with errors := error.errors ++ ["edge_evaluation_failed"] }

/-- The expression that is evaluated: the one given, unless it is `None`. -/
def expressionOf (condition : String) (compiledCondition : Value) : Evaluated :=
  if compiledCondition ≠ .null then .ok compiledCondition
  else
    match compileCondition condition with
    | some compiled => .ok compiled
    | none =>
      .error (.domain { message := "edge_condition_invalid",
                        errors := ["condition_compile_failed"] })

def isTrue (condition : String) (context compiledCondition : Value) : Except DomainError Bool :=
  match (do
    let expression ← expressionOf condition compiledCondition
    eval interpreter context expression) with
  | .ok (.bool result) => .ok result
  | .ok _ =>
    .error { message := "edge_evaluation_error"
             errors := ["result_not_boolean", "edge_evaluation_failed"] }
  | .error (.domain error) => .error error.failed
  | .error .unexpected =>
    .error { message := "edge_evaluation_error", errors := ["unexpected_exception"] }

end

end EdgeEvaluator

end AgentOrchestration
