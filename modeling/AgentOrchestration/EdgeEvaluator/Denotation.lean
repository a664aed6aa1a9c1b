import AgentOrchestration.EdgeEvaluator.Evaluation

/-!
# What edge conditions mean

The meaning of a condition, given term by term: `Term.denote` evaluates every operand
and combines the values, and a term without a value has none as a whole. The
evaluator works on the data a term is stored as and does not see terms.
-/

namespace AgentOrchestration

namespace EdgeEvaluator

set_option autoImplicit false

/-! ## Denotation -/

section

variable (interpreter : Interpreter) (context : Value)

def entryOf (name : String) (item : Value) : Value :=
  ((item.asDict?.bind fun fields => fields.lookup name).or (interpreter.getattr item name)).getD
    .null

variable (value : Value)

def entry (name : String) : Option Value :=
  match value with
  | .dict fields => fields.lookup name
  | .list items => some (.list (items.map (entryOf interpreter name)))
  | _ => interpreter.getattr value name

def nth (index : ℕ) : Option Value :=
  match value with
  | .list items => items[index]?
  | _ => none

def Segment.denote (segment : Segment) : Option Value :=
  (entry interpreter value segment.name.name).bind fun value => segment.indices.foldlM nth value

/-- The value under a path; there is none in `None`. -/
def Path.denote (path : Path) : Option Value :=
  if context = .null then none else path.segments.foldlM (Segment.denote interpreter) context

def Literal.denote : Literal → Value
  | .int i => .int i
  | .float x => .float x
  | .str s => .str s
  | .bool b => .bool b
  | .none => .null

def ListItem.denote : ListItem → Option Value
  | .literal atom => some atom.denote
  | .path property => property.denote interpreter context

/-- Whether a chain of operands is true. -/
def Connective.combine : Connective → List Value → Bool
  | .and, values => values.all Value.truthy
  | .or, values => values.any Value.truthy

mutual

/-- The value of a term. A comparison of more than two operands means nothing. -/
def Term.denote : Term → Option Value
  | .literal atom => some atom.denote
  | .path property => property.denote interpreter context
  | .len property =>
    (property.denote interpreter context).bind fun value =>
      value.length?.map fun length => .int length
  | .list items => (items.mapM (ListItem.denote interpreter context)).map .list
  | .call function first rest => do
      let first ← first.denote
      let others ← denoteAll rest
      let function ← CustomFunction.ofName function.name
      (function.apply (first :: others)).map .bool
  | .compare left operator right rest => do
      let left ← left.denote
      let right ← right.denote
      if rest = [] then (operator.apply interpreter left right).map .bool else none
  | .not operand => do
      let operand ← operand.denote
      pure (.bool !operand.truthy)
  | .chain connective first second rest => do
      let first ← first.denote
      let second ← second.denote
      let others ← denoteAll rest
      pure (.bool (connective.combine (first :: second :: others)))

def denoteAll : List Term → Option (List Value)
  | [] => some []
  | term :: rest => do
      let first ← term.denote
      let others ← denoteAll rest
      pure (first :: others)

end

end

/-! ## Subterms -/

def ListItem.toTerm : ListItem → Term
  | .literal atom => .literal atom
  | .path property => .path property

def Term.parts : Term → List Term
  | .literal _ | .path _ | .len _ => []
  | .list items => items.map ListItem.toTerm
  | .call _ first rest => first :: rest
  | .compare left _ right rest => left :: right :: rest.map Prod.snd
  | .not operand => [operand]
  | .chain _ first second rest => first :: second :: rest

inductive Term.IsSubterm : Term → Term → Prop where
  | self (term : Term) : IsSubterm term term
  | part {inner outer whole : Term} (sub : IsSubterm inner outer) (member : outer ∈ whole.parts) :
      IsSubterm inner whole

variable {interpreter : Interpreter} {context : Value}

section

theorem denoteAll_eq_none {terms term} (mem : term ∈ terms)
    (none : term.denote interpreter context = none) :
    denoteAll interpreter context terms = .none := by
  induction terms with
  | nil => cases mem
  | cons first rest ih =>
    rcases List.mem_cons.mp mem with rfl | later
    · simp [denoteAll, none]
    · cases first.denote interpreter context <;> simp [denoteAll, ih later]

theorem mapM_denote_eq_none {items : List ListItem} {item : ListItem} (mem : item ∈ items)
    (none : item.denote interpreter context = none) :
    items.mapM (ListItem.denote interpreter context) = .none := by
  induction items with
  | nil => cases mem
  | cons first rest ih =>
    rw [List.mapM_cons]
    rcases List.mem_cons.mp mem with rfl | later
    · simp [none]
    · cases first.denote interpreter context <;> simp [ih later]

theorem denote_toTerm (item : ListItem) :
    item.toTerm.denote interpreter context = item.denote interpreter context := by
  cases item <;> simp [ListItem.toTerm, Term.denote, ListItem.denote]

theorem denote_eq_none_of_part {term part : Term} (mem : part ∈ term.parts)
    (none : part.denote interpreter context = none) :
    term.denote interpreter context = .none := by
  cases term with
  | literal atom | path property | len property => cases mem
  | list items =>
    obtain ⟨item, inside, rfl⟩ := List.mem_map.mp mem
    rw [denote_toTerm] at none
    simp [Term.denote, mapM_denote_eq_none inside none]
  | call fn first rest =>
    rcases List.mem_cons.mp mem with rfl | later
    · simp [Term.denote, none]
    · cases first.denote interpreter context <;>
        simp [Term.denote, denoteAll_eq_none later none]
  | compare left op right rest =>
    rcases List.mem_cons.mp mem with rfl | later
    · simp [Term.denote, none]
    · rcases List.mem_cons.mp later with rfl | further
      · simp [Term.denote, none]
      · have more : rest ≠ [] := by
          rintro rfl
          cases further
        simp [Term.denote, more]
  | not operand =>
    rw [Term.parts, List.mem_singleton] at mem
    subst mem
    simp [Term.denote, none]
  | chain conn first second rest =>
    rcases List.mem_cons.mp mem with rfl | later
    · simp [Term.denote, none]
    · rcases List.mem_cons.mp later with rfl | further
      · simp [Term.denote, none]
      · simp [Term.denote, denoteAll_eq_none further none]

theorem denote_eq_none_of_subterm {inner whole : Term} (sub : inner.IsSubterm whole)
    (none : inner.denote interpreter context = none) :
    whole.denote interpreter context = .none := by
  induction sub with
  | self => exact none
  | part sub mem ih => exact denote_eq_none_of_part mem ih

end

/-! ## The terms considered -/

mutual

/-- A term of literals other than `none`, paths, lengths, lists, calls of custom functions, single
comparisons other than of identity, negations and chains, in which no string is the name of a
custom function. -/
def Term.Evaluable : Term → Prop
  | .literal (.str s) => CustomFunction.ofName s = none
  | .literal .none => False
  | .literal _ => True
  | .path _ => True
  | .len _ => True
  | .list items => ListItem.literal .none ∉ items
  | .call function first rest =>
    (CustomFunction.ofName function.name).isSome ∧ first.Evaluable ∧ EvaluableAll rest
  | .compare left operator right rest =>
    left.Evaluable ∧ right.Evaluable ∧ operator ≠ .is ∧ operator ≠ .isNot ∧ rest = []
  | .not operand => operand.Evaluable
  | .chain _ first second rest => first.Evaluable ∧ second.Evaluable ∧ EvaluableAll rest

def EvaluableAll : List Term → Prop
  | [] => True
  | term :: rest => term.Evaluable ∧ EvaluableAll rest

end

/-! ## Agreement -/

/-- The errors that `is_true` reports as `edge_evaluation_error`. -/
def EvalError.Surfaces (error : EvalError) : Prop :=
  error = .unexpected ∨ ∃ errors, error = evaluationError errors

/-- A computation returns a value if there is one, and fails if there is none. -/
def Agrees {α : Type} (result : Except EvalError α) : Option α → Prop
  | some value => result = .ok value
  | none => ∃ error, result = .error error ∧ error.Surfaces

namespace Agrees

variable {α β : Type}

theorem ok (val : α) : Agrees (.ok val) (some val) := rfl

theorem failed {err} (surfaces : err.Surfaces) : Agrees (.error err) (none : Option α) :=
  ⟨err, rfl, surfaces⟩

theorem unexpected : Agrees (.error .unexpected) (none : Option α) := failed (.inl rfl)

theorem evaluation (errors : List String) :
    Agrees (.error (evaluationError errors)) (none : Option α) := failed (.inr ⟨errors, rfl⟩)

theorem bind {res : Except EvalError α} {val : Option α} (here : Agrees res val)
    {next : α → Except EvalError β} {then_ : α → Option β}
      (later : ∀ a, Agrees (next a) (then_ a)) :
    Agrees (res >>= next) (val.bind then_) := by
  cases val with
  | some a =>
    cases here
    exact later a
  | none =>
    obtain ⟨err, rfl, surfaces⟩ := here
    exact failed surfaces

theorem map {res val} (here : Agrees res val) (f : α → β) : Agrees (f <$> res) (val.map f) := by
  cases val with
  | some a =>
    cases here
    exact ok (f a)
  | none =>
    obtain ⟨err, rfl, surfaces⟩ := here
    exact failed surfaces

theorem elim (val : Option α) : Agrees (val.elim (.error (evaluationError [])) .ok) val := by
  cases val with
  | some a => exact ok a
  | none => exact evaluation []

theorem foldlM {γ : Type} {next : α → γ → Except EvalError α} {then_ : α → γ → Option α}
    (each : ∀ a item, Agrees (next a item) (then_ a item)) :
    ∀ (items : List γ) (a : α), Agrees (items.foldlM next a) (items.foldlM then_ a) := by
  intro items
  induction items with
  | nil => exact fun a => ok a
  | cons item rest ih =>
    intro a
    rw [List.foldlM_cons, List.foldlM_cons]
    exact (each a item).bind ih

end Agrees

/-! ## Paths, lengths and lists -/

section

variable (interpreter : Interpreter) (context : Value) (name : String)

theorem project_str (item : Value) :
    project interpreter (.str name) item = .ok (entryOf interpreter name item) := by
  cases item with
  | dict fields =>
    simp only [project, entryOf, Value.asDict?, Option.bind_some]
    cases fields.lookup name <;> rfl
  | _ => rfl

theorem mapM_project (items : List Value) :
    items.mapM (project interpreter (.str name)) = .ok (items.map (entryOf interpreter name)) := by
  induction items with
  | nil => rfl
  | cons item rest ih =>
    rw [List.mapM_cons, project_str, ih]
    rfl

variable (value : Value)

theorem agrees_follow (name : String) :
    Agrees (follow interpreter value (.str name)) (entry interpreter value name) := by
  cases value with
  | dict fields => exact .elim _
  | list items =>
    rw [follow, mapM_project]
    exact .ok _
  | _ => exact .elim _

theorem agrees_subscript (idx : ℕ) : Agrees (subscript value (.int idx)) (nth value idx) := by
  cases value with
  | list items =>
    have eq : itemAt items (idx : ℤ) = items[idx]? := by simp [itemAt]
    rw [subscript, eq]
    exact .elim _
  | _ => exact .evaluation []

theorem agrees_segment (segment : Segment) :
    Agrees (followSegment interpreter value segment.toSerializable)
      (segment.denote interpreter value) := by
  refine (agrees_follow interpreter value segment.name.name).bind fun entry => ?_
  rw [List.foldlM_map]
  exact .foldlM agrees_subscript segment.indices entry

variable (path : Path)

theorem agrees_path :
    Agrees (eval interpreter context path.toSerializable) (path.denote interpreter context) := by
  have data : eval interpreter context path.toSerializable =
      resolve interpreter (.list (path.segments.map Segment.toSerializable)) context := by
    simp [Path.toSerializable, eval, hasType, evalPath, List.lookup_cons]
  rw [data, resolve, Path.denote]
  split
  · exact .evaluation []
  · simp only [Value.iterate?, List.foldlM_map]
    exact .foldlM (agrees_segment interpreter) path.segments context

theorem agrees_len : Agrees (eval interpreter context (Term.len path).toSerializable)
      ((Term.len path).denote interpreter context) := by
  have data : eval interpreter context (Term.len path).toSerializable =
      eval interpreter context path.toSerializable >>= lengthOf := by
    simp [Term.toSerializable, Path.toSerializable, eval, hasType, evalLen, List.lookup_cons]
  rw [data, Term.denote]
  refine (agrees_path interpreter context path).bind fun val => ?_
  unfold lengthOf
  cases val.length? with
  | some length => exact .ok _
  | none => exact .evaluation []

theorem agrees_item {item : ListItem} (val : item ≠ .literal .none) :
    Agrees (eval interpreter context item.toSerializable) (item.denote interpreter context) := by
  cases item with
  | path property => exact agrees_path interpreter context property
  | literal atom =>
    cases atom with
    | none => exact absurd rfl val
    | _ =>
      simp only [ListItem.toSerializable, Literal.toSerializable, eval]
      exact .ok _

variable {items : List ListItem}

theorem agrees_items (values : ListItem.literal .none ∉ items) :
    Agrees (evalAll interpreter context (items.map ListItem.toSerializable))
      (items.mapM (ListItem.denote interpreter context)) := by
  induction items with
  | nil =>
    simp only [List.map_nil, evalAll]
    exact .ok []
  | cons item rest ih =>
    rw [List.mem_cons, not_or] at values
    simp only [List.map_cons, evalAll, List.mapM_cons]
    refine (agrees_item interpreter context (Ne.symm values.1)).bind fun first => ?_
    exact (ih values.2).bind fun others => .ok _

theorem agrees_list (values : ListItem.literal .none ∉ items) :
    Agrees (eval interpreter context (Term.list items).toSerializable)
      ((Term.list items).denote interpreter context) := by
  have data : eval interpreter context (Term.list items).toSerializable =
      Value.list <$> evalAll interpreter context (items.map ListItem.toSerializable) := by
    simp [Term.toSerializable, eval, hasType, evalValues]
  rw [data, Term.denote]
  exact (agrees_items interpreter context values).map Value.list

/-! ## Applications -/

theorem agrees_callFunction (fn : CustomFunction) (args : List Value) :
    Agrees (callFunction fn args) ((fn.apply args).map .bool) := by
  unfold callFunction
  cases fn.apply args with
  | some res => exact .ok _
  | none => exact .unexpected

variable (operator : BinaryOperator)

theorem operatorName_symbol : operatorName (.str operator.symbol) = .ok operator.symbol := by
  cases operator <;> rfl

theorem agrees_applyOperator (left right : Value) :
    Agrees (applyOperator interpreter operator.symbol left right)
      ((operator.apply interpreter left right).map .bool) := by
  unfold applyOperator
  rw [BinaryOperator.ofSymbol_symbol]
  dsimp only
  cases operator.apply interpreter left right with
  | some res => exact .ok _
  | none => exact .evaluation _

def Connective.join : Connective → Bool → Bool → Bool
  | .and, a, b => a && b
  | .or, a, b => a || b

variable (connective : Connective)

theorem Connective.combine_cons (val : Value) (values : List Value) :
    connective.combine (val :: values) =
      connective.join val.truthy (connective.combine values) := by
  cases connective <;> rfl

theorem Connective.join_assoc (a b c : Bool) :
    connective.join (connective.join a b) c = connective.join a (connective.join b c) := by
  cases connective
  · exact Bool.and_assoc a b c
  · exact Bool.or_assoc a b c

theorem operatorName_connective : operatorName (.str connective.symbol) =
    .ok connective.symbol := by
  cases connective <;> rfl

theorem connect_symbol (left right : Value) : connect connective.symbol left right =
      .ok (.bool (connective.join left.truthy right.truthy)) := by
  cases connective <;> rfl

theorem applyOperator_connective (left right : Value) :
    applyOperator interpreter connective.symbol left right =
      .ok (.bool (connective.join left.truthy right.truthy)) := by
  cases connective <;> rfl

theorem functionOf_toSerializable {term : Term} (evaluable : term.Evaluable) :
    functionOf term.toSerializable = none := by
  cases term with
  | literal atom =>
    cases atom with
    | str s => simpa [Term.Evaluable, Term.toSerializable, Literal.toSerializable, functionOf]
        using evaluable
    | none => simp [Term.Evaluable] at evaluable
    | _ => rfl
  | path property => rfl
  | _ => simp [Term.toSerializable, functionOf]

theorem evalChain_cons (res item : Value) (right : Evaluated) (rest op) :
    evalChain res ((.str connective.symbol, op) :: (item, right) :: rest) =
      right >>= fun right =>
        evalChain (.bool (connective.join res.truthy right.truthy)) rest := by
  rw [evalChain, operatorName_connective]
  cases right with
  | error err => rfl
  | ok val =>
    change connect connective.symbol res val >>= _ = _
    rw [connect_symbol]
    rfl

/-- A list that starts like a chain is evaluated from its first two operands on. -/
theorem evalList_connective {first second left op right rest} (unknown : functionOf first = none) :
    evalList interpreter
        ((first, left) :: (.str connective.symbol, op) :: (second, right) :: rest) =
      left >>= fun left => right >>= fun right =>
        evalChain (.bool (connective.join left.truthy right.truthy)) rest := by
  cases rest with
  | nil =>
    simp only [evalList, unknown, operatorName_connective, evalChain,
      ← applyOperator_connective interpreter connective]
    rfl
  | cons item others => simp only [evalList, unknown, evalChain_cons]

/-! ## Terms -/

mutual

/-- **Evaluating the data a term is stored as gives the value of the term.** -/
theorem agrees_eval : ∀ term : Term, term.Evaluable →
    Agrees (eval interpreter context term.toSerializable) (term.denote interpreter context)
  | .literal atom, evaluable => by
    cases atom with
    | none => exact absurd evaluable (by simp [Term.Evaluable])
    | _ =>
      simp only [Term.toSerializable, Literal.toSerializable, eval, Term.denote]
      exact .ok _
  | .path property, _ => agrees_path interpreter context property
  | .len property, _ => agrees_len interpreter context property
  | .list items, evaluable => agrees_list interpreter context (by
      simpa only [Term.Evaluable] using evaluable)
  | .call fn first rest, evaluable => by
    simp only [Term.Evaluable] at evaluable
    obtain ⟨known, evaluableFirst, evaluableRest⟩ := evaluable
    obtain ⟨custom, found⟩ := Option.isSome_iff_exists.mp known
    simp only [Term.toSerializable, eval, evalEach, evalList, functionOf, found, List.mapM_cons,
      bind_assoc, pure_bind, Term.denote]
    refine (agrees_eval first evaluableFirst).bind fun val => ?_
    refine (agrees_arguments rest evaluableRest).bind fun others => ?_
    exact agrees_callFunction custom (val :: others)
  | .compare left op right rest, evaluable => by
    simp only [Term.Evaluable] at evaluable
    obtain ⟨evaluableLeft, evaluableRight, -, -, rfl⟩ := evaluable
    simp only [Term.toSerializable, serializeComparisons, eval, evalEach, evalList,
      functionOf_toSerializable evaluableLeft, operatorName_symbol, Term.denote]
    refine (agrees_eval left evaluableLeft).bind fun val => ?_
    refine (agrees_eval right evaluableRight).bind fun other => ?_
    exact agrees_applyOperator interpreter op val other
  | .not operand, evaluable => by
    simp only [Term.Evaluable] at evaluable
    have name : functionOf (.str "not") = none := rfl
    have negates : isNegation (.str "not") = true := rfl
    simp only [Term.toSerializable, eval, evalEach, evalList, name, negates, if_true, Term.denote]
    exact (agrees_eval operand evaluable).bind fun val => .ok _
  | .chain conn first second rest, evaluable => by
    simp only [Term.Evaluable] at evaluable
    obtain ⟨evaluableFirst, evaluableSecond, evaluableRest⟩ := evaluable
    simp only [Term.toSerializable, eval, evalEach,
      evalList_connective interpreter conn (functionOf_toSerializable evaluableFirst),
      Term.denote]
    refine (agrees_eval first evaluableFirst).bind fun val => ?_
    refine (agrees_eval second evaluableSecond).bind fun other => ?_
    have loop := agrees_operands conn rest evaluableRest (conn.join val.truthy other.truthy)
    simp only [Connective.join_assoc, ← Connective.combine_cons, Option.map_eq_bind] at loop
    exact loop

theorem agrees_arguments : ∀ terms : List Term, EvaluableAll terms →
    Agrees ((evalEach interpreter context (serializeArguments terms)).mapM Prod.snd)
      (denoteAll interpreter context terms)
  | [], _ => by
    simp only [serializeArguments, evalEach, denoteAll]
    exact .ok []
  | term :: rest, evaluable => by
    simp only [EvaluableAll] at evaluable
    simp only [serializeArguments, evalEach, List.mapM_cons, denoteAll]
    refine (agrees_eval term evaluable.1).bind fun val => ?_
    exact (agrees_arguments rest evaluable.2).bind fun others => .ok _

theorem agrees_operands (conn : Connective) : ∀ terms : List Term, EvaluableAll terms →
    ∀ res : Bool,
      Agrees (evalChain (.bool res) (evalEach interpreter context (serializeOperands conn terms)))
        ((denoteAll interpreter context terms).map fun values =>
          .bool (conn.join res (conn.combine values)))
  | [], _, res => by
    have unit : conn.join res (conn.combine []) = res := by
      cases conn <;> cases res <;> rfl
    simp only [serializeOperands, evalEach, evalChain, denoteAll, Option.map_some, unit]
    exact .ok _
  | term :: rest, evaluable, res => by
    simp only [EvaluableAll] at evaluable
    have split : ((denoteAll interpreter context (term :: rest)).map fun values =>
        Value.bool (conn.join res (conn.combine values))) =
        (term.denote interpreter context).bind fun val =>
          (denoteAll interpreter context rest).map fun values =>
            .bool (conn.join (conn.join res val.truthy) (conn.combine values)) := by
      simp only [denoteAll]
      cases term.denote interpreter context <;> cases denoteAll interpreter context rest <;>
        simp [Connective.combine_cons, Connective.join_assoc]
    simp only [serializeOperands, evalEach, evalChain_cons]
    rw [split]
    refine (agrees_eval term evaluable.1).bind fun val => ?_
    exact agrees_operands conn rest evaluable.2 (conn.join res val.truthy)

end

end

/-! ## `is_true` -/

theorem Term.toSerializable_ne_null (term : Term) : term.toSerializable ≠ .null := by
  cases term with
  | literal atom => cases atom <;> simp [toSerializable, Literal.toSerializable]
  | path property => simp [toSerializable, Path.toSerializable]
  | _ => simp [toSerializable]

section

variable {term : Term} (condition : String)

theorem isTrue_of_denote {val} (evaluable : term.Evaluable)
    (denotes : term.denote interpreter context = some val) :
    isTrue interpreter condition context term.toSerializable =
      match val with
      | .bool res => .ok res
      | _ => .error { message := "edge_evaluation_error"
                      errors := ["result_not_boolean", "edge_evaluation_failed"] } := by
  have agrees := agrees_eval interpreter context term evaluable
  rw [denotes] at agrees
  have evaluated : eval interpreter context term.toSerializable = .ok val := agrees
  have expression : expressionOf condition term.toSerializable = .ok term.toSerializable :=
    if_pos term.toSerializable_ne_null
  simp only [isTrue, expression, bind, Except.bind, evaluated]
  cases val <;> rfl

theorem isTrue_of_not_denote (evaluable : term.Evaluable)
    (undefined : term.denote interpreter context = none) :
    ∃ err, isTrue interpreter condition context term.toSerializable = .error err ∧
      err.message = "edge_evaluation_error" := by
  have agrees := agrees_eval interpreter context term evaluable
  rw [undefined] at agrees
  obtain ⟨err, failed, surfaces⟩ := agrees
  have expression : expressionOf condition term.toSerializable = .ok term.toSerializable :=
    if_pos term.toSerializable_ne_null
  simp only [isTrue, expression, bind, Except.bind, failed]
  rcases surfaces with rfl | ⟨errors, rfl⟩ <;> exact ⟨_, rfl, rfl⟩

end

/-- **The evaluator computes the value of a condition.** Evaluating the stored data returns
exactly the value the term denotes. `is_true` raises `edge_evaluation_error` exactly when some
subterm has no value or the value is not a boolean, and returns that boolean otherwise. -/
theorem eval_and_isTrue (interpreter : Interpreter) (condition : String) (context : Value)
    (term : Term) (evaluable : term.Evaluable) :
    (∀ value, eval interpreter context term.toSerializable = .ok value ↔
        term.denote interpreter context = some value) ∧
      ((∃ error, isTrue interpreter condition context term.toSerializable = .error error ∧
          error.message = "edge_evaluation_error") ↔
        (∃ inner : Term, inner.IsSubterm term ∧ inner.denote interpreter context = none) ∨
          ∃ value, term.denote interpreter context = some value ∧ ∀ b, value ≠ .bool b) ∧
      ∀ b, isTrue interpreter condition context term.toSerializable = .ok b ↔
        term.denote interpreter context = some (.bool b) := by
  have agrees := agrees_eval interpreter context term evaluable
  cases denotes : term.denote interpreter context with
  | none =>
    rw [denotes] at agrees
    obtain ⟨error, failed, -⟩ := agrees
    obtain ⟨reported, raised, message⟩ := isTrue_of_not_denote condition evaluable denotes
    refine ⟨fun value => by simp [failed], ?_, fun b => by simp [raised]⟩
    exact ⟨fun _ => .inl ⟨term, .self term, denotes⟩, fun _ => ⟨reported, raised, message⟩⟩
  | some value =>
    rw [denotes] at agrees
    have evaluated : eval interpreter context term.toSerializable = .ok value := agrees
    have reported := isTrue_of_denote condition evaluable denotes
    have total (inner : Term) (sub : inner.IsSubterm term) :
        inner.denote interpreter context ≠ none := by
      intro undefined
      rw [denote_eq_none_of_subterm sub undefined] at denotes
      cases denotes
    refine ⟨fun other => by simp [evaluated], ?_, ?_⟩
    · rw [reported]
      constructor
      · rintro ⟨error, raised, -⟩
        refine .inr ⟨value, rfl, ?_⟩
        rintro b rfl
        cases raised
      · rintro (⟨inner, sub, undefined⟩ | ⟨other, same, boolean⟩)
        · exact absurd undefined (total inner sub)
        · cases same
          cases value with
          | bool b => exact absurd rfl (boolean b)
          | _ => exact ⟨_, rfl, rfl⟩
    · intro b
      rw [reported]
      cases value <;> simp

def plainInterpreter : Interpreter := { getattr := fun _ _ => none, same := fun x y => x.equal y }

/-- `HasAny(tags, ["vip"]) and not len(items) > 2`. -/
def vipCondition : Term :=
  .chain .and (.call ⟨"HasAny", by decide⟩ (.path ⟨⟨⟨"tags", by decide⟩, []⟩, []⟩)
      [.list [.literal (.str "vip")]])
    (.not (.compare (.len ⟨⟨⟨"items", by decide⟩, []⟩, []⟩) .greater (.literal (.int 2)) []))
    []

theorem vipCondition_isTrue : vipCondition.Evaluable ∧ isTrue plainInterpreter ""
        (.dict [("tags", .list [.str "new", .str "vip"]), ("items", .list [.int 1])])
        vipCondition.toSerializable = .ok true := by
  have evaluable : vipCondition.Evaluable := by
    simp only [vipCondition, Term.Evaluable, EvaluableAll]
    decide
  refine ⟨evaluable, ((eval_and_isTrue plainInterpreter "" _ _ evaluable).2.2 true).mpr ?_⟩
  decide +kernel

end EdgeEvaluator

end AgentOrchestration
