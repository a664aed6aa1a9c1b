import AgentOrchestration.EdgeEvaluator.Evaluation

/-!
# What the stored form of a condition tells

Paths, lengths and lists are stored with a `__type__`. Calls and operator applications
are stored as plain lists, and so are their operators and function names, as strings
among strings.

So the stored form tells a condition up to three readings: `none` as the string of that
name, a negation as a call of `not`, and an infix application whose first operand is an
identifier in quotes as a call of that function. `Term.asCalls` reads a term in this way.
It is what `readBack` makes of the stored form, so that two conditions are stored alike
exactly when they read alike.
-/

namespace AgentOrchestration

namespace EdgeEvaluator

set_option autoImplicit false

/-! ## Terms read as calls -/

/-- The comparisons behind a first operand as they are spelled, operators being strings. -/
def interleaveComparisons : List (BinaryOperator × Term) → List Term
  | [] => []
  | (operator, operand) :: rest =>
    .literal (.str operator.symbol) :: operand :: interleaveComparisons rest

/-- The operands of a chain behind the first as they are spelled. -/
def interleaveOperands (connective : Connective) : List Term → List Term
  | [] => []
  | operand :: rest =>
    .literal (.str connective.symbol) :: operand :: interleaveOperands connective rest

/-- The call that a spelling starting with an identifier in quotes looks like. -/
def namedCall : List Term → Option Term
  | .literal (.str name) :: first :: rest =>
    if wellFormed : isIdentifier name.toList = true then
      some (.call ⟨name, wellFormed⟩ first rest)
    else none
  | _ => none

/-- `none` as the string of that name. -/
def Literal.quoted : Literal → Literal
  | .none => .str "none"
  | atom => atom

def ListItem.quoted : ListItem → ListItem
  | .literal atom => .literal atom.quoted
  | .path property => .path property

mutual

/-- A term in which `none` is read as a string, a negation as a call of `not`, and a comparison or
chain whose first operand is an identifier in quotes as a call of that function. -/
def Term.asCalls : Term → Term
  | .literal atom => .literal atom.quoted
  | .path property => .path property
  | .len property => .len property
  | .list items => .list (items.map ListItem.quoted)
  | .call function first rest => .call function first.asCalls (allAsCalls rest)
  | .compare left operator right rest =>
    (namedCall (left.asCalls ::
      interleaveComparisons ((operator, right.asCalls) :: comparisonsAsCalls rest))).getD
      (.compare left.asCalls operator right.asCalls (comparisonsAsCalls rest))
  | .not operand => .call ⟨"not", by decide⟩ operand.asCalls []
  | .chain connective first second rest =>
    (namedCall (first.asCalls ::
      interleaveOperands connective (second.asCalls :: allAsCalls rest))).getD
      (.chain connective first.asCalls second.asCalls (allAsCalls rest))

def allAsCalls : List Term → List Term
  | [] => []
  | term :: rest => term.asCalls :: allAsCalls rest

def comparisonsAsCalls : List (BinaryOperator × Term) → List (BinaryOperator × Term)
  | [] => []
  | (operator, operand) :: rest => (operator, operand.asCalls) :: comparisonsAsCalls rest

end

/-! ## Reading back -/

def readSegment : Value → Option Segment
  | .list (.str name :: indices) =>
    if wellFormed : isIdentifier name.toList = true then
      some ⟨⟨name, wellFormed⟩, indices.filterMap fun
        | .int index => some index.toNat
        | _ => none⟩
    else none
  | _ => none

def readPath : Value → Option Path
  | .dict [(_, .str "path"), (_, .list segments)] =>
    match segments.filterMap readSegment with
    | first :: rest => some ⟨first, rest⟩
    | [] => none
  | _ => none

def readItem : Value → Option ListItem
  | .int i => some (.literal (.int i))
  | .float x => some (.literal (.float x))
  | .str s => some (.literal (.str s))
  | .bool b => some (.literal (.bool b))
  | value => (readPath value).map .path

/-- A literal, path, length or list. -/
def readLeaf (value : Value) : Term :=
  match value with
  | .dict [(_, .str "len"), (_, property)] => ((readPath property).map .len).getD (.literal .none)
  | .dict [(_, .str "list"), (_, .list values)] => .list (values.filterMap readItem)
  | _ =>
    match readItem value with
    | some (.literal atom) => .literal atom
    | some (.path property) => .path property
    | none => .literal .none

def readComparisons : List Term → List (BinaryOperator × Term)
  | .literal (.str symbol) :: operand :: rest =>
    match BinaryOperator.ofSymbol symbol with
    | some operator => (operator, operand) :: readComparisons rest
    | none => []
  | _ => []

def readOperands : List Term → List Term
  | _ :: operand :: rest => operand :: readOperands rest
  | _ => []

def Connective.ofSymbol (symbol : String) : Connective := if symbol = "and" then .and else .or

/-- An application of which the parts are known: a call if it looks like one. -/
def readApplication (parts : List Term) : Term :=
  (namedCall parts).getD <|
    match parts with
    | left :: .literal (.str symbol) :: right :: rest =>
      match BinaryOperator.ofSymbol symbol with
      | some operator => .compare left operator right (readComparisons rest)
      | none => .chain (Connective.ofSymbol symbol) left right (readOperands rest)
    | _ => .literal .none

mutual

/-- The term that a stored condition is read as. -/
def readBack : Value → Term
  | .list items => readApplication (readAll items)
  | value => readLeaf value

def readAll : List Value → List Term
  | [] => []
  | value :: rest => readBack value :: readAll rest

end

theorem readSegment_toSerializable (segment : Segment) :
    readSegment segment.toSerializable = some segment := by
  simp [readSegment, Segment.toSerializable, segment.name.wellFormed, List.filterMap_map]

theorem readPath_toSerializable (property : Path) :
    readPath property.toSerializable = some property := by
  have segments : (property.segments.map Segment.toSerializable).filterMap readSegment =
      property.segments := by
    rw [List.filterMap_map]
    simp only [Function.comp_def, readSegment_toSerializable, List.filterMap_some]
  simp only [Path.toSerializable, readPath, segments]
  rfl

theorem readItem_toSerializable (item : ListItem) :
    readItem item.toSerializable = some item.quoted := by
  cases item with
  | literal atom => cases atom <;> rfl
  | path property =>
    have read := readPath_toSerializable property
    simp only [ListItem.toSerializable, Path.toSerializable] at read ⊢
    simp [readItem, read, ListItem.quoted]

theorem readComparisons_interleave (comparisons : List (BinaryOperator × Term)) :
    readComparisons (interleaveComparisons comparisons) = comparisons := by
  induction comparisons with
  | nil => rfl
  | cons comparison rest ih =>
    simp [interleaveComparisons, readComparisons, BinaryOperator.ofSymbol_symbol, ih]

theorem Connective.ofSymbol_symbol (conn : Connective) : ofSymbol conn.symbol = conn := by
  cases conn <;> rfl

theorem Connective.not_operator (conn : Connective) :
    BinaryOperator.ofSymbol conn.symbol = none := by
  cases conn <;> rfl

theorem readOperands_interleave (conn : Connective) (terms : List Term) :
    readOperands (interleaveOperands conn terms) = terms := by
  induction terms with
  | nil => rfl
  | cons term rest ih => simp [interleaveOperands, readOperands, ih]

mutual

/-- Reading back what is stored for a term gives the term read as calls. -/
theorem readBack_toSerializable : ∀ term : Term, readBack term.toSerializable = term.asCalls
  | .literal atom => by cases atom <;> rfl
  | .path property => by
    have read := readItem_toSerializable (.path property)
    simp only [ListItem.toSerializable, Path.toSerializable] at read
    simp [Term.toSerializable, Path.toSerializable, readBack, readLeaf, read, ListItem.quoted,
      Term.asCalls]
  | .len property => by
    simp [Term.toSerializable, readBack, readLeaf, readPath_toSerializable, Term.asCalls]
  | .list items => by
    simp [Term.toSerializable, readBack, readLeaf, List.filterMap_map, readItem_toSerializable,
      Term.asCalls]
  | .call function first rest => by
    simp [Term.toSerializable, readBack, readAll, readApplication, namedCall, readLeaf, readItem,
      function.wellFormed, readBack_toSerializable first, readAll_arguments rest, Term.asCalls]
  | .compare left operator right rest => by
    simp [Term.toSerializable, readBack, readAll, readApplication, readLeaf, readItem,
      readBack_toSerializable left, readBack_toSerializable right, readAll_comparisons rest,
      readComparisons_interleave, BinaryOperator.ofSymbol_symbol, interleaveComparisons,
      Term.asCalls]
  | .not operand => by
    have named : isIdentifier "not".toList = true := by decide
    simp only [Term.toSerializable, readBack, readAll, readApplication, namedCall, readLeaf,
      readItem, readBack_toSerializable operand, Term.asCalls, named, dif_pos, Option.getD_some]
  | .chain connective first second rest => by
    simp [Term.toSerializable, readBack, readAll, readApplication, readLeaf, readItem,
      readBack_toSerializable first, readBack_toSerializable second, readAll_operands _ rest,
      readOperands_interleave, connective.not_operator, connective.ofSymbol_symbol,
      interleaveOperands, Term.asCalls]

theorem readAll_arguments : ∀ terms : List Term,
    readAll (serializeArguments terms) = allAsCalls terms
  | [] => by simp [serializeArguments, readAll, allAsCalls]
  | term :: rest => by
    simp [serializeArguments, readAll, allAsCalls, readBack_toSerializable term,
      readAll_arguments rest]

theorem readAll_comparisons : ∀ comparisons : List (BinaryOperator × Term),
    readAll (serializeComparisons comparisons) =
      interleaveComparisons (comparisonsAsCalls comparisons)
  | [] => by simp [serializeComparisons, readAll, comparisonsAsCalls, interleaveComparisons]
  | (operator, operand) :: rest => by
    simp [serializeComparisons, readAll, comparisonsAsCalls, interleaveComparisons, readBack,
      readLeaf, readItem, readBack_toSerializable operand, readAll_comparisons rest]

theorem readAll_operands : ∀ (connective : Connective) (terms : List Term),
    readAll (serializeOperands connective terms) =
      interleaveOperands connective (allAsCalls terms)
  | _, [] => by simp [serializeOperands, readAll, allAsCalls, interleaveOperands]
  | connective, term :: rest => by
    simp [serializeOperands, readAll, allAsCalls, interleaveOperands, readBack, readLeaf, readItem,
      readBack_toSerializable term, readAll_operands connective rest]

end

/-! ## Storing what is read -/

theorem serializeArguments_eq (terms : List Term) :
    terms.map Term.toSerializable = serializeArguments terms := by
  induction terms with
  | nil => simp [serializeArguments]
  | cons term rest ih => simp [serializeArguments, ih]

theorem serializeComparisons_eq (comparisons : List (BinaryOperator × Term)) :
    (interleaveComparisons comparisons).map Term.toSerializable =
      serializeComparisons comparisons := by
  induction comparisons with
  | nil => simp [serializeComparisons, interleaveComparisons]
  | cons comparison rest ih =>
    simp [serializeComparisons, interleaveComparisons, ih, Term.toSerializable,
      Literal.toSerializable]

theorem serializeOperands_eq (conn : Connective) (terms : List Term) :
    (interleaveOperands conn terms).map Term.toSerializable = serializeOperands conn terms := by
  induction terms with
  | nil => simp [serializeOperands, interleaveOperands]
  | cons term rest ih =>
    simp [serializeOperands, interleaveOperands, ih, Term.toSerializable, Literal.toSerializable]

/-- A call that replaces an application is stored like it. -/
theorem toSerializable_namedCall {parts : List Term} {term : Term}
    (stored : term.toSerializable = .list (parts.map Term.toSerializable)) :
    ((namedCall parts).getD term).toSerializable = .list (parts.map Term.toSerializable) := by
  unfold namedCall
  split
  · rename_i name first rest
    split
    · simp [Term.toSerializable, Literal.toSerializable, serializeArguments_eq]
    · exact stored
  · exact stored

mutual

/-- A term is stored like the term it is read as. -/
theorem toSerializable_asCalls : ∀ term : Term,
    term.asCalls.toSerializable = term.toSerializable
  | .literal atom => by cases atom <;> rfl
  | .path property => rfl
  | .len property => rfl
  | .list items => by
    have kept : ListItem.toSerializable ∘ ListItem.quoted = ListItem.toSerializable := by
      funext item
      cases item with
      | literal atom => cases atom <;> rfl
      | path property => rfl
    simp only [Term.asCalls, Term.toSerializable, List.map_map, kept]
  | .call function first rest => by
    simp [Term.asCalls, Term.toSerializable, toSerializable_asCalls first,
      serializeArguments_asCalls rest]
  | .compare left operator right rest => by
    rw [Term.asCalls, toSerializable_namedCall]
    · simp [Term.toSerializable, interleaveComparisons, serializeComparisons_eq,
        toSerializable_asCalls left, toSerializable_asCalls right,
        serializeComparisons_asCalls rest, Literal.toSerializable]
    · simp [Term.toSerializable, interleaveComparisons, serializeComparisons_eq,
        Literal.toSerializable]
  | .not operand => by
    simp [Term.asCalls, Term.toSerializable, toSerializable_asCalls operand, serializeArguments]
  | .chain connective first second rest => by
    rw [Term.asCalls, toSerializable_namedCall]
    · simp [Term.toSerializable, interleaveOperands, serializeOperands_eq,
        toSerializable_asCalls first, toSerializable_asCalls second,
        serializeOperands_asCalls connective rest, Literal.toSerializable]
    · simp [Term.toSerializable, interleaveOperands, serializeOperands_eq, Literal.toSerializable]

theorem serializeArguments_asCalls : ∀ terms : List Term,
    serializeArguments (allAsCalls terms) = serializeArguments terms
  | [] => by simp [allAsCalls]
  | term :: rest => by
    simp [allAsCalls, serializeArguments, toSerializable_asCalls term,
      serializeArguments_asCalls rest]

theorem serializeComparisons_asCalls : ∀ comparisons : List (BinaryOperator × Term),
    serializeComparisons (comparisonsAsCalls comparisons) = serializeComparisons comparisons
  | [] => by simp [comparisonsAsCalls]
  | (operator, operand) :: rest => by
    simp [comparisonsAsCalls, serializeComparisons, toSerializable_asCalls operand,
      serializeComparisons_asCalls rest]

theorem serializeOperands_asCalls : ∀ (connective : Connective) (terms : List Term),
    serializeOperands connective (allAsCalls terms) = serializeOperands connective terms
  | _, [] => by simp [allAsCalls]
  | connective, term :: rest => by
    simp [allAsCalls, serializeOperands, toSerializable_asCalls term,
      serializeOperands_asCalls connective rest]

end

/-- What is stored alike is read alike, and the other way round. -/
theorem toSerializable_eq_iff (term other : Term) :
    term.toSerializable = other.toSerializable ↔ term.asCalls = other.asCalls := by
  constructor
  · intro eq
    rw [← readBack_toSerializable, eq, readBack_toSerializable]
  · intro eq
    rw [← toSerializable_asCalls term, eq, toSerializable_asCalls]

/-- **Of two conditions that the grammar accepts, the stored form tells which is which exactly when
they differ also when they are read as calls.** -/
theorem told_apart_iff (first second : String) {term other : Term}
    (parsed : parse first = some term) (parsedToo : parse second = some other) :
    (compileCondition first = compileCondition second → term = other) ↔
      (term.asCalls = other.asCalls → term = other) := by
  simp only [compileCondition, parsed, parsedToo, Option.map_some, Option.some.injEq,
    toSerializable_eq_iff]

theorem negation_told_apart :
    compileCondition "not flag" ≠ compileCondition "\"true\" == flag" := by
  have differ : (parse "not flag").map (·.asCalls.toSerializable) ≠
      (parse "\"true\" == flag").map (·.asCalls.toSerializable) := by decide +kernel
  obtain ⟨negation, parsed⟩ :=
    Option.isSome_iff_exists.mp (show (parse "not flag").isSome = true by decide +kernel)
  obtain ⟨comparison, parsedToo⟩ :=
    Option.isSome_iff_exists.mp (show (parse "\"true\" == flag").isSome = true by decide +kernel)
  rw [parsed, parsedToo] at differ
  intro same
  have eq := (told_apart_iff _ _ parsed parsedToo).mpr
    (fun alike => absurd (by rw [Option.map_some, Option.map_some, alike]) differ) same
  exact differ (by rw [eq])

def Term.isCall : Term → Bool
  | .call _ _ _ => true
  | _ => false

/-- A call of a function that is not known is stored like a comparison of two strings, and
evaluated like it. -/
theorem call_stored_as_comparison : ∃ call comparison, parse "foo(\"==\", \"foo\")" = some call ∧
      parse "\"foo\" == \"foo\"" = some comparison ∧ call ≠ comparison ∧
      call.toSerializable = comparison.toSerializable ∧
      ∀ interpreter context, eval interpreter context call.toSerializable = .ok (.bool true) := by
  have first : (parse "foo(\"==\", \"foo\")").map (fun term => (term.isCall, term.toSerializable)) =
      some (true, .list [.str "foo", .str "==", .str "foo"]) := by decide +kernel
  have second : (parse "\"foo\" == \"foo\"").map (fun term => (term.isCall, term.toSerializable)) =
      some (false, .list [.str "foo", .str "==", .str "foo"]) := by decide +kernel
  obtain ⟨call, parsed, shape⟩ := Option.map_eq_some_iff.mp first
  obtain ⟨comparison, parsedToo, otherShape⟩ := Option.map_eq_some_iff.mp second
  rw [Prod.mk.injEq] at shape otherShape
  refine ⟨call, comparison, parsed, parsedToo, ?_, shape.2.trans otherShape.2.symm, ?_⟩
  · rintro rfl
    rw [shape.1] at otherShape
    cases otherShape.1
  · intro interpreter context
    rw [shape.2]
    rfl

end EdgeEvaluator

end AgentOrchestration
