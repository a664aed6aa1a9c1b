import AgentOrchestration.Library.OrderedChoice
import AgentOrchestration.Value

/-!
# The grammar of edge conditions

An edge of a flow graph carries a condition in a small expression language.
`compileCondition` parses the text and stores the result as plain data. A `Term`
is what the grammar recognises; `Term.toSerializable` is the data it becomes.

Paths, lengths and lists become dictionaries with a `__type__`; calls and operator
applications become plain lists.
-/

namespace AgentOrchestration

namespace EdgeEvaluator

set_option autoImplicit false

/-! ## Operators -/

/-- `BINARY_OPERATORS`, one constructor for each spelling. -/
inductive BinaryOperator where
  | equals | doubleEquals | notEquals | less | greater | greaterEquals | lessEquals
  | eq | ne | lt | le | gt | ge
  | isIn | notIn | is | isNot
  | notEqualsSign | lessEqualsSign | greaterEqualsSign
  | elementSign | notElementSign | subsetSign | supersetSign | intersectSign | notIntersectSign
  deriving DecidableEq, Repr

namespace BinaryOperator

def all : List BinaryOperator :=
  [equals, doubleEquals, notEquals, less, greater, greaterEquals, lessEquals, eq, ne, lt, le, gt,
    ge, isIn, notIn, is, isNot, notEqualsSign, lessEqualsSign, greaterEqualsSign, elementSign,
    notElementSign, subsetSign, supersetSign, intersectSign, notIntersectSign]

def symbol : BinaryOperator → String
  | equals => "="
  | doubleEquals => "=="
  | notEquals => "!="
  | less => "<"
  | greater => ">"
  | greaterEquals => ">="
  | lessEquals => "<="
  | eq => "eq"
  | ne => "ne"
  | lt => "lt"
  | le => "le"
  | gt => "gt"
  | ge => "ge"
  | isIn => "in"
  | notIn => "notin"
  | is => "is"
  | isNot => "isnot"
  | notEqualsSign => "≠"
  | lessEqualsSign => "≤"
  | greaterEqualsSign => "≥"
  | elementSign => "∈"
  | notElementSign => "∉"
  | subsetSign => "⊆"
  | supersetSign => "⊇"
  | intersectSign => "∩"
  | notIntersectSign => "not∩"

def ofSymbol (symbol : String) : Option BinaryOperator :=
  all.find? fun operator => operator.symbol = symbol

theorem ofSymbol_symbol (op : BinaryOperator) : ofSymbol op.symbol = some op := by
  cases op <;> rfl

end BinaryOperator

/-- The operators between the operands of a chain. -/
inductive Connective where
  | and
  | or
  deriving DecidableEq, Repr

def Connective.symbol : Connective → String
  | .and => "and"
  | .or => "or"

/-! ## Terms -/

/-- A character of an identifier behind the first. -/
def isWordChar (c : Char) : Bool := c.isAlphanum || c = '_'

/-- A letter followed by letters, digits and underscores. -/
def isIdentifier : List Char → Bool
  | [] => false
  | c :: rest => c.isAlpha && rest.all isWordChar

structure Identifier where
  name : String
  wellFormed : isIdentifier name.toList = true
  deriving DecidableEq

/-- `PATH_SEGMENT`: a name and the indices behind it. -/
structure Segment where
  name : Identifier
  indices : List ℕ
  deriving DecidableEq

/-- `PROPERTY_PATH`. -/
structure Path where
  first : Segment
  rest : List Segment
  deriving DecidableEq

def Path.segments (path : Path) : List Segment := path.first :: path.rest

/-- A number, string, boolean or `none`. -/
inductive Literal where
  | int (i : ℤ)
  | float (x : PyFloat)
  | str (s : String)
  | bool (b : Bool)
  | none
  deriving DecidableEq

inductive ListItem where
  | literal (literal : Literal)
  | path (path : Path)
  deriving DecidableEq

/-- What the grammar recognises. A comparison and a chain have at least two operands, a call at
least one argument. -/
inductive Term where
  | literal (literal : Literal)
  | path (path : Path)
  | len (path : Path)
  | list (items : List ListItem)
  | call (function : Identifier) (first : Term) (rest : List Term)
  | compare (left : Term) (operator : BinaryOperator) (right : Term)
      (rest : List (BinaryOperator × Term))
  | not (operand : Term)
  | chain (connective : Connective) (first second : Term) (rest : List Term)

/-! ## Serialization -/

/-- A literal as data. The parse action of `none` returns `None`, which leaves the token as it
is: the text. -/
def Literal.toSerializable : Literal → Value
  | .int i => .int i
  | .float x => .float x
  | .str s => .str s
  | .bool b => .bool b
  | .none => .str "none"

def Segment.toSerializable (segment : Segment) : Value :=
  .list (.str segment.name.name :: segment.indices.map fun index : ℕ => .int index)

/-- A `SubstituteVal` as data. -/
def Path.toSerializable (path : Path) : Value :=
  .dict [("__type__", .str "path"), ("segments", .list (path.segments.map Segment.toSerializable))]

def ListItem.toSerializable : ListItem → Value
  | .literal atom => atom.toSerializable
  | .path property => property.toSerializable

mutual

/-- `_to_serializable`, on what the parser returns. -/
def Term.toSerializable : Term → Value
  | .literal atom => atom.toSerializable
  | .path property => property.toSerializable
  | .len property => .dict [("__type__", .str "len"), ("value", property.toSerializable)]
  | .list items =>
    .dict [("__type__", .str "list"), ("values", .list (items.map ListItem.toSerializable))]
  | .call function first rest =>
    .list (.str function.name :: first.toSerializable :: serializeArguments rest)
  | .compare left operator right rest =>
    .list (left.toSerializable :: .str operator.symbol :: right.toSerializable ::
      serializeComparisons rest)
  | .not operand => .list [.str "not", operand.toSerializable]
  | .chain connective first second rest =>
    .list (first.toSerializable :: .str connective.symbol :: second.toSerializable ::
      serializeOperands connective rest)

def serializeArguments : List Term → List Value
  | [] => []
  | argument :: rest => argument.toSerializable :: serializeArguments rest

def serializeComparisons : List (BinaryOperator × Term) → List Value
  | [] => []
  | (operator, operand) :: rest =>
    .str operator.symbol :: operand.toSerializable :: serializeComparisons rest

def serializeOperands (connective : Connective) : List Term → List Value
  | [] => []
  | operand :: rest =>
    .str connective.symbol :: operand.toSerializable :: serializeOperands connective rest

end

/-- Calls and operator applications, the terms that become lists. -/
def Term.IsApplication : Term → Prop
  | .literal _ | .path _ | .len _ | .list _ => False
  | .call _ _ _ | .compare _ _ _ _ | .not _ | .chain _ _ _ _ => True

theorem Term.toSerializable_eq_list_iff (term : Term) :
    (∃ items, term.toSerializable = .list items) ↔ term.IsApplication := by
  cases term with
  | literal atom => cases atom <;> simp [toSerializable, Literal.toSerializable, IsApplication]
  | path property => simp [toSerializable, Path.toSerializable, IsApplication]
  | len property | list items | call function first rest | compare left operator right rest
  | not operand | chain conn first second rest => simp [toSerializable, IsApplication]

/-! ## Numbers -/

def digitsValue (digits : List Char) : ℕ :=
  digits.foldl (fun value c => value * 10 + (c.toNat - '0'.toNat)) 0

def roundHalfEven (q : ℚ) : ℤ :=
  let low := ⌊q⌋
  if q - low < 1 / 2 then low
  else if 1 / 2 < q - low then low + 1
  else if low % 2 = 0 then low else low + 1

def toDouble (q : ℚ) : PyFloat :=
  if q = 0 then ((0 : ℚ) : PyFloat)
  else
    let unit : ℚ := 2 ^ max (Int.log 2 |q| - 52) (-1074)
    let rounded : ℚ := roundHalfEven (|q| / unit) * unit
    if rounded < 2 ^ 1024 then (((if q < 0 then -rounded else rounded) : ℚ) : PyFloat)
    else if q < 0 then ⊥ else ((⊤ : WithTop ℚ) : PyFloat)

/-! ## Tokens -/

open OrderedChoice

def identifier : Parser Identifier := token do
  let first ← satisfy Char.isAlpha
  let rest ← many (satisfy isWordChar)
  let name := String.ofList (first :: rest)
  if wellFormed : isIdentifier name.toList = true then pure { name, wellFormed } else failure

/-- `Word(nums)`. -/
def digits : Parser (List Char) := many1 (satisfy Char.isDigit)

/-- `NUMBER_SIGN`, if it is there: whether it is a minus. -/
def numberSign : Parser Bool := do
  let sign ← optionally (satisfy fun c => c = '+' || c = '-')
  pure (sign = some '-')

def exponentMark : Parser Char := satisfy fun c => c = 'E' || c = 'e'

def realNumber : Parser Literal := token do
  let negative ← numberSign
  let (whole, fraction) ←
    (do
      let whole ← digits
      let _ ← satisfy (· = '.')
      let fraction ← optionally digits
      pure (whole, fraction.getD [])) <|>
    (do
      let _ ← satisfy (· = '.')
      let fraction ← digits
      pure ([], fraction))
  let exponent ← optionally do
    let _ ← exponentMark
    let negative ← numberSign
    let exponent ← digits
    pure (if negative then -(digitsValue exponent : ℤ) else digitsValue exponent)
  let magnitude : ℚ :=
    digitsValue (whole ++ fraction) * 10 ^ (exponent.getD 0 - (fraction.length : ℤ))
  pure (.float (toDouble (if negative then -magnitude else magnitude)))

/-- `INTEGER`. `int(...)` raises on a numeral with an exponent, which ends the parse; nothing
else that the grammar knows starts like a number. -/
def integer : Parser Literal := token do
  let negative ← numberSign
  let whole ← digits
  let exponent ← optionally do
    let _ ← exponentMark
    let _ ← optionally (satisfy (· = '+'))
    digits
  match exponent with
  | some _ => failure
  | none => pure (.int (if negative then -(digitsValue whole : ℤ) else digitsValue whole))

/-- The characters inside quotes. A doubled quote and a character behind a backslash belong to
the string; an `x` behind a backslash wants a hexadecimal digit. -/
def quotedLength (quote : Char) : List Char → ℕ
  | [] => 0
  | '\\' :: 'x' :: c :: rest =>
    if c.isDigit || ('a' ≤ c && c ≤ 'f') || ('A' ≤ c && c ≤ 'F') then
      3 + quotedLength quote rest
    else 0
  | '\\' :: 'x' :: [] => 0
  | '\\' :: _ :: rest => 2 + quotedLength quote rest
  | '\\' :: [] => 0
  | c :: rest =>
    if c = '\n' || c = '\r' then 0
    else if c = quote then
      match rest with
      | d :: rest => if d = quote then 2 + quotedLength quote rest else 0
      | [] => 0
    else 1 + quotedLength quote rest

/-- `STRING`. The quotes are removed, escapes are kept. -/
def string : Parser Literal := token do
  let quote ← satisfy fun c => c = '"' || c = '\''
  let cursor ← get
  let length := quotedLength quote cursor.rest
  set (cursor.drop length)
  let _ ← satisfy (· = quote)
  pure (.str (String.ofList (cursor.rest.take length)))

def boolean : Parser Literal := do
  let text ← oneOf ["True", "False"]
  pure (.bool (text = "True"))

/-- `NONE`. -/
def noneLiteral : Parser Literal := do
  let _ ← caselessLiteral "none"
  pure .none

/-- `INDEX` in brackets. -/
def index : Parser ℕ := do
  let _ ← mark '['
  let index ← token digits
  let _ ← mark ']'
  pure (digitsValue index)

def pathSegment : Parser Segment := do
  let name ← identifier
  let indices ← many index
  pure { name, indices }

def propertyPath : Parser Path := do
  let (first, rest) ← separated pathSegment (mark '.')
  pure { first, rest }

def lenValue : Parser Term := do
  let _ ← caselessKeyword "len"
  let _ ← mark '('
  let path ← propertyPath
  let _ ← mark ')'
  pure (.len path)

def listItem : Parser ListItem :=
  (.literal <$> (string <|> realNumber <|> integer <|> boolean <|> noneLiteral)) <|>
    (.path <$> propertyPath)

def listLiteral : Parser Term := do
  let _ ← mark '['
  let items ← optionally (separated listItem (mark ','))
  let _ ← mark ']'
  pure (.list (items.elim [] fun (first, rest) => first :: rest))

/-! ## Expressions -/

section

variable (expr : Parser Term)

def funcCall : Parser Term := do
  let function ← identifier
  let _ ← mark '('
  let (first, rest) ← separated expr (mark ',')
  let _ ← mark ')'
  pure (.call function first rest)

def parenthesized : Parser Term := do
  let _ ← mark '('
  let term ← expr
  let _ ← mark ')'
  pure term

def simpleValues : Parser Term :=
  (.literal <$> (realNumber <|> integer <|> string <|> boolean <|> noneLiteral)) <|>
    lenValue <|> listLiteral <|> funcCall expr <|> (.path <$> propertyPath) <|> parenthesized expr

def binaryOperator : Parser BinaryOperator := do
  let symbol ← oneOf (BinaryOperator.all.map BinaryOperator.symbol)
  match BinaryOperator.ofSymbol symbol with
  | some operator => pure operator
  | none => failure

def comparison (operand : Parser Term) : Parser Term := do
  let left ← operand
  let comparisons ← many do
    let operator ← binaryOperator
    let right ← operand
    pure (operator, right)
  match comparisons with
  | [] => pure left
  | (operator, right) :: rest => pure (.compare left operator right rest)

def negation (operand : Parser Term) : ℕ → Parser Term
  | 0 => operand
  | n + 1 =>
    (do
      let _ ← caselessKeyword "not"
      let term ← negation operand n
      pure (.not term)) <|> operand

def connected (connective : Connective) (operand : Parser Term) : Parser Term := do
  let first ← operand
  let others ← many (caselessKeyword connective.symbol *> operand)
  match others with
  | [] => pure first
  | second :: rest => pure (.chain connective first second rest)

end

/-- `EXPR`: the levels of precedence over the simple values. The number bounds how deep
parentheses and negations nest. -/
def expr : ℕ → Parser Term
  | 0 => failure
  | n + 1 =>
    connected .or (connected .and (negation (comparison (simpleValues (expr n))) n))

/-- `BOOLEAN_EXPRESSION.parse_string(condition, parse_all=True)`. -/
def parse (condition : String) : Option Term := parseAll (fun length => expr (length + 1)) condition

/-- `compile_condition`; `none` where it raises `edge_condition_invalid`. -/
def compileCondition (condition : String) : Option Value :=
  (parse condition).map Term.toSerializable

end EdgeEvaluator

end AgentOrchestration
