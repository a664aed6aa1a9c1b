import Mathlib
import AgentOrchestration.Library.OrderedDict

/-!
# Python values

The values that flow through states, node outputs, policies and edge
conditions. They are JSON values with Python's readings of them: truthiness,
`int(...)`, `dict(...)`. `object` stands for a Python object that is not JSON,
which only an attribute lookup can produce.
-/

namespace AgentOrchestration

set_option autoImplicit false

/-- A Python `float` other than NaN: a rational number or one of the two infinities. -/
abbrev PyFloat := WithBot (WithTop ℚ)

inductive Value where
  | null
  | bool (b : Bool)
  | int (i : ℤ)
  | float (x : PyFloat)
  | str (s : String)
  | list (items : List Value)
  | dict (fields : List (String × Value))
  | object (identity : ℕ)

/-- The contents of a JSON object. -/
abbrev Fields := List (String × Value)

namespace Value

/-! ## Decidable equality -/

mutual

/-- Structural equality test. -/
def beq : Value → Value → Bool
  | .null, .null => true
  | .bool a, .bool b => a == b
  | .int a, .int b => a == b
  | .float a, .float b => decide (a = b)
  | .str a, .str b => a == b
  | .list as, .list bs => beqList as bs
  | .dict as, .dict bs => beqFields as bs
  | .object a, .object b => a == b
  | _, _ => false

def beqList : List Value → List Value → Bool
  | [], [] => true
  | a :: as, b :: bs => beq a b && beqList as bs
  | _, _ => false

def beqFields : List (String × Value) → List (String × Value) → Bool
  | [], [] => true
  | (k, a) :: as, (l, b) :: bs => k == l && beq a b && beqFields as bs
  | _, _ => false

end

mutual

theorem beq_iff : ∀ a b : Value, beq a b = true ↔ a = b
  | .null, b => by cases b <;> simp [beq]
  | .bool _, b => by cases b <;> simp [beq]
  | .int _, b => by cases b <;> simp [beq]
  | .float _, b => by cases b <;> simp [beq]
  | .str _, b => by cases b <;> simp [beq]
  | .list items, b => by cases b <;> simp [beq, beqList_iff items]
  | .dict fields, b => by cases b <;> simp [beq, beqFields_iff fields]
  | .object _, b => by cases b <;> simp [beq]

theorem beqList_iff : ∀ as bs : List Value, beqList as bs = true ↔ as = bs
  | [], bs => by cases bs <;> simp [beqList]
  | a :: as, bs => by cases bs <;> simp [beqList, beq_iff a, beqList_iff as]

theorem beqFields_iff : ∀ as bs : List (String × Value), beqFields as bs = true ↔ as = bs
  | [], bs => by cases bs <;> simp [beqFields]
  | (k, a) :: as, bs => by
    cases bs with
    | nil => simp [beqFields]
    | cons entry rest => simp [beqFields, beq_iff a, beqFields_iff as, Prod.ext_iff]

end

instance : DecidableEq Value := fun a b => decidable_of_iff (beq a b = true) (beq_iff a b)

/-! ## Readings -/

/-- `bool(value)`. -/
def truthy : Value → Bool
  | .null => false
  | .bool b => b
  | .int i => i ≠ 0
  | .float x => x ≠ ((0 : ℚ) : PyFloat)
  | .str s => s ≠ ""
  | .list items => !items.isEmpty
  | .dict fields => !fields.isEmpty
  | .object _ => true

/-- The dictionary a value is, if `isinstance(value, dict)`. -/
def asDict? : Value → Option Fields
  | .dict fields => some fields
  | _ => none

/-- The string a value is, if `isinstance(value, str)`. -/
def asStr? : Value → Option String
  | .str s => some s
  | _ => none

/-- One item of a sequence handed to `dict(...)`: a pair, or a two-character string. Keys that
are not strings do not occur in JSON and are refused. -/
def asEntry? : Value → Option (String × Value)
  | .list [.str k, v] => some (k, v)
  | .str s =>
    match s.toList with
    | [a, b] => some (String.ofList [a], .str (String.ofList [b]))
    | _ => none
  | _ => none

/-- `dict(value)`; `none` where Python raises. -/
def toDict? : Value → Option Fields
  | .dict fields => some fields
  | .list items => (items.mapM asEntry?).map (List.foldl (fun d e => OrderedDict.set d e.1 e.2) [])
  | .str s => if s = "" then some [] else none
  | _ => none

end Value

/-! ## `int(...)` -/

/-- Digits with single underscores between them, most significant first. -/
def readDigits : ℕ → List Char → Option ℕ
  | acc, [] => some acc
  | acc, '_' :: c :: rest =>
    if c.isDigit then readDigits (acc * 10 + (c.toNat - '0'.toNat)) rest else none
  | acc, c :: rest =>
    if c.isDigit then readDigits (acc * 10 + (c.toNat - '0'.toNat)) rest else none

def readNumeral : List Char → Option ℕ
  | [] => none
  | c :: rest => if c.isDigit then readDigits (c.toNat - '0'.toNat) rest else none

/-- The characters of a string without the blanks at its ends: `s.strip()`. -/
def strip (s : String) : List Char :=
  ((s.toList.dropWhile Char.isWhitespace).reverse.dropWhile Char.isWhitespace).reverse

/-- `int(text)`. -/
def parseInt (s : String) : Option ℤ :=
  match strip s with
  | '-' :: rest => (readNumeral rest).map fun n => -(n : ℤ)
  | '+' :: rest => (readNumeral rest).map fun n => (n : ℤ)
  | chars => (readNumeral chars).map fun n => (n : ℤ)

/-- `int(value)`; `none` on a `TypeError` or `ValueError`. Floats are truncated towards zero. -/
def Value.toInt? : Value → Option ℤ
  | .bool b => some (if b then 1 else 0)
  | .int i => some i
  | .float (some (some q)) => some (if 0 ≤ q then ⌊q⌋ else ⌈q⌉)
  | .str s => parseInt s
  | _ => none

/-- The class of what `int(value)` raises. -/
def Value.intErrorClass : Value → String
  | .str _ => "ValueError"
  | .float _ => "OverflowError"
  | _ => "TypeError"

end AgentOrchestration
