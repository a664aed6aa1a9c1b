import Mathlib.Data.List.Basic

/-!
# Ordered choice

Recognisers of text in which the first alternative that matches is taken and is not
reconsidered. A parser is a partial function on cursors; `<|>` is ordered choice,
and `many` repeats as often as it can. Tokens skip the blanks in front of them,
what is inside a token does not.
-/

namespace OrderedChoice

set_option autoImplicit false

/-! ## Parsers -/

/-- Where a parse stands: the character before, and the characters that remain. -/
structure Cursor where
  before : Option Char
  rest : List Char
  deriving DecidableEq

abbrev Parser := StateT Cursor Option

/-- A character with a property. -/
def satisfy (p : Char → Bool) : Parser Char := fun cursor =>
  match cursor.rest with
  | [] => none
  | c :: rest => if p c then some (c, { before := some c, rest }) else none

/-- `parser` repeated at most a number of times. -/
def manyFor {α : Type} (parser : Parser α) : ℕ → Parser (List α)
  | 0 => pure []
  | n + 1 =>
    (do
      let first ← parser
      let others ← manyFor parser n
      pure (first :: others)) <|> pure []

variable {α : Type} (parser : Parser α)

/-- `parser` repeated as often as it matches. Each repetition consumes a character. -/
def many : Parser (List α) := fun cursor =>
  manyFor parser cursor.rest.length cursor

/-- `parser` repeated at least once. -/
def many1 : Parser (List α) := do
  let first ← parser
  let others ← many parser
  pure (first :: others)

/-- `parser`, or nothing. -/
def optionally : Parser (Option α) := (some <$> parser) <|> pure none

/-- One or more, with a separator between them. -/
def separated {α β : Type} (parser : Parser α) (separator : Parser β) : Parser (α × List α) := do
  let first ← parser
  let others ← many (separator *> parser)
  pure (first, others)

/-! ## Tokens -/

variable (c : Char)

/-- The characters skipped in front of a token. -/
def isBlank : Bool := c = ' ' || c = '\t' || c = '\n' || c = '\r'

/-- The cursor behind a number of characters. -/
def Cursor.drop (cursor : Cursor) : ℕ → Cursor
  | 0 => cursor
  | n + 1 =>
    match cursor.rest with
    | [] => cursor
    | c :: rest => Cursor.drop { before := some c, rest } n

def blanks : Parser Unit := fun cursor =>
  some ((), cursor.drop (cursor.rest.takeWhile isBlank).length)

/-- `parser` behind blanks. -/
def token : Parser α := blanks *> parser

def mark : Parser Char := token (satisfy (· = c))

def startsWith (symbol text : List Char) : Bool :=
  symbol.length ≤ text.length ∧ (text.take symbol.length).map Char.toLower = symbol.map Char.toLower

/-- One symbol, up to the case of letters. -/
def caselessLiteral (symbol : String) : Parser String := token fun cursor =>
  if startsWith symbol.toList cursor.rest then some (symbol, cursor.drop symbol.toList.length)
  else none

def longest (symbols : List String) (text : List Char) : Option String :=
  symbols.foldl
    (fun best symbol =>
      if startsWith symbol.toList text ∧ best.all fun other => other.length < symbol.length then
        some symbol
      else best)
    none

/-- One of several symbols, up to the case of letters. A symbol that starts like a longer one is
tried after it. -/
def oneOf (symbols : List String) : Parser String := token fun cursor =>
  (longest symbols cursor.rest).map fun symbol => (symbol, cursor.drop symbol.toList.length)

/-- A character that may stand in a keyword. -/
def isKeywordChar : Bool := c.isAlphanum || c = '_' || c = '$'

/-- A whole word, up to the case of letters. -/
def caselessKeyword (word : String) : Parser String := token fun cursor =>
  let behind := cursor.drop word.toList.length
  if startsWith word.toList cursor.rest ∧ ¬ cursor.before.any isKeywordChar ∧
      ¬ behind.rest.head?.any isKeywordChar then
    some (word, behind)
  else none

/-! ## Whole texts -/

/-- Tabs replaced by blanks up to the next multiple of eight columns. -/
def expandTabs : ℕ → List Char → List Char
  | _, [] => []
  | column, '\t' :: rest =>
    List.replicate (8 - column % 8) ' ' ++ expandTabs (column + (8 - column % 8)) rest
  | column, c :: rest => c :: expandTabs (if c = '\n' ∨ c = '\r' then 0 else column + 1) rest

/-- What `parser` makes of a whole text. It is given the length of the text. -/
def parseAll (parser : ℕ → Parser α) (text : String) : Option α :=
  let chars := expandTabs 0 text.toList
  match (parser chars.length <* blanks) { before := none, rest := chars } with
  | some (result, { rest := [], .. }) => some result
  | _ => none

end OrderedChoice
