import Mathlib.Data.List.Basic
import Mathlib.Data.Fin.Basic

/-!
# Universally unique identifiers

A 128-bit identifier, given by its 32 hexadecimal digits, and the text in which it is
written: five groups of digits with hyphens between them.
-/

/-- A 128-bit identifier, by its hexadecimal digits. -/
structure Uuid where
  digits : List (Fin 16)
  complete : digits.length = 32
  deriving DecidableEq

namespace Uuid

set_option autoImplicit false

/-- The hexadecimal digits, in lower case. -/
def hexDigits : List Char :=
  ['0', '1', '2', '3', '4', '5', '6', '7', '8', '9', 'a', 'b', 'c', 'd', 'e', 'f']

def hexDigit (digit : Fin 16) : Char := hexDigits.get digit

theorem hexDigit_injective : Function.Injective hexDigit := by
  have uniq : ∀ first second, hexDigit first = hexDigit second → first = second := by decide
  exact fun first second => uniq first second

theorem hexDigit_ne_hyphen (digit : Fin 16) : hexDigit digit ≠ '-' := by
  revert digit
  decide

/-- Hyphens between groups of 8, 4, 4, 4 and 12 digits. -/
def hyphenated (digits : List Char) : List Char :=
  digits.take 8 ++ '-' :: ((digits.drop 8).take 4 ++ '-' :: ((digits.drop 12).take 4 ++
    '-' :: ((digits.drop 16).take 4 ++ '-' :: digits.drop 20)))

def text (uuid : Uuid) : String := String.ofList (hyphenated (uuid.digits.map hexDigit))

theorem filter_hyphenated {digits : List Char} (plain : ∀ c ∈ digits, c ≠ '-') :
    (hyphenated digits).filter (· ≠ '-') = digits := by
  have kept : ∀ part : List Char, (∀ c ∈ part, c ∈ digits) → part.filter (· ≠ '-') = part := by
    intro part within
    refine List.filter_eq_self.mpr fun c mem => ?_
    simpa using plain c (within c mem)
  have first := kept (digits.take 8) fun c => List.mem_of_mem_take
  have second := kept ((digits.drop 8).take 4) fun c isIn =>
    List.mem_of_mem_drop (List.mem_of_mem_take isIn)
  have third := kept ((digits.drop 12).take 4) fun c isIn =>
    List.mem_of_mem_drop (List.mem_of_mem_take isIn)
  have fourth := kept ((digits.drop 16).take 4) fun c isIn =>
    List.mem_of_mem_drop (List.mem_of_mem_take isIn)
  have fifth := kept (digits.drop 20) fun c => List.mem_of_mem_drop
  have hyphen : ∀ rest : List Char, ('-' :: rest).filter (· ≠ '-') = rest.filter (· ≠ '-') :=
    fun rest => List.filter_cons_of_neg (by simp)
  unfold hyphenated
  rw [List.filter_append, hyphen, List.filter_append, hyphen, List.filter_append, hyphen,
    List.filter_append, hyphen, first, second, third, fourth, fifth]
  calc digits.take 8 ++ ((digits.drop 8).take 4 ++ ((digits.drop 12).take 4 ++
        ((digits.drop 16).take 4 ++ digits.drop 20)))
      = digits.take 8 ++
        ((digits.drop 8).take 4 ++ ((digits.drop 12).take 4 ++ digits.drop 16)) := by
        rw [show digits.drop 20 =
          (digits.drop 16).drop 4 by rw [List.drop_drop], List.take_append_drop]
    _ = digits.take 8 ++ ((digits.drop 8).take 4 ++ digits.drop 12) := by
        rw [show digits.drop 16 =
          (digits.drop 12).drop 4 by rw [List.drop_drop], List.take_append_drop]
    _ = digits := by
        rw [show digits.drop 12 = (digits.drop 8).drop 4 by rw [List.drop_drop],
          List.take_append_drop, List.take_append_drop]

/-- **The text of an identifier determines it.** -/
theorem text_injective : Function.Injective text := by
  intro first second eq
  have plain : ∀ uuid : Uuid, ∀ c ∈ uuid.digits.map hexDigit, c ≠ '-' := by
    intro uuid c mem
    obtain ⟨digit, -, rfl⟩ := List.mem_map.mp mem
    exact hexDigit_ne_hyphen digit
  have characters := String.ofList_injective eq
  have digits := congrArg (List.filter (· ≠ '-')) characters
  rw [filter_hyphenated (plain first), filter_hyphenated (plain second)] at digits
  have equal := hexDigit_injective.list_map digits
  cases first
  cases second
  cases equal
  rfl

end Uuid
