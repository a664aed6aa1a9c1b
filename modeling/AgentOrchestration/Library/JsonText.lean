import Mathlib.Data.List.Basic
import Mathlib.Data.List.Forall2
import Mathlib.Data.Char
import Mathlib.Algebra.Order.Group.Nat
import Mathlib.Algebra.Ring.Nat

/-!
# Compact JSON text

String literals with ASCII escapes, and arrays and objects without blanks. Texts are
told apart from the left: `Told first second same` says that two texts which may be
followed by a delimiter agree only if `same` holds, and then end at the same place.
-/

namespace JsonText

set_option autoImplicit false

variable {α : Type} (c : Char)

/-- What follows a value inside an array or an object. -/
def isDelimiter : Bool := c = ',' || c = ']' || c = '}'

variable (rest : List Char)

/-- Nothing follows, or a delimiter. -/
def Ends : Prop := ∀ c ∈ rest.head?, isDelimiter c = true

/-- If the texts agree, each with what follows it, then this is the case, and they end at the same
place. -/
def Told (first second : List Char) (same : Prop) : Prop :=
  ∀ rest rest', Ends rest → Ends rest' → first ++ rest = second ++ rest' → same ∧ rest = rest'

variable {first second : List Char}

theorem Told.imp {same same' : Prop} (told : Told first second same) (weaker : same → same') :
    Told first second same' :=
  fun rest rest' ends ends' agree => (told rest rest' ends ends' agree).imp_left weaker

theorem Told.symm {first second : List Char} {eq : Prop} (told : Told first second eq) :
    Told second first eq := by
  intro rest rest' ends ends' agree
  obtain ⟨held, ended⟩ := told rest' rest ends' ends agree.symm
  exact ⟨held, ended.symm⟩

variable {same : Prop}

theorem told_of_head_ne {c d : Char} (ne : c ≠ d) : Told (c :: first) (d :: second) same :=
  fun _ _ _ _ agree => absurd (List.cons.inj agree).1 ne

theorem told_word (plain : ∀ c ∈ first, isDelimiter c = false)
    (plain' : ∀ c ∈ second, isDelimiter c = false) : Told first second (first = second) := by
  induction first generalizing second with
  | nil =>
    intro rest rest' ends _ agree
    cases second with
    | nil => exact ⟨rfl, agree⟩
    | cons d second =>
      rw [List.nil_append] at agree
      have delimiter := ends d (by rw [agree]; rfl)
      rw [plain' d List.mem_cons_self] at delimiter
      cases delimiter
  | cons c first ih =>
    intro rest rest' ends ends' agree
    cases second with
    | nil =>
      rw [List.nil_append] at agree
      have delimiter := ends' c (by rw [← agree]; rfl)
      rw [plain c List.mem_cons_self] at delimiter
      cases delimiter
    | cons d second =>
      obtain ⟨rfl, later⟩ := List.cons.inj agree
      obtain ⟨rfl, ended⟩ := ih (List.forall_mem_cons.mp plain).2
        (List.forall_mem_cons.mp plain').2 rest rest' ends ends' later
      exact ⟨rfl, ended⟩

/-! ## String literals -/

variable (n : ℕ)

def hex4 : List Char :=
  [Nat.digitChar (n / 4096 % 16), Nat.digitChar (n / 256 % 16), Nat.digitChar (n / 16 % 16),
    Nat.digitChar (n % 16)]

/-- `\uXXXX`. -/
def unicodeEscape : List Char := '\\' :: 'u' :: hex4 n

/-- A character inside a string literal: ASCII, with a surrogate pair beyond the basic plane. -/
def escape : List Char :=
  if c = '"' then ['\\', '"']
  else if c = '\\' then ['\\', '\\']
  else if c = '\n' then ['\\', 'n']
  else if c = '\r' then ['\\', 'r']
  else if c = '\t' then ['\\', 't']
  else if c = '\x0c' then ['\\', 'f']
  else if c = '\x08' then ['\\', 'b']
  else if 32 ≤ c.toNat ∧ c.toNat ≤ 126 then [c]
  else if c.toNat < 65536 then unicodeEscape c.toNat
  else
    unicodeEscape (55296 + (c.toNat - 65536) / 1024) ++
      unicodeEscape (56320 + (c.toNat - 65536) % 1024)

def quote (s : String) : List Char := '"' :: (s.toList.flatMap escape ++ ['"'])

def hexValue : ℕ := if c.toNat < 58 then c.toNat - 48 else c.toNat - 87

def hexValue4 (a b c d : Char) : ℕ :=
  hexValue a * 4096 + hexValue b * 256 + hexValue c * 16 + hexValue d

/-- Reads one character of a string literal back. -/
def unescape : List Char → Option (Char × List Char)
  | '\\' :: 'u' :: a :: b :: c :: d :: rest =>
    if 55296 ≤ hexValue4 a b c d ∧ hexValue4 a b c d < 56320 then
      match rest with
      | _ :: _ :: a' :: b' :: c' :: d' :: rest =>
        some (Char.ofNat
          (65536 + (hexValue4 a b c d - 55296) * 1024 + (hexValue4 a' b' c' d' - 56320)), rest)
      | _ => none
    else some (Char.ofNat (hexValue4 a b c d), rest)
  | '\\' :: 'n' :: rest => some ('\n', rest)
  | '\\' :: 'r' :: rest => some ('\r', rest)
  | '\\' :: 't' :: rest => some ('\t', rest)
  | '\\' :: 'f' :: rest => some ('\x0c', rest)
  | '\\' :: 'b' :: rest => some ('\x08', rest)
  | '\\' :: c :: rest => some (c, rest)
  | c :: rest => some (c, rest)
  | [] => none

theorem hexValue_digitChar : ∀ {n : ℕ}, n < 16 → hexValue (Nat.digitChar n) = n := by
  decide

theorem hexValue4_hex4 {n : ℕ} (small : n < 65536) :
    hexValue4 (Nat.digitChar (n / 4096 % 16)) (Nat.digitChar (n / 256 % 16))
      (Nat.digitChar (n / 16 % 16)) (Nat.digitChar (n % 16)) = n := by
  rw [hexValue4, hexValue_digitChar (Nat.mod_lt _ (by decide)),
    hexValue_digitChar (Nat.mod_lt _ (by decide)),
    hexValue_digitChar (Nat.mod_lt _ (by decide)), hexValue_digitChar (Nat.mod_lt _ (by decide))]
  omega

theorem unescape_unicodeEscape {n : ℕ} (small : n < 65536) (single : ¬ (55296 ≤ n ∧ n < 56320))
    (rest : List Char) : unescape (unicodeEscape n ++ rest) = some (Char.ofNat n, rest) := by
  simp only [unicodeEscape, hex4, List.cons_append, List.nil_append, unescape,
    hexValue4_hex4 small, single, if_false]

theorem unescape_pair {high low : ℕ} (highIn : high < 1024) (lowIn : low < 1024)
    (rest : List Char) :
    unescape (unicodeEscape (55296 + high) ++ unicodeEscape (56320 + low) ++ rest)
      = some (Char.ofNat (65536 + high * 1024 + low), rest) := by
  have first : 55296 ≤ 55296 + high ∧ 55296 + high < 56320 := by omega
  simp only [unicodeEscape, hex4, List.cons_append, List.nil_append, unescape,
    hexValue4_hex4 (show 55296 + high < 65536 by omega),
    hexValue4_hex4 (show 56320 + low < 65536 by omega), first, and_self, if_true,
    Nat.add_sub_cancel_left]

theorem unescape_escape : unescape (escape c ++ rest) = some (c, rest) := by
  have valid : c.toNat < 55296 ∨ 57343 < c.toNat ∧ c.toNat < 1114112 := c.valid
  unfold escape
  split_ifs with h1 h2 h3 h4 h5 h6 h7 printable basic
  · subst h1; rfl
  · subst h2; rfl
  · subst h3; rfl
  · subst h4; rfl
  · subst h5; rfl
  · subst h6; rfl
  · subst h7; rfl
  · rw [List.singleton_append]
    unfold unescape
    split <;> simp_all
  · rw [unescape_unicodeEscape basic (by omega), Char.ofNat_toNat]
  · rw [unescape_pair (by omega) (Nat.mod_lt _ (by decide))]
    have whole : 65536 + (c.toNat - 65536) / 1024 * 1024 + (c.toNat - 65536) % 1024 =
        c.toNat := by omega
    rw [whole, Char.ofNat_toNat]

theorem escape_append_inj {c d rest rest'} (agree : escape c ++ rest = escape d ++ rest') :
    c = d ∧ rest = rest' := by
  have read := unescape_escape c rest
  rw [agree, unescape_escape d rest'] at read
  obtain ⟨eq, ended⟩ := Prod.mk.inj (Option.some.inj read)
  exact ⟨eq.symm, ended.symm⟩

theorem escape_ne_quote (rest rest' : List Char) : '"' :: rest ≠ escape c ++ rest' := by
  intro agree
  have read := unescape_escape c rest'
  rw [← agree] at read
  obtain ⟨rfl, -⟩ := Prod.mk.inj (Option.some.inj read)
  simp [escape] at agree

theorem quote_append_inj {s s' rest rest'} (agree : quote s ++ rest = quote s' ++ rest') :
    s = s' ∧ rest = rest' := by
  rw [← String.toList_inj]
  simp only [quote, List.cons_append, List.append_assoc, List.nil_append, List.cons.injEq,
    true_and] at agree
  generalize s.toList = first, s'.toList = second at agree ⊢
  induction first generalizing second with
  | nil =>
    cases second with
    | nil => exact ⟨rfl, (List.cons.inj agree).2⟩
    | cons d second =>
      rw [List.flatMap_cons, List.append_assoc] at agree
      exact absurd agree (escape_ne_quote d _ _)
  | cons c first ih =>
    rw [List.flatMap_cons, List.append_assoc] at agree
    cases second with
    | nil => exact absurd agree.symm (escape_ne_quote c _ _)
    | cons d second =>
      rw [List.flatMap_cons, List.append_assoc] at agree
      obtain ⟨rfl, later⟩ := escape_append_inj agree
      obtain ⟨rfl, ended⟩ := ih second later
      exact ⟨rfl, ended⟩

theorem told_quote (s s' : String) : Told (quote s) (quote s') (s = s') :=
  fun _ _ _ _ agree => quote_append_inj agree

/-! ## Objects and arrays -/

def entry (key : String) (text : List Char) : List Char := quote key ++ ':' :: text

theorem told_entry {key key' : String} {text text' : List Char} (told : Told text text' same) :
    Told (entry key text) (entry key' text') (key = key' ∧ same) := by
  intro rest rest' ends ends' agree
  rw [entry, entry, List.append_assoc, List.append_assoc] at agree
  obtain ⟨rfl, later⟩ := quote_append_inj agree
  obtain ⟨held, ended⟩ := told rest rest' ends ends' (List.cons.inj later).2
  exact ⟨⟨rfl, held⟩, ended⟩

/-- Further texts, each behind a comma, and the closing bracket. -/
def others (close : Char) : List (List Char) → List Char
  | [] => [close]
  | text :: texts => ',' :: (text ++ others close texts)

variable (opening close : Char)

/-- Texts in brackets, with commas between them. -/
def sequence : List (List Char) → List Char
  | [] => [opening, close]
  | text :: texts => opening :: (text ++ others close texts)

theorem sequence_eq_cons (texts : List (List Char)) :
    ∃ later, sequence opening close texts = opening :: later := by
  cases texts with
  | nil | cons text texts => exact ⟨_, rfl⟩

section

variable {close : Char} (closes : close = ']' ∨ close = '}')

include closes

theorem ends_others (texts rest) : Ends (others close texts ++ rest) := by
  cases texts with
  | nil =>
    rintro c ⟨⟩
    rcases closes with rfl | rfl <;> rfl
  | cons text texts =>
    rintro c ⟨⟩
    rfl

variable {text : α → List Char}

theorem told_others {eq : α → α → Prop} :
    ∀ {first second : List α}, (∀ x ∈ first, ∀ y ∈ second, Told (text x) (text y) (eq x y)) →
      ∀ {rest rest' : List Char},
        others close (first.map text) ++ rest = others close (second.map text) ++ rest' →
        List.Forall₂ eq first second ∧ rest = rest' := by
  have notComma : close ≠ ',' := by rcases closes with rfl | rfl <;> decide
  intro first
  induction first with
  | nil =>
    intro second _ rest rest' agree
    cases second with
    | nil => exact ⟨.nil, (List.cons.inj agree).2⟩
    | cons y second => exact absurd (List.cons.inj agree).1 notComma
  | cons x first ih =>
    intro second told rest rest' agree
    cases second with
    | nil => exact absurd (List.cons.inj agree).1.symm notComma
    | cons y second =>
      simp only [List.map_cons, others, List.cons_append, List.append_assoc,
        List.cons.injEq, true_and] at agree
      obtain ⟨here, later⟩ := told x List.mem_cons_self y List.mem_cons_self _ _
        (ends_others closes _ _) (ends_others closes _ _) agree
      obtain ⟨there, ended⟩ :=
        ih (fun x' inFirst y' inSecond => told x' (List.mem_cons_of_mem _ inFirst)
        y' (List.mem_cons_of_mem _ inSecond)) later
      exact ⟨.cons here there, ended⟩

/-- The text begins with another character. -/
def Opens (close : Char) (text : List Char) : Prop := ∃ c later, text = c :: later ∧ c ≠ close

/-- A sequence is told apart entry by entry, if no entry begins with the closing bracket. -/
theorem told_sequence {opening : Char} {eq : α → α → Prop} {first second : List α}
    (told : ∀ x ∈ first, ∀ y ∈ second, Told (text x) (text y) (eq x y))
    (opens : ∀ x ∈ first, Opens close (text x)) (opens' : ∀ y ∈ second, Opens close (text y)) :
    Told (sequence opening close (first.map text)) (sequence opening close (second.map text))
      (List.Forall₂ eq first second) := by
  intro rest rest' _ _ agree
  cases first with
  | nil =>
    cases second with
    | nil => exact ⟨.nil, (List.cons.inj (List.cons.inj agree).2).2⟩
    | cons y second =>
      obtain ⟨c, later, text_eq, other⟩ := opens' y List.mem_cons_self
      rw [List.map_cons, sequence, text_eq] at agree
      exact absurd (List.cons.inj (List.cons.inj agree).2).1.symm other
  | cons x first =>
    cases second with
    | nil =>
      obtain ⟨c, later, text_eq, other⟩ := opens x List.mem_cons_self
      rw [List.map_cons, sequence, text_eq] at agree
      exact absurd (List.cons.inj (List.cons.inj agree).2).1 other
    | cons y second =>
      -- the first entry follows the bracket as the others follow a comma
      refine told_others closes told ?_
      simp only [List.map_cons, sequence, others, List.cons_append, List.cons.injEq,
        true_and] at agree ⊢
      exact agree

end

end JsonText
