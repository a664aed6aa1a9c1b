import AgentOrchestration.Value
import AgentOrchestration.Library.JsonText

/-!
# Canonical JSON

`json.dumps(value, sort_keys=True, separators=(",", ":"))` writes a JSON value as text:
at every level the entries of a dictionary are put in the order of their keys, and the
result is written without blanks.
-/

namespace AgentOrchestration

set_option autoImplicit false

open JsonText
open OrderedDict (keys)

/-- The characters of `1.5`, `-2e-07` and `Infinity`. -/
def isFloatCharacter (c : Char) : Bool :=
  c.isDigit || c ∈ ['+', '-', '.', 'e', 'I', 'n', 'f', 'i', 't', 'y']

/-- How `json.dumps` writes floats: different floats differently, and no float like an integer. -/
structure FloatFormat where
  text : PyFloat → List Char
  injective : Function.Injective text
  nonempty : ∀ x, text x ≠ []
  characters : ∀ x, ∀ c ∈ text x, isFloatCharacter c = true
  notInteger : ∀ (x : PyFloat) (i : ℤ), text x ≠ i.repr.toList

namespace Value

/-! ## JSON values -/

mutual

/-- The value is JSON: no other object occurs in it, and no key occurs twice in a dictionary. -/
def isJson : Value → Bool
  | .null => true
  | .bool _ => true
  | .int _ => true
  | .float _ => true
  | .str _ => true
  | .list items => areJson items
  | .dict fields => decide (fields.map Prod.fst).Nodup && fieldsAreJson fields
  | .object _ => false

def areJson : List Value → Bool
  | [] => true
  | value :: rest => isJson value && areJson rest

def fieldsAreJson : Fields → Bool
  | [] => true
  | (_, value) :: rest => isJson value && fieldsAreJson rest

end

/-- `null`, a truth value or a number. -/
def isScalar : Value → Bool
  | .null => true
  | .bool _ => true
  | .int _ => true
  | .float _ => true
  | _ => false

theorem areJson_iff : ∀ {items}, areJson items = true ↔ ∀ val ∈ items, val.isJson = true
  | [] => by simp [areJson]
  | value :: rest => by simp [areJson, areJson_iff]

theorem fieldsAreJson_iff : ∀ {fields}, fieldsAreJson fields = true ↔
    ∀ entry ∈ fields, entry.2.isJson = true
  | [] => by simp [fieldsAreJson]
  | (key, value) :: rest => by simp [fieldsAreJson, fieldsAreJson_iff]

theorem isJson_list {items} : (Value.list items).isJson = true ↔
    ∀ val ∈ items, val.isJson = true := by
  rw [isJson, areJson_iff]

theorem isJson_dict {fields} : (Value.dict fields).isJson = true ↔
      (keys fields).Nodup ∧ ∀ entry ∈ fields, entry.2.isJson = true := by
  rw [isJson, Bool.and_eq_true, decide_eq_true_eq, fieldsAreJson_iff, keys]

section

variable {P : Value → Prop} (scalar : ∀ value, value.isScalar = true → P value)
  (str : ∀ s, P (.str s))
  (list : ∀ items, (∀ value ∈ items, P value) → P (.list items))
  (dict : ∀ fields, (∀ entry ∈ fields, P entry.2) → P (.dict fields)) (object : ∀ n, P (.object n))

include scalar str list dict object

set_option linter.unusedSectionVars false in
mutual

@[elab_as_elim]
theorem byKind : ∀ val, P val
  | .null => scalar _ rfl
  | .bool _ => scalar _ rfl
  | .int _ => scalar _ rfl
  | .float _ => scalar _ rfl
  | .str s => str s
  | .list items => list items (byKindItems items)
  | .dict fields => dict fields (byKindFields fields)
  | .object n => object n

theorem byKindItems : ∀ (items : List Value), ∀ val ∈ items, P val
  | [] => List.forall_mem_nil _
  | first :: rest => List.forall_mem_cons.mpr ⟨byKind first, byKindItems rest⟩

theorem byKindFields : ∀ (fields : Fields), ∀ entry ∈ fields, P entry.2
  | [] => List.forall_mem_nil _
  | (_, first) :: rest => List.forall_mem_cons.mpr ⟨byKind first, byKindFields rest⟩

end

end

/-! ## Text -/

mutual

/-- The text of a value, without blanks; there is none for an object that is not JSON. -/
def compact (format : FloatFormat) : Value → List Char
  | .null => ['n', 'u', 'l', 'l']
  | .bool true => ['t', 'r', 'u', 'e']
  | .bool false => ['f', 'a', 'l', 's', 'e']
  | .int i => i.repr.toList
  | .float x => format.text x
  | .str s => quote s
  | .list items => sequence '[' ']' (compactItems format items)
  | .dict fields => sequence '{' '}' (compactFields format fields)
  | .object _ => []

def compactItems (format : FloatFormat) : List Value → List (List Char)
  | [] => []
  | value :: rest => compact format value :: compactItems format rest

def compactFields (format : FloatFormat) : Fields → List (List Char)
  | [] => []
  | (key, value) :: rest => entry key (compact format value) :: compactFields format rest

end

section

variable {format : FloatFormat}

theorem compactItems_eq : ∀ items : List Value,
    compactItems format items = items.map (compact format)
  | [] => rfl
  | value :: rest => by rw [compactItems, compactItems_eq rest, List.map_cons]

theorem compactFields_eq : ∀ fields : Fields,
    compactFields format fields = fields.map fun field => entry field.1 (compact format field.2)
  | [] => rfl
  | (key, value) :: rest => by rw [compactFields, compactFields_eq rest, List.map_cons]

/-- The characters of words and numbers. -/
def isPlain (c : Char) : Bool := !(isDelimiter c || c = '"' || c = '[' || c = '{')

variable (i : ℤ)

theorem repr_numeral : ∀ c ∈ i.repr.toList, c.isDigit = true ∨ c = '-' := by
  have digits (n : ℕ) : ∀ c ∈ n.repr.toList, c.isDigit = true := by
    intro c mem
    rw [Nat.repr_eq_ofList_toDigits, String.toList_ofList] at mem
    exact Nat.isDigit_of_mem_toDigits (by decide) (by decide) mem
  intro c mem
  cases i with
  | ofNat n => exact .inl (digits n c mem)
  | negSucc n =>
    rw [Int.repr, String.toList_append, List.mem_append] at mem
    rcases mem with sign | digit
    · exact .inr (List.mem_singleton.mp sign)
    · exact .inl (digits _ c digit)

theorem isPlain_of_isDigit {c} (digit : c.isDigit = true) : isPlain c = true := by
  by_contra special
  simp only [isPlain, isDelimiter, Bool.not_eq_true', Bool.not_eq_false, Bool.or_eq_true,
    decide_eq_true_eq] at special
  rcases special with (((((rfl | rfl) | rfl) | rfl) | rfl) | rfl) <;> exact absurd digit (by decide)

variable {value : Value}

theorem compact_plain (scalar : value.isScalar = true) :
    ∀ c ∈ compact format value, isPlain c = true := by
  have signs : ∀ c ∈ ['+', '-', '.', 'e', 'I', 'n', 'f', 'i', 't', 'y'], isPlain c = true :=
    List.all_eq_true.mp rfl
  cases value with
  | null => exact List.all_eq_true.mp rfl
  | bool b => cases b <;> exact List.all_eq_true.mp rfl
  | int i =>
    intro c mem
    rcases repr_numeral i c mem with digit | rfl
    · exact isPlain_of_isDigit digit
    · rfl
  | float x =>
    intro c mem
    have known := format.characters x c mem
    rw [isFloatCharacter, Bool.or_eq_true, decide_eq_true_eq] at known
    exact known.elim isPlain_of_isDigit (signs c)
  | _ => cases scalar

variable {word : List Char}

theorem repr_ne_word (letter : 'u' ∈ word ∨ 'a' ∈ word) (i : ℤ) : i.repr.toList ≠ word := by
  rintro rfl
  rcases letter with mem | mem <;> exact absurd (repr_numeral i _ mem) (by decide)

theorem float_ne_word (letter : 'u' ∈ word ∨ 'a' ∈ word) (x : PyFloat) : format.text x ≠ word := by
  rintro rfl
  rcases letter with mem | mem <;> exact absurd (format.characters x _ mem) (by decide)

theorem eq_of_compact_eq {value value'} (scalar : value.isScalar = true)
    (scalar' : value'.isScalar = true) (eq : compact format value = compact format value') :
    value = value' := by
  have null : 'u' ∈ compact format .null ∨ 'a' ∈ compact format .null := .inl (by simp [compact])
  have letter (b : Bool) : 'u' ∈ compact format (.bool b) ∨ 'a' ∈ compact format (.bool b) := by
    cases b with
    | true => exact .inl (by simp [compact])
    | false => exact .inr (by simp [compact])
  match value, value' with
  | .null, .null => rfl
  | .null, .bool b => cases b <;> cases eq
  | .null, .int i => exact absurd eq.symm (repr_ne_word null i)
  | .null, .float x => exact absurd eq.symm (float_ne_word null x)
  | .bool b, .null => cases b <;> cases eq
  | .bool b, .bool b' => cases b <;> cases b' <;> first | rfl | cases eq
  | .bool b, .int i => exact absurd eq.symm (repr_ne_word (letter b) i)
  | .bool b, .float x => exact absurd eq.symm (float_ne_word (letter b) x)
  | .int i, .null => exact absurd eq (repr_ne_word null i)
  | .int i, .bool b => exact absurd eq (repr_ne_word (letter b) i)
  | .int i, .int j => exact congrArg Value.int (Int.repr_injective (String.toList_inj.mp eq))
  | .int i, .float x => exact absurd eq.symm (format.notInteger x i)
  | .float x, .null => exact absurd eq (float_ne_word null x)
  | .float x, .bool b => exact absurd eq (float_ne_word (letter b) x)
  | .float x, .int i => exact absurd eq (format.notInteger x i)
  | .float x, .float y => exact congrArg Value.float (format.injective eq)

theorem repr_ne_nil : i.repr.toList ≠ [] := by
  intro empty
  cases i with
  | ofNat n =>
    rw [Int.repr, Nat.repr_eq_ofList_toDigits, String.toList_ofList] at empty
    exact Nat.toDigits_ne_nil empty
  | negSucc n =>
    rw [Int.repr, String.toList_append] at empty
    exact absurd (List.append_eq_nil_iff.mp empty).1 (by decide)

theorem compact_scalar (format : FloatFormat) (scalar : value.isScalar = true) :
    ∃ c later, compact format value = c :: later ∧ isPlain c = true := by
  have nonempty : compact format value ≠ [] := by
    cases value with
    | null => exact List.cons_ne_nil _ _
    | bool b => cases b <;> exact List.cons_ne_nil _ _
    | int i => exact repr_ne_nil i
    | float x => exact format.nonempty x
    | _ => cases scalar
  obtain ⟨c, later, text⟩ := List.exists_cons_of_ne_nil nonempty
  exact ⟨c, later, text, compact_plain scalar c (text ▸ List.mem_cons_self)⟩

def bracket : Value → Char
  | .list _ => '['
  | .dict _ => '{'
  | _ => '"'

theorem compact_bracket (format : FloatFormat) (json : value.isJson = true)
    (composite : value.isScalar = false) :
    ∃ later, compact format value = value.bracket :: later := by
  cases value with
  | str s => exact ⟨_, rfl⟩
  | list items | dict fields => exact sequence_eq_cons _ _ _
  | object n => cases json
  | _ => cases composite

theorem told_scalars {value value'} (scalar : value.isScalar = true)
    (scalar' : value'.isScalar = true) :
    Told (compact format value) (compact format value') (value = value') := by
  have word {v : Value} (plain : v.isScalar = true) :
      ∀ c ∈ compact format v, isDelimiter c = false := by
    intro c mem
    have known := compact_plain plain c mem
    simp only [isPlain, Bool.not_eq_true', Bool.or_eq_false_iff] at known
    exact known.1.1.1
  exact (told_word (word scalar) (word scalar')).imp (eq_of_compact_eq scalar scalar')

theorem isPlain_bracket (val : Value) : isPlain val.bracket = false := by
  cases val <;> rfl

variable {same : Prop}

theorem told_scalar_composite {value value'} (scalar : value.isScalar = true)
    (json : value'.isJson = true) (composite : value'.isScalar = false) :
    Told (compact format value) (compact format value') same := by
  obtain ⟨c, later, text, plain⟩ := compact_scalar format scalar
  obtain ⟨later', text'⟩ := compact_bracket format json composite
  rw [text, text']
  refine told_of_head_ne ?_
  rintro rfl
  rw [isPlain_bracket] at plain
  cases plain

theorem compact_opens {close} (closes : close = ']' ∨ close = '}') {val}
    (json : val.isJson = true) : Opens close (compact format val) := by
  have closing : isPlain close = false := by rcases closes with rfl | rfl <;> rfl
  cases scalar : val.isScalar with
  | true =>
    obtain ⟨c, later, text, plain⟩ := compact_scalar format scalar
    refine ⟨c, later, text, ?_⟩
    rintro rfl
    rw [closing] at plain
    cases plain
  | false =>
    obtain ⟨later, text⟩ := compact_bracket format json scalar
    have other : isDelimiter val.bracket = false := by cases val <;> rfl
    refine ⟨_, later, text, ?_⟩
    rintro rfl
    rcases closes with eq | eq <;> exact absurd
      (other.symm.trans (congrArg isDelimiter eq)) (by decide)

theorem told_brackets {value value'} (json : value.isJson = true)
    (json' : value'.isJson = true) (composite : value.isScalar = false)
    (composite' : value'.isScalar = false) (ne : value.bracket ≠ value'.bracket) :
    Told (compact format value) (compact format value') same := by
  obtain ⟨later, text⟩ := compact_bracket format json composite
  obtain ⟨later', text'⟩ := compact_bracket format json' composite'
  rw [text, text']
  exact told_of_head_ne ne

theorem told_lists {items items'} (json : (list items).isJson = true)
    (json' : (list items').isJson = true)
    (told : ∀ v ∈ items, ∀ w ∈ items', Told (compact format v) (compact format w) (v = w)) :
    Told (compact format (list items)) (compact format (list items'))
      (list items = list items') := by
  rw [isJson_list] at json json'
  rw [compact, compact, compactItems_eq, compactItems_eq]
  refine (told_sequence (.inl rfl) told (fun v mem => compact_opens (.inl rfl) (json v mem))
    fun w mem => compact_opens (.inl rfl) (json' w mem)).imp fun pairwise => ?_
  rw [List.forall₂_eq_eq_eq] at pairwise
  rw [pairwise]

theorem told_dicts {fields fields'}
    (told : ∀ v ∈ fields, ∀ w ∈ fields', Told (compact format v.2) (compact format w.2)
      (v.2 = w.2)) :
    Told (compact format (dict fields)) (compact format (dict fields'))
      (dict fields = dict fields') := by
  have opens (field : String × Value) : Opens '}' (entry field.1 (compact format field.2)) :=
    ⟨'"', _, rfl, by decide⟩
  rw [compact, compact, compactFields_eq, compactFields_eq]
  refine (told_sequence (.inr rfl) (fun v member w member' => told_entry (told v member w member'))
    (fun v _ => opens v) fun w _ => opens w).imp fun pairwise => ?_
  have pairs : (fun v w : String × Value => v.1 = w.1 ∧ v.2 = w.2) = Eq := by
    funext v w
    rw [Prod.ext_iff]
  rw [pairs, List.forall₂_eq_eq_eq] at pairwise
  rw [pairwise]

/-- The text of a value tells where it ends and which value it is. -/
theorem told_compact (value : Value) : ∀ value' : Value, value.isJson = true →
    value'.isJson = true →
      Told (compact format value) (compact format value') (value = value') := by
  induction value using byKind with
  | scalar value scalar =>
    intro value' _ json'
    cases scalar' : value'.isScalar with
    | true => exact told_scalars scalar scalar'
    | false => exact told_scalar_composite scalar json' scalar'
  | str s =>
    intro value' json json'
    cases value' with
    | str s' => exact (told_quote s s').imp (congrArg Value.str)
    | list items | dict fields => exact told_brackets json json' rfl rfl (by simp [bracket])
    | object n => cases json'
    | _ => exact (told_scalar_composite rfl json rfl).symm
  | list items ih =>
    intro value' json json'
    cases value' with
    | str s | dict fields => exact told_brackets json json' rfl rfl (by simp [bracket])
    | list items' =>
      exact told_lists json json' fun v member w member' =>
        ih v member w (isJson_list.mp json v member) (isJson_list.mp json' w member')
    | object n => cases json'
    | _ => exact (told_scalar_composite rfl json rfl).symm
  | dict fields ih =>
    intro value' json json'
    cases value' with
    | str s | list items => exact told_brackets json json' rfl rfl (by simp [bracket])
    | dict fields' =>
      exact told_dicts fun v member w member' =>
        ih v member w.2 ((isJson_dict.mp json).2 v member) ((isJson_dict.mp json').2 w member')
    | object n => cases json'
    | _ => exact (told_scalar_composite rfl json rfl).symm
  | object n =>
    intro value' json
    cases json

end

/-! ## The order of keys -/

/-- The entries in the order of their keys. -/
def sortFields (fields : Fields) : Fields :=
  fields.insertionSort fun first second => first.1 ≤ second.1

mutual

/-- The value with the entries of every dictionary in the order of their keys. -/
def sortKeys : Value → Value
  | .list items => .list (sortKeysItems items)
  | .dict fields => .dict (sortFields (sortKeysFields fields))
  | value => value

def sortKeysItems : List Value → List Value
  | [] => []
  | value :: rest => sortKeys value :: sortKeysItems rest

/-- The entries of a dictionary, each with its own dictionaries sorted. -/
def sortKeysFields : Fields → Fields
  | [] => []
  | (key, value) :: rest => (key, sortKeys value) :: sortKeysFields rest

end

theorem sortKeys_list (items : List Value) : sortKeys (list items) = list (items.map sortKeys) := by
  have each : ∀ items : List Value, sortKeysItems items = items.map sortKeys := by
    intro items
    induction items with
    | nil => rfl
    | cons val rest ih => rw [sortKeysItems, ih, List.map_cons]
  rw [sortKeys, each]

theorem sortKeys_dict (fields : Fields) :
    sortKeys (dict fields) =
      dict (sortFields (fields.map fun field => (field.1, sortKeys field.2))) := by
  have each : ∀ fields : Fields, sortKeysFields fields = fields.map fun field =>
      (field.1, sortKeys field.2) := by
    intro fields
    induction fields with
    | nil => rfl
    | cons field rest ih =>
      obtain ⟨key, val⟩ := field
      rw [sortKeysFields, ih, List.map_cons]
  rw [sortKeys, each]

variable {value : Value}

theorem sortKeys_of_isScalar (scalar : value.isScalar = true) : sortKeys value = value := by
  cases value <;> first | rfl | cases scalar

/-- One value is the other up to the order of the entries of dictionaries, at any depth: the least
equivalence that allows a dictionary to be reordered and holds inside lists and dictionaries. -/
inductive Same : Value → Value → Prop
  | refl (value : Value) : Same value value
  | symm {first second : Value} : Same first second → Same second first
  | trans {first second third : Value} : Same first second → Same second third → Same first third
  | reorder {fields fields' : Fields} : fields.Perm fields' → Same (.dict fields) (.dict fields')
  | item {value value' : Value} (before after : List Value) :
      Same value value' →
        Same (.list (before ++ value :: after)) (.list (before ++ value' :: after))
  | field {value value' : Value} (key : String) (before after : Fields) : Same value value' →
        Same (.dict (before ++ (key, value) :: after)) (.dict (before ++ (key, value') :: after))

theorem Same.isJson {first second} (eq : Same first second) : first.isJson = true ↔
    second.isJson = true := by
  induction eq with
  | refl val => rfl
  | symm _ ih => exact ih.symm
  | trans _ _ ih ih' => exact ih.trans ih'
  | reorder permuted =>
    rw [isJson_dict, isJson_dict, keys, keys, (permuted.map Prod.fst).nodup_iff]
    simp only [permuted.mem_iff]
  | item before after _ ih =>
    simp only [isJson_list, List.forall_mem_append, List.forall_mem_cons, ih]
  | field key before after _ ih =>
    simp only [isJson_dict, keys, List.map_append, List.map_cons, List.forall_mem_append,
      List.forall_mem_cons, ih]

variable {first second : Value}

theorem sortKeys_eq_of_same (eq : Same first second) (json : first.isJson = true) :
    sortKeys first = sortKeys second := by
  induction eq with
  | refl val => rfl
  | symm eq ih => exact (ih (eq.isJson.mpr json)).symm
  | trans eq _ ih ih' => exact (ih json).trans (ih' (eq.isJson.mp json))
  | reorder permuted =>
    rw [sortKeys_dict, sortKeys_dict, sortFields, sortFields,
      (OrderedDict.insertionSort_eq_iff Prod.fst _).mpr (permuted.map _)]
    rw [List.map_map]
    exact (isJson_dict.mp json).1
  | item before after _ ih =>
    rw [isJson_list] at json
    simp only [sortKeys_list, List.map_append, List.map_cons, ih (json _ (by simp))]
  | field key before after _ ih =>
    have inner := ih ((isJson_dict.mp json).2 (key, _) (by simp))
    simp only [sortKeys_dict, List.map_append, List.map_cons, inner]

theorem Same.items (f : Value → Value) {items} (each : ∀ val ∈ items, Same val (f val)) :
    Same (.list items) (.list (items.map f)) := by
  suffices general :
      ∀ before, Same (.list (before ++ items)) (.list (before ++ items.map f)) from general []
  induction items with
  | nil => exact fun before => .refl _
  | cons val rest ih =>
    intro before
    have later := ih (List.forall_mem_cons.mp each).2 (before ++ [f val])
    rw [List.append_assoc, List.append_assoc] at later
    exact .trans (.item before rest (each val List.mem_cons_self)) later

theorem Same.fields (f : Value → Value) {fields}
    (each : ∀ entry ∈ fields, Same entry.2 (f entry.2)) :
    Same (.dict fields) (.dict (fields.map fun entry => (entry.1, f entry.2))) := by
  suffices general : ∀ before, Same (.dict (before ++ fields))
      (.dict (before ++ fields.map fun entry => (entry.1, f entry.2))) from general []
  induction fields with
  | nil => exact fun before => .refl _
  | cons entry rest ih =>
    intro before
    have later := ih (List.forall_mem_cons.mp each).2 (before ++ [(entry.1, f entry.2)])
    rw [List.append_assoc, List.append_assoc] at later
    exact .trans (.field entry.1 before rest (each entry List.mem_cons_self)) later

theorem same_sortKeys (val : Value) : Same val (sortKeys val) := by
  induction val using byKind with
  | scalar val scalar =>
    rw [sortKeys_of_isScalar scalar]
    exact .refl val
  | str s | object n => exact .refl _
  | list items ih =>
    rw [sortKeys_list]
    exact .items sortKeys ih
  | dict fields ih =>
    rw [sortKeys_dict]
    exact .trans (.fields sortKeys ih) (.reorder (List.perm_insertionSort _ _).symm)

/-- Values have the same sorted form exactly if they are the same up to the order of entries. -/
theorem sortKeys_eq_iff (json : first.isJson = true) :
    sortKeys first = sortKeys second ↔ Same first second := by
  refine ⟨fun sorted => ?_, fun eq => sortKeys_eq_of_same eq json⟩
  have half := same_sortKeys first
  rw [sorted] at half
  exact half.trans (same_sortKeys second).symm

theorem keys_map_sortKeys (fields : Fields) :
    keys (fields.map fun field => (field.1, sortKeys field.2)) = keys fields := by
  simp only [keys, List.map_map, Function.comp_def]

/-- Dictionaries have the same sorted form exactly if they agree key by key. -/
theorem sortKeys_dict_iff {fields fields'} (distinct : (keys fields).Nodup)
    (distinct' : (keys fields').Nodup) :
    sortKeys (dict fields) = sortKeys (dict fields') ↔
      ∀ key, (fields.lookup key).map sortKeys = (fields'.lookup key).map sortKeys := by
  rw [← keys_map_sortKeys] at distinct distinct'
  rw [sortKeys_dict, sortKeys_dict, Value.dict.injEq, sortFields, sortFields,
    OrderedDict.insertionSort_eq_iff Prod.fst distinct,
    OrderedDict.perm_iff_lookup distinct distinct']
  simp only [OrderedDict.lookup_map_values]

/-- Dictionaries with the same keys in the same order agree entry by entry. -/
theorem sortKeys_record_iff {fields fields'} (uniq : (keys fields).Nodup)
    (aligned : keys fields = keys fields') :
    sortKeys (dict fields) = sortKeys (dict fields') ↔
      fields.map (fun field => sortKeys field.2) = fields'.map fun field => sortKeys field.2 := by
  rw [← keys_map_sortKeys] at uniq
  rw [sortKeys_dict, sortKeys_dict, Value.dict.injEq, sortFields, sortFields,
    OrderedDict.insertionSort_eq_iff Prod.fst uniq,
    OrderedDict.perm_iff_eq_of_keys_eq uniq (by rw [keys_map_sortKeys, keys_map_sortKeys, aligned])]
  constructor
  · intro eq
    simpa only [List.map_map, Function.comp_def] using congrArg (List.map Prod.snd) eq
  · intro eq
    have zipped (fields : Fields) : fields.map (fun field => (field.1, sortKeys field.2)) =
        (keys fields).zip (fields.map fun field => sortKeys field.2) := by
      rw [keys, List.zip_map']
    rw [zipped, zipped, aligned, eq]

variable (format : FloatFormat)

/-- `json.dumps(value, sort_keys=True, separators=(",", ":"))`; `none` where it raises. -/
def dumps (value : Value) : Option String :=
  if value.isJson then some (String.ofList (compact format (sortKeys value))) else none

theorem dumps_of_isJson (json : value.isJson = true) :
    dumps format value = some (String.ofList (compact format (sortKeys value))) := if_pos json

/-- JSON values have the same canonical text exactly if they are the same up to the order of
entries. -/
theorem dumps_eq_iff {format} (json : first.isJson = true) (json' : second.isJson = true) :
    dumps format first = dumps format second ↔ Same first second := by
  have sorted {val : Value} (json : val.isJson = true) : (sortKeys val).isJson = true :=
    (same_sortKeys val).isJson.mp json
  rw [dumps_of_isJson format json, dumps_of_isJson format json', Option.some.injEq,
    String.ofList_inj, ← sortKeys_eq_iff json]
  refine ⟨fun texts => ?_, congrArg (compact format)⟩
  have nothing : Ends [] := nofun
  exact (told_compact _ _ (sorted json) (sorted json') [] [] nothing nothing
    (congrArg (· ++ []) texts)).1

end Value

end AgentOrchestration
