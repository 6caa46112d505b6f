import GatewayProxy.Lib.JsonText

/-!
# Structs as JSON

JSON trees, the texts that spell one, and how a derived reader takes a struct out
of the members of an object and a derived writer puts one in. The tree keeps the
members of an object in document order, with duplicates. A struct is read from an
object by the names of its fields, unknown members ignored and duplicates refused.

Main results:

* `Spells`: the texts of a tree, by the grammar alone.
* `Field.ofMembers_required`, `Field.ofMembers_skipped`: a field is read back from
  the members that were written.
-/

namespace Serde

open Utf8 JsonText

inductive Json
  | null
  | bool (b : Bool)
  | unsigned (n : Nat)
  /-- negative, or with a fraction or an exponent -/
  | otherNumber (text : Str)
  | string (s : Str)
  | array (elems : List Json)
  | object (members : List (Str × Json))

abbrev Member := Str × Json

-- ---------------------------------------------------------------------------
-- The texts of a tree
-- ---------------------------------------------------------------------------

/-- A number without a sign, a fraction, an exponent and leading zeros is unsigned. -/
def scalarTree (text : Str) : Json :=
  if text = "null".toList then .null
  else if text = "true".toList then .bool true
  else if text = "false".toList then .bool false
  else
    match decimal? text with
    | some n => if formatNat n = text then .unsigned n else .otherNumber text
    | none => .otherNumber text

mutual

/-- What a value stands for, if its strings have no surrogate pair. -/
def tree : Value → Option Json
  | .string l => l.decode.map .string
  | .scalar s => some (scalarTree s.text)
  | .array _ elems => (trees elems).map .array
  | .object _ members => (memberTrees members).map .object

def trees : Elems → Option (List Json)
  | .nil => some []
  | .cons _ value _ rest => do return (← tree value) :: (← trees rest)

def memberTrees : Members → Option (List Member)
  | .nil => some []
  | .cons _ name value rest => do return (← name.decode, ← tree value) :: (← memberTrees rest)

end

/-- The text is a JSON text of the tree. -/
def Spells (text : Str) (j : Json) : Prop :=
  ∃ (before after : Blank) (value : Value),
    text = before.text ++ (render value.tokens ++ after.text) ∧ tree value = some j

-- ---------------------------------------------------------------------------
-- Readers and writers of values
-- ---------------------------------------------------------------------------

def readString : Json → Option Str
  | .string s => some s
  | _ => none

/-- An unsigned type with values below `bound`. -/
def readUnsigned (bound : Nat) : Json → Option Nat
  | .unsigned n => if n < bound then some n else none
  | _ => none

section Values

variable {α : Type}

/-- `Option<T>`. -/
def readOption (read : Json → Option α) : Json → Option (Option α)
  | .null => some none
  | j => (read j).map some

def writeOption (write : α → Json) : Option α → Json
  | none => .null
  | some a => write a

theorem readOption_of_ne {read : Json → Option α} {j : Json} (h : j ≠ .null) :
    readOption read j = (read j).map some := by
  cases j with
  | null => exact absurd rfl h
  | bool b => rfl
  | unsigned n => rfl
  | otherNumber text => rfl
  | string s => rfl
  | array elems => rfl
  | object members => rfl

-- ---------------------------------------------------------------------------
-- Fields
-- ---------------------------------------------------------------------------

/-- A field of a struct: how it is read, and what it is when the object does not
have it. -/
structure Field (α : Type) where
  name : Str
  read : Json → Option α
  absent : Option α

namespace Field

def required (name : Str) (read : Json → Option α) : Field α := ⟨name, read, none⟩

/-- An `Option`. -/
def optional (name : Str) (read : Json → Option α) : Field (Option α) :=
  ⟨name, readOption read, some none⟩

/-- The members with the name of the field. -/
def named (name : Str) (members : List Member) : List Member :=
  members.filter fun m => m.1 = name

def ofMembers (f : Field α) (members : List Member) : Option α :=
  match named f.name members with
  | [] => f.absent
  | [m] => f.read m.2
  -- a duplicate field
  | _ => none

end Field

/-- `skip_serializing_if = "Option::is_none"`. -/
def skipNone (name : Str) (write : α → Json) : Option α → List Member
  | none => []
  | some a => [(name, write a)]

theorem skipNone_names (name : Str) (write : α → Json) (o : Option α) :
    ((skipNone name write o).map Prod.fst).Sublist [name] := by
  cases o with
  | none => exact List.nil_sublist _
  | some a => exact List.Sublist.refl _

namespace Field

variable {name : Str} {members : List Member}

@[simp] theorem named_append (name : Str) (as bs : List Member) :
    named name (as ++ bs) = named name as ++ named name bs := List.filter_append ..

theorem named_self (name : Str) (j : Json) : named name [(name, j)] = [(name, j)] := by
  rw [named, List.filter_cons, if_pos (decide_eq_true rfl)]
  rfl

theorem named_ne {other : Str} (h : other ≠ name) (j : Json) : named name [(other, j)] = [] := by
  rw [named, List.filter_cons, if_neg (by simpa using h)]
  rfl

theorem named_skipNone_self (name : Str) (write : α → Json) (o : Option α) :
    named name (skipNone name write o) = skipNone name write o := by
  cases o with
  | none => rfl
  | some a => exact named_self name (write a)

theorem named_skipNone_ne {other : Str} (h : other ≠ name) (write : α → Json) (o : Option α) :
    named name (skipNone other write o) = [] := by
  cases o with
  | none => rfl
  | some a => exact named_ne h (write a)

theorem ofMembers_required {read : Json → Option α} {j : Json}
    (h : named name members = [(name, j)]) : (required name read).ofMembers members = read j := by
  have hNamed : named (required name read).name members = [(name, j)] := h
  rw [ofMembers, hNamed]
  rfl

/-- An option that is skipped when it is none is read back. -/
theorem ofMembers_skipped {read : Json → Option α} {write : α → Json} {o : Option α}
    (h : named name members = skipNone name write o)
    (hRead : ∀ a ∈ o, read (write a) = some a) (hNull : ∀ a, write a ≠ .null) :
    (optional name read).ofMembers members = some o := by
  have hNamed : named (optional name read).name members = skipNone name write o := h
  rw [ofMembers, hNamed]
  cases o with
  | none => rfl
  | some a =>
    show readOption read (write a) = some (some a)
    rw [readOption_of_ne (hNull a), hRead a rfl, Option.map_some]

end Field

end Values

end Serde
