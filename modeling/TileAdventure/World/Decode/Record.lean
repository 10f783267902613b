import TileAdventure.World.Decode.Fault

/-!
# Records

A record is written as an object, or as the array of its fields in order. Fields are read
into a draft in the order of the text, so the first fault of the text is the one reported:
unknown members are skipped, a member given twice is refused, and a field left out is
refused unless it has a default. An array may leave off fields with a default at its end.
-/

namespace TileAdventure.Decode

/-- Whether a document is read as it comes or is held whole. It matters only to the words
for an array with too many items. -/
inductive Mode where
  | streamed
  | held

/-- A field of a record that is drafted as a `δ`. -/
structure Slot (δ : Type) where
  name : String
  /-- Whether the draft has the field already. -/
  isFilled : δ → Bool
  /-- Read the field's value into the draft. -/
  fill : Json → δ → Except Fault δ

/-- How a field is absent: its place among the fields, and its name. -/
abbrev Absence := Nat → String → Problem

/-- A type of records `α`, drafted as `δ`. -/
structure Shape (δ α : Type) where
  /-- What a message calls the record. -/
  name : String
  slots : List (Slot δ)
  /-- The draft without any field. -/
  empty : δ
  /-- The record of a draft; a field without default must not be absent. -/
  finish : Absence → δ → Except Problem α

/-- A field that must not be absent. -/
def required {α : Type} (absent : Absence) (place : Nat) (name : String) (field : Option α) :
    Except Problem α :=
  match field with
  | some a => .ok a
  | none => .error (absent place name)

/-- Read the members of an object into a draft, in order. -/
def fillMembers {δ : Type} (slots : List (Slot δ)) :
    List (String × Json) → δ → Except Fault δ
  | [], draft => .ok draft
  | (name, j) :: members, draft =>
    match slots.find? (·.name = name) with
    | none => fillMembers slots members draft
    | some slot =>
      if slot.isFilled draft then .error (.here (.duplicateField name))
      else do
        let draft ← (slot.fill j draft).mapError (·.under (.member name))
        fillMembers slots members draft

/-- Read the items of an array into the fields in order, counted from `index`. -/
def fillItems {δ : Type} : List (Slot δ) → Nat → List Json → δ → Except Fault δ
  | slot :: slots, index, j :: js, draft => do
    let draft ← (slot.fill j draft).mapError (·.under (.item index))
    fillItems slots (index + 1) js draft
  | _, _, _, draft => .ok draft

namespace Shape

variable {δ α : Type}

/-- What a message expects of an array for this record. -/
def wanted (shape : Shape δ α) : String :=
  shape.name ++ " with " ++ elements shape.slots.length

/-- The problem of an array of `length` items, too many for its record. -/
def surplus (mode : Mode) (length : Nat) : Problem :=
  match mode with
  | .streamed => .surplusItems
  | .held => .wrongLength length "fewer elements in array"

/-- Read a record. -/
def read (shape : Shape δ α) (mode : Mode) : Json → Except Fault α
  | .object members => do
    let draft ← fillMembers shape.slots members shape.empty
    (shape.finish (fun _ name => .missingField name) draft).mapError .here
  | .array js => do
    let draft ← fillItems shape.slots 0 js shape.empty
    let a ← (shape.finish (fun place _ => .wrongLength place shape.wanted) draft).mapError .here
    if shape.slots.length < js.length then .error (.here (surplus mode js.length)) else .ok a
  | j => .error (.here (.wrongType j shape.name))

end Shape

end TileAdventure.Decode
