import TileAdventure.World.Action
import TileAdventure.World.Decode.Record

/-!
# Reading actions

An action is an object whose member `type` names its kind, or an array whose first item
does. The kind is read first; then the fields of that kind are read in the order of the
text, other members being skipped. Faults below the kind are reported at the action itself,
at whatever depth they are.
-/

namespace TileAdventure.Decode

/-! ## Comparisons -/

/-- The spellings of the comparisons, in the order in which a message lists them. -/
def comparisonNames : List (String × Comparison) :=
  [("=", .equal), ("==", .equal), ("!=", .notEqual), ("<", .less), ("<=", .lessOrEqual),
    (">", .greater), (">=", .greaterOrEqual)]

/-- The comparison spelled `name`. -/
def comparisonNamed (name : String) : Except Problem Comparison :=
  match comparisonNames.lookup name with
  | some c => .ok c
  | none => .error (.unknownVariant name (comparisonNames.map Prod.fst))

/-- A comparison: its spelling, or an object with the spelling as its only member and null
as the value. Within an action an empty object stands for null too. -/
def comparison (inAction : Bool) : Json → Except Problem Comparison
  | .string name => comparisonNamed name
  | .object [(name, j)] => do
    let c ← comparisonNamed name
    match j, inAction with
    | .null, _ => return c
    | .object [], true => return c
    | j, _ => .error (.wrongType j "unit")
  | .object _ => .error .notSingleMember
  | j => .error (.wrongType j "string or map")

/-! ## Kinds -/

/-- The kind that `j` names. Where `byIndex` holds it may also be given by its index. -/
def actionKind (byIndex : Bool) (j : Json) : Except Problem ActionKind :=
  match j, byIndex with
  | .string name, _ =>
    match ActionKind.all.find? (·.name = name) with
    | some kind => .ok kind
    | none => .error (.unknownVariant name (ActionKind.all.map ActionKind.name))
  | .integer (.ofNat n), true =>
    match ActionKind.all[n]? with
    | some kind => .ok kind
    | none => .error (.outOfRange n "variant index 0 <= i < 8")
  | j, _ => .error (.wrongType j "variant identifier")

/-- The kind that the one member `type` names. -/
def memberKind (byIndex : Bool) (members : List (String × Json)) : Except Fault ActionKind :=
  match members.filter fun (name, _) => name = "type" with
  | [] => .error (.here (.missingField "type"))
  | (_, j) :: more => do
    let kind ← (actionKind byIndex j).mapError fun p => ⟨[.member "type"], p⟩
    if more.isEmpty then return kind else .error (.here (.duplicateField "type"))

/-! ## Fields -/

/-- The fields of actions. -/
inductive ActionField where
  | text
  | spriteName
  | quantity
  | isGiving
  | roomIndex
  | tileX
  | tileY
  | eventName
  | comparison
  | isLooping
  | isShuffled
  | actionList
  deriving DecidableEq, Repr

/-- The name of a field in documents. -/
def ActionField.name : ActionField → String
  | text => "text"
  | spriteName => "spriteName"
  | quantity => "quantity"
  | isGiving => "isGiving"
  | roomIndex => "roomIndex"
  | tileX => "tileX"
  | tileY => "tileY"
  | eventName => "eventName"
  | comparison => "comparison"
  | isLooping => "isLooping"
  | isShuffled => "isShuffled"
  | actionList => "actionList"

/-- The fields of a kind in order. -/
def fieldsOf : ActionKind → List ActionField
  | .dialog => [.text]
  | .giveItem => [.spriteName, .quantity, .isGiving]
  | .transformSelf => [.spriteName]
  | .moveAvatar => [.roomIndex, .tileX, .tileY]
  | .removeSelf => []
  | .triggerEvent => [.eventName]
  | .conditional => [.comparison, .spriteName, .quantity, .actionList]
  | .sequence => [.isLooping, .isShuffled, .actionList]

/-- The fields read so far. -/
structure ActionDraft where
  text : Option String := none
  spriteName : Option String := none
  quantity : Option Int := none
  isGiving : Option Bool := none
  roomIndex : Option Nat := none
  tileX : Option Int := none
  tileY : Option Int := none
  eventName : Option String := none
  comparison : Option Comparison := none
  isLooping : Option Bool := none
  isShuffled : Option Bool := none
  actionList : Option (List Action) := none

namespace ActionDraft

/-- Whether a field has been read. -/
def isFilled (d : ActionDraft) : ActionField → Bool
  | .text => d.text.isSome
  | .spriteName => d.spriteName.isSome
  | .quantity => d.quantity.isSome
  | .isGiving => d.isGiving.isSome
  | .roomIndex => d.roomIndex.isSome
  | .tileX => d.tileX.isSome
  | .tileY => d.tileY.isSome
  | .eventName => d.eventName.isSome
  | .comparison => d.comparison.isSome
  | .isLooping => d.isLooping.isSome
  | .isShuffled => d.isShuffled.isSome
  | .actionList => d.actionList.isSome

/-- Read a field, where `actions` is the reading of the value as a list of actions. -/
def fill (d : ActionDraft) (field : ActionField) (j : Json)
    (actions : Except Problem (List Action)) : Except Problem ActionDraft :=
  match field with
  | .text => (Decode.text j).map fun s => { d with text := some s }
  | .spriteName => (Decode.text j).map fun s => { d with spriteName := some s }
  | .quantity => (integer .int64 j).map fun n => { d with quantity := some n }
  | .isGiving => (flag j).map fun b => { d with isGiving := some b }
  | .roomIndex => (natural .nat64 j).map fun n => { d with roomIndex := some n }
  | .tileX => (integer .int32 j).map fun n => { d with tileX := some n }
  | .tileY => (integer .int32 j).map fun n => { d with tileY := some n }
  | .eventName => (Decode.text j).map fun s => { d with eventName := some s }
  | .comparison => (Decode.comparison true j).map fun c => { d with comparison := some c }
  | .isLooping => (flag j).map fun b => { d with isLooping := some b }
  | .isShuffled => (flag j).map fun b => { d with isShuffled := some b }
  | .actionList => actions.map fun as => { d with actionList := some as }

/-- The action of a kind with the fields read. Items are given, sequences neither loop nor
shuffle, and action lists are empty unless the text has it otherwise. -/
def finish (kind : ActionKind) (absent : Absence) (d : ActionDraft) : Except Problem Action :=
  match kind with
  | .dialog => do
    return .dialog (← required absent 0 "text" d.text)
  | .giveItem => do
    let item ← required absent 0 "spriteName" d.spriteName
    let quantity ← required absent 1 "quantity" d.quantity
    return .giveItem item quantity (d.isGiving.getD true)
  | .transformSelf => do
    return .transformSelf (← required absent 0 "spriteName" d.spriteName)
  | .moveAvatar => do
    let room ← required absent 0 "roomIndex" d.roomIndex
    let x ← required absent 1 "tileX" d.tileX
    let y ← required absent 2 "tileY" d.tileY
    return .moveAvatar room x y
  | .removeSelf => return .removeSelf
  | .triggerEvent => do
    return .triggerEvent (← required absent 0 "eventName" d.eventName)
  | .conditional => do
    let comparison ← required absent 0 "comparison" d.comparison
    let item ← required absent 1 "spriteName" d.spriteName
    let quantity ← required absent 2 "quantity" d.quantity
    return .conditional comparison item quantity (d.actionList.getD [])
  | .sequence =>
    return .sequence (d.isLooping.getD false) (d.isShuffled.getD false) (d.actionList.getD [])

end ActionDraft

/-! ## Actions -/

/-- What a message calls the variant of a kind. -/
def variantName : ActionKind → String
  | .dialog => "struct variant Action::Dialog"
  | .giveItem => "struct variant Action::GiveItem"
  | .transformSelf => "struct variant Action::TransformSelf"
  | .moveAvatar => "struct variant Action::MoveAvatar"
  | .removeSelf => "unit variant Action::RemoveSelf"
  | .triggerEvent => "struct variant Action::TriggerEvent"
  | .conditional => "struct variant Action::Conditional"
  | .sequence => "struct variant Action::Sequence"

/-- The absence of a field from the array of a kind's fields. -/
def tooShort (kind : ActionKind) : Absence := fun place _ =>
  .wrongLength place (variantName kind ++ " with " ++ elements (fieldsOf kind).length)

/-- Refuse an array with more than the fields of a kind. -/
def checkLength (kind : ActionKind) (js : List Json) : Except Problem Unit :=
  let count := (fieldsOf kind).length
  if count < js.length then .error (.wrongLength js.length (elements count ++ " in sequence"))
  else .ok ()

mutual

/-- Read an action. One that stands within another may give its kind by index. -/
def action (nested : Bool) : Json → Except Fault Action
  | .object members => do
    let kind ← memberKind nested members
    let read : Except Problem Action := do
      let draft ← actionMembers kind members {}
      draft.finish kind fun _ name => .missingField name
    read.mapError .here
  | .array (tag :: js) => do
    let kind ← (actionKind nested tag).mapError fun p => ⟨[.item 0], p⟩
    let read : Except Problem Action := do
      let draft ← actionItems (fieldsOf kind) js {}
      let a ← draft.finish kind (tooShort kind)
      checkLength kind js
      return a
    read.mapError .here
  | .array [] => .error (.here (.missingField "type"))
  | j => .error (.here (.wrongType j "internally tagged enum Action"))

/-- Read the members of an action of a kind into a draft, in order. -/
def actionMembers (kind : ActionKind) :
    List (String × Json) → ActionDraft → Except Problem ActionDraft
  | [], draft => .ok draft
  | (name, j) :: members, draft =>
    match (fieldsOf kind).find? (·.name = name) with
    | none => actionMembers kind members draft
    | some field =>
      if draft.isFilled field then .error (.duplicateField name)
      else do
        let draft ← draft.fill field j (nestedActions j)
        actionMembers kind members draft

/-- Read the items of an array into fields, in order. -/
def actionItems : List ActionField → List Json → ActionDraft → Except Problem ActionDraft
  | field :: fields, j :: js, draft => do
    let draft ← draft.fill field j (nestedActions j)
    actionItems fields js draft
  | _, _, draft => .ok draft

/-- Read the list of actions within an action. -/
def nestedActions : Json → Except Problem (List Action)
  | .array js => actionList js
  | j => .error (.wrongType j "a sequence")

/-- Read actions in order. -/
def actionList : List Json → Except Problem (List Action)
  | [] => .ok []
  | j :: js => do
    let a ← (action true j).mapError Fault.problem
    let as ← actionList js
    return a :: as

end

end TileAdventure.Decode
