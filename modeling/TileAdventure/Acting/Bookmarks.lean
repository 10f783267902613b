import TileAdventure.Acting.Halt
import TileAdventure.Random.Source
import TileAdventure.World.Basic

/-!
# Bookmarks in sequences

A sequence action runs one of its actions at a time. A bookmark keeps where it stands, one
for each tile and each place in a behavior, named by an `ActionPath`: it is a position in the
order in which the actions are visited. `current` looks up the action to run, drawing up the
order on first use, and `advance` moves on after it has run.
-/

namespace TileAdventure

/-- The name of a place in the actions for an event: the event, the index of an action in
its behavior and the indexes below that one, joined by hyphens. -/
structure ActionPath where
  text : String
  deriving DecidableEq, Repr

namespace ActionPath

/-- The action at `index` of the behavior for `event`. -/
def root (event : String) (index : Nat) : ActionPath :=
  ⟨event ++ "-" ++ toString index⟩

/-- The action at `index` below `path`. -/
def child (path : ActionPath) (index : Nat) : ActionPath :=
  ⟨path.text ++ "-" ++ toString index⟩

end ActionPath

/-- What a bookmark belongs to. -/
structure SequenceKey where
  tile : TileId
  path : ActionPath
  deriving DecidableEq, Repr

/-- The form of a sequence: how many actions it has, whether it starts over after the last
one, and whether it visits them in random order. -/
structure SequenceForm where
  length : Nat
  looping : Bool
  shuffled : Bool
  deriving DecidableEq, Repr

/-- A position in a visiting order. -/
structure Bookmark where
  position : Nat
  order : List Nat
  deriving DecidableEq, Repr

/-- The bookmarks of all sequences that have run. -/
structure Bookmarks where
  entries : List (SequenceKey × Bookmark)
  deriving DecidableEq, Repr

namespace Bookmarks

/-- No bookmarks. -/
def empty : Bookmarks := ⟨[]⟩

/-- The bookmark of a key. -/
def get? (marks : Bookmarks) (key : SequenceKey) : Option Bookmark :=
  marks.entries.lookup key

/-- Set the bookmark of a key. -/
def put (marks : Bookmarks) (key : SequenceKey) (mark : Bookmark) : Bookmarks :=
  ⟨(key, mark) :: marks.entries.filter fun (other, _) => other ≠ key⟩

/-- The number of bookmarks. -/
def size (marks : Bookmarks) : Nat :=
  marks.entries.length

/-- Whether there are no bookmarks. -/
def isEmpty (marks : Bookmarks) : Bool :=
  marks.entries.isEmpty

/-- Drop the bookmarks of the given tiles. -/
def forget (marks : Bookmarks) (tiles : List TileId) : Bookmarks :=
  ⟨marks.entries.filter fun (key, _) => key.tile ∉ tiles⟩

@[simp] theorem get?_empty (key : SequenceKey) : empty.get? key = none := rfl

theorem lookup_filter_fst {α β : Type} [DecidableEq α] (p : α → Bool) (key : α)
    (entries : List (α × β)) :
    (entries.filter fun e => p e.1).lookup key = if p key then entries.lookup key else none := by
  induction entries with
  | nil => simp
  | cons e entries ih => grind

/-- Setting a bookmark changes what is found under its own key only. -/
@[simp] theorem get?_put (marks : Bookmarks) (key other : SequenceKey) (mark : Bookmark) :
    (marks.put key mark).get? other = if other = key then some mark else marks.get? other := by
  have h := lookup_filter_fst (fun k => decide (k ≠ key)) other marks.entries
  by_cases ho : other = key
  · simp [get?, put, ho]
  · have hb : (other == key) = false := by simpa using ho
    simpa [get?, put, List.lookup_cons, hb, ho] using h

/-- A forgotten tile has no bookmark left, and any other tile keeps its own. -/
@[simp] theorem get?_forget (marks : Bookmarks) (tiles : List TileId) (key : SequenceKey) :
    (marks.forget tiles).get? key = if key.tile ∈ tiles then none else marks.get? key := by
  have h := lookup_filter_fst (fun k : SequenceKey => decide (k.tile ∉ tiles)) key marks.entries
  by_cases ht : key.tile ∈ tiles <;> simpa [get?, forget, ht] using h

variable {γ : Type} [Random.Source γ]

/-- The bookmark of a key, set at the start of a new order if there is none. -/
def ensure (marks : Bookmarks) (key : SequenceKey) (form : SequenceForm) (source : γ) :
    Bookmark × Bookmarks × γ :=
  match marks.get? key with
  | some mark => (mark, marks, source)
  | none =>
    let (order, source) := Random.visitOrder form.length form.shuffled source
    (⟨0, order⟩, marks.put key ⟨0, order⟩, source)

/-- The index of the action to run now. -/
def current (marks : Bookmarks) (key : SequenceKey) (form : SequenceForm) (source : γ) :
    Except Halt Nat × Bookmarks × γ :=
  if form.length = 0 then (.error (.failed (.emptySequence key.path.text)), marks, source)
  else
    let (mark, marks, source) := marks.ensure key form source
    match mark.order[mark.position]? with
    | some index => (.ok index, marks, source)
    | none => (.error .lostPlace, marks, source)

/-- Move past the action that `current` gave. After the last one a looping sequence starts
over, in a new order if shuffled, and any other stays. -/
def advance (marks : Bookmarks) (key : SequenceKey) (form : SequenceForm) (source : γ) :
    Bookmarks × γ :=
  match marks.get? key with
  | none => (marks, source)
  | some mark =>
    let next := mark.position + 1
    if next < form.length then (marks.put key { mark with position := next }, source)
    else if !form.looping then
      (marks.put key { mark with position := form.length - 1 }, source)
    else if form.shuffled then
      let (order, source) := Random.visitOrder form.length true source
      (marks.put key ⟨0, order⟩, source)
    else (marks.put key { mark with position := 0 }, source)

end Bookmarks

end TileAdventure
