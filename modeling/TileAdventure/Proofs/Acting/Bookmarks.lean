import TileAdventure.Proofs.Acting.Course

/-!
# What moves a bookmark

A bookmark fits a sequence if it stands at one of its actions, in an order that has each of
them once (`Bookmark.Fits`). A fresh bookmark fits, and one that fits still does when it has
moved on (`Bookmark.Moves.fits`).

In a course of acting only a sequence that runs under a key touches the bookmark of that key
(`Scene.Acts.get?_bookmarks`). The tiles stay, and what an action does not change about
a tile stays with it (`Scene.Acts.map_tiles`).
-/

namespace TileAdventure

/-! ## Bookmarks that fit -/

/-- The bookmark stands at one of `n` actions, in an order of all of them. -/
structure Bookmark.Fits (mark : Bookmark) (n : Nat) : Prop where
  position : mark.position < n
  order : mark.order.Perm (List.range n)

theorem Random.perm_visitOrder {γ : Type} [Random.Source γ] (n : Nat) (shuffle : Bool)
    (source : γ) : (visitOrder n shuffle source).1.Perm (List.range n) :=
  (List.perm_ext_iff_of_nodup (nodup_visitOrder n shuffle source) List.nodup_range).mpr
    (by simp)

namespace Bookmark

variable {mark mark' : Bookmark} {n : Nat}

theorem Fits.length (h : mark.Fits n) : mark.order.length = n := by
  simpa using h.order.length_eq

/-- A bookmark that fits stands at the index of an action. -/
theorem Fits.getElem? (h : mark.Fits n) :
    ∃ index, mark.order[mark.position]? = some index ∧ index < n := by
  have hposition : mark.position < mark.order.length := h.length ▸ h.position
  refine ⟨_, List.getElem?_eq_getElem hposition, ?_⟩
  exact List.mem_range.mp (h.order.mem_iff.mp (List.getElem_mem hposition))

theorem fits_fresh {γ : Type} [Random.Source γ] (hn : n ≠ 0) (shuffle : Bool) (source : γ) :
    Fits ⟨0, (Random.visitOrder n shuffle source).1⟩ n :=
  ⟨Nat.pos_of_ne_zero hn, Random.perm_visitOrder n shuffle source⟩

/-- Where a bookmark stands when it has moved on: one further, or after the last action
there still, or at the start of a next round. -/
inductive Moves (form : SequenceForm) (mark : Bookmark) : Bookmark → Prop
  | further : mark.position + 1 < form.length →
      Moves form mark { mark with position := mark.position + 1 }
  | stay : form.length ≤ mark.position + 1 → form.looping = false →
      Moves form mark { mark with position := form.length - 1 }
  | again {order : List Nat} : form.length ≤ mark.position + 1 →
      (order = mark.order ∨ order.Perm (List.range form.length)) →
      Moves form mark ⟨0, order⟩

theorem Moves.fits {form : SequenceForm} (h : mark.Moves form mark')
    (hmark : mark.Fits form.length) : mark'.Fits form.length := by
  have hpos := hmark.position
  cases h with
  | further hlt => exact ⟨hlt, hmark.order⟩
  | stay => exact ⟨by dsimp only; omega, hmark.order⟩
  | again _ horder =>
    refine ⟨by dsimp only; omega, ?_⟩
    rcases horder with rfl | horder
    · exact hmark.order
    · exact horder

end Bookmark

/-! ## Looking up and moving on -/

namespace Bookmarks

variable {γ : Type} [Random.Source γ] {marks marks' : Bookmarks} {key other : SequenceKey}
  {form : SequenceForm} {source source' : γ} {r : Except Halt Nat}

/-- The bookmark that a lookup works with is the one there is, or a fresh one. -/
theorem ensure_cases {mark : Bookmark}
    (h : marks.ensure key form source = (mark, marks', source')) :
    marks'.get? key = some mark ∧
      (marks.get? key = some mark ∧ marks' = marks ∨
        marks.get? key = none ∧ marks' = marks.put key mark ∧
          mark = ⟨0, (Random.visitOrder form.length form.shuffled source).1⟩) := by
  unfold ensure at h
  split at h
  · rename_i hmark
    cases h
    exact ⟨hmark, Or.inl ⟨hmark, rfl⟩⟩
  · rename_i hnone
    cases h
    exact ⟨by simp, Or.inr ⟨hnone, rfl, rfl⟩⟩

/-- A lookup in an empty sequence fails. -/
theorem current_of_empty (h : marks.current key form source = (r, marks', source'))
    (hlength : form.length = 0) :
    r = .error (.failed (.emptySequence key.path.text)) ∧ marks' = marks := by
  rw [current, if_pos hlength] at h
  cases h
  exact ⟨rfl, rfl⟩

/-- A lookup in a sequence with actions finds what is at the bookmark, which is a fresh one
if there was none. -/
theorem current_of_actions (h : marks.current key form source = (r, marks', source'))
    (hlength : form.length ≠ 0) :
    ∃ mark : Bookmark, marks'.get? key = some mark ∧
      (marks.get? key = some mark ∧ marks' = marks ∨
        marks.get? key = none ∧ marks' = marks.put key mark ∧
          mark = ⟨0, (Random.visitOrder form.length form.shuffled source).1⟩) ∧
      ((∃ index, mark.order[mark.position]? = some index ∧ r = .ok index) ∨
        mark.order[mark.position]? = none ∧ r = .error .lostPlace) := by
  rw [current, if_neg hlength] at h
  rcases hensure : marks.ensure key form source with ⟨mark, marks'', source''⟩
  obtain ⟨hget, hcases⟩ := ensure_cases hensure
  rw [hensure] at h
  dsimp only at h
  cases hindex : mark.order[mark.position]? with
  | some index =>
    rw [hindex] at h
    cases h
    exact ⟨mark, hget, hcases, Or.inl ⟨index, hindex, rfl⟩⟩
  | none =>
    rw [hindex] at h
    cases h
    exact ⟨mark, hget, hcases, Or.inr ⟨hindex, rfl⟩⟩

/-- A lookup leaves all other bookmarks alone. -/
theorem get?_current (h : marks.current key form source = (r, marks', source'))
    (hother : other ≠ key) : marks'.get? other = marks.get? other := by
  by_cases hlength : form.length = 0
  · rw [(current_of_empty h hlength).2]
  · obtain ⟨mark, -, ⟨-, rfl⟩ | ⟨-, rfl, -⟩, -⟩ := current_of_actions h hlength
    · rfl
    · simp [hother]

/-- Moving on leaves all other bookmarks alone. -/
theorem get?_advance (hother : other ≠ key) :
    (marks.advance key form source).1.get? other = marks.get? other := by
  unfold advance
  -- The new order is a variable, or the kernel would draw its words.
  generalize Random.visitOrder form.length true source = drawn
  obtain ⟨order, source'⟩ := drawn
  split
  · rfl
  · dsimp only
    split_ifs <;> simp [hother]

/-- A bookmark that is there moves on. -/
theorem moves_advance (form : SequenceForm) (source : γ) {mark : Bookmark}
    (h : marks.get? key = some mark) : ∃ mark',
      (marks.advance key form source).1.get? key = some mark' ∧ mark.Moves form mark' := by
  have hdrawn := Random.perm_visitOrder form.length true source
  unfold advance
  generalize Random.visitOrder form.length true source = drawn at hdrawn ⊢
  obtain ⟨order, source'⟩ := drawn
  rw [h]
  dsimp only
  split_ifs with hlt hlooping hshuffled
  · exact ⟨_, by simp, .further hlt⟩
  · exact ⟨_, by simp, .stay (by omega) (by simpa using hlooping)⟩
  · exact ⟨_, by simp, .again (by omega) (Or.inr hdrawn)⟩
  · exact ⟨_, by simp, .again (by omega) (Or.inl rfl)⟩

theorem advance_of_none (h : marks.get? key = none) :
    marks.advance key form source = (marks, source) := by
  rw [advance, h]

end Bookmarks

/-! ## Sequences that run -/

/-- The key of the sequence that runs, if the action is one and is not held back. -/
def Dispatch.sequence? (x : Dispatch) : Option SequenceKey :=
  if !x.held && x.action.action.kind = .sequence then
    some ⟨x.action.tile.tile, x.action.path⟩
  else none

theorem Dispatch.of_sequence? {x : Dispatch} {key : SequenceKey}
    (h : x.sequence? = some key) : key = ⟨x.action.tile.tile, x.action.path⟩ := by
  unfold sequence? at h
  split at h
  · exact (Option.some.inj h).symm
  · cases h

theorem Scene.sequence?_dispatch {s : Scene} (h : s.gate.showing = false) (depth : Nat)
    (looping shuffled : Bool) (actions : List Action) (tile : TileAddress)
    (path : ActionPath) :
    (s.dispatch depth (.sequence looping shuffled actions) tile path).sequence? =
      some ⟨tile.tile, path⟩ := by
  simp [Scene.dispatch, Dispatch.sequence?, h, Action.kind]

theorem Scene.sequence?_of_showing {s : Scene} (h : s.gate.showing = true) (depth : Nat)
    (action : Action) (tile : TileAddress) (path : ActionPath) :
    (s.dispatch depth action tile path).sequence? = none := by
  simp [Scene.dispatch, Dispatch.sequence?, h]

theorem Scene.sequence?_of_kind {action : Action} (h : action.kind ≠ .sequence) (s : Scene)
    (depth : Nat) (tile : TileAddress) (path : ActionPath) :
    (s.dispatch depth action tile path).sequence? = none := by
  simp [Scene.dispatch, Dispatch.sequence?, h]

namespace Scene

variable {setting : Setting} {placed : TileAddress → ActionPath → Action → Prop}
  {s t : Scene} {ds : List Dispatch} {e : Except Halt Unit}

theorem get?_currentIndex {key other : SequenceKey} {form : SequenceForm}
    {r : Except Halt Nat} (h : s.currentIndex key form = (r, t)) (hother : other ≠ key) :
    t.bookmarks.get? other = s.bookmarks.get? other := by
  obtain ⟨marks, random, hcurrent, rfl⟩ := currentIndex_eq.mp h
  exact Bookmarks.get?_current hcurrent hother

theorem get?_advance (s : Scene) {key other : SequenceKey} {form : SequenceForm}
    (hother : other ≠ key) :
    (s.advance key form).bookmarks.get? other = s.bookmarks.get? other :=
  Bookmarks.get?_advance hother

theorem ne_of_sequence? (hshow : s.gate.showing = false) {depth : Nat}
    {looping shuffled : Bool} {actions : List Action} {tile : TileAddress}
    {path : ActionPath} {key : SequenceKey}
    (h : (s.dispatch depth (.sequence looping shuffled actions) tile path).sequence? ≠
      some key) : key ≠ ⟨tile.tile, path⟩ := by
  rintro rfl
  exact h (sequence?_dispatch hshow ..)

theorem sequence?_ne (hshow : s.gate.showing = false) {tile : TileAddress} {path : ActionPath}
    {key : SequenceKey} (hkey : key ≠ ⟨tile.tile, path⟩) (depth : Nat)
    (looping shuffled : Bool) (actions : List Action) :
    (s.dispatch depth (.sequence looping shuffled actions) tile path).sequence? ≠
      some key := by
  rw [sequence?_dispatch hshow]
  exact fun h => hkey (Option.some.inj h).symm

/-- Where no sequence runs under a key, the key keeps its bookmark or has none. -/
theorem Acts.get?_bookmarks (h : s.Acts setting placed ds e t) {key : SequenceKey}
    (hkey : ∀ x ∈ ds, x.sequence? ≠ some key) :
    t.bookmarks.get? key = s.bookmarks.get? key := by
  induction h with
  | refl | fail | pickUp | defer => rfl
  | trans _ _ ih ih' =>
    exact (ih' fun x hx => hkey x (by simp [hx])).trans (ih fun x hx => hkey x (by simp [hx]))
  | effect _ hdoes => cases hdoes <;> rfl
  | perform _ _ _ _ _ ih => exact ih fun x hx => hkey x (by simp [hx])
  | stuck depth _ hshow hcurrent =>
    exact get?_currentIndex hcurrent (ne_of_sequence? hshow (hkey _ List.mem_cons_self))
  | lost depth _ hshow hcurrent _ =>
    exact get?_currentIndex hcurrent (ne_of_sequence? hshow (hkey _ List.mem_cons_self))
  | deep depth _ _ hshow hcurrent =>
    exact get?_currentIndex hcurrent (ne_of_sequence? hshow (hkey _ List.mem_cons_self))
  | visit _ hshow hcurrent _ _ _ ih =>
    have hne := ne_of_sequence? hshow (hkey _ List.mem_cons_self)
    refine (get?_advance _ hne).trans ?_
    exact (ih fun x hx => hkey x (List.mem_cons_of_mem _ hx)).trans
      (get?_currentIndex hcurrent hne)
  | halt _ hshow hcurrent _ _ _ ih =>
    have hne := ne_of_sequence? hshow (hkey _ List.mem_cons_self)
    exact (ih fun x hx => hkey x (List.mem_cons_of_mem _ hx)).trans
      (get?_currentIndex hcurrent hne)

/-- What comes up has been placed. -/
theorem Acts.placed_of_mem (h : s.Acts setting placed ds e t) {x : Dispatch} (hx : x ∈ ds) :
    placed x.action.tile x.action.path x.action.action := by
  induction h with
  | refl | fail | pickUp | effect => cases hx
  | trans _ _ ih ih' => exact (List.mem_append.mp hx).elim ih ih'
  | defer _ hp | stuck _ hp | lost _ hp | deep _ _ hp =>
    obtain rfl := List.mem_singleton.mp hx
    exact hp
  | perform hp _ _ _ _ ih | visit hp _ _ _ _ _ ih | halt hp _ _ _ _ _ ih =>
    rcases List.mem_cons.mp hx with rfl | hx
    · exact hp
    · exact ih hx

end Scene

/-! ## Tiles that stay -/

/-- Acting keeps of the tiles what neither a mark for removal nor another sprite touches. -/
theorem Scene.Acts.map_tiles {setting : Setting}
    {placed : TileAddress → ActionPath → Action → Prop} {s t : Scene} {ds : List Dispatch}
    {e : Except Halt Unit} (h : s.Acts setting placed ds e t) {α : Type} {g : Tile → α}
    (hremoved : ∀ tile : Tile, g { tile with removed := true } = g tile)
    (hsprite : ∀ {address path name}, placed address path (.transformSelf name) →
      ∀ (tile : Tile) (sprite : String), g { tile with sprite } = g tile) :
    t.rooms.tiles.map g = s.rooms.tiles.map g := by
  induction h with
  | refl | fail | defer => rfl
  | trans _ _ ih ih' => exact ih'.trans ih
  | pickUp => exact Rooms.map_tiles_modifyAt hremoved ..
  | effect hp hdoes =>
    cases hdoes with
    | dialog | giveItem | moveAvatar => rfl
    | transformSelf => exact Rooms.map_tiles_modifyTile (fun tile => hsprite hp tile _) ..
    | removeSelf => exact Rooms.map_tiles_modifyTile hremoved ..
  | perform _ _ _ _ _ ih => exact ih
  | stuck _ _ _ hcurrent | lost _ _ _ hcurrent | deep _ _ _ _ hcurrent =>
    obtain ⟨_, _, -, rfl⟩ := currentIndex_eq.mp hcurrent
    rfl
  | visit _ _ hcurrent _ _ _ ih | halt _ _ hcurrent _ _ _ ih =>
    obtain ⟨_, _, -, rfl⟩ := currentIndex_eq.mp hcurrent
    exact ih

end TileAdventure
