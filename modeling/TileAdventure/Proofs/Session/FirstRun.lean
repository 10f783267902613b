import TileAdventure.Proofs.Acting.Bookmarks
import TileAdventure.Proofs.Session.Acting

/-!
# First runs of sequences

A sequence that runs under a key without a bookmark draws up an order of its own actions and
runs the one at its head, unless it fails (`Scene.Acts.first_run`). In a session a key has no
bookmark until an evaluation that is kept runs a sequence under it (`Session.Steps.unused`). So
the first sequence that runs under a key starts at the head of its own order
(`Session.first_run_starts`), but a sequence that a tile has gained with another sprite may
find the bookmark of the one that it had under the same key before
(`Session.lostPlace_dim`).
-/

namespace TileAdventure

/-- The sequence `x` begins with `y`: the action at the head of an order of its actions. -/
def Dispatch.BeginsWith (x y : Dispatch) : Prop :=
  ∃ looping shuffled actions, x.action.action = .sequence looping shuffled actions ∧
    ∃ (source : Random.Stream) (index : Nat) (action : Action),
      (Random.visitOrder actions.length shuffled source).1[0]? = some index ∧
        actions[index]? = some action ∧
        y = ⟨x.depth + 1,
          ⟨action, x.action.tile, x.action.target, x.action.path.child index⟩, false⟩

/-- What comes up after a sequence begins it, or it has failed. -/
def Dispatch.Starts (x : Dispatch) (after : List Dispatch) (ending : Except Halt Unit) : Prop :=
  (∃ y rest, after = y :: rest ∧ x.BeginsWith y) ∨
    after = [] ∧ ∃ f, ending = .error (.failed f)

/-! ## In a course of acting -/

theorem append_eq_append_cons {α : Type} {xs ys before after : List α} {x : α}
    (h : xs ++ ys = before ++ x :: after) :
    (∃ rest, xs = before ++ x :: rest ∧ after = rest ++ ys) ∨
      ∃ rest, before = xs ++ rest ∧ ys = rest ++ x :: after := by
  rcases List.append_eq_append_iff.mp h with ⟨gap, rfl, hgap⟩ | ⟨gap, rfl, hgap⟩
  · exact Or.inr ⟨gap, rfl, hgap⟩
  · rcases List.cons_eq_append_iff.mp hgap with ⟨rfl, rfl⟩ | ⟨rest, rfl, rfl⟩
    · exact Or.inr ⟨[], by simp, rfl⟩
    · exact Or.inl ⟨rest, rfl, rfl⟩

namespace Scene

variable {setting : Setting} {placed : TileAddress → ActionPath → Action → Prop}
  {s t : Scene} {key : SequenceKey} {form : SequenceForm}

/-- A lookup without a bookmark finds the head of a fresh order, unless there are no
actions. -/
theorem currentIndex_of_none {r : Except Halt Nat} (h : s.currentIndex key form = (r, t))
    (hnone : s.bookmarks.get? key = none) :
    (∃ f, r = .error (.failed f)) ∨ ∃ index < form.length, r = .ok index ∧
      (Random.visitOrder form.length form.shuffled s.random).1[0]? = some index := by
  obtain ⟨marks, random, hcurrent, -⟩ := currentIndex_eq.mp h
  by_cases hlength : form.length = 0
  · exact Or.inl ⟨_, (Bookmarks.current_of_empty hcurrent hlength).1⟩
  · obtain ⟨mark, -, ⟨hsome, -⟩ | ⟨-, -, rfl⟩, hindex⟩ :=
      Bookmarks.current_of_actions hcurrent hlength
    · cases hnone.symm.trans hsome
    · obtain ⟨index, hat, hlt⟩ :=
        (Bookmark.fits_fresh hlength form.shuffled s.random).getElem?
      rcases hindex with ⟨index', hat', rfl⟩ | ⟨hat', -⟩
      · obtain rfl : index = index' := Option.some.inj (hat.symm.trans hat')
        exact Or.inr ⟨index, hlt, rfl, hat⟩
      · cases hat.symm.trans hat'

theorem dispatch_currentIndex {r : Except Halt Nat} (h : s.currentIndex key form = (r, t))
    (depth : Nat) (action : Action) (tile : TileAddress) (path : ActionPath) :
    t.dispatch depth action tile path = s.dispatch depth action tile path := by
  obtain ⟨marks, random, -, rfl⟩ := currentIndex_eq.mp h
  rfl

/-- A sequence that runs without a bookmark begins with the action that it finds. -/
theorem beginsWith_of_none {depth index : Nat} {looping shuffled : Bool}
    {actions : List Action} {action : Action} {tile : TileAddress} {path : ActionPath}
    (hshow : s.gate.showing = false)
    (hcurrent : s.currentIndex ⟨tile.tile, path⟩ ⟨actions.length, looping, shuffled⟩ =
      (.ok index, t))
    (hget : actions[index]? = some action)
    (hnone : s.bookmarks.get? ⟨tile.tile, path⟩ = none) :
    (s.dispatch depth (.sequence looping shuffled actions) tile path).BeginsWith
      (t.dispatch (depth + 1) action tile (path.child index)) := by
  rcases currentIndex_of_none hcurrent hnone with ⟨f, hf⟩ | ⟨index', -, hindex, hhead⟩
  · cases hf
  · obtain rfl := Except.ok.inj hindex
    refine ⟨looping, shuffled, actions, rfl, s.random, index, action, hhead, hget, ?_⟩
    rw [dispatch_currentIndex hcurrent, dispatch, hshow]
    rfl

/-- The first sequence that runs under a key without a bookmark starts at the head of its
order. -/
theorem Acts.first_run {ds : List Dispatch} {e : Except Halt Unit}
    (h : s.Acts setting placed ds e t) {before after : List Dispatch} {x : Dispatch}
    (hds : ds = before ++ x :: after) (hx : x.sequence? = some key)
    (hbefore : ∀ z ∈ before, z.sequence? ≠ some key)
    (hnone : s.bookmarks.get? key = none) : x.Starts after e := by
  induction h generalizing before after with
  | refl | fail | pickUp | effect => simp at hds
  | defer _ _ hshow =>
    obtain ⟨-, rfl, -⟩ := singleton_eq_append_cons hds
    cases (sequence?_of_showing hshow ..).symm.trans hx
  | @trans s t u ds more e hacts _ ih ih' =>
    rcases append_eq_append_cons hds with ⟨rest, rfl, rfl⟩ | ⟨rest, rfl, rfl⟩
    · rcases ih rfl hbefore hnone with ⟨y, later, rfl, hbegins⟩ | ⟨-, f, hf⟩
      · exact Or.inl ⟨y, later ++ more, rfl, hbegins⟩
      · cases hf
    · have hkept := hacts.get?_bookmarks fun z hz => hbefore z (List.mem_append_left _ hz)
      exact ih' rfl (fun z hz => hbefore z (List.mem_append_right _ hz)) (hkept.trans hnone)
  | perform _ _ hkind _ _ ih =>
    rcases List.cons_eq_append_iff.mp hds with ⟨rfl, heq⟩ | ⟨rest, rfl, rfl⟩
    · obtain ⟨rfl, rfl⟩ := List.cons.inj heq
      cases (sequence?_of_kind hkind ..).symm.trans hx
    · exact ih rfl (fun z hz => hbefore z (List.mem_cons_of_mem _ hz)) hnone
  | stuck depth _ hshow hcurrent =>
    obtain ⟨rfl, rfl, rfl⟩ := singleton_eq_append_cons hds
    obtain rfl := Option.some.inj ((sequence?_dispatch hshow ..).symm.trans hx)
    rcases currentIndex_of_none hcurrent hnone with ⟨f, hf⟩ | ⟨index, -, hindex, -⟩
    · exact Or.inr ⟨rfl, f, by rw [Except.error.inj hf]⟩
    · cases hindex
  | lost depth _ hshow hcurrent hget =>
    obtain ⟨rfl, rfl, rfl⟩ := singleton_eq_append_cons hds
    obtain rfl := Option.some.inj ((sequence?_dispatch hshow ..).symm.trans hx)
    rcases currentIndex_of_none hcurrent hnone with ⟨f, hf⟩ | ⟨index, hlt, hindex, -⟩
    · cases hf
    · obtain rfl := Except.ok.inj hindex
      simp [hlt] at hget
  | deep depth f =>
    obtain ⟨rfl, rfl, rfl⟩ := singleton_eq_append_cons hds
    exact Or.inr ⟨rfl, f, rfl⟩
  | visit _ hshow hcurrent hget _ _ ih | halt _ hshow hcurrent hget _ _ ih =>
    rcases List.cons_eq_append_iff.mp hds with ⟨rfl, heq⟩ | ⟨rest, rfl, hrest⟩
    · obtain ⟨rfl, rfl⟩ := List.cons.inj heq
      obtain rfl := Option.some.inj ((sequence?_dispatch hshow ..).symm.trans hx)
      exact Or.inl ⟨_, _, rfl, beginsWith_of_none hshow hcurrent hget hnone⟩
    · have hne := ne_of_sequence? hshow (hbefore _ List.mem_cons_self)
      exact ih hrest (fun z hz => hbefore z (List.mem_cons_of_mem _ hz))
        ((get?_currentIndex hcurrent hne).trans hnone)

end Scene

/-! ## In a session -/

namespace Session

variable {s t : Session} {es : List Episode}

/-- A key has no bookmark until an evaluation that is kept runs a sequence under it. -/
theorem Steps.unused (h : Steps s es t) {key : SequenceKey}
    (hs : s.holdings.bookmarks.get? key = none)
    (hes : ∀ e ∈ es, e.failed = false → ∀ x ∈ e.dispatches, x.sequence? ≠ some key) :
    t.holdings.bookmarks.get? key = none := by
  refine h.holds (P := fun es holdings =>
    (∀ e ∈ es, e.failed = false → ∀ x ∈ e.dispatches, x.sequence? ≠ some key) →
      holdings.bookmarks.get? key = none) (fun _ => hs) ?_ hes
  intro es u e _ hu hbegins hreturn hes
  have hbefore : e.before.holdings.bookmarks.get? key = none := by
    rw [hbegins.holdings.2.1]
    exact hu fun e' he' => hes e' (List.mem_append_left _ he')
  rcases e.after_cases hreturn e.enacts with ⟨-, hsame⟩ | ⟨hkept, _, _, scene, hacts, hleft⟩
  · rw [hsame, hbefore]
  have hscene : scene.bookmarks.get? key = none :=
    (hacts.get?_bookmarks (hes e (by simp) hkept)).trans hbefore
  rcases hleft with ⟨-, hbookmarks⟩ | ⟨-, hbookmarks⟩
  · rw [hbookmarks, hscene]
  · rw [hbookmarks, Bookmarks.get?_forget, hscene, ite_self]

/-- The first sequence that runs under a key in a session starts at the head of an order of
its own actions. `x` runs it in an evaluation of the call after a run, and no evaluation that
was kept has run one under its key, nor has this one before `x`. -/
theorem first_run_starts {w : World} {config : Config} {stage : Stage} {s₀ s : Session}
    {es : List Episode} (hstart : start w config stage = .ok s₀) (hrun : Run s₀ es s)
    {c : Call} {earlier later : List Episode} {e : Episode}
    (hcall : s.episodes c = earlier ++ e :: later) {before after : List Dispatch}
    {x : Dispatch} (hx : e.dispatches = before ++ x :: after) {key : SequenceKey}
    (hkey : x.sequence? = some key)
    (hkept : ∀ e' ∈ es ++ earlier, e'.failed = false →
      ∀ z ∈ e'.dispatches, z.sequence? ≠ some key)
    (hbefore : ∀ z ∈ before, z.sequence? ≠ some key) :
    (∃ y rest, after = y :: rest ∧ x.BeginsWith y) ∨
      after = [] ∧ ∃ f, e.result = .error (.failed f) := by
  obtain ⟨-, hholdings⟩ := holdings_start hstart
  obtain ⟨t, hsteps, hbegins⟩ := begins_of_episodes_eq hcall
  have hnone : t.holdings.bookmarks.get? key = none :=
    (hrun.steps.trans hsteps).unused (by rw [hholdings]; rfl) hkept
  rw [← hbegins.holdings.2.1] at hnone
  obtain ⟨setting, target, ending, scene, hacts, -, hhalt, -⟩ := e.enacts
  rcases hacts.first_run hx hkey hbefore hnone with hfollows | ⟨hnothing, f, hf⟩
  · exact Or.inl hfollows
  · refine Or.inr ⟨hnothing, f, ?_⟩
    have hattempt := hhalt _ hf
    rcases e.cases with ⟨_, -, hok, -⟩ | ⟨f', hresult, hfailed, -⟩ | ⟨-, hlost, -⟩
    · cases hattempt.symm.trans hok
    · rw [hresult, ← hfailed, hattempt]
    · cases hattempt.symm.trans hlost

/-- A lamp in a wall that does something when it is pushed. -/
def lamp (name : String) (pushed : Action) : Sprite where
  __ := plainSprite name
  isWall := true
  behaviors := [⟨"push", [pushed]⟩]

/-- A lamp that is lit by a push. -/
def dark : Sprite :=
  lamp "dark" (.transformSelf "lit")

/-- A lamp that is lit by the second push. -/
def dim : Sprite :=
  lamp "dim" (.sequence false false [.giveItem "dim" 1 true, .transformSelf "lit"])

/-- A lamp that gives itself in a sequence of one action. -/
def lit : Sprite :=
  lamp "lit" (.sequence true false [.giveItem "lit" 1 true])

/-- The sequence that a lamp gains with a push starts at the head of its order. -/
theorem first_run_starts_dark :
    start (beside dark [lit]) .default (.ofPageChars 40) = .ok (atTile dark [lit]) ∧
      ∃ es s, Run (atTile dark [lit]) es s ∧ ∃ x after,
        Episode.dispatches ⟨s, .move (some .right)⟩ = [] ++ x :: after ∧
          x.sequence? = some ⟨⟨1⟩, ⟨"push-0"⟩⟩ ∧
          ∃ y rest, after = y :: rest ∧ x.BeginsWith y := by
  have hstart : start (beside dark [lit]) .default (.ofPageChars 40) = .ok (atTile dark [lit]) :=
    rfl
  obtain ⟨es, s, hrun, x, after, hx, hkey, hkept, hafter⟩ : ∃ es s,
      Run (atTile dark [lit]) es s ∧ ∃ x after,
        Episode.dispatches ⟨s, .move (some .right)⟩ = [] ++ x :: after ∧
          x.sequence? = some ⟨⟨1⟩, ⟨"push-0"⟩⟩ ∧
          (∀ e ∈ es ++ [], e.failed = false →
            ∀ z ∈ e.dispatches, z.sequence? ≠ some ⟨⟨1⟩, ⟨"push-0"⟩⟩) ∧ after ≠ [] :=
    ⟨_, _, .call (.move (some .right)) .nil (by decide), _, _, rfl, rfl, by decide,
      List.cons_ne_nil _ _⟩
  have hcall : s.episodes (.move (some .right)) = [] ++ ⟨s, .move (some .right)⟩ :: [] := rfl
  refine ⟨hstart, es, s, hrun, x, after, hx, hkey, ?_⟩
  exact (first_run_starts hstart hrun hcall hx hkey hkept (by simp)).resolve_right
    fun hnothing => hafter hnothing.1

/-- A lamp runs both actions of a sequence and is lit by the second. When it is pushed again,
the sequence of the lit lamp runs for the first time, and finds the bookmark of the other at
an index that it does not have. -/
theorem lostPlace_dim :
    start (beside dim [lit]) .default (.ofPageChars 40) = .ok (atTile dim [lit]) ∧
      ∃ es s, Run (atTile dim [lit]) es s ∧
        (es.map fun e => e.dispatches.map fun x => (x.action.action.kind, x.action.path.text)) =
          [[(.sequence, "push-0"), (.giveItem, "push-0-0")],
            [(.sequence, "push-0"), (.transformSelf, "push-0-1")]] ∧
        (s.game.world.rooms.tile? ⟨0, ⟨1⟩⟩).map Tile.sprite = some "lit" ∧
        s.game.state.bookmarks.get? ⟨⟨1⟩, ⟨"push-0"⟩⟩ = some ⟨1, [0, 1]⟩ ∧
        (∃ x, Episode.dispatches ⟨s, .move (some .right)⟩ = [x] ∧
          x.action.action = .sequence true false [.giveItem "lit" 1 true] ∧
          x.sequence? = some ⟨⟨1⟩, ⟨"push-0"⟩⟩) ∧
        (s.call (.move (some .right))).1 = .error .lostPlace := by
  have hrun : Run (atTile dim [lit]) _ _ :=
    .call (.move (some .right)) (.call (.move (some .right)) .nil (by decide)) (by decide)
  exact ⟨rfl, _, _, hrun, by decide, by decide, by decide, ⟨_, rfl, rfl, rfl⟩, by decide⟩

end Session

end TileAdventure
