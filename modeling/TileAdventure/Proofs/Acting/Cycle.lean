import TileAdventure.Proofs.Acting.Fit

/-!
# Cycles of looping sequences

A looping sequence goes through rounds, and in each it runs every one of its actions once
(`Cycles`). It stands where its bookmark does, in a round that goes by the bookmark's order
(`Bookmark.Tracks`). The bookmark moves on when the action has run, so this holds of all that
runs under a key as long as the sequence is not run again from within itself
(`Setting.cycles_of_series`). If it is, the inner run finds the bookmark where the outer one
did, and an action is run twice (`Setting.cycles_broken_echo`).
-/

namespace TileAdventure

/-- Rounds of all the indexes below `n`, and then a part of a round. -/
def Cycles (n : Nat) (indexes : List Nat) : Prop :=
  ∃ rounds rest, indexes = List.flatten rounds ++ rest ∧
    (∀ round ∈ rounds, round.Perm (List.range n)) ∧
    rest.Nodup ∧ (∀ i ∈ rest, i < n) ∧ rest.length < n

/-- The first `n` indexes are distinct. -/
theorem Cycles.nodup_take {n : Nat} {indexes : List Nat} (h : Cycles n indexes) :
    (indexes.take n).Nodup := by
  obtain ⟨rounds, rest, rfl, hrounds, hnodup, -, -⟩ := h
  cases rounds with
  | nil => exact hnodup.sublist (List.take_sublist n rest)
  | cons round rounds =>
    have hround := hrounds round List.mem_cons_self
    have hlength : round.length = n := by simpa using hround.length_eq
    rw [List.flatten_cons, List.append_assoc, List.take_append_of_le_length (by omega),
      List.take_of_length_le (by omega)]
    exact hround.nodup_iff.mpr List.nodup_range

/-! ## What sequences run -/

/-- The paths of what runs in the sequences under a key: of what comes up right after one. -/
def visited (key : SequenceKey) : List Dispatch → List ActionPath
  | x :: y :: ds =>
    if x.sequence? = some key then y.action.path :: visited key (y :: ds)
    else visited key (y :: ds)
  | _ => []

/-- Under a key a sequence comes up within one that runs. -/
def Reenters (key : SequenceKey) (ds : List Dispatch) : Prop :=
  ∃ before x within y after, ds = before ++ x :: (within ++ y :: after) ∧
    x.sequence? = some key ∧ y.sequence? = some key ∧ ∀ z ∈ within ++ [y], x.depth < z.depth

section

variable {key : SequenceKey} {ds more : List Dispatch} {x : Dispatch}

theorem visited_cons_of_ne (h : x.sequence? ≠ some key) (ds : List Dispatch) :
    visited key (x :: ds) = visited key ds := by
  cases ds with
  | nil => rfl
  | cons y ds => rw [visited, if_neg h]

theorem visited_eq_nil (h : ∀ x ∈ ds, x.sequence? ≠ some key) : visited key ds = [] := by
  induction ds with
  | nil => rfl
  | cons x ds ih =>
    rw [visited_cons_of_ne (h x List.mem_cons_self)]
    exact ih fun y hy => h y (List.mem_cons_of_mem _ hy)

/-- What runs in two stretches, if no sequence stands at the end of the first. -/
theorem visited_append (h : ∀ x ∈ ds.getLast?, x.sequence? ≠ some key) :
    visited key (ds ++ more) = visited key ds ++ visited key more := by
  induction ds with
  | nil => rfl
  | cons x ds ih =>
    cases ds with
    | nil => exact visited_cons_of_ne (h x rfl) more
    | cons y ds =>
      have hrest := ih (by simpa using h)
      by_cases hx : x.sequence? = some key
      · simpa [visited, hx] using hrest
      · rw [List.cons_append, visited_cons_of_ne hx, visited_cons_of_ne hx, hrest]

theorem Reenters.append_right (h : Reenters key ds) (more : List Dispatch) :
    Reenters key (ds ++ more) := by
  obtain ⟨before, x, within, y, after, rfl, hx, hy, hdeeper⟩ := h
  exact ⟨before, x, within, y, after ++ more, by simp, hx, hy, hdeeper⟩

theorem Reenters.append_left (h : Reenters key more) (ds : List Dispatch) :
    Reenters key (ds ++ more) := by
  obtain ⟨before, x, within, y, after, rfl, hx, hy, hdeeper⟩ := h
  exact ⟨ds ++ before, x, within, y, after, by simp, hx, hy, hdeeper⟩

/-- Under a sequence that is not run from within itself nothing runs under its key. -/
theorem ne_of_not_reenters (h : ¬Reenters key (x :: ds)) (hx : x.sequence? = some key)
    (hdeeper : ∀ y ∈ ds, x.depth < y.depth) : ∀ y ∈ ds, y.sequence? ≠ some key := by
  intro y hy hykey
  obtain ⟨within, after, rfl⟩ := List.append_of_mem hy
  refine h ⟨[], x, within, y, after, rfl, hx, hykey, fun z hz => hdeeper z ?_⟩
  simp only [List.mem_append, List.mem_cons, List.not_mem_nil, or_false] at hz ⊢
  exact hz.imp_right Or.inl

/-- Sequences that only come up outside of all actions are not run from within. -/
theorem not_reenters_of_depth (h : ∀ x ∈ ds, x.sequence? = some key → x.depth = 0) :
    ¬Reenters key ds := by
  rintro ⟨before, x, within, y, after, rfl, -, hy, hdeeper⟩
  have hzero : y.depth = 0 := h y (by simp) hy
  have hlt := hdeeper y (by simp)
  omega

end

/-! ## Where a looping sequence stands -/

/-- The bookmark, if there is one, stands where a sequence of `n` actions does that has run
the ones at `indexes`. -/
def Bookmark.Tracks (n : Nat) (mark? : Option Bookmark) (indexes : List Nat) : Prop :=
  match mark? with
  | none => indexes = []
  | some mark => mark.Fits n ∧ ∃ rounds : List (List Nat),
      (∀ round ∈ rounds, round.Perm (List.range n)) ∧
      indexes = rounds.flatten ++ mark.order.take mark.position

namespace Bookmark

variable {n : Nat} {mark? : Option Bookmark} {indexes : List Nat}

theorem Tracks.cycles (h : Tracks n mark? indexes) (hn : n ≠ 0) : Cycles n indexes := by
  cases mark? with
  | none =>
    obtain rfl : indexes = [] := h
    exact ⟨[], [], rfl, by simp, List.nodup_nil, by simp, Nat.pos_of_ne_zero hn⟩
  | some mark =>
    obtain ⟨hfits, rounds, hrounds, rfl⟩ := h
    refine ⟨rounds, _, rfl, hrounds, ?_, fun i hi => ?_, ?_⟩
    · exact (hfits.order.nodup_iff.mpr List.nodup_range).sublist (List.take_sublist _ _)
    · exact List.mem_range.mp (hfits.order.mem_iff.mp (List.mem_of_mem_take hi))
    · have hlt := hfits.position
      have hle := List.length_take_le mark.position mark.order
      omega

/-- A fresh bookmark tracks a sequence that has not run. -/
theorem tracks_fresh {γ : Type} [Random.Source γ] (hn : n ≠ 0) (shuffle : Bool) (source : γ) :
    Tracks n (some ⟨0, (Random.visitOrder n shuffle source).1⟩) [] :=
  ⟨fits_fresh hn shuffle source, [], by simp, rfl⟩

/-- When the action at a bookmark of a looping sequence has run, the bookmark that has moved
on tracks the sequence. -/
theorem Tracks.moves {mark mark' : Bookmark} {shuffled : Bool} {index : Nat}
    (h : Tracks n (some mark) indexes) (hindex : mark.order[mark.position]? = some index)
    (hmoves : mark.Moves ⟨n, true, shuffled⟩ mark') :
    Tracks n (some mark') (indexes ++ [index]) := by
  obtain ⟨hfits, rounds, hrounds, rfl⟩ := h
  have htake : mark.order.take (mark.position + 1) =
      mark.order.take mark.position ++ [index] := by
    rw [List.take_add_one, hindex]
    rfl
  refine ⟨hmoves.fits hfits, ?_⟩
  cases hmoves with
  | further => exact ⟨rounds, hrounds, by rw [List.append_assoc, ← htake]⟩
  | stay _ hlooping => cases hlooping
  | again hlast =>
    -- the round is complete: what the bookmark has passed is all of its order
    have hall : mark.order.take (mark.position + 1) = mark.order :=
      List.take_of_length_le (hfits.length ▸ hlast)
    refine ⟨rounds ++ [mark.order], fun round hround => ?_, ?_⟩
    · rcases List.mem_append.mp hround with hround | hround
      · exact hrounds round hround
      · exact List.mem_singleton.mp hround ▸ hfits.order
    · rw [List.append_assoc, ← htake, hall]
      simp

end Bookmark

/-! ## In a course of acting -/

namespace Scene

variable {setting : Setting} {placed : TileAddress → ActionPath → Action → Prop}
  {s t : Scene} {ds : List Dispatch} {e : Except Halt Unit}

/-- Where acting does not halt, something comes up after every sequence that runs. -/
theorem Acts.getLast? (h : s.Acts setting placed ds e t) (he : e = .ok ()) :
    ∀ x ∈ ds.getLast?, x.sequence? = none := by
  induction h with
  | refl | pickUp | effect => simp
  | fail | stuck | lost | deep | halt => cases he
  | trans _ _ ih ih' =>
    intro x hx
    rw [List.getLast?_append, Option.mem_def, Option.or_eq_some_iff] at hx
    exact hx.elim (ih' he x) fun hx => ih rfl x hx.2
  | defer _ _ hshow =>
    intro x hx
    obtain rfl := Option.some.inj hx
    exact sequence?_of_showing hshow ..
  | @perform _ _ _ _ _ _ ds _ _ _ hkind _ _ ih =>
    intro x hx
    cases ds with
    | nil =>
      obtain rfl := Option.some.inj hx
      exact sequence?_of_kind hkind ..
    | cons => exact ih he x (by simpa using hx)
  | visit _ _ _ _ _ _ ih =>
    intro x hx
    exact ih rfl x (by simpa using hx)

/-- A looping sequence that finds an index is tracked by the bookmark that it finds it at. -/
theorem tracks_currentIndex {key : SequenceKey} {form : SequenceForm} {index : Nat}
    {indexes : List Nat} (h : s.currentIndex key form = (.ok index, t))
    (hs : Bookmark.Tracks form.length (s.bookmarks.get? key) indexes) :
    ∃ mark, t.bookmarks.get? key = some mark ∧
      Bookmark.Tracks form.length (some mark) indexes ∧
      mark.order[mark.position]? = some index := by
  obtain ⟨marks, random, hcurrent, rfl⟩ := currentIndex_eq.mp h
  by_cases hlength : form.length = 0
  · cases (Bookmarks.current_of_empty hcurrent hlength).1
  · obtain ⟨mark, hmark, hcases, hindex⟩ := Bookmarks.current_of_actions hcurrent hlength
    refine ⟨mark, hmark, ?_, ?_⟩
    · rcases hcases with ⟨hold, -⟩ | ⟨hnone, -, rfl⟩
      · exact hold ▸ hs
      · rw [hnone] at hs
        obtain rfl : indexes = [] := hs
        exact Bookmark.tracks_fresh hlength form.shuffled s.random
    · rcases hindex with ⟨index', hat, hok⟩ | ⟨-, hlost⟩
      · rw [hat, Except.ok.inj hok]
      · cases hlost

variable {rooms : Rooms} {sprites : Catalogue}

/-- A looping sequence that runs an action, and not itself in it, is tracked by the bookmark
that has moved on. -/
theorem tracks_advance {u : Scene} {key : SequenceKey} {n index : Nat} {shuffled : Bool}
    {indexes : List Nat} (h : s.currentIndex key ⟨n, true, shuffled⟩ = (.ok index, t))
    (hkept : u.bookmarks.get? key = t.bookmarks.get? key)
    (hs : Bookmark.Tracks n (s.bookmarks.get? key) indexes) :
    Bookmark.Tracks n ((u.advance key ⟨n, true, shuffled⟩).bookmarks.get? key)
      (indexes ++ [index]) := by
  obtain ⟨mark, hmark, htracks, hindex⟩ := tracks_currentIndex h hs
  obtain ⟨mark', hmoved, hmoves⟩ :=
    Bookmarks.moves_advance ⟨n, true, shuffled⟩ u.random (hkept.trans hmark)
  have hget : (u.advance key ⟨n, true, shuffled⟩).bookmarks.get? key = some mark' := hmoved
  rw [hget]
  exact htracks.moves hindex hmoves

/-- Acting keeps track of a looping sequence that is not run again from within itself. -/
theorem Acts.tracks (hplain : sprites.PlainEvents) (hids : (rooms.tiles.map Tile.id).Nodup)
    {key : SequenceKey} {shuffled : Bool} {actions : List Action}
    (hocc : rooms.Occurs sprites key.tile key.path (.sequence true shuffled actions))
    (h : s.Acts setting (rooms.OccursAt sprites) ds e t) (he : e = .ok ())
    (hnot : ¬Reenters key ds) {indexes : List Nat}
    (hs : Bookmark.Tracks actions.length (s.bookmarks.get? key) indexes) :
    ∃ more, visited key ds = more.map key.path.child ∧
      Bookmark.Tracks actions.length (t.bookmarks.get? key) (indexes ++ more) := by
  induction h generalizing indexes with
  | refl | pickUp | defer =>
    refine ⟨[], rfl, ?_⟩
    rw [List.append_nil]
    exact hs
  | effect _ hdoes =>
    refine ⟨[], rfl, ?_⟩
    rw [List.append_nil]
    cases hdoes <;> exact hs
  | fail | stuck | lost | deep | halt => cases he
  | @trans s t u ds more e hacts _ ih ih' =>
    obtain ⟨first, hfirst, ht⟩ := ih rfl (fun h => hnot (h.append_right more)) hs
    obtain ⟨second, hsecond, hu⟩ := ih' he (fun h => hnot (h.append_left ds)) ht
    refine ⟨first ++ second, ?_, by rwa [← List.append_assoc]⟩
    have hlast : ∀ x ∈ ds.getLast?, x.sequence? ≠ some key := fun x hx => by
      simp [hacts.getLast? rfl x hx]
    rw [visited_append hlast, hfirst, hsecond, List.map_append]
  | @perform s t action tile path depth ds e _ _ hkind _ _ ih =>
    rw [visited_cons_of_ne (by simp [sequence?_of_kind hkind])]
    exact ih he (fun h => hnot (h.append_left [_])) hs
  | @visit s t u looping shuffled' actions' tile path depth index action ds hp hshow hcurrent hget
      hdeeper hrun ih =>
    by_cases hkey : key = ⟨tile.tile, path⟩
    · subst hkey
      obtain ⟨rfl, rfl, rfl⟩ := Action.sequence.inj (hocc.unique hplain hids hp)
      have hx := sequence?_dispatch hshow depth true shuffled actions tile path
      have hnone := ne_of_not_reenters hnot hx hdeeper
      refine ⟨[index], ?_, tracks_advance hcurrent (hrun.get?_bookmarks hnone) hs⟩
      rw [visited, if_pos hx, visited_eq_nil hnone]
      rfl
    · rw [visited_cons_of_ne (sequence?_ne hshow hkey depth looping shuffled' actions')]
      rw [← get?_currentIndex hcurrent hkey] at hs
      obtain ⟨more, hmore, hu⟩ := ih rfl (fun h => hnot (h.append_left [_])) hs
      refine ⟨more, hmore, ?_⟩
      rwa [← get?_advance u hkey] at hu

end Scene

/-! ## Series of runs -/

/-- Actions of the rooms that run in a scene one after another and succeed, with what comes
up in them. In between anything may change but the bookmarks and the sprites of tiles. -/
inductive Setting.Series (setting : Setting) (rooms : Rooms) (s : Scene) :
    List Dispatch → Scene → Prop
  | nil : Series setting rooms s [] s
  | run {t t' u : Scene} {ds : List Dispatch} {action : Action} {tile : TileAddress}
      {path : ActionPath} {outcome : Outcome} : Series setting rooms s ds t →
      t'.bookmarks = t.bookmarks → rooms.Keeps t'.rooms →
      rooms.OccursAt setting.sprites tile path action →
      setting.run action tile path t' = (.ok outcome, u) →
      Series setting rooms s
        (ds ++ setting.dispatches 0 (setting.depthLimit + 1) action tile path t') u

namespace Setting

variable {setting : Setting} {rooms : Rooms} {s t : Scene} {ds : List Dispatch}

theorem acts_run (hnever : setting.sprites.NeverTransforms) (hs : rooms.Keeps s.rooms)
    {action : Action} {tile : TileAddress} {path : ActionPath}
    (hocc : rooms.OccursAt setting.sprites tile path action) {outcome : Outcome}
    (hrun : setting.run action tile path s = (.ok outcome, t)) :
    s.Acts setting (rooms.OccursAt setting.sprites)
      (setting.dispatches 0 (setting.depthLimit + 1) action tile path s) (.ok ()) t := by
  have hacts := acts_perform (places_occursAt rooms hnever) 0 (setting.depthLimit + 1) hocc hs
  unfold run at hrun
  rwa [hrun] at hacts

/-- In a series a looping sequence runs its actions in rounds, each of them once in every
round, unless it is run again from within itself. -/
theorem cycles_of_series (hplain : setting.sprites.PlainEvents)
    (hnever : setting.sprites.NeverTransforms) (hids : (rooms.tiles.map Tile.id).Nodup)
    {key : SequenceKey} {shuffled : Bool} {actions : List Action}
    (hocc : rooms.Occurs setting.sprites key.tile key.path (.sequence true shuffled actions))
    (hactions : actions ≠ []) (hfresh : s.bookmarks.get? key = none)
    (hseries : setting.Series rooms s ds t) (hnot : ¬Reenters key ds) :
    ∃ indexes, visited key ds = indexes.map key.path.child ∧
      Cycles actions.length indexes := by
  have htracks : (∀ x ∈ ds.getLast?, x.sequence? = none) ∧
      ∃ indexes, visited key ds = indexes.map key.path.child ∧
        Bookmark.Tracks actions.length (t.bookmarks.get? key) indexes := by
    induction hseries with
    | nil => exact ⟨by simp, [], rfl, hfresh ▸ rfl⟩
    | @run t t' u ds action tile path outcome _ hbookmarks hkeeps hp hrun ih =>
      obtain ⟨hlast, indexes, hvisited, ht⟩ := ih fun h => hnot (h.append_right _)
      have hacts := acts_run hnever hkeeps hp hrun
      rw [← hbookmarks] at ht
      obtain ⟨more, hmore, hu⟩ := hacts.tracks hplain hids hocc rfl
        (fun h => hnot (h.append_left ds)) ht
      refine ⟨fun x hx => ?_, indexes ++ more, ?_, hu⟩
      · rw [List.getLast?_append, Option.mem_def, Option.or_eq_some_iff] at hx
        exact hx.elim (hacts.getLast? rfl x) fun hx => hlast x hx.2
      · rw [visited_append fun x hx => by simp [hlast x hx], hvisited, hmore, List.map_append]
  obtain ⟨-, indexes, hvisited, hcycles⟩ := htracks
  exact ⟨indexes, hvisited, hcycles.cycles (by simpa using hactions)⟩

/-- A chime that answers to a ring by a looping sequence. -/
def chime (actions : List Action) : Setting where
  dimensions := .ofGrid 1 1 1 1 false false
  sprites := ⟨[⟨"chime", [], 0, false, false, false, false,
    [⟨"ring", [.sequence true false actions]⟩]⟩]⟩
  palette := ⟨"day", []⟩
  depthLimit := 256

/-- A room with a chime. -/
def chimeRooms : Rooms :=
  [⟨"day", [⟨⟨0⟩, "chime", 0, 0, false⟩]⟩]

/-- The scene where the chime has not been heard. -/
def silence : Scene where
  rooms := chimeRooms
  inventory := .empty
  bookmarks := .empty
  gate := .idle
  stage := .ofPageChars 40
  random := .ofSeed 0
  target := ⟨0, 0, 0⟩

/-- Where the chime is. -/
def chimeTile : TileAddress :=
  ⟨0, ⟨0⟩⟩

/-- The key of the sequence of a chime. -/
def chimeKey : SequenceKey :=
  ⟨chimeTile.tile, .root "ring" 0⟩

theorem occurs_chime (actions : List Action) :
    chimeRooms.OccursAt (chime actions).sprites chimeTile chimeKey.path
      (.sequence true false actions) :=
  ⟨_, List.mem_singleton.mpr rfl, rfl, _, rfl, .behavior rfl rfl⟩

theorem plainEvents_chime (actions : List Action) : (chime actions).sprites.PlainEvents := by
  intro s hs b hb
  obtain rfl := List.mem_singleton.mp hs
  obtain rfl := List.mem_singleton.mp hb
  show '-' ∉ "ring".toList
  decide

theorem neverTransforms_chime {actions : List Action}
    (h : ∀ a ∈ actions, ∀ name, ¬a.Contains (.transformSelf name)) :
    (chime actions).sprites.NeverTransforms := by
  intro s hs b hb a ha name hcontains
  obtain rfl := List.mem_singleton.mp hs
  obtain rfl := List.mem_singleton.mp hb
  obtain rfl := List.mem_singleton.mp ha
  cases hcontains with
  | sequence hmem hcontains => exact h _ hmem name hcontains

/-- A chime that gives itself and takes itself back in turn. -/
def swing : List Action :=
  [.giveItem "chime" 1 true, .giveItem "chime" 1 false]

theorem neverTransforms_swing : (chime swing).sprites.NeverTransforms := by
  refine neverTransforms_chime fun a ha name hcontains => ?_
  rcases List.mem_pair.mp ha with rfl | rfl <;> cases hcontains

/-- Three runs of a chime are one round and the start of another. -/
theorem cycles_of_series_swing :
    ∃ ds t, (chime swing).Series chimeRooms silence ds t ∧ ¬Reenters chimeKey ds ∧
      visited chimeKey ds = [0, 1, 0].map chimeKey.path.child ∧
      ∃ indexes, visited chimeKey ds = indexes.map chimeKey.path.child ∧ Cycles 2 indexes := by
  have hone : (chime swing).Series chimeRooms silence _ _ :=
    .run .nil rfl (.refl _) (occurs_chime swing) rfl
  have htwo : (chime swing).Series chimeRooms silence _ _ :=
    .run hone rfl (.refl _) (occurs_chime swing) rfl
  obtain ⟨ds, t, hseries, hvisited, hdepth⟩ : ∃ ds t,
      (chime swing).Series chimeRooms silence ds t ∧
      visited chimeKey ds = [0, 1, 0].map chimeKey.path.child ∧
      ∀ x ∈ ds, x.sequence? = some chimeKey → x.depth = 0 :=
    ⟨_, _, .run htwo rfl (.refl _) (occurs_chime swing) rfl, by decide, by decide⟩
  have hnot : ¬Reenters chimeKey ds := not_reenters_of_depth hdepth
  have hcycles := cycles_of_series (plainEvents_chime swing) neverTransforms_swing (by decide)
    (occurs_chime swing) (by decide) rfl hseries hnot
  exact ⟨ds, t, hseries, hnot, hvisited, hcycles⟩

/-- A chime that is heard by itself as long as it has not given itself. -/
def echo : List Action :=
  [.conditional .less "chime" 1 [.giveItem "chime" 1 true, .triggerEvent "ring"],
    .giveItem "chime" 5 true]

theorem neverTransforms_echo : (chime echo).sprites.NeverTransforms := by
  refine neverTransforms_chime fun a ha name hcontains => ?_
  rcases List.mem_pair.mp ha with rfl | rfl
  · cases hcontains with
    | conditional hmem hcontains => rcases List.mem_pair.mp hmem with rfl | rfl <;> cases hcontains
  · cases hcontains

/-- A chime that is heard by itself within its first action runs that action twice, and never
the other, in the first round. -/
theorem cycles_broken_echo :
    (chime echo).sprites.PlainEvents ∧ (chime echo).sprites.NeverTransforms ∧
      (chimeRooms.tiles.map Tile.id).Nodup ∧
      chimeRooms.Occurs (chime echo).sprites chimeKey.tile chimeKey.path
        (.sequence true false echo) ∧
      ∃ ds t, (chime echo).Series chimeRooms silence ds t ∧
        visited chimeKey ds = [0, 0].map chimeKey.path.child ∧
        ¬∃ indexes, visited chimeKey ds = indexes.map chimeKey.path.child ∧
          Cycles 2 indexes := by
  obtain ⟨ds, t, hseries, hvisited⟩ : ∃ ds t, (chime echo).Series chimeRooms silence ds t ∧
      visited chimeKey ds = [0, 0].map chimeKey.path.child :=
    ⟨_, _, .run .nil rfl (.refl _) (occurs_chime echo) rfl, by decide⟩
  refine ⟨plainEvents_chime echo, neverTransforms_echo, by decide, occurs_chime echo, ds, t,
    hseries, hvisited, ?_⟩
  rintro ⟨indexes, hindexes, hcycles⟩
  have hinjective : chimeKey.path.child.Injective := fun i j h =>
    (ActionPath.child_inj.mp h).2
  obtain rfl : [0, 0] = indexes :=
    List.map_injective_iff.mpr hinjective (hvisited.symm.trans hindexes)
  exact absurd hcycles.nodup_take (by decide)

end Setting

end TileAdventure
