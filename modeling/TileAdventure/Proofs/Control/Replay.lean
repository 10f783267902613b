import TileAdventure.Proofs.Control.History

/-!
# Replays

A touch that is lifted before it has given a direction arms a replay, and the next direction
that the pointer gives uses it up. With the pointer up each direction costs a replay
(`balance_run`), and a touch that has given one arms none (`Spent`), so that a touch gives at
most one direction after it was lifted (`swipes_after_lift`). What is replayed is the last
touch, if that armed the replay. A touch too short to give a direction leaves its replay
waiting (`Waits`), and a new touch does not disarm it: then the new touch may be replayed even
where it was cancelled or lifted under a dialog (`swipe_of_cancelled`), and only then
(`replay_of_last_touch`).
-/

namespace TileAdventure

namespace Controls

variable {c : Controls} {op : Operation} {ops : List Operation}

/-- The direction that the pointer gives in an operation: the answer to a question for the next
one with no key held. -/
def swipe? (c : Controls) : Operation → Option Direction
  | .next => if c.held = [] then c.next.1 else none
  | _ => none

/-- The directions that the pointer gives in the course of operations. -/
def swipes (c : Controls) : List Operation → List Direction
  | [] => []
  | op :: ops => (c.swipe? op).toList ++ (c.step op).swipes ops

/-- To lift the pointer now arms the replay. -/
def Arms (c : Controls) : Operation → Prop
  | .lift dialogShowing => (c.lift dialogShowing).1 = .replayArmed
  | _ => False

/-- The touch has given a direction, and no replay is armed. -/
def Spent (c : Controls) : Prop :=
  0 < c.pointer.moves ∧ c.pointer.replay = false

/-- In the course of operations the pointer was lifted so that the replay was armed, and has
given no direction since. -/
def Waits (c : Controls) (ops : List Operation) : Prop :=
  ∃ earlier lift later, ops = earlier ++ lift :: later ∧ (c.run earlier).Arms lift ∧
    (c.run (earlier ++ [lift])).swipes later = []

theorem swipes_append (c : Controls) (earlier later : List Operation) :
    c.swipes (earlier ++ later) = c.swipes earlier ++ (c.run earlier).swipes later := by
  induction earlier generalizing c with
  | nil => rfl
  | cons op earlier ih => simp only [List.cons_append, swipes, ih, run_cons, List.append_assoc]

/-! ## Single operations -/

theorem next_of_nil (h : c.held = []) :
    c.next = ((c.pointer.next c.threshold).1,
      { c with pointer := (c.pointer.next c.threshold).2 }) := by
  rw [next, h]
  rfl

/-- A question for the next direction changes nothing at the pointer, or the pointer gives a
direction. That it does only while it is down or a replay is armed, and the replay is then
used up. -/
theorem next_cases (c : Controls) :
    c.swipe? .next = none ∧ (c.step .next).pointer = c.pointer ∨
      ∃ direction, c.swipe? .next = some direction ∧
        (c.pointer.isDown || c.pointer.replay) = true ∧
        (c.step .next).pointer =
          { c.pointer with moves := c.pointer.moves + 1, replay := false } := by
  by_cases hnil : c.held = []
  · rw [swipe?, if_pos hnil, step, next_of_nil hnil, Pointer.next]
    split
    · rename_i hready
      cases c.pointer.drag? c.threshold with
      | none => exact Or.inl ⟨rfl, rfl⟩
      | some direction => exact Or.inr ⟨direction, rfl, hready, rfl⟩
    · exact Or.inl ⟨rfl, rfl⟩
  · exact Or.inl ⟨if_neg hnil, by rw [step, next_of_ne_nil hnil]⟩

theorem isDown_lift (c : Controls) (dialogShowing : Bool) :
    (c.lift dialogShowing).2.pointer.isDown = false := by
  simp only [lift, Pointer.lift]
  split
  · split <;> rfl
  · rename_i hup
    simpa using hup

/-- A lift that confirms a dialog arms no replay. -/
theorem replay_lift_true (c : Controls) :
    (c.lift true).2.pointer.replay = c.pointer.replay := by
  simp only [lift, Pointer.lift]
  split <;> rfl

/-- With the pointer up, it stays up unless a touch begins, and a direction costs the replay. -/
theorem balance_step (hup : c.pointer.isDown = false) (hop : ∀ point, op ≠ .touch point) :
    (c.step op).pointer.isDown = false ∧
      (c.swipe? op).toList.length + (c.step op).pointer.replay.toNat =
        c.pointer.replay.toNat := by
  cases op with
  | press | release => exact ⟨hup, Nat.zero_add _⟩
  | cancel => exact ⟨rfl, Nat.zero_add _⟩
  | touch point => exact (hop point rfl).elim
  | drag => simp [step, drag, Pointer.drag, swipe?, hup]
  | lift => simp [step, lift, Pointer.lift, swipe?, hup]
  | next =>
    rcases c.next_cases with ⟨hnone, hsame⟩ | ⟨direction, hsome, hready, hused⟩
    · rw [hnone, hsame]
      exact ⟨hup, Nat.zero_add _⟩
    · have hreplay : c.pointer.replay = true := by simpa [hup] using hready
      rw [hsome, hused, hreplay]
      exact ⟨hup, rfl⟩

/-- A direction leaves the touch spent, and so does every operation on a spent touch until the
next one begins. -/
theorem spent_step (hop : ∀ point, op ≠ .touch point)
    (h : c.swipe? op ≠ none ∨ c.Spent) : (c.step op).Spent := by
  cases op with
  | press | release | cancel => exact h.resolve_left (· rfl)
  | touch point => exact (hop point rfl).elim
  | drag =>
    obtain ⟨hmoves, hreplay⟩ := h.resolve_left (· rfl)
    simp only [Spent, step, drag, Pointer.drag]
    split <;> exact ⟨hmoves, hreplay⟩
  | lift =>
    obtain ⟨hmoves, hreplay⟩ := h.resolve_left (· rfl)
    simp only [Spent, step, lift, Pointer.lift]
    split
    · rw [if_neg (by simp [Nat.ne_of_gt hmoves])]
      exact ⟨hmoves, hreplay⟩
    · exact ⟨hmoves, hreplay⟩
  | next =>
    rcases c.next_cases with ⟨hnone, hsame⟩ | ⟨direction, -, -, hused⟩
    · rw [Spent, hsame]
      exact h.resolve_left (· hnone)
    · rw [Spent, hused]
      exact ⟨Nat.succ_pos _, rfl⟩

/-- A replay is armed by a lift, or it has been armed before and is not used up. -/
theorem replay_step (h : (c.step op).pointer.replay = true) :
    c.Arms op ∨ c.pointer.replay = true ∧ c.swipe? op = none := by
  cases op with
  | press | release | touch | cancel => exact Or.inr ⟨h, rfl⟩
  | drag =>
    simp only [step, drag, Pointer.drag] at h
    split at h <;> exact Or.inr ⟨h, rfl⟩
  | lift dialogShowing =>
    simp only [Arms, step, lift, Pointer.lift] at h ⊢
    split at h
    · split at h
      · rename_i hdown harms
        simp [hdown, harms]
      · exact Or.inr ⟨h, rfl⟩
    · exact Or.inr ⟨h, rfl⟩
  | next =>
    rcases c.next_cases with ⟨hnone, hsame⟩ | ⟨direction, -, -, hused⟩
    · exact Or.inr ⟨hsame ▸ h, hnone⟩
    · cases (congrArg Pointer.replay hused).symm.trans h

/-! ## Runs -/

/-- With the pointer up and until a touch begins, the directions that the pointer gives and a
replay that is left come to the replay that there was. -/
theorem balance_run (hup : c.pointer.isDown = false) (hops : ∀ point, .touch point ∉ ops) :
    (c.swipes ops).length + (c.run ops).pointer.replay.toNat = c.pointer.replay.toNat := by
  induction ops generalizing c with
  | nil => exact Nat.zero_add _
  | cons op ops ih =>
    obtain ⟨hstays, hbalance⟩ :=
      balance_step hup fun point h => hops point (h ▸ List.mem_cons_self)
    have hrest := ih hstays fun point h => hops point (List.mem_cons_of_mem _ h)
    rw [swipes, run_cons, List.length_append]
    omega

/-- A touch that has given a direction is spent. -/
theorem spent_run (hops : ∀ point, .touch point ∉ ops) (h : c.swipes ops ≠ [] ∨ c.Spent) :
    (c.run ops).Spent := by
  induction ops generalizing c with
  | nil => exact h.resolve_left (· rfl)
  | cons op ops ih =>
    refine ih (fun point h => hops point (List.mem_cons_of_mem _ h)) ?_
    have hop : ∀ point, op ≠ .touch point := fun point h => hops point (h ▸ List.mem_cons_self)
    have hstep : c.swipe? op ≠ none ∨ c.Spent → (c.step op).Spent := spent_step hop
    rcases h with h | hspent
    · cases hswipe : c.swipe? op with
      | none => exact Or.inl fun hnil => h (by rw [swipes, hswipe, hnil]; rfl)
      | some direction => exact Or.inr (hstep (Or.inl (by simp [hswipe])))
    · exact Or.inr (hstep (Or.inr hspent))

/-- A replay that is armed was armed in the course of the operations and waits, or it was armed
before them and is not used up. -/
theorem replay_run (h : (c.run ops).pointer.replay = true) :
    c.Waits ops ∨ c.pointer.replay = true ∧ c.swipes ops = [] := by
  induction ops generalizing c with
  | nil => exact Or.inr ⟨h, rfl⟩
  | cons op ops ih =>
    rcases ih h with ⟨earlier, lift, later, rfl, harms, hnone⟩ | ⟨hreplay, hnone⟩
    · exact Or.inl ⟨op :: earlier, lift, later, rfl, harms, hnone⟩
    · rcases replay_step hreplay with harms | ⟨hbefore, hswipe⟩
      · exact Or.inl ⟨[], op, ops, rfl, harms, hnone⟩
      · exact Or.inr ⟨hbefore, by rw [swipes, hswipe, hnone]; rfl⟩

/-- What waits was armed by a lift. -/
theorem Waits.lift_mem (h : c.Waits ops) : ∃ dialogShowing, .lift dialogShowing ∈ ops := by
  obtain ⟨earlier, lift, later, rfl, harms, -⟩ := h
  cases lift with
  | lift dialogShowing => exact ⟨dialogShowing, by simp⟩
  | _ => exact harms.elim

/-- What waits in the end has waited halfway, or was armed after that. -/
theorem Waits.of_append {earlier later : List Operation} (h : c.Waits (earlier ++ later)) :
    c.Waits earlier ∨ (c.run earlier).Waits later := by
  obtain ⟨before, lift, after, heq, harms, hnone⟩ := h
  rcases List.append_eq_append_iff.mp heq with ⟨between, rfl, rfl⟩ | ⟨between, rfl, hafter⟩
  · rw [run_append] at harms
    rw [List.append_assoc, run_append] at hnone
    exact Or.inr ⟨between, lift, after, rfl, harms, hnone⟩
  · cases between with
    | nil =>
      rw [List.nil_append] at hafter
      rw [run_append] at hnone
      rw [List.append_nil]
      exact Or.inr ⟨[], lift, after, hafter.symm, harms, hnone⟩
    | cons _ between =>
      obtain ⟨rfl, rfl⟩ := List.cons.inj hafter
      have hboth := (swipes_append _ between later).symm.trans hnone
      exact Or.inl ⟨before, lift, between, rfl, harms, (List.append_eq_nil_iff.mp hboth).1⟩

/-- From the start, a replay that is armed waits. -/
theorem waits_of_replay {threshold : Float32}
    (h : ((ofThreshold threshold).run ops).pointer.replay = true) :
    (ofThreshold threshold).Waits ops := by
  rcases replay_run h with hwaits | ⟨hreplay, -⟩
  · exact hwaits
  · cases hreplay

/-- How often a touch is replayed, after any operations `before` from the start. Once the
pointer is lifted, it gives at most one direction until the next touch begins, whatever else is
done; and none if it has given one since the last touch began. A question for the next direction
while a key is held counts for nothing in this: it leaves the controls as they are. -/
theorem swipes_after_lift (threshold : Float32) (before after : List Operation)
    (dialogShowing : Bool) (hafter : ∀ point, .touch point ∉ after) :
    (((ofThreshold threshold).run (before ++ [.lift dialogShowing])).swipes after).length ≤ 1 ∧
      (∀ earlier point since, before = earlier ++ .touch point :: since →
        (∀ other, .touch other ∉ since) →
        ((ofThreshold threshold).run (earlier ++ [.touch point])).swipes since ≠ [] →
        ((ofThreshold threshold).run (before ++ [.lift dialogShowing])).swipes after = []) ∧
      ∀ ops, (∃ key, Held ops key) →
        (ofThreshold threshold).run (ops ++ [.next]) = (ofThreshold threshold).run ops := by
  have hlifted : ((ofThreshold threshold).run
      (before ++ [.lift dialogShowing])).pointer.isDown = false := by
    rw [run_append, run_cons, run_nil]
    exact isDown_lift _ _
  have hbalance := balance_run hlifted hafter
  refine ⟨?_, fun earlier point since heq hsince hswipes => ?_, fun ops hheld => ?_⟩
  · have hreplay := Bool.toNat_le
      ((ofThreshold threshold).run (before ++ [.lift dialogShowing])).pointer.replay
    omega
  · have hspent := spent_run hsince (Or.inl hswipes)
    rw [← run_append, List.append_assoc, List.singleton_append, ← heq] at hspent
    have hstill : (((ofThreshold threshold).run before).step (.lift dialogShowing)).Spent :=
      spent_step (fun _ => nofun) (Or.inr hspent)
    rw [run_append, run_cons, run_nil, hstill.2] at hbalance
    rw [run_append]
    exact List.length_eq_zero_iff.mp (Nat.eq_zero_of_add_eq_zero_right hbalance)
  · obtain ⟨key, hkey⟩ := hheld
    have hne := List.ne_nil_of_mem ((mem_held_run threshold ops key).mpr hkey)
    rw [run_append, run_cons, run_nil, step, next_of_ne_nil hne]

/-- A drag across the screen. -/
def drag100 : List Operation :=
  [.touch ⟨0, 0⟩, .drag ⟨100, 0⟩]

/-- A quick swipe is replayed at most once, also if a key is held in between, and a drag that
has given its direction is not replayed at all. -/
theorem swipes_after_lift_quick :
    let after : List Operation := [.press (.other "Shift"), .next, .release (.other "Shift"), .next]
    (∀ point, .touch point ∉ after) ∧
      (((ofThreshold 20).run (drag100 ++ [.lift false])).swipes after).length ≤ 1 ∧
      ((ofThreshold 20).run [.touch ⟨0, 0⟩]).swipes [.drag ⟨100, 0⟩, .next] ≠ [] ∧
      ((ofThreshold 20).run (drag100 ++ [.next] ++ [.lift false])).swipes after = [] ∧
      (∃ key, Held (drag100 ++ [.press (.other "Shift")]) key) ∧
      (ofThreshold 20).run (drag100 ++ [.press (.other "Shift")] ++ [.next]) =
        (ofThreshold 20).run (drag100 ++ [.press (.other "Shift")]) := by
  intro after
  have hafter : ∀ point, .touch point ∉ after := by simp [after]
  have hsince : ∀ other, Operation.touch other ∉ [.drag ⟨100, 0⟩, .next] := by simp
  have hswipes : ((ofThreshold 20).run [.touch ⟨0, 0⟩]).swipes [.drag ⟨100, 0⟩, .next] ≠ [] := by
    decide
  have hheld : ∃ key, Held (drag100 ++ [.press (.other "Shift")]) key := by decide
  obtain ⟨hquick, -, hmasked⟩ := swipes_after_lift 20 drag100 after false hafter
  obtain ⟨-, hdragged, -⟩ := swipes_after_lift 20 (drag100 ++ [.next]) after false hafter
  exact ⟨hafter, hquick, hswipes, hdragged [] ⟨0, 0⟩ _ rfl hsince hswipes, hheld, hmasked _ hheld⟩

-- Lifted before it has given a direction, the drag gives its one.
example : (((ofThreshold 20).run (drag100 ++ [.lift false])).swipes [.next, .next]).length = 1 := by
  decide

/-- Which touch is replayed, after any operations from the start. A touch that is cancelled or
lifted under a dialog gives no direction until the next one begins, unless a replay waits from an
earlier touch as it ends. And if the pointer gives a direction while it is up, then a replay
waits; it is that of the last touch, unless one waited as that touch began. -/
theorem replay_of_last_touch (threshold : Float32) :
    (∀ before ending after, ending = .cancel ∨ ending = .lift true →
        (∀ point, .touch point ∉ after) → ¬(ofThreshold threshold).Waits before →
        ((ofThreshold threshold).run (before ++ [ending])).swipes after = []) ∧
      ∀ ops, ((ofThreshold threshold).run ops).pointer.isDown = false →
        ((ofThreshold threshold).run ops).swipe? .next ≠ none →
        (ofThreshold threshold).Waits ops ∧
          ∀ earlier point since, ops = earlier ++ .touch point :: since →
            ¬(ofThreshold threshold).Waits earlier →
            ((ofThreshold threshold).run (earlier ++ [.touch point])).Waits since := by
  refine ⟨fun before ending after hending hafter hnot => ?_, fun ops hup hswipe => ?_⟩
  · have hreplay : ((ofThreshold threshold).run before).pointer.replay = false :=
      eq_false_of_ne_true fun h => hnot (waits_of_replay h)
    have hended : ((ofThreshold threshold).run (before ++ [ending])).pointer.isDown = false ∧
        ((ofThreshold threshold).run (before ++ [ending])).pointer.replay = false := by
      rw [run_append, run_cons, run_nil]
      rcases hending with rfl | rfl
      · exact ⟨rfl, hreplay⟩
      · exact ⟨isDown_lift _ true, by rw [step, replay_lift_true, hreplay]⟩
    have hbalance := balance_run hended.1 hafter
    rw [hended.2] at hbalance
    exact List.length_eq_zero_iff.mp (Nat.eq_zero_of_add_eq_zero_right hbalance)
  · have hreplay : ((ofThreshold threshold).run ops).pointer.replay = true := by
      rcases ((ofThreshold threshold).run ops).next_cases with ⟨hnone, -⟩ | ⟨_, -, hready, -⟩
      · exact (hswipe hnone).elim
      · simpa [hup] using hready
    have hwaits := waits_of_replay hreplay
    refine ⟨hwaits, fun earlier point since heq hnot => ?_⟩
    rw [heq, List.append_cons] at hwaits
    rcases hwaits.of_append with hbefore | hsince
    · rcases hbefore.of_append with hearlier | htouch
      · exact (hnot hearlier).elim
      · obtain ⟨dialogShowing, hmem⟩ := htouch.lift_mem
        cases List.mem_singleton.mp hmem
    · exact hsince

/-- A tap, which is too short to give a direction, and then a drag. -/
def dragAfterTap : List Operation :=
  [.touch ⟨0, 0⟩, .lift false] ++ drag100

theorem not_waits_nil (c : Controls) : ¬c.Waits [] := by
  intro h
  obtain ⟨dialogShowing, hmem⟩ := h.lift_mem
  cases hmem

/-- A drag that is cancelled gives no direction, and one that is lifted gives its own. -/
theorem replay_of_last_touch_quick :
    ¬(ofThreshold 20).Waits drag100 ∧
      ((ofThreshold 20).run (drag100 ++ [.cancel])).swipes [.next, .next] = [] ∧
      ((ofThreshold 20).run (drag100 ++ [.lift false])).pointer.isDown = false ∧
      ((ofThreshold 20).run (drag100 ++ [.lift false])).swipe? .next ≠ none ∧
      (ofThreshold 20).Waits (drag100 ++ [.lift false]) ∧
      ((ofThreshold 20).run [.touch ⟨0, 0⟩]).Waits [.drag ⟨100, 0⟩, .lift false] := by
  obtain ⟨hcancelled, hlifted⟩ := replay_of_last_touch 20
  have hdrag : ¬(ofThreshold 20).Waits drag100 := by
    intro h
    obtain ⟨dialogShowing, hmem⟩ := h.lift_mem
    simp [drag100] at hmem
  have hswipe : ((ofThreshold 20).run (drag100 ++ [.lift false])).swipe? .next ≠ none := by decide
  obtain ⟨hwaits, hlast⟩ := hlifted (drag100 ++ [.lift false]) rfl hswipe
  exact ⟨hdrag, hcancelled drag100 .cancel _ (Or.inl rfl) (by simp) hdrag, rfl, hswipe, hwaits,
    hlast [] ⟨0, 0⟩ _ rfl (not_waits_nil _)⟩

/-- After a tap, a drag that is cancelled, or lifted under a dialog, gives a direction all the
same, although it is over, armed no replay, and is the last touch. -/
theorem swipe_of_cancelled :
    ((ofThreshold 20).run dragAfterTap).pointer.isDown = true ∧
      ((ofThreshold 20).run (dragAfterTap ++ [.cancel])).swipe? .next ≠ none ∧
      ¬((ofThreshold 20).run dragAfterTap).Arms (.lift true) ∧
      ((ofThreshold 20).run (dragAfterTap ++ [.lift true])).swipe? .next ≠ none := by
  have harms : ¬((ofThreshold 20).run dragAfterTap).Arms (.lift true) := nofun
  exact ⟨rfl, by decide, harms, by decide⟩

end Controls

end TileAdventure
