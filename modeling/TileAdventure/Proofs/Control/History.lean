import TileAdventure.Control.Controls

/-!
# The keys in the history of the controls

Whatever is done to the controls, the keys on their list are those that were pressed and not
released since, in the order of these presses (`held_run`). So the direction that the controls
give is that of the key pressed last of all that are held, and only if none is held that of
the pointer (`Controls.next_of_history`). The keys leave no trace at the pointer: it is as if
nobody had touched a key, nor asked for a direction while one was held (`letGo_run`).
-/

namespace TileAdventure

namespace Controls

/-- Something done to the controls. -/
inductive Operation where
  | press (key : Key)
  | release (key : Key)
  | touch (point : Point)
  | drag (point : Point)
  | lift (dialogShowing : Bool)
  | cancel
  /-- The controls are asked for the next direction. -/
  | next

/-- The controls after an operation. -/
def step (c : Controls) : Operation → Controls
  | .press key => c.press key
  | .release key => c.release key
  | .touch point => c.touch point
  | .drag point => c.drag point
  | .lift dialogShowing => (c.lift dialogShowing).2
  | .cancel => c.cancel
  | .next => c.next.2

/-- The controls after operations one after another. -/
def run (c : Controls) (ops : List Operation) : Controls :=
  ops.foldl step c

variable {c : Controls} {key : Key} {op : Operation} {ops earlier later : List Operation}

@[simp] theorem run_nil (c : Controls) : c.run [] = c := rfl

@[simp] theorem run_cons (c : Controls) (op : Operation) (ops : List Operation) :
    c.run (op :: ops) = (c.step op).run ops := rfl

theorem run_append (c : Controls) (earlier later : List Operation) :
    c.run (earlier ++ later) = (c.run earlier).run later :=
  List.foldl_append

/-! ## Keys that are held -/

/-- By the history, a key is held: it was pressed, and has not been released since. -/
def Held (ops : List Operation) (key : Key) : Prop :=
  ∃ earlier since, ops = earlier ++ .press key :: since ∧ .release key ∉ since

/-- Of all keys that are held, this one was pressed last: since its press, none of them was
pressed. -/
def HeldLast (ops : List Operation) (key : Key) : Prop :=
  ∃ earlier since, ops = earlier ++ .press key :: since ∧ .release key ∉ since ∧
    ∀ other, Held ops other → .press other ∉ since

/-- The key that an operation releases. -/
def Operation.released? : Operation → Option Key
  | release key => some key
  | _ => none

/-- The keys that operations release. -/
def released (ops : List Operation) : List Key :=
  ops.filterMap Operation.released?

/-- The keys pressed in the course of operations and not released after that, in the order of
the presses. -/
def unreleased : List Operation → List Key
  | [] => []
  | .press key :: ops => if key ∈ released ops then unreleased ops else key :: unreleased ops
  | _ :: ops => unreleased ops

@[simp] theorem held_next (c : Controls) : c.next.2.held = c.held := by
  unfold next
  split <;> rfl

theorem mem_released : key ∈ released ops ↔ .release key ∈ ops := by
  simp only [released, List.mem_filterMap]
  constructor
  · rintro ⟨op, hop, hkey⟩
    cases op <;> cases hkey
    exact hop
  · intro h
    exact ⟨_, h, rfl⟩

/-- Releases take keys off the list and presses put them at its end. -/
theorem held_run (c : Controls) (ops : List Operation) :
    (c.run ops).held = c.held.filter (· ∉ released ops) ++ unreleased ops := by
  induction ops generalizing c with
  | nil =>
    have hall : c.held.filter (· ∉ released []) = c.held :=
      List.filter_eq_self.mpr (by simp [released])
    rw [hall]
    exact (List.append_nil _).symm
  | cons op ops ih =>
    rw [run_cons, ih]
    cases op with
    | press key =>
      by_cases hkey : key ∈ released ops <;> simp_all [step, press, unreleased, released,
        Operation.released?]
    | release key =>
      have hboth : ∀ k, k ∉ released (.release key :: ops) ↔ k ∉ released ops ∧ k ≠ key := by
        simp [released, Operation.released?, and_comm]
      simp [step, release, unreleased, List.filter_filter, hboth]
    | touch | drag | lift | cancel => rfl
    | next =>
      rw [step, held_next]
      rfl

theorem held_nil (key : Key) : ¬Held [] key := by
  rintro ⟨earlier, since, h, -⟩
  simp at h

/-- A key is held if it has been so all along since a later operation, or if the first operation
presses it for good. -/
theorem held_cons : Held (op :: ops) key ↔
    Held ops key ∨ op = .press key ∧ .release key ∉ ops := by
  constructor
  · rintro ⟨earlier, since, h, hrelease⟩
    cases earlier with
    | nil =>
      obtain ⟨rfl, rfl⟩ := List.cons.inj h
      exact Or.inr ⟨rfl, hrelease⟩
    | cons _ earlier => exact Or.inl ⟨earlier, since, (List.cons.inj h).2, hrelease⟩
  · rintro (⟨earlier, since, rfl, hrelease⟩ | ⟨rfl, hrelease⟩)
    · exact ⟨op :: earlier, since, rfl, hrelease⟩
    · exact ⟨[], ops, rfl, hrelease⟩

/-- A key that is pressed and never released is held. -/
theorem held_of_press (hpress : .press key ∈ ops) (hrelease : .release key ∉ ops) :
    Held ops key := by
  obtain ⟨earlier, since, rfl⟩ := List.append_of_mem hpress
  exact ⟨earlier, since, rfl, fun h => hrelease (by simp [h])⟩

theorem mem_unreleased : key ∈ unreleased ops ↔ Held ops key := by
  induction ops with
  | nil => simp [unreleased, held_nil]
  | cons op ops ih =>
    rw [held_cons, ← ih, ← mem_released]
    cases op with
    | press other =>
      by_cases hother : other ∈ released ops
      · have hkey : key ∉ released ops → other ≠ key := fun h h' => h (h' ▸ hother)
        simpa [unreleased, hother] using fun h h' => (hkey h' h).elim
      · simp only [unreleased, if_neg hother, List.mem_cons, Operation.press.injEq]
        constructor
        · rintro (rfl | h)
          · exact Or.inr ⟨rfl, hother⟩
          · exact Or.inl h
        · rintro (h | ⟨rfl, -⟩)
          · exact Or.inr h
          · exact Or.inl rfl
    | release | touch | drag | lift | cancel | next => simp [unreleased]

instance (ops : List Operation) : Decidable (∃ key, Held ops key) :=
  decidable_of_iff (unreleased ops ≠ []) <| by
    simp [← mem_unreleased, List.eq_nil_iff_forall_not_mem]

/-- If any key is held, then one was pressed last. -/
theorem exists_heldLast (h : ∃ key, Held ops key) : ∃ key, HeldLast ops key := by
  induction ops with
  | nil =>
    obtain ⟨key, hkey⟩ := h
    exact (held_nil key hkey).elim
  | cons op ops ih =>
    by_cases hlater : ∃ key, Held ops key
    · obtain ⟨key, earlier, since, rfl, hrelease, hlast⟩ := ih hlater
      refine ⟨key, op :: earlier, since, rfl, hrelease, fun other hother hpress => ?_⟩
      rcases held_cons.mp hother with hother | ⟨-, hnot⟩
      · exact hlast other hother hpress
      · have hmem : .press other ∈ earlier ++ .press key :: since := by simp [hpress]
        exact hlast other (held_of_press hmem hnot) hpress
    · obtain ⟨key, hkey⟩ := h
      obtain ⟨rfl, hrelease⟩ := (held_cons.mp hkey).resolve_left fun h => hlater ⟨key, h⟩
      refine ⟨key, [], ops, rfl, hrelease, fun other hother hpress => ?_⟩
      rcases held_cons.mp hother with hother | ⟨-, hnot⟩
      · exact hlater ⟨other, hother⟩
      · exact hlater ⟨other, held_of_press hpress hnot⟩

theorem held_run_ofThreshold (threshold : Float32) (ops : List Operation) :
    ((ofThreshold threshold).run ops).held = unreleased ops :=
  held_run _ ops

theorem unreleased_append (earlier later : List Operation) :
    unreleased (earlier ++ later) =
      (unreleased earlier).filter (· ∉ released later) ++ unreleased later := by
  rw [← held_run_ofThreshold 0, run_append, held_run, held_run_ofThreshold]

/-- The key held last is the last one of the list. -/
theorem HeldLast.getLast? (h : HeldLast ops key) : (unreleased ops).getLast? = some key := by
  obtain ⟨earlier, since, rfl, hrelease, hlast⟩ := h
  have hsince : unreleased since = [] := by
    refine List.eq_nil_iff_forall_not_mem.mpr fun other hother => ?_
    obtain ⟨before, after, rfl, hnot⟩ := mem_unreleased.mp hother
    refine hlast other ⟨earlier ++ .press key :: before, after, by simp, hnot⟩ (by simp)
  have hkey : key ∉ released since := fun h => hrelease (mem_released.mp h)
  rw [unreleased_append, unreleased, if_neg hkey, hsince]
  exact List.getLast?_concat

/-! ## What the pointer notices -/

/-- After `past`, an operation that the pointer does not notice: one on a key, or a question
for the next direction while a key is held. -/
def Masked (past : List Operation) : Operation → Prop
  | .press _ | .release _ => True
  | .next => ∃ key, Held past key
  | .touch _ | .drag _ | .lift _ | .cancel => False

instance (past : List Operation) : (op : Operation) → Decidable (Masked past op)
  | .press _ | .release _ => .isTrue trivial
  | .next => inferInstanceAs (Decidable (∃ key, Held past key))
  | .touch _ | .drag _ | .lift _ | .cancel => .isFalse id

/-- The operations that the pointer notices, after `past`. -/
def noticed (past : List Operation) : List Operation → List Operation
  | [] => []
  | op :: ops =>
    if Masked past op then noticed (past ++ [op]) ops else op :: noticed (past ++ [op]) ops

/-- The controls with no key held. -/
def letGo (c : Controls) : Controls :=
  { c with held := [] }

theorem letGo_of_nil (h : c.held = []) : c.letGo = c := by
  rw [letGo, ← h]

theorem next_of_ne_nil (h : c.held ≠ []) : c.next.2 = c := by
  unfold next
  split
  · rfl
  · rename_i hlast
    exact (h (List.getLast?_eq_none_iff.mp hlast)).elim

/-- With all keys let go, an operation that the pointer notices does what it does anyway, and any
other one is no change. -/
theorem letGo_step {past : List Operation} (hpast : ∀ key, key ∈ c.held ↔ Held past key)
    (op : Operation) :
    (c.step op).letGo = if Masked past op then c.letGo else c.letGo.step op := by
  cases op with
  | press | release | touch | drag | lift | cancel => rfl
  | next =>
    by_cases hheld : Masked past .next
    · obtain ⟨key, hkey⟩ := hheld
      have hne : c.held ≠ [] := List.ne_nil_of_mem ((hpast key).mpr hkey)
      rw [if_pos ⟨key, hkey⟩, step, next_of_ne_nil hne]
    · have hnil : c.held = [] :=
        List.eq_nil_iff_forall_not_mem.mpr fun key hkey => hheld ⟨key, (hpast key).mp hkey⟩
      have hnext : (c.step .next).held = [] := (held_next c).trans hnil
      rw [if_neg hheld, letGo_of_nil hnil, letGo_of_nil hnext]

theorem mem_held_run (threshold : Float32) (ops : List Operation) (key : Key) :
    key ∈ ((ofThreshold threshold).run ops).held ↔ Held ops key := by
  rw [held_run_ofThreshold, mem_unreleased]

/-- Keys leave no trace: with all keys let go, the controls are as if only the operations that
the pointer notices had been made. -/
theorem letGo_run (threshold : Float32) (past ops : List Operation) :
    ((ofThreshold threshold).run (past ++ ops)).letGo =
      ((ofThreshold threshold).run past).letGo.run (noticed past ops) := by
  induction ops generalizing past with
  | nil => rw [List.append_nil, noticed, run_nil]
  | cons op ops ih =>
    have hstep := letGo_step (mem_held_run threshold past) op
    rw [List.append_cons, ih, run_append, run_cons, run_nil, hstep, noticed]
    split <;> rfl

/-- Which direction the controls give, after any operations from the start. If a key is held,
one of those held was pressed last; its direction is given, which is none if it is no arrow,
and the controls stay as they are. If none is held, then the answer, and all that follows, is
what it would be if no key had been touched and nobody had asked while one was held. -/
theorem next_of_history (threshold : Float32) (ops : List Operation) :
    ((∃ key, Held ops key) → ∃ key, HeldLast ops key) ∧
      (∀ key, HeldLast ops key → ((ofThreshold threshold).run ops).next =
        (key.direction?, (ofThreshold threshold).run ops)) ∧
      ((¬∃ key, Held ops key) → ((ofThreshold threshold).run ops).next =
        ((ofThreshold threshold).run (noticed [] ops)).next) := by
  refine ⟨exists_heldLast, fun key hkey => ?_, fun hnone => ?_⟩
  · have hlast : ((ofThreshold threshold).run ops).held.getLast? = some key := by
      rw [held_run_ofThreshold, hkey.getLast?]
    rw [next, hlast]
  · have hnil : ((ofThreshold threshold).run ops).held = [] :=
      List.eq_nil_iff_forall_not_mem.mpr fun key hkey =>
        hnone ⟨key, (mem_held_run threshold ops key).mp hkey⟩
    have hrun := letGo_run threshold [] ops
    rw [List.nil_append, letGo_of_nil hnil] at hrun
    rw [hrun]
    rfl

/-- Left is pressed twice, with up in between, and released: up is held. -/
def upAfterLeft : List Operation :=
  [.press (.arrow .left), .press (.arrow .up), .press (.arrow .left), .release (.arrow .left)]

/-- A drag with a key held for a while. -/
def maskedDrag : List Operation :=
  [.touch ⟨0, 0⟩, .press (.other "Shift"), .drag ⟨100, 0⟩, .next, .release (.other "Shift")]

theorem heldLast_upAfterLeft : HeldLast upAfterLeft (.arrow .up) := by
  refine ⟨[.press (.arrow .left)], [.press (.arrow .left), .release (.arrow .left)], rfl, by simp,
    fun other hother => ?_⟩
  have hup : other ∈ [.arrow .up] := mem_unreleased.mpr hother
  rw [List.mem_singleton.mp hup]
  simp

/-- Up decides once left is released, and the drag gives a direction as if no key had been
held. -/
theorem next_of_history_keys :
    HeldLast upAfterLeft (.arrow .up) ∧
      ((ofThreshold 20).run upAfterLeft).next = (some .up, (ofThreshold 20).run upAfterLeft) ∧
      (∃ key, Held upAfterLeft key) ∧ (¬∃ key, Held maskedDrag key) ∧
      ((ofThreshold 20).run maskedDrag).next =
        ((ofThreshold 20).run [.touch ⟨0, 0⟩, .drag ⟨100, 0⟩]).next := by
  have hnone : ¬∃ key, Held maskedDrag key := by decide
  exact ⟨heldLast_upAfterLeft, (next_of_history 20 upAfterLeft).2.1 _ heldLast_upAfterLeft,
    by decide, hnone, (next_of_history 20 maskedDrag).2.2 hnone⟩

end Controls

end TileAdventure
