import TileAdventure.Proofs.Acting.Conservation

/-!
# The ledger of the inventory

A trade changes the inventory, by a change of a count or by an action of a tile that gives or
takes. On the way it goes through numbers of 64 bits with a sign, and what is beyond these is
held to the nearest of them, at the negation of what is taken and at the sum. None of it shows:
the count is what exact integers, held between zero and the greatest count, make of it
(`Inventory.clamped_transfer`), even of the least quantity, whose negation is no number of 64
bits.

So a ledger of any length comes down to its items (`Setting.inventory_traded`): the count of an
item is the balance of its own trades, in order, whatever was traded between them. The entries
are those of the items that were traded, each once, in the order of their bytes.
-/

namespace TileAdventure

/-! ## Exact changes -/

namespace Inventory

/-- A number of 64 bits with a sign. -/
def IsChange (z : Int) : Prop :=
  leastChange ≤ z ∧ z ≤ greatestChange

instance (z : Int) : Decidable (IsChange z) :=
  inferInstanceAs (Decidable (_ ∧ _))

theorem isChange_saturated (z : Int) : IsChange (saturated z) := by
  unfold IsChange saturated leastChange greatestChange
  omega

theorem isChange_transfer {quantity : Int} (h : IsChange quantity) (giving : Bool) :
    IsChange (transfer quantity giving) := by
  cases giving
  · exact isChange_saturated _
  · exact h

/-- A quantity with its sign, which is negative when it is taken. -/
def signed (quantity : Int) (giving : Bool) : Int :=
  if giving then quantity else -quantity

/-- A count after an exact change, held between zero and the greatest count. -/
def balance (c d : Int) : Int :=
  min (max (c + d) 0) (2 ^ 32 - 1)

theorem clamped_eq_balance (n : Nat) (change : Int) :
    (clamped n change : Int) = balance n change := by
  rw [clamped_eq]
  unfold balance maxCount
  omega

/-- Negating in 64 bits makes no difference to a count: where it is not exact, both changes
lead beyond the greatest count. -/
theorem clamped_transfer {n : Nat} (h : n ≤ maxCount) (quantity : Int) (giving : Bool) :
    (clamped n (transfer quantity giving) : Int) = balance n (signed quantity giving) := by
  rw [clamped_eq_balance]
  cases giving
  · simp only [transfer, signed, Bool.false_eq_true, if_false, balance, saturated, leastChange,
      greatestChange]
    unfold maxCount at h
    omega
  · rfl

/-- No item counts more than the greatest count. -/
def Bounded (inv : Inventory) : Prop :=
  ∀ item, inv.count item ≤ maxCount

theorem Bounded.add {inv : Inventory} (h : inv.Bounded) (item : String)
    (change : Int) : (inv.add item change).Bounded := by
  intro name
  rw [count_add]
  split
  · exact clamped_le _ _
  · exact h name

theorem Bounded.count_lt {inv : Inventory} (h : inv.Bounded) (item : String) :
    inv.count item < 2 ^ 32 :=
  Nat.lt_of_le_sub_one (by decide) (h item)

end Inventory

/-! ## Entries in order -/

theorem bytesBefore_trans {a b c : String} (hab : bytesBefore a b = true)
    (hbc : bytesBefore b c = true) : bytesBefore a c = true :=
  decide_eq_true (List.lt_trans (of_decide_eq_true hab) (of_decide_eq_true hbc))

/-- Of two different names, the bytes of one come before those of the other. -/
theorem bytesBefore_of_not {a b : String} (hne : b ≠ a) (h : ¬bytesBefore a b = true) :
    bytesBefore b a = true := by
  have hle := Std.not_lt.mp fun hlt => h (decide_eq_true hlt)
  refine decide_eq_true (Std.lt_of_le_of_ne hle fun hbytes => hne ?_)
  exact String.toByteArray_inj.mp (ByteArray.ext (Array.toList_inj.mp hbytes))

namespace Inventory

variable {entries : List (String × Nat)}

/-- The entries are in the order of the bytes of their names, which are all different. -/
def Ordered (entries : List (String × Nat)) : Prop :=
  entries.Pairwise fun a b => bytesBefore a.1 b.1 = true

theorem Ordered.put (h : Ordered entries) (item : String) (n : Nat) :
    Ordered (put item n entries) := by
  fun_induction Inventory.put item n entries with
  | case1 => exact List.pairwise_singleton ..
  | case2 m entries =>
    -- The name stays, and only its count changes.
    exact List.pairwise_cons.mpr (List.pairwise_cons.mp h)
  | case3 name m entries hne hbefore =>
    refine List.pairwise_cons.mpr ⟨fun entry hentry => ?_, h⟩
    rcases List.mem_cons.mp hentry with rfl | hrest
    · exact hbefore
    · exact bytesBefore_trans hbefore ((List.pairwise_cons.mp h).1 entry hrest)
  | case4 name m entries hne hnot ih =>
    obtain ⟨hfirst, hrest⟩ := List.pairwise_cons.mp h
    refine List.pairwise_cons.mpr ⟨fun entry hentry => ?_, ih hrest⟩
    rcases mem_names_put.mp (List.mem_map_of_mem hentry) with hitem | hmem
    · exact hitem ▸ bytesBefore_of_not hne hnot
    · obtain ⟨other, hother, hname⟩ := List.mem_map.mp hmem
      exact hname ▸ hfirst other hother

theorem Ordered.lookup (h : Ordered entries) {entry : String × Nat} (hentry : entry ∈ entries) :
    entries.lookup entry.1 = some entry.2 := by
  induction entries with
  | nil => cases hentry
  | cons first rest ih =>
    obtain ⟨hfirst, hrest⟩ := List.pairwise_cons.mp h
    rcases List.mem_cons.mp hentry with rfl | hmem
    · exact List.lookup_cons_self
    · have hne : entry.1 ≠ first.1 := fun heq =>
        List.lt_irrefl _ (of_decide_eq_true (heq ▸ hfirst entry hmem))
      rw [List.lookup_cons, beq_false_of_ne hne]
      exact ih hrest hmem

variable {inv : Inventory}

/-- The entries are the items with their counts. -/
theorem counts_eq (h : Ordered inv.counts) :
    inv.counts = inv.items.map fun item => (item, inv.count item) := by
  rw [items, List.map_map]
  refine (List.map_id _).symm.trans (List.map_congr_left fun entry hentry => ?_)
  simp [count, h.lookup hentry]

theorem isEmpty_iff (h : Ordered inv.counts) :
    inv.isEmpty = true ↔ ∀ item, inv.count item = 0 := by
  simp only [isEmpty, List.all_eq_true, decide_eq_true_eq]
  constructor
  · intro hzero item
    cases hitem : inv.counts.lookup item with
    | none => simp [count, hitem]
    | some n =>
      obtain ⟨before, after, hcounts, -⟩ := List.lookup_eq_some_iff.mp hitem
      have hn : n = 0 := hzero (item, n) (hcounts ▸ List.mem_append_right _ List.mem_cons_self)
      simp [count, hitem, hn]
  · intro hzero entry hentry
    simpa [count, h.lookup hentry] using hzero entry.1

end Inventory

/-! ## Trades -/

/-- A change of the inventory. -/
inductive Trade where
  /-- The count of an item is changed. -/
  | add (item : String) (change : Int)
  /-- An action of a tile gives or takes. -/
  | act (item : String) (quantity : Int) (giving : Bool) (tile : TileAddress)
      (path : ActionPath)

namespace Trade

def item : Trade → String
  | add item _ => item
  | act item .. => item

/-- The number that comes with the trade. -/
def quantity : Trade → Int
  | add _ change => change
  | act _ quantity .. => quantity

/-- The exact change that the trade is about. -/
def signed : Trade → Int
  | add _ change => change
  | act _ quantity giving .. => Inventory.signed quantity giving

/-- The change that the trade makes, which is a number of 64 bits if its quantity is one. -/
def change : Trade → Int
  | add _ change => change
  | act _ quantity giving .. => Inventory.transfer quantity giving

theorem isChange_change (trade : Trade) (h : Inventory.IsChange trade.quantity) :
    Inventory.IsChange trade.change := by
  cases trade with
  | add => exact h
  | act item quantity giving => exact Inventory.isChange_transfer h giving

/-- The trade takes place. An action fails if its item is not the name of a sprite. -/
def takesPlace (sprites : Catalogue) : Trade → Bool
  | add .. => true
  | act item .. => (sprites.find? item).isSome

end Trade

/-- The inventory after trades. -/
def Inventory.settle (inv : Inventory) (trades : List Trade) : Inventory :=
  trades.foldl (fun inv trade => inv.add trade.item trade.change) inv

namespace Inventory

variable {inv : Inventory}

/-- A trade brings its own item in balance, exactly. -/
theorem Bounded.count_trade (h : inv.Bounded) (trade : Trade) (item : String) :
    ((inv.add trade.item trade.change).count item : Int) =
      if trade.item = item then balance (inv.count item) trade.signed else inv.count item := by
  rw [count_add]
  by_cases hitem : trade.item = item
  · subst hitem
    rw [if_pos rfl, if_pos rfl]
    cases trade with
    | add item change => exact clamped_eq_balance ..
    | act item quantity giving => exact clamped_transfer (h _) quantity giving
  · rw [if_neg (Ne.symm hitem), if_neg hitem]

theorem Bounded.settle (h : inv.Bounded) (trades : List Trade) : (inv.settle trades).Bounded := by
  induction trades generalizing inv with
  | nil => exact h
  | cons trade trades ih => exact ih (h.add trade.item trade.change)

/-- A count is the balance of the trades of its item. -/
theorem Bounded.count_settle (h : inv.Bounded) (trades : List Trade) (item : String) :
    ((inv.settle trades).count item : Int) =
      ((trades.filter (·.item = item)).map Trade.signed).foldl balance (inv.count item) := by
  induction trades generalizing inv with
  | nil => rfl
  | cons trade trades ih =>
    have hcons : inv.settle (trade :: trades) =
        (inv.add trade.item trade.change).settle trades := rfl
    rw [hcons, ih (h.add _ _), h.count_trade]
    by_cases hitem : trade.item = item
    · rw [if_pos hitem, List.filter_cons_of_pos (by simp [hitem])]
      rfl
    · rw [if_neg hitem, List.filter_cons_of_neg (by simp [hitem])]

theorem ordered_settle (h : Ordered inv.counts) (trades : List Trade) :
    Ordered (inv.settle trades).counts := by
  induction trades generalizing inv with
  | nil => exact h
  | cons trade trades ih => exact ih (Ordered.put h trade.item _)

theorem mem_items_settle {item : String} {trades : List Trade} :
    item ∈ (inv.settle trades).items ↔
      (∃ trade ∈ trades, trade.item = item) ∨ item ∈ inv.items := by
  induction trades generalizing inv with
  | nil => simp [settle]
  | cons trade trades ih =>
    have hcons : inv.settle (trade :: trades) =
        (inv.add trade.item trade.change).settle trades := rfl
    rw [hcons, ih, mem_items_add, List.exists_mem_cons_iff]
    grind

end Inventory

namespace Setting

variable {setting : Setting} {scene : Scene}

/-- Do what a trade says, now. -/
def trade (setting : Setting) : Trade → Scene → Attempt Outcome
  | .add item change, scene => (.ok .executed, scene.addItem item change)
  | .act item quantity giving tile path, scene =>
    setting.run (.giveItem item quantity giving) tile path scene

/-- The scene after trades, one after the other, whether they take place or not. -/
def traded (setting : Setting) (trades : List Trade) (scene : Scene) : Scene :=
  trades.foldl (fun scene trade => (setting.trade trade scene).2) scene

theorem trade_of_takesPlace (hshow : scene.gate.showing = false) {trade : Trade}
    (h : trade.takesPlace setting.sprites = true) :
    setting.trade trade scene = (.ok .executed, scene.addItem trade.item trade.change) := by
  cases trade with
  | add => rfl
  | act item quantity giving tile path =>
    obtain ⟨sprite, hsprite⟩ := Option.isSome_iff_exists.mp h
    simp [Setting.trade, run, perform, hshow, hsprite, Trade.item, Trade.change]

theorem trade_of_not_takesPlace (hshow : scene.gate.showing = false) {trade : Trade}
    (h : trade.takesPlace setting.sprites = false) :
    setting.trade trade scene = (.error (.failed (.unknownSprite trade.item)), scene) := by
  cases trade with
  | add => cases h
  | act item quantity giving tile path =>
    have hsprite := Option.isSome_eq_false_iff.mp h
    simp_all [Setting.trade, run, perform, Trade.item]

/-- Trades change the inventory only, by their changes in order. -/
theorem traded_eq (hshow : scene.gate.showing = false) (trades : List Trade) :
    setting.traded trades scene =
      { scene with
        inventory :=
          scene.inventory.settle (trades.filter (·.takesPlace setting.sprites)) } := by
  induction trades generalizing scene with
  | nil => rfl
  | cons trade trades ih =>
    have hcons : setting.traded (trade :: trades) scene =
        setting.traded trades (setting.trade trade scene).2 := rfl
    cases h : trade.takesPlace setting.sprites with
    | true =>
      have hshow' : (scene.addItem trade.item trade.change).gate.showing = false := hshow
      rw [hcons, trade_of_takesPlace hshow h, ih hshow', List.filter_cons_of_pos h]
      rfl
    | false =>
      rw [hcons, trade_of_not_takesPlace hshow h, ih hshow,
        List.filter_cons_of_neg (by simp [h])]

/-- From the empty inventory, trades of quantities of 64 bits add up exactly. Each of them
takes place unless it is an action with an unknown item, and goes through numbers of 64 bits
only. In the end the count of an item is the balance of the exact changes of its own trades, in
order, between zero and the greatest count of 32 bits, and the entries are the items that were
traded, in the order of their bytes. -/
theorem inventory_traded (setting : Setting) (trades : List Trade)
    (hshow : scene.gate.showing = false) (hempty : scene.inventory = .empty) :
    let placed := trades.filter (·.takesPlace setting.sprites)
    let inv := (setting.traded trades scene).inventory
    (∀ earlier trade later, trades = earlier ++ trade :: later →
      trade.takesPlace setting.sprites = true →
      let before := setting.traded earlier scene
      let n := before.inventory.count trade.item
      let after := (setting.trade trade before).2.inventory.count trade.item
      (setting.trade trade before).1 = .ok .executed ∧
      (Inventory.IsChange trade.quantity → Inventory.IsChange trade.change) ∧
      Inventory.IsChange (Inventory.saturated (n + trade.change)) ∧
      after = Inventory.clamped n trade.change ∧ after < 2 ^ 32 ∧
      (after : Int) = min (max (n + trade.signed) 0) (2 ^ 32 - 1)) ∧
    (∀ item, (inv.count item : Int) = ((placed.filter (·.item = item)).map Trade.signed).foldl
      (fun c d => min (max (c + d) 0) (2 ^ 32 - 1)) 0) ∧
    inv.counts = inv.items.map (fun item => (item, inv.count item)) ∧
    inv.items.Pairwise (fun a b => bytesBefore a b = true) ∧
    (∀ item, item ∈ inv.items ↔ ∃ trade ∈ placed, trade.item = item) ∧
    (inv.isEmpty = true ↔ ∀ item, inv.count item = 0) := by
  intro placed inv
  have hbounded : Inventory.empty.Bounded := fun _ => Nat.zero_le _
  have hinv : inv = Inventory.empty.settle placed := by
    simp only [inv, traded_eq hshow, hempty, placed]
  have hordered : Inventory.Ordered inv.counts :=
    hinv ▸ Inventory.ordered_settle List.Pairwise.nil placed
  refine ⟨fun earlier trade later _ hplace => ?_,
    fun item => hinv ▸ hbounded.count_settle placed item, Inventory.counts_eq hordered,
    List.pairwise_map.mpr hordered, fun item => ?_, Inventory.isEmpty_iff hordered⟩
  · intro before n after
    have hbefore : before.inventory.Bounded := by
      simpa only [before, traded_eq hshow, hempty] using hbounded.settle _
    have htrade : setting.trade trade before =
        (.ok .executed, before.addItem trade.item trade.change) :=
      trade_of_takesPlace (by simpa only [before, traded_eq hshow] using hshow) hplace
    have hafter : after = (before.inventory.add trade.item trade.change).count trade.item := by
      simp only [after, htrade, Scene.addItem]
    have hexact := hbefore.count_trade trade trade.item
    rw [← hafter, if_pos rfl] at hexact
    exact ⟨congrArg Prod.fst htrade, trade.isChange_change, Inventory.isChange_saturated _,
      by rw [hafter, Inventory.count_add, if_pos rfl],
      hafter ▸ (hbefore.add trade.item trade.change).count_lt trade.item, hexact⟩
  · rw [hinv, Inventory.mem_items_settle]
    exact or_iff_left List.not_mem_nil

/-- A world with keys. -/
def keyStore : Setting where
  dimensions := .ofGrid 1 1 1 1 false false
  sprites := ⟨[⟨"key", [], 0, false, false, true, false, []⟩]⟩
  palette := ⟨"day", []⟩
  depthLimit := 0

/-- The scene with a key and without items. -/
def keyScene : Scene where
  rooms := [⟨"day", [⟨⟨0⟩, "key", 0, 0, false⟩]⟩]
  inventory := .empty
  bookmarks := .empty
  gate := .idle
  stage := .ofPageChars 40
  random := .ofSeed 0
  target := ⟨0, 0, 0⟩

/-- An action of the key gives or takes keys. -/
def keyTrade (quantity : Int) (giving : Bool) : Trade :=
  .act "key" quantity giving ⟨0, ⟨0⟩⟩ (.root "push" 0)

/-- Three keys are given and the least quantity of 64 bits is taken, whose negation is no such
number, so that the greatest count is left. After the greatest quantity is taken no key is
left. Coins count by themselves, and gems are in no world, so they cannot be given. -/
theorem inventory_traded_least :
    let trades : List Trade := [keyTrade 3 true, .add "coin" (-5),
      .act "gem" 1 true ⟨0, ⟨0⟩⟩ (.root "push" 0), keyTrade Inventory.leastChange false,
      .add "coin" 2]
    let later := trades ++ [keyTrade Inventory.greatestChange false]
    keyScene.gate.showing = false ∧ keyScene.inventory = .empty ∧
      (∀ trade ∈ later, Inventory.IsChange trade.quantity) ∧
      ((keyStore.traded trades keyScene).inventory.count "key" : Int) = 2 ^ 32 - 1 ∧
      ((keyStore.traded later keyScene).inventory.count "key" : Int) = 0 ∧
      ((keyStore.traded later keyScene).inventory.count "coin" : Int) = 2 ∧
      (keyStore.traded later keyScene).inventory.items = ["coin", "key"] ∧
      (keyStore.traded later keyScene).inventory.isEmpty = false := by
  intro trades later
  have hshow : keyScene.gate.showing = false := rfl
  have hempty : keyScene.inventory = .empty := rfl
  have hcounts := (inventory_traded keyStore trades hshow hempty).2.1
  have hlater := (inventory_traded keyStore later hshow hempty).2.1
  exact ⟨hshow, hempty, by decide, (hcounts "key").trans (by decide),
    (hlater "key").trans (by decide), (hlater "coin").trans (by decide), by decide, by decide⟩

end Setting

end TileAdventure
