import TileAdventure.Proofs.Session.Acting
import TileAdventure.Proofs.World.Occurrence

/-!
# Names of paths

A path is kept as a text, and the text does not tell where the event ends. The last step can
always be read off, so two descents with one text run alike from their ends until one of them
is used up, and there the other is still on its way down (`ActionPath.descend_eq_descend_iff`).
So a path leads along one list of indexes only, and a sequence has its bookmark for itself,
unless one event has the name of a path in the behavior for another
(`SequenceKey.key_eq_key_iff`). An event with such a name makes two sequences of one tile share
a bookmark (`Session.shared_bookmark_gong`).
-/

namespace TileAdventure

namespace ActionPath

/-- The path below `p` along the given indexes. -/
def descend (p : ActionPath) (indexes : List Nat) : ActionPath :=
  indexes.foldl child p

theorem descend_append (p : ActionPath) (is js : List Nat) :
    p.descend (is ++ js) = (p.descend is).descend js :=
  List.foldl_append

theorem descend_concat (p : ActionPath) (is : List Nat) (i : Nat) :
    p.descend (is ++ [i]) = (p.descend is).child i := by
  rw [descend_append]
  rfl

/-- A path in the behavior for an event leads down from the event's name. -/
theorem descend_root (event : String) (index : Nat) (below : List Nat) :
    (root event index).descend below = descend ⟨event⟩ (index :: below) := rfl

/-- Two descents end in one path if and only if one of them passes the start of the other and
goes on along the same indexes. -/
theorem descend_eq_descend_iff {p q : ActionPath} {is js : List Nat} :
    p.descend is = q.descend js ↔
      (∃ front, q = p.descend front ∧ is = front ++ js) ∨
        ∃ front, p = q.descend front ∧ js = front ++ is := by
  constructor
  · intro h
    induction is using List.reverseRecOn generalizing js with
    | nil => exact Or.inr ⟨js, h, (List.append_nil js).symm⟩
    | append_singleton is i ih =>
      rcases js.eq_nil_or_concat' with rfl | ⟨js, j, rfl⟩
      · exact Or.inl ⟨is ++ [i], h.symm, (List.append_nil _).symm⟩
      · rw [descend_concat, descend_concat] at h
        obtain ⟨hpath, rfl⟩ := child_inj.mp h
        rcases ih hpath with ⟨front, hq, his⟩ | ⟨front, hp, hjs⟩
        · exact Or.inl ⟨front, hq, by rw [his, List.append_assoc]⟩
        · exact Or.inr ⟨front, hp, by rw [hjs, List.append_assoc]⟩
  · rintro (⟨front, rfl, rfl⟩ | ⟨front, rfl, rfl⟩)
    · exact descend_append p front js
    · exact (descend_append q front is).symm

/-- A descent to a path passes the name of an event if it starts at the event, or if the name
is that of a path on the way. -/
theorem exists_front_iff {event event' : String} {index index' : Nat} {below below' : List Nat} :
    (∃ front, (⟨event'⟩ : ActionPath) = descend ⟨event⟩ front ∧
        index :: below = front ++ index' :: below') ↔
      (event' = event ∧ index = index' ∧ below = below') ∨
        ∃ between, event' = ((root event index).descend between).text ∧
          below = between ++ index' :: below' := by
  constructor
  · rintro ⟨_ | ⟨i, between⟩, hevent, hindexes⟩
    · obtain ⟨rfl, rfl⟩ := List.cons.inj hindexes
      exact Or.inl ⟨congrArg text hevent, rfl, rfl⟩
    · obtain ⟨rfl, rfl⟩ := List.cons.inj hindexes
      exact Or.inr ⟨between, congrArg text hevent, rfl⟩
  · rintro (⟨rfl, rfl, rfl⟩ | ⟨between, rfl, rfl⟩)
    · exact ⟨[], rfl, rfl⟩
    · exact ⟨index :: between, rfl, rfl⟩

end ActionPath

/-- When two actions have their bookmarks under one key: they are on one tile, and they are
the same place in the behavior for the same event, or the event of one has the name of a path
in the behavior for the event of the other, along the first of the other's indexes. -/
theorem SequenceKey.key_eq_key_iff {tile tile' : TileId} {event event' : String}
    {index index' : Nat} {below below' : List Nat} :
    (⟨tile, (ActionPath.root event index).descend below⟩ : SequenceKey) =
        ⟨tile', (ActionPath.root event' index').descend below'⟩ ↔
      tile = tile' ∧
        ((event = event' ∧ index = index' ∧ below = below') ∨
          (∃ between, event' = ((ActionPath.root event index).descend between).text ∧
            below = between ++ index' :: below') ∨
          ∃ between, event = ((ActionPath.root event' index').descend between).text ∧
            below' = between ++ index :: below) := by
  rw [SequenceKey.mk.injEq, ActionPath.descend_root, ActionPath.descend_root,
    ActionPath.descend_eq_descend_iff, ActionPath.exists_front_iff, ActionPath.exists_front_iff]
  refine and_congr_right fun _ => ⟨?_, ?_⟩
  · rintro ((⟨rfl, rfl, rfl⟩ | hnamed) | ⟨rfl, rfl, rfl⟩ | hnamed)
    · exact Or.inl ⟨rfl, rfl, rfl⟩
    · exact Or.inr (Or.inl hnamed)
    · exact Or.inl ⟨rfl, rfl, rfl⟩
    · exact Or.inr (Or.inr hnamed)
  · rintro (⟨rfl, rfl, rfl⟩ | hnamed | hnamed)
    · exact Or.inl (Or.inl ⟨rfl, rfl, rfl⟩)
    · exact Or.inl (Or.inr hnamed)
    · exact Or.inr (Or.inr hnamed)

namespace Session

/-- A gong in a wall. A push strikes it, by a sequence in a condition that always holds, and
lets it sound, by a sequence for an event that has the name of a path. -/
def gong : Sprite where
  __ := plainSprite "gong"
  isWall := true
  behaviors :=
    [⟨"push",
        [.conditional .greaterOrEqual "gong" 0
            [.sequence false false [.giveItem "gong" 1 true, .giveItem "gong" 2 true]],
          .triggerEvent "push-0"]⟩,
      ⟨"push-0",
        [.sequence false false [.giveItem "gong" 4 true, .giveItem "gong" 8 true]]⟩]

/-- The two sequences of the gong have one path, though they answer different events. One push
runs each of them for the first time, and the second one finds the bookmark of the first and
so begins with its second action. -/
theorem shared_bookmark_gong :
    (ActionPath.root "push" 0).descend [0] = (ActionPath.root "push-0" 0).descend [] ∧
      gong.Occurs ((ActionPath.root "push" 0).descend [0])
        (.sequence false false [.giveItem "gong" 1 true, .giveItem "gong" 2 true]) ∧
      gong.Occurs ((ActionPath.root "push-0" 0).descend [])
        (.sequence false false [.giveItem "gong" 4 true, .giveItem "gong" 8 true]) ∧
      start (beside gong []) .default (.ofPageChars 40) = .ok (atTile gong []) ∧
      ∃ es s, Run (atTile gong []) es s ∧ es.length = 1 ∧ s.summary.bookmarks = 1 ∧
        s.game.state.inventory.count "gong" = 1 + 8 := by
  have hrun : Run (atTile gong []) _ _ := .call (.move (some .right)) .nil (by decide)
  exact ⟨by decide, .inner (.behavior rfl rfl) rfl, .behavior rfl rfl, rfl, _, _, hrun, rfl, rfl,
    by decide⟩

end Session

end TileAdventure
