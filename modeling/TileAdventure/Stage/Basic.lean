import TileAdventure.Stage.Notice
import TileAdventure.Stage.Pager

/-!
# The stage

The stage faces the player. It has the pager of the dialog, and logs every notice with the
lines that the pager shows.
-/

namespace TileAdventure

/-- What faces the player: the dialog's pager, and every notice so far. -/
structure Stage where
  pager : Pager
  log : List Notice

namespace Stage

/-- A stage on which nothing has happened. -/
def ofPageChars (pageChars : Nat) : Stage :=
  ⟨.ofPageChars pageChars, []⟩

/-- Log notices. -/
def tell (s : Stage) (notices : List Notice) : Stage :=
  { s with log := s.log ++ notices }

/-- Log what the pager did and the lines it showed. -/
def tellPager (s : Stage) (notice : Notice) (shown : List String × Pager) : Stage :=
  ⟨shown.2, s.log ++ notice :: shown.1.map .line⟩

/-- Begin a dialog. -/
def beginDialog (s : Stage) (text : String) (atBottom : Bool) : Stage :=
  s.tellPager (.dialogBegan text atBottom) (s.pager.present text atBottom)

/-- End the dialog. -/
def endDialog (s : Stage) : Stage :=
  s.tellPager .dialogEnded s.pager.close

/-- Finish the page that shows. -/
def finishPage (s : Stage) : Stage :=
  s.tellPager .pageFinished s.pager.turnPage

end Stage

end TileAdventure
