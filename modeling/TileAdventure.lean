import TileAdventure.Main
import TileAdventure.World.Encode
import TileAdventure.Proofs.Acting.Change
import TileAdventure.Proofs.Acting.Frame
import TileAdventure.Proofs.Play.Change
import TileAdventure.Proofs.Session.Evaluation
import TileAdventure.Proofs.Session.Run
import TileAdventure.Proofs.Session.Invariant
import TileAdventure.Proofs.Session.Place
import TileAdventure.Proofs.Session.Dialogs
import TileAdventure.Proofs.Acting.Dispatch
import TileAdventure.Proofs.Acting.Effect
import TileAdventure.Proofs.Acting.Conservation
import TileAdventure.Proofs.Acting.Contact
import TileAdventure.Proofs.Acting.Standing
import TileAdventure.Proofs.Session.Queue
import TileAdventure.Proofs.Acting.Failure
import TileAdventure.Proofs.Session.Failure
import TileAdventure.Proofs.World.Occurrence
import TileAdventure.Proofs.Acting.Bookmarks
import TileAdventure.Proofs.Acting.Fit
import TileAdventure.Proofs.Session.Acting
import TileAdventure.Proofs.Session.Fit
import TileAdventure.Proofs.Session.FirstRun
import TileAdventure.Proofs.Session.Keys
import TileAdventure.Proofs.Acting.Cycle
import TileAdventure.Proofs.Grid.Globe
import TileAdventure.Proofs.Session.Idle
import TileAdventure.Proofs.Acting.PickUp
import TileAdventure.Proofs.Session.Tiles
import TileAdventure.Proofs.Session.Passage
import TileAdventure.Proofs.Stage.Screen
import TileAdventure.Proofs.Play.Picture
import TileAdventure.Proofs.Session.Pictures
import TileAdventure.Proofs.Acting.Depth
import TileAdventure.Proofs.Acting.Visits
import TileAdventure.Proofs.Acting.Alike
import TileAdventure.Proofs.Session.Drain
import TileAdventure.Proofs.Session.PathNames
import TileAdventure.Proofs.Session.Seed
import TileAdventure.Proofs.World.Edit
import TileAdventure.Proofs.World.Loading
import TileAdventure.Proofs.World.RoundTrip
import TileAdventure.Proofs.Session.Still
import TileAdventure.Proofs.Session.Drawing
import TileAdventure.Proofs.Session.UnderDialog
import TileAdventure.Proofs.Session.Undoing
import TileAdventure.Proofs.Acting.Gathering
import TileAdventure.Proofs.Session.Gathering
import TileAdventure.Proofs.Control.History
import TileAdventure.Proofs.Control.Replay
import TileAdventure.Proofs.Session.Entry
import TileAdventure.Proofs.Stage.Paging
import TileAdventure.Proofs.Acting.Ledger
import TileAdventure.Proofs.Session.Confirmations
import TileAdventure.Proofs.Console.Press
import TileAdventure.Proofs.Console.Grammar
import TileAdventure.Proofs.Control.Cadences
import TileAdventure.Proofs.World.Fallback
import TileAdventure.Proofs.Grid.Range
import TileAdventure.Proofs.Random.Draws
