import SensorBoard.Board

/-!
# The service

The state behind the page: the board of the last survey, or the banner of its failure. A survey
replaces the whole board at once; nothing of a failed survey is shown.
-/

namespace SensorBoard

/-- What the service knows between requests. -/
structure Service where
  board : Option Board
  /-- The banner of the last survey, if it failed. -/
  banner : Option String
  /-- The time of the last survey that succeeded. -/
  lastUpdate : Nat

namespace Service

/-- The service before its first survey. -/
def start : Service := ⟨none, none, 0⟩

/-- Takes over the result of a survey that ended at the given time. -/
def install (now : Nat) (result : Except Fault Dashboard) (s : Service) : Service :=
  match result with
  | .ok dashboard => ⟨some (.ofDashboard dashboard), none, now⟩
  | .error fault => ⟨none, some fault.banner, s.lastUpdate⟩

/-- The devices of the board; none without a board. -/
def devices (s : Service) : DeviceMap :=
  match s.board with
  | some board => board.devices
  | none => []

/-- The key of the card that is open. -/
def openKey? (s : Service) : Option CardKey := s.board.bind fun b => b.openCard?.map Card.key

end Service

end SensorBoard
