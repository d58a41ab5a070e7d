import Intake.Launch.Run

/-!
# Runs in rehearsal

A run of the program on a machine of which one port may already be in use, and that sends a signal
as soon as the service is open.
-/

namespace Intake.Rehearsal

open Intake.Launch (Call ListenFault Signal)
open Intake.Net (SocketAddress)

/-- The machine on which the program runs. -/
structure Machine where
  /-- A port of the loopback address that someone listens on. -/
  takenPort : Option Nat
  signal : Signal
  printed : List String
  events : List Log.Event

namespace Machine

/-- An address as the octets or groups that it consists of. -/
def numbers : SocketAddress → List Nat
  | .v4 a _ => a.octets
  | .v6 a _ _ => a.groups

/-- Whether an address stands for every address of the machine. -/
def isWildcard (a : SocketAddress) : Bool := (numbers a).all (· = 0)

def isLocal (a : SocketAddress) : Bool :=
  isWildcard a || match a with
    | .v4 a _ => a.octets.head? = some 127
    | .v6 a _ _ => a.groups = [0, 0, 0, 0, 0, 0, 0, 1]

/-- Whether someone who listens on an address gets in the way of one on the loopback address. -/
def coversLoopback (a : SocketAddress) : Bool := isWildcard a || numbers a = [127, 0, 0, 1]

def listen (m : Machine) (a : SocketAddress) : Except ListenFault SocketAddress :=
  if !isLocal a then .error .notAvailable
  else if a.port ≠ 0 ∧ m.takenPort = some a.port ∧ coversLoopback a then .error .inUse
  else .ok a

structure Server where
  address : SocketAddress
  hasEnded : Bool

def Server.stop (s : Server) : Server := { s with hasEnded := true }

def openServer (m : Machine) (a : SocketAddress) : Except ListenFault Server :=
  (m.listen a).map (⟨·, false⟩)

def handle : (c : Call) → Machine → c.Reply × Machine
  | .print line, m => ((), { m with printed := m.printed ++ [line] })
  | .report e, m => ((), { m with events := m.events ++ [e] })
  | .listen a, m => (m.listen a, m)
  | .serve _ _ _ crew, m => ((m.signal, crew), m)

def run (m : Machine) (s : Launch.Start) : Nat × Machine := (Launch.run s).run handle m

end Machine
end Intake.Rehearsal
