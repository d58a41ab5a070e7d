import Intake.Net.Address

/-!
# Socket addresses

An address with a port, and for version 6 a scope, which is shown unless it is zero.
-/

namespace Intake.Net

inductive SocketAddress
  | v4 (address : Ipv4) (port : Nat)
  | v6 (address : Ipv6) (scope : Nat) (port : Nat)
  deriving Repr, DecidableEq

namespace SocketAddress

def port : SocketAddress → Nat
  | v4 _ p | v6 _ _ p => p

def text : SocketAddress → String
  | v4 a p => a.text ++ ":" ++ Text.decimal p
  | v6 a scope p =>
    "[" ++ a.text ++ (if scope = 0 then "" else "%" ++ Text.decimal scope) ++ "]:" ++ Text.decimal p

def scanPort (s : List Char) : Option Nat :=
  match scanChar ':' s >>= scanNumber 10 65536 with
  | some (p, []) => some p
  | _ => none

/-- The scope of an address, zero if there is none. -/
def scanScope (s : List Char) : Nat × List Char :=
  match scanChar '%' s >>= scanNumber 10 UInt32.size with
  | some (n, r) => (n, r)
  | none => (0, s)

def parse? (s : String) : Option SocketAddress :=
  match scanIpv4 s.toList with
  | some (a, r) => (scanPort r).map (v4 a)
  | none => do
    let r ← scanChar '[' s.toList
    let (a, r) ← scanIpv6 r
    let (scope, r) := scanScope r
    let r ← scanChar ']' r
    return v6 a scope (← scanPort r)

end SocketAddress
end Intake.Net
