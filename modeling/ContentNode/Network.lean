import ContentNode.Config.SocketAddress
import ContentNode.FileSystem.Errno

/-!
# Addresses in use

A machine listens on its own addresses, and at most once on each.  The address
zero stands for all of them, and the port zero for any free port.
-/

namespace ContentNode

namespace SocketAddress

/-- The port of an address. -/
def port : SocketAddress → UInt16
  | v4 _ port => port
  | v6 _ _ port => port

/-- Whether an address stands for all addresses of a machine. -/
def isAny : SocketAddress → Bool
  | v4 ip _ => ip == ⟨0, 0, 0, 0⟩
  | v6 ip _ _ => ip.groups.toList.all (· == 0)

/-- Whether an address belongs to every machine. -/
def isLoopback : SocketAddress → Bool
  | v4 ip _ => ip.a == 127
  | v6 ip _ _ => ip.groups.toList == [0, 0, 0, 0, 0, 0, 0, 1]

/-- Whether an address has version 6. -/
def isV6 : SocketAddress → Bool
  | v4 _ _ => false
  | v6 _ _ _ => true

/-- Whether an address stands for all addresses of the other one's version.  The
one of version 6 stands for both versions. -/
def covers (a b : SocketAddress) : Bool := a.isAny && (a.isV6 || !b.isV6)

/-- Whether a machine cannot listen on both addresses. -/
def collides (a b : SocketAddress) : Bool :=
  a.port != 0 && a.port == b.port && (a == b || a.covers b || b.covers a)

end SocketAddress

/-- The addresses that a machine listens on. -/
structure Network where
  listeners : List SocketAddress

/-- Listens on an address. -/
def Network.listen (network : Network) (address : SocketAddress) : Except IoError Network :=
  if !(address.isAny || address.isLoopback) then .error (.os .addressNotAvailable)
  else if network.listeners.any address.collides then .error (.os .addressInUse)
  else .ok ⟨address :: network.listeners⟩

end ContentNode
