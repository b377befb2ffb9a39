import CardChannels.Channel.Table

/-!
# An isolated network

A terminal without a route to any address. Nothing can be reached from it and nobody reaches it:
a client's open fails at once, and a server listens in vain. What can still go wrong for a server
is that its port is taken.
-/
namespace CardChannels

/-- Somebody who listens on a port: a channel, or a stranger. -/
structure Listener where
  owner : Option (UInt8 × Nat)
  endpoint : Endpoint
deriving DecidableEq

/-- Who listens. -/
structure Network where
  listeners : List Listener

namespace Network

def empty : Network := ⟨[]⟩

/-- Whether two listeners would want the same connections. Port 0 stands for any free port. -/
def clashes (a b : Endpoint) : Bool :=
  a.port ≠ 0 && a.port = b.port &&
    (a.address = b.address || a.address = .unspecified || b.address = .unspecified)

/-- The network with a stranger on every address of a port. -/
def occupy (n : Network) (port : UInt16) : Network :=
  ⟨⟨none, ⟨.unspecified, port⟩⟩ :: n.listeners⟩

/-- Carries out an order, and gives what the socket task reports. -/
def order (n : Network) (o : SocketOrder) : Network × List Report :=
  let owner := (o.channel, o.generation)
  match o.order with
  | .listen source =>
    if n.listeners.any fun l => clashes source l.endpoint then (n, [.openFailed])
    else (⟨⟨some owner, source⟩ :: n.listeners⟩, [.ready])
  | .connect _ _ | .exchange _ _ => (n, [.openFailed])
  | .stop => (⟨n.listeners.filter (·.owner ≠ some owner)⟩, [])
  | .write _ | .resume | .dropClient => (n, [])

end Network

/-- A program on another machine that takes part in a session. -/
inductive Peer where
  /-- Exchanges datagrams. -/
  | udp
  /-- Accepts connections. -/
  | tcp
  /-- Connects to a channel that listens. -/
  | client
  /-- Listens on a port that a channel may want. -/
  | busy
  /-- Listens and accepts nothing. -/
  | full
deriving DecidableEq

namespace Peer

/-- Whether the peer listens on its port. -/
def listens : Peer → Bool
  | tcp | busy | full => true
  | udp | client => false

/-- What a peer attempts. -/
inductive Attempt where
  | send
  | close
  | reset
  | connect
deriving DecidableEq

/-- What comes of an attempt. -/
inductive Outcome where
  /-- There is nobody at the other end. -/
  | nobody
  /-- The connection does not come about. -/
  | refused
deriving DecidableEq

/-- On an isolated network no peer ever meets a partner. -/
def attempt : Attempt → Outcome
  | .connect => .refused
  | .send | .close | .reset => .nobody

end Peer

end CardChannels
