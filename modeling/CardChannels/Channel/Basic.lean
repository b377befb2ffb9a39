import CardChannels.Channel.Buffer
import CardChannels.Command.Basic
import CardChannels.Result

/-!
# Channels

A channel joins the card to a partner through a socket. The socket is a task of its own: it takes
orders and reports what happens on it, and the channel never waits for it. After reporting data
the task stops reading until the card has fetched all of it and the channel tells it to go on. A
task takes every order until it has ended, which the channel may not have heard of yet.

A client channel has one partner and ends with it. A server channel listens, serves one client at
a time, and listens again when the client is gone.
-/
namespace CardChannels

/-- The most bytes that one answer to a receive can carry. -/
def maxReceive : Nat := 0xEC

/--
How many bytes a receive gets, and with which result. The request is cut to what an answer can
carry, and then to what is there; the second cut is the one that is told.
-/
def fetchPlan (requested available : Nat) : Nat × ResultCode :=
  if min requested maxReceive > available then (available, .missingInformation)
  else if requested > maxReceive then (maxReceive, .modified)
  else (requested, .ok)

/-- The buffer size for a request, and whether it is another than was asked for. -/
def negotiate (requested most : UInt16) : UInt16 × Bool :=
  if requested > most then (most, true) else (requested, false)

inductive ChannelKind where
  | tcpServer
  | tcpClient
  | udpClient
deriving DecidableEq

namespace ChannelKind

def name : ChannelKind → String
  | tcpServer => "TcpServer"
  | tcpClient => "TcpClient"
  | udpClient => "UdpClient"

end ChannelKind

def TransportProtocol.kind : TransportProtocol → ChannelKind
  | .tcpServer => .tcpServer
  | .tcpClientRemote | .tcpClientLocal => .tcpClient
  | .udpClientRemote | .udpClientLocal => .udpClient

/-- What a channel tells its socket task, first of all to start. -/
inductive Order where
  | listen (source : Endpoint)
  | connect (target : Endpoint) (timeout : Nat)
  | exchange (source target : Endpoint)
  /-- Send these bytes and report it. -/
  | write (data : Bytes)
  /-- Read again. -/
  | resume
  /-- Give up the client and listen again. -/
  | dropClient
  /-- End, and report nothing more. -/
  | stop
deriving DecidableEq

/-- What a socket task reports. -/
inductive Report where
  /-- Connected, or listening. -/
  | ready
  | openFailed
  /-- A client has come. -/
  | accepted
  /-- The client is gone, and the task listens again. -/
  | clientLost
  | data (bytes : Bytes)
  /-- A write is over, well or not. -/
  | sent (ok : Bool)
  /-- The partner is gone, and the task has ended. -/
  | readFailed
deriving DecidableEq

structure Channel where
  id : UInt8
  /-- Tells apart the channels that have had one number. -/
  generation : Nat
  settings : ChannelSettings
  link : LinkState
  /-- The link was dropped by the partner or the network. -/
  dropped : Bool
  /-- What the partner sent and the card has not fetched. -/
  received : Buffer
  /-- What the card stored and was not sent yet. -/
  queued : Buffer
  /-- A socket task was started, and the channel has not heard of its end. -/
  attached : Bool
  /-- The task has ended on its own, so that no order reaches it any more. -/
  ended : Bool
  /-- The task waits to be told to read again. -/
  paused : Bool

/-- What became of bytes to send. -/
inductive Delivery where
  /-- Stored; so many bytes are free. -/
  | buffered (free : Nat)
  /-- On their way; so many bytes were free before. -/
  | flushing (free : Nat)
  /-- There is no link. -/
  | closed
deriving DecidableEq

/-- What a receive gets. -/
inductive Handover where
  | data (result : ResultCode) (bytes : Bytes) (remaining : Nat)
  /-- There is no link, and nothing is left. -/
  | closed
deriving DecidableEq

/-- What a close comes to. -/
inductive Closure where
  | released
  /-- A server gave up its client only. -/
  | listening
deriving DecidableEq

/-- What the end of the session does to a channel. -/
inductive AfterSession where
  | keep
  | release
deriving DecidableEq

/-- What a report means for whoever looks after the channel. -/
inductive Upshot where
  | opened (status : ChannelStatus)
  | openFailed (cause : ChannelCause)
  | sent
  | sendFailed
  /-- Bytes came while none were left. -/
  | dataAvailable (status : ChannelStatus) (available : Nat)
  /-- The link changed on its own. -/
  | statusChanged (status : ChannelStatus)
  | ignored
deriving DecidableEq

namespace Channel

/-- A closed channel with empty buffers of the agreed size. -/
def new (id : UInt8) (generation : Nat) (settings : ChannelSettings) : Channel where
  id := id
  generation := generation
  settings := settings
  link := .closed
  dropped := false
  received := .ofCapacity settings.bufferSize.toNat
  queued := .ofCapacity settings.bufferSize.toNat
  attached := false
  ended := false
  paused := false

def kind (c : Channel) : ChannelKind := c.settings.protocol.kind

def status (c : Channel) : ChannelStatus :=
  let s := ChannelStatus.plain c.id c.link
  if c.dropped then s.dropped else s

/-- The channel with empty buffers and a task that reads. -/
def reset (c : Channel) : Channel :=
  { c with received := c.received.clear, queued := c.queued.clear, paused := false }

/-- The channel without its task. -/
def shutDown (c : Channel) : Channel := { c.reset with link := .closed, attached := false }

/-- The server without its client. -/
def listenAgain (c : Channel) : Channel := { c.reset with link := .listening }

/-- Whether an order reaches a task. -/
def takesOrders (c : Channel) : Bool := c.attached && !c.ended

/-- The order that ends a task, if there is one. -/
def stopOrders (c : Channel) : List Order := if c.attached then [.stop] else []

/-- How the channel's task is to start, unless it has nowhere to connect to. -/
def startOrder (c : Channel) (timeout : Nat) : Except ChannelCause Order :=
  match c.kind with
  | .tcpServer => .ok (.listen (c.settings.ownEnd c.settings.port))
  | .tcpClient =>
    match c.settings.partner? with
    | some target => .ok (.connect target timeout)
    | none => .error .remoteDeviceNotReachable
  | .udpClient =>
    match c.settings.partner? with
    | some target => .ok (.exchange (c.settings.ownEnd 0) target)
    | none => .error .remoteDeviceNotReachable

/-- Starts the task, in place of one there may be. -/
def start (c : Channel) (timeout : Nat) : Except ChannelCause (Channel × List Order) :=
  match c.startOrder timeout with
  | .ok order => .ok ({ c with attached := true, ended := false }, c.stopOrders ++ [order])
  | .error cause => .error cause

/-- Closes the link. A server can be told to give up its client only. -/
def close (c : Channel) (keepListening : Bool) : Channel × Closure × List Order :=
  if c.kind = .tcpServer ∧ keepListening ∧ c.attached then
    (c.listenAgain, .listening, if c.takesOrders then [.dropClient] else [])
  else (c.shutDown, .released, c.stopOrders)

/-- Stores bytes, and sends all that is stored if that is to be done now. -/
def send (c : Channel) (data : Bytes) (immediate : Bool) : Channel × Delivery × List Order :=
  if c.link ≠ .established ∨ !c.attached then (c, .closed, [])
  else
    let queued := c.queued.append data
    if !immediate then ({ c with queued := queued }, .buffered queued.free, [])
    else
      let flushed := { c with queued := queued.clear }
      if c.takesOrders then (flushed, .flushing queued.free, [.write queued.bytes])
      else (flushed, .closed, [])

/-- Lets a task that waits read again, once there is nothing left to fetch. -/
def resume (c : Channel) : Channel × List Order :=
  if c.paused ∧ c.received.isEmpty ∧ c.takesOrders then ({ c with paused := false }, [.resume])
  else (c, [])

/-- Hands bytes over to the card. -/
def receive (c : Channel) (requested : Nat) : Channel × Handover × List Order :=
  if c.received.isEmpty ∧ c.link ≠ .established then (c, .closed, [])
  else
    let (length, result) := fetchPlan requested c.received.size
    let (bytes, rest) := c.received.read length
    let (c, orders) := { c with received := rest }.resume
    (c, .data result bytes rest.size, orders)

/-- What the end of the session does: a server ends, a client goes on. -/
def sessionEnd (c : Channel) : Channel × AfterSession × List Order :=
  if c.kind = .tcpServer then (c.shutDown, .release, c.stopOrders)
  else
    let (c, orders) := c.resume
    (c, .keep, orders)

/-- Keeps bytes that the task has read, and tells of them if the card knows of none. -/
def store (c : Channel) (data : Bytes) : Channel × Upshot × List Order :=
  let stored := c.received.room data
  let filled := { c with received := c.received.append data, paused := true }
  if c.received.isEmpty ∧ 0 < stored then
    (filled, .dataAvailable filled.status filled.received.size, [])
  else if stored = 0 then
    let (c, orders) := filled.resume
    (c, .ignored, orders)
  else (filled, .ignored, [])

/-- What a report does to a client. -/
def clientReport (c : Channel) : Report → Channel × Upshot × List Order
  | .ready =>
    let c := { c with link := .established, dropped := false }
    (c, .opened c.status, [])
  | .openFailed => (c.shutDown, .openFailed .remoteDeviceNotReachable, c.stopOrders)
  | .data bytes => c.store bytes
  | .sent true => (c, .sent, [])
  | .sent false => (c.shutDown, .sendFailed, c.stopOrders)
  | .readFailed =>
    let dropped := { c.shutDown with dropped := true }
    (dropped, .statusChanged dropped.status, c.stopOrders)
  | .accepted | .clientLost => (c, .ignored, [])

/-- What a report does to a server. -/
def serverReport (c : Channel) : Report → Channel × Upshot × List Order
  | .ready =>
    let c := { c with link := .listening }
    (c, .opened c.status, [])
  | .openFailed => (c.shutDown, .openFailed .transportLevelNotAvailable, c.stopOrders)
  | .accepted =>
    let c := { c with link := .established, dropped := false }
    (c, .statusChanged c.status, [])
  | .clientLost | .readFailed =>
    let c := c.listenAgain
    (c, .statusChanged c.status, [])
  | .data bytes => c.store bytes
  | .sent true => (c, .sent, [])
  | .sent false => (c.shutDown, .sendFailed, c.stopOrders)

/-- Applies what the task reports. -/
def report (c : Channel) (r : Report) : Channel × Upshot × List Order :=
  match c.kind with
  | .tcpServer => c.serverReport r
  | .tcpClient | .udpClient => c.clientReport r

end Channel

end CardChannels
