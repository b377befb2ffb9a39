import CardChannels.Bearer.Host
import CardChannels.Channel.Map
import CardChannels.Config
import CardChannels.Result
import CardChannels.Transport

/-!
# Bearers for channels

A channel into the network needs a connection before it can be opened. For the default bearer,
and for a packet bearer without an access point, that is the default connection as it stands. For
a packet bearer with an access point the host's list must hold that access point with the type
for channels, which is added where it is missing; while it does not show, the look is repeated
after a delay. A type is given up when the last channel that brought it up goes away.
-/
namespace CardChannels

/-- How far a channel's request has come. -/
inductive BearerStage where
  /-- The access point is not ready; counts the looks that failed. -/
  | provisioning (attempts : Nat)
  /-- The type is coming up. -/
  | waiting
  | active
deriving DecidableEq

structure BearerRequest where
  type : AccessType
  accessPoint : Option String
  state : BearerStage
deriving DecidableEq

namespace BearerRequest

/-- Whether the host has been made to bring the request's type up. -/
def isEnabled (r : BearerRequest) : Bool :=
  match r.state with
  | .provisioning _ => false
  | _ => true

/-- How often the access point has been looked for in vain. -/
def looks (r : BearerRequest) : Nat :=
  match r.state with
  | .provisioning attempts => attempts
  | _ => 0

end BearerRequest

/-- What a channel that asks for its bearer is told. -/
inductive BearerAnswer where
  | ready
  /-- A change of the connection will tell. -/
  | pending
  /-- Ask again after so many milliseconds. -/
  | retryAfter (delay : Nat)
  | failed (refusal : Refusal)
deriving DecidableEq

/-- What a change of the connection means for a channel. -/
inductive BearerChange where
  | ready
  | failed (refusal : Refusal)
  | lost
deriving DecidableEq

/-- The requests of all channels, and the rules for access points. -/
structure BearerRegistry where
  channelType : AccessType
  retryInterval : Nat
  retryLimit : Nat
  requests : ChannelMap BearerRequest

namespace BearerRegistry

def ofConfig (config : Config) : BearerRegistry :=
  ⟨config.channelType, config.retryInterval, config.retryLimit, ∅⟩

/-- The registry with a channel's request set. -/
def put (c : BearerRegistry) (channel : UInt8) (r : BearerRequest) : BearerRegistry :=
  { c with requests := c.requests.insert channel r }

/-- The registry without a channel's request; the host is not told. -/
def forget (c : BearerRegistry) (channel : UInt8) : BearerRegistry :=
  { c with requests := c.requests.erase channel }

/-- Whether some request is for a type. -/
def uses (c : BearerRegistry) (type : AccessType) : Bool :=
  c.requests.any fun _ r => r.type = type

/--
Ends a channel's request. The type is disabled when the request had it brought up, no other
request is for it, and it is not the default.
-/
def release (c : BearerRegistry) (channel : UInt8) : BearerRegistry × List HostCall :=
  match c.requests.get? channel with
  | none => (c, [])
  | some r =>
    let rest := c.forget channel
    if r.isEnabled && !rest.uses r.type && r.type ≠ AccessType.default then
      (rest, [.disable r.type])
    else (rest, [])

/-- Ends the requests of several channels, in order. -/
def releaseEach (c : BearerRegistry) : List UInt8 → BearerRegistry × List HostCall
  | [] => (c, [])
  | channel :: channels =>
    let (c, calls) := c.release channel
    let (c, more) := c.releaseEach channels
    (c, calls ++ more)

/-- Whether an access point of a name serves a type. -/
def hasPoint (points : List AccessPoint) (name : String) (type : AccessType) : Bool :=
  points.any fun p => p.isNamed name && p.serves type

/-- The access point to insert: the first of the name with the type added, or a new one. -/
def pointToInsert (points : List AccessPoint) (name : String) (type : AccessType) : AccessPoint :=
  match points.find? (·.isNamed name) with
  | some p => { p with types := p.types ++ [type] }
  | none => ⟨name, [type]⟩

/-- Makes sure that an access point serves a type: whether one does, and the insertion made. -/
def ensure (host : Host) (name : String) (type : AccessType) : Bool × List HostCall :=
  if hasPoint host.listed name type then (true, [])
  else
    let point := pointToInsert host.offered name type
    (hasPoint (host.listedAfter point) name type, [.insert point])

/-- Makes sure of the access point that a request names, if it names one. -/
def ensureFor (host : Host) (r : BearerRequest) : Bool × List HostCall :=
  match r.accessPoint with
  | some name => ensure host name r.type
  | none => (true, [])

/-- Counts a failed look, and gives the request up when there have been too many. -/
def lookAgain (c : BearerRegistry) (channel : UInt8) (r : BearerRequest) :
    BearerRegistry × BearerAnswer × List HostCall :=
  let attempts := r.looks + 1
  if attempts > c.retryLimit then
    let (c, calls) := c.release channel
    (c, .failed .beyondCapability, calls)
  else (c.put channel { r with state := .provisioning attempts }, .retryAfter c.retryInterval, [])

/-- Looks whether a channel's access point can be used, and brings its type up if so. -/
def check (c : BearerRegistry) (host : Host) (channel : UInt8) (r : BearerRequest) :
    BearerRegistry × BearerAnswer × List HostCall :=
  if !host.dataAllowed then (c.forget channel, .failed .beyondCapability, [])
  else if host.voiceCall then (c.forget channel, .failed .busyOnCall, [])
  else
    let (found, inserted) := ensureFor host r
    if !found then
      let (c, outcome, calls) := c.lookAgain channel r
      (c, outcome, inserted ++ calls)
    else
      let answer := host.enable r.type
      let calls := inserted ++ [.enable r.type answer]
      match answer with
      | .alreadyActive => (c.put channel { r with state := .active }, .ready, calls)
      | .requestStarted => (c.put channel { r with state := .waiting }, .pending, calls)
      | .typeNotAvailable =>
        let (c, outcome, more) := c.lookAgain channel r
        (c, outcome, calls ++ more)
      | .requestFailed => (c.forget channel, .failed .beyondCapability, calls)

/-- Asks for the default connection. -/
def askDefault (c : BearerRegistry) (host : Host) (channel : UInt8) :
    BearerRegistry × BearerAnswer × List HostCall :=
  let type := AccessType.default
  let calls := [.enable type (host.enable type)]
  match host.state type with
  | .connected => (c.put channel ⟨type, none, .active⟩, .ready, calls)
  | .connecting => (c.put channel ⟨type, none, .waiting⟩, .pending, calls)
  | .suspended => (c, .failed .busyOnCall, calls)
  | .disconnected => (c, .failed .beyondCapability, calls)

/-- Asks for the bearer that a channel needs. -/
def request (c : BearerRegistry) (host : Host) (channel : UInt8) (bearer : BearerDescription)
    (accessPoint : Option String) : BearerRegistry × BearerAnswer × List HostCall :=
  match accessPoint, bearer.type? with
  | some name, some type =>
    if type.isPacketSwitched then
      let r : BearerRequest := ⟨c.channelType, some name, .provisioning 0⟩
      (c.put channel r).check host channel r
    else c.askDefault host channel
  | _, _ => c.askDefault host channel

/-- Looks again after a delay; nothing happens if the request is no longer waiting for that. -/
def retry (c : BearerRegistry) (host : Host) (channel : UInt8) :
    BearerRegistry × Option BearerAnswer × List HostCall :=
  match c.requests.get? channel with
  | none => (c, none, [])
  | some r =>
    if r.isEnabled then (c, none, [])
    else
      let (c, outcome, calls) := c.check host channel r
      (c, some outcome, calls)

/-- What a change of the connection means for one request. -/
def changeFor (change : ConnectionChange) (r : BearerRequest) : Option BearerChange :=
  if r.type ≠ change.type then none
  else match r.state, change.state with
    | .waiting, .connected => some .ready
    | .waiting, .disconnected => if change.isFailover then none else some (.failed .networkUnable)
    | .active, .disconnected => if change.isFailover then none else some .lost
    | _, _ => none

/-- What a change of the connection means for each channel that it concerns, in ascending order. -/
def changes (c : BearerRegistry) (change : ConnectionChange) : List (UInt8 × BearerChange) :=
  c.requests.entries.filterMap fun (channel, r) =>
    (changeFor change r).map fun told => (channel, told)

/-- The channels whose bearer failed or was lost by a change of the connection. -/
def gone (c : BearerRegistry) (change : ConnectionChange) : List UInt8 :=
  ((c.changes change).filter (·.2 ≠ .ready)).map (·.1)

/-- The registry with every request active whose bearer came up. -/
def activate (c : BearerRegistry) (change : ConnectionChange) : BearerRegistry :=
  { c with requests := c.requests.map fun _ r =>
      if changeFor change r = some .ready then { r with state := .active } else r }

/--
Applies a change of the connection, and gives what it means for the channels. A request whose
bearer failed or was lost is ended.
-/
def connectionChanged (c : BearerRegistry) (change : ConnectionChange) :
    BearerRegistry × List (UInt8 × BearerChange) × List HostCall :=
  let (rest, calls) := (c.activate change).releaseEach (c.gone change)
  (rest, c.changes change, calls)

/-- The channels whose requests are not up yet. -/
def unready (c : BearerRegistry) : List UInt8 :=
  (c.requests.entries.filter (·.2.state ≠ .active)).map (·.1)

/-- Ends every request that is not up yet, and tells whose they were. -/
def dropUnready (c : BearerRegistry) : BearerRegistry × List UInt8 × List HostCall :=
  let (rest, calls) := c.releaseEach c.unready
  (rest, c.unready, calls)

/-- Ends every request. -/
def releaseAll (c : BearerRegistry) : BearerRegistry × List HostCall :=
  c.releaseEach c.requests.keys

end BearerRegistry

end CardChannels
