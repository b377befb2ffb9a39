/-!
# The host's data connection

The terminal's host owns the data connection and the list of access points. It is asked for what
it answers and told what to do; a `Host` holds its answers at one moment, and the calls made to
it are given back to be carried out.
-/
namespace CardChannels

/-- What an access point is used for, such as `default`. -/
abbrev AccessType := String

/-- The type of the connection that is always there. -/
def AccessType.default : AccessType := "default"

inductive ConnectionState where
  | disconnected
  | connecting
  | connected
  /-- Up but of no use during a call. -/
  | suspended
deriving DecidableEq

namespace ConnectionState

def all : List ConnectionState := [disconnected, connecting, connected, suspended]

def name : ConnectionState → String
  | disconnected => "Disconnected"
  | connecting => "Connecting"
  | connected => "Connected"
  | suspended => "Suspended"

def title : ConnectionState → String
  | disconnected => "DISCONNECTED"
  | connecting => "CONNECTING"
  | connected => "CONNECTED"
  | suspended => "SUSPENDED"

end ConnectionState

/-- What comes of asking the host to bring up a type. -/
inductive EnableAnswer where
  | alreadyActive
  /-- A change of the connection will be reported. -/
  | requestStarted
  /-- No access point serves the type. -/
  | typeNotAvailable
  | requestFailed
deriving DecidableEq

namespace EnableAnswer

def all : List EnableAnswer := [alreadyActive, requestStarted, typeNotAvailable, requestFailed]

def name : EnableAnswer → String
  | alreadyActive => "AlreadyActive"
  | requestStarted => "RequestStarted"
  | typeNotAvailable => "TypeNotAvailable"
  | requestFailed => "RequestFailed"

def title : EnableAnswer → String
  | alreadyActive => "ALREADY_ACTIVE"
  | requestStarted => "REQUEST_STARTED"
  | typeNotAvailable => "TYPE_NOT_AVAILABLE"
  | requestFailed => "REQUEST_FAILED"

end EnableAnswer

/-- An access point and the types that it serves. -/
structure AccessPoint where
  name : String
  types : List AccessType
deriving DecidableEq

namespace AccessPoint

def serves (p : AccessPoint) (type : AccessType) : Bool := type ∈ p.types

/-- Whether the access point has a name, the case of ASCII letters aside. -/
def isNamed (p : AccessPoint) (name : String) : Bool :=
  p.name.toList.map Char.toLower = name.toList.map Char.toLower

end AccessPoint

/-- A change of the connection for one type. -/
structure ConnectionChange where
  type : AccessType
  state : ConnectionState
  /-- Another bearer is being tried, so a loss is not final. -/
  isFailover : Bool
deriving DecidableEq

/-- The host's answers at one moment. -/
structure Host where
  dataAllowed : Bool
  voiceCall : Bool
  /-- The access points when a name is looked for. -/
  listed : List AccessPoint
  /-- The access points when one is chosen to be added to. -/
  offered : List AccessPoint
  /-- The access points once one has been inserted. -/
  listedAfter : AccessPoint → List AccessPoint
  enable : AccessType → EnableAnswer
  state : AccessType → ConnectionState

/-- A call that changes the host, with its answer if it has one. -/
inductive HostCall where
  | enable (type : AccessType) (answer : EnableAnswer)
  | disable (type : AccessType)
  | insert (point : AccessPoint)
deriving DecidableEq

end CardChannels
