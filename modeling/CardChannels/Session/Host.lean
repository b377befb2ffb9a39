import CardChannels.Bearer.Host

/-!
# A steady host

A host that gives the same answers for every type until it is changed. Its access points are the
ones it was given and those inserted since, unless it keeps insertions to itself.
-/
namespace CardChannels

structure SteadyHost where
  enable : EnableAnswer
  state : ConnectionState
  dataAllowed : Bool
  voiceCall : Bool
  points : List AccessPoint
  /-- Inserted access points do not show. -/
  hidesInserts : Bool
deriving DecidableEq

namespace SteadyHost

/-- A host whose connection is up. -/
def connected : SteadyHost := ⟨.alreadyActive, .connected, true, false, [], false⟩

/-- The access points once one has been inserted, which replaces one of exactly its name. -/
def pointsWith (h : SteadyHost) (point : AccessPoint) : List AccessPoint :=
  if h.hidesInserts then h.points else h.points.filter (·.name ≠ point.name) ++ [point]

/-- The answers it gives. -/
def answers (h : SteadyHost) : Host where
  dataAllowed := h.dataAllowed
  voiceCall := h.voiceCall
  listed := h.points
  offered := h.points
  listedAfter := h.pointsWith
  enable _ := h.enable
  state _ := h.state

/-- The host after a call. -/
def after (h : SteadyHost) : HostCall → SteadyHost
  | .insert point => { h with points := h.pointsWith point }
  | _ => h

/-- The host after several calls, in order. -/
def afterAll (h : SteadyHost) (calls : List HostCall) : SteadyHost := calls.foldl after h

end SteadyHost

end CardChannels
