import CardChannels.Bearer.Host
import CardChannels.Text.Blank
import CardChannels.Text.Decimal

/-!
# Configuration

The limits and delays of a card session. They can be set in the environment; a variable that is
absent or cannot be read leaves its default.
-/
namespace CardChannels

structure Config where
  /-- The largest buffer that a channel can have. -/
  maxBufferSize : UInt16
  /-- How long a connect may take, in milliseconds. -/
  connectTimeout : Nat
  /-- The delay between two looks at an access point, in milliseconds. -/
  retryInterval : Nat
  /-- How often an access point is looked at again. -/
  retryLimit : Nat
  /-- The type that access points are given for channels. -/
  channelType : AccessType
  /-- Raise only the events that the card has asked for. -/
  requireEventList : Bool
deriving DecidableEq

namespace Config

def standard : Config where
  maxBufferSize := 1500
  connectTimeout := 10000
  retryInterval := 200
  retryLimit := 4
  channelType := "bip"
  requireEventList := true

/-- The value of a variable; of several with one name the last counts. -/
def setting? (env : List (String × String)) (name : String) : Option String :=
  env.reverse.lookup name

/-- A number in a variable, blanks around it aside. -/
def number? (env : List (String × String)) (name : String) (limit : Nat) : Option Nat := do
  let value ← setting? env name
  (Decimal.read limit (Blank.trim value.toList)).toOption

/-- A truth value in a variable, blanks around it aside. -/
def flag? (env : List (String × String)) (name : String) : Option Bool := do
  let value := Blank.trim (← setting? env name).toList
  if value = "true".toList then some true
  else if value = "false".toList then some false
  else none

def ofEnvironment (env : List (String × String)) : Config where
  maxBufferSize := (((number? env "STK_BIP_MAX_BUFFER_SIZE" 0xFFFF).filter (0 < ·)).map
    UInt16.ofNat).getD standard.maxBufferSize
  connectTimeout := (number? env "STK_BIP_CONNECT_TIMEOUT_MS" (UInt64.size - 1)).getD
    standard.connectTimeout
  retryInterval := (number? env "STK_BIP_APN_RETRY_INTERVAL_MS" (UInt64.size - 1)).getD
    standard.retryInterval
  retryLimit := (number? env "STK_BIP_APN_RETRY_LIMIT" (UInt32.size - 1)).getD standard.retryLimit
  channelType := ((setting? env "STK_BIP_APN_TYPE").filter (· ≠ "")).getD standard.channelType
  requireEventList := (flag? env "STK_BIP_REQUIRE_EVENT_LIST").getD standard.requireEventList

end Config

end CardChannels
