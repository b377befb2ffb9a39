import CardChannels.Field
import CardChannels.Text.Decimal
import CardChannels.Tlv.Basic

/-!
# Bearers, transports and addresses

The objects with which an open command says how it wants to reach its partner.
-/
namespace CardChannels

/-- The bearers that the terminal supports. -/
inductive BearerType where
  | gprs
  | default
  | utranExtended
  | eutran
deriving DecidableEq

namespace BearerType

def all : List BearerType := [gprs, .default, utranExtended, eutran]

def code : BearerType → UInt8
  | gprs => 0x02
  | .default => 0x03
  | utranExtended => 0x09
  | eutran => 0x0B

def name : BearerType → String
  | gprs => "Gprs"
  | .default => "Default"
  | utranExtended => "UtranExtended"
  | eutran => "Eutran"

def ofCode? (code : UInt8) : Option BearerType := all.find? (·.code = code)

/-- Whether the bearer is one of the packet services. -/
def isPacketSwitched : BearerType → Bool
  | .default => false
  | _ => true

end BearerType

/-- A bearer as the card describes it. The type may be any byte. -/
structure BearerDescription where
  typeCode : UInt8
  parameters : Bytes
deriving DecidableEq

namespace BearerDescription

/-- The default bearer without parameters. -/
def plain : BearerDescription := ⟨BearerType.default.code, []⟩

def ofTlv (t : Tlv) : Except Field.Error BearerDescription :=
  match t.value with
  | typeCode :: parameters => .ok ⟨typeCode, parameters⟩
  | [] => .error (.tooShort .bearerDescription 1 0)

def toTlv (b : BearerDescription) : Tlv := .known .bearerDescription (b.typeCode :: b.parameters)

/-- The bearer, if the terminal supports it. -/
def type? (b : BearerDescription) : Option BearerType := BearerType.ofCode? b.typeCode

end BearerDescription

inductive TransportProtocol where
  | udpClientRemote
  | tcpClientRemote
  | tcpServer
  | udpClientLocal
  | tcpClientLocal
deriving DecidableEq

namespace TransportProtocol

def all : List TransportProtocol :=
  [udpClientRemote, tcpClientRemote, tcpServer, udpClientLocal, tcpClientLocal]

def code : TransportProtocol → UInt8
  | udpClientRemote => 0x01
  | tcpClientRemote => 0x02
  | tcpServer => 0x03
  | udpClientLocal => 0x04
  | tcpClientLocal => 0x05

def name : TransportProtocol → String
  | udpClientRemote => "UdpClientRemote"
  | tcpClientRemote => "TcpClientRemote"
  | tcpServer => "TcpServer"
  | udpClientLocal => "UdpClientLocal"
  | tcpClientLocal => "TcpClientLocal"

def ofCode? (code : UInt8) : Option TransportProtocol := all.find? (·.code = code)

/-- Whether the partner is in the network, which takes a bearer. -/
def isRemote : TransportProtocol → Bool
  | udpClientRemote | tcpClientRemote => true
  | _ => false

/-- Whether the link stays inside the terminal. -/
def isTerminalLocal : TransportProtocol → Bool
  | tcpServer | udpClientLocal | tcpClientLocal => true
  | _ => false

def isUdp : TransportProtocol → Bool
  | udpClientRemote | udpClientLocal => true
  | _ => false

end TransportProtocol

/-- A protocol and a port. -/
structure TransportLevel where
  protocol : TransportProtocol
  port : UInt16
deriving DecidableEq

def TransportLevel.ofTlv (t : Tlv) : Except Field.Error TransportLevel :=
  match t.value with
  | protocol :: high :: low :: _ =>
    match TransportProtocol.ofCode? protocol with
    | some p => .ok ⟨p, Bytes.word high low⟩
    | none => .error (.unsupported .transportProtocol protocol.toNat)
  | short => .error (.tooShort .transportLevel 3 short.length)

structure Ipv4 where
  a : UInt8
  b : UInt8
  c : UInt8
  d : UInt8
deriving DecidableEq

namespace Ipv4

def loopback : Ipv4 := ⟨127, 0, 0, 1⟩
def unspecified : Ipv4 := ⟨0, 0, 0, 0⟩

/-- The address in dotted form. -/
def text (ip : Ipv4) : String :=
  s!"{ip.a.toNat}.{ip.b.toNat}.{ip.c.toNat}.{ip.d.toNat}"

/-- A part of the dotted form: up to three digits without a needless zero in front. -/
def partOfText? (digits : List Char) : Option UInt8 :=
  if digits.length ≤ 3 ∧ (digits.length = 1 ∨ digits.head? ≠ some '0') then
    match Decimal.read 0xFF digits with
    | .ok n => if digits.all Char.isDigit then some (UInt8.ofNat n) else none
    | .error _ => none
  else none

/-- The address that a dotted form names. -/
def ofText? (s : String) : Option Ipv4 := do
  match ← (s.splitOn ".").mapM fun digits => partOfText? digits.toList with
  | [a, b, c, d] => some ⟨a, b, c, d⟩
  | _ => none

/-- The kind byte of an address object with four bytes of address. -/
def kind : UInt8 := 0x21

/-- The address of an address object; an empty one asks for any address. -/
def ofTlv (t : Tlv) : Except Field.Error (Option Ipv4) :=
  match t.value with
  | [] => .ok none
  | k :: address =>
    if k = kind then
      match address with
      | [a, b, c, d] => .ok (some ⟨a, b, c, d⟩)
      | _ => .error (.unsupported .addressLength (min address.length 0xFFFFFFFF))
    else .error (.unsupported .addressType k.toNat)

def toTlv (ip : Ipv4) : Tlv := .known .otherAddress [kind, ip.a, ip.b, ip.c, ip.d]

end Ipv4

/-- An address and a port. -/
structure Endpoint where
  address : Ipv4
  port : UInt16
deriving DecidableEq

def Endpoint.text (e : Endpoint) : String := e.address.text ++ s!":{e.port.toNat}"

namespace BufferSize

def ofTlv (t : Tlv) : Except Field.Error UInt16 :=
  match t.value with
  | high :: low :: _ => .ok (Bytes.word high low)
  | short => .error (.tooShort .bufferSize 2 short.length)

def toTlv (size : UInt16) : Tlv := .known .bufferSize (Bytes.ofWord size)

end BufferSize

end CardChannels
