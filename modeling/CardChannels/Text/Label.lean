import CardChannels.Field
import CardChannels.Text.Gsm
import CardChannels.Text.Utf16

/-!
# Alpha identifiers and text strings

An alpha identifier is GSM text, or one of three wide forms told by its first byte: UTF-16, or
characters of one byte each whose upper half counts from a base. A text string names its coding
in its first byte; without a byte there is no text.
-/
namespace CardChannels

/-- UTF-16 text of a field. -/
def wideText (field : Field) (bs : Bytes) : Except Field.Error String :=
  match Utf16.text? bs with
  | some text => .ok text
  | none => .error (.badText field .loneSurrogate)

namespace AlphaId

/-- A byte below `0x80` is a number in the GSM alphabet, any other an offset from the base. -/
def basedChar (base : Nat) (b : UInt8) : Except Field.Error Char :=
  if b < 0x80 then .ok (Gsm.char b)
  else
    let code := base + b.toNat % 0x80
    if h : code.isValidChar then .ok (Char.ofNatAux code h)
    else .error (.badText .alphaIdentifier (.notCharacter code))

/-- The text of the first `count` bytes over a base. -/
def based (count : UInt8) (base : Nat) (bs : Bytes) : Except Field.Error String :=
  ((bs.take count.toNat).mapM (basedChar base)).map String.ofList

/-- The text of an alpha identifier. -/
def decode (bs : Bytes) : Except Field.Error String :=
  match bs with
  | [] => .ok ""
  | form :: rest =>
    if form = 0x80 then wideText .alphaIdentifier rest
    else if form = 0x81 then
      match rest with
      | count :: base :: cs => based count (base.toNat * 0x80) cs
      | _ => .error (.tooShort .alphaIdentifier 3 bs.length)
    else if form = 0x82 then
      match rest with
      | count :: high :: low :: cs => based count (Bytes.word high low).toNat cs
      | _ => .error (.tooShort .alphaIdentifier 3 bs.length)
    else .ok (Gsm.unpacked bs)

end AlphaId

namespace TextString

/-- The coding that bits 2 and 3 of the first byte select. -/
inductive Coding where
  | packed
  | unpacked
  | wide

def coding? (scheme : UInt8) : Option Coding :=
  match scheme.toNat / 4 % 4 with
  | 0 => some .packed
  | 1 => some .unpacked
  | 2 => some .wide
  | _ => none

/-- The text of a text string, if it holds one. -/
def decode (bs : Bytes) : Except Field.Error (Option String) :=
  match bs with
  | [] => .ok none
  | scheme :: text =>
    match coding? scheme with
    | some .packed => .ok (some (Gsm.unpacked (Gsm.septets text)))
    | some .unpacked => .ok (some (Gsm.unpacked text))
    | some .wide => (wideText .textString text).map some
    | none => .error (.unsupported .dataCodingScheme scheme.toNat)

end TextString

end CardChannels
