/-!
# Decimal numbers

A number is digits with an optional plus sign in front. It is read from the left, so that of a
character that is no digit and a value that is too large the one further left is reported.
-/
namespace CardChannels.Decimal

/-- Why a text is no number in range. -/
inductive Fault where
  | empty
  | notDigit
  | tooLarge
deriving DecidableEq

def Fault.message : Fault → String
  | .empty => "cannot parse integer from empty string"
  | .notDigit => "invalid digit found in string"
  | .tooLarge => "number too large to fit in target type"

def digit? (c : Char) : Option Nat :=
  if '0' ≤ c ∧ c ≤ '9' then some (c.toNat - '0'.toNat) else none

/-- Goes on with a number whose digits so far spell `n`. -/
def digits (limit n : Nat) : List Char → Except Fault Nat
  | [] => .ok n
  | c :: rest =>
    match digit? c with
    | none => .error .notDigit
    | some d => if n * 10 + d > limit then .error .tooLarge else digits limit (n * 10 + d) rest

/-- The number that a text spells, if it is at most `limit`. -/
def read (limit : Nat) : List Char → Except Fault Nat
  | [] => .error .empty
  | '+' :: c :: rest => digits limit 0 (c :: rest)
  | cs => digits limit 0 cs

end CardChannels.Decimal
