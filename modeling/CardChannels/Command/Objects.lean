import CardChannels.Field
import CardChannels.Result
import CardChannels.Tlv.Basic

/-!
# The objects of a command

A command's parameters are looked up among its objects by tag. A field that cannot be read makes
the command's data not understood, whatever is wrong with it.
-/
namespace CardChannels.Objects

variable {α : Type}

/-- What a field that cannot be read does to the command. -/
def understood (r : Except Field.Error α) : Except Refusal α :=
  match r with
  | .ok a => .ok a
  | .error _ => .error .dataNotUnderstood

/-- The field of the first object with a tag, if there is one. -/
def optional (objects : List Tlv) (tag : Tag) (read : Tlv → Except Field.Error α) :
    Except Refusal (Option α) :=
  match Tlv.find? objects tag with
  | some t => (understood (read t)).map some
  | none => .ok none

end CardChannels.Objects
