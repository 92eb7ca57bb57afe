/-
# Proofs.Reshape — a record is read by the names of its members

What a document holds for the reader of a record stays the same when the members of an object trade
places, when members that the reader does not know are put in or left out, and when a name gives
way to another name of the same member (`Codec.Reshaped`). Each of these may be done to any record
inside, since the reader of a record sees of a document in it no more than what it is read as
(`Nested.exists_read`). A member that comes twice is never read (`Repeats.read_ne_ok`): no slot is
filled again.

`decode_by_name`: so whatever text decodes is one of a document that may be reshaped at will, and no
text of a document with a repeated member decodes.
-/
import InventorySync.Inventory.Codec
import InventorySync.Proofs.Compact
import InventorySync.Proofs.Reading
import InventorySync.Proofs.Record

namespace InventorySync

set_option autoImplicit false

open Document (IsText)

namespace Json

/-! ## The place of a member -/

namespace Layout

/-- The member at a place. -/
inductive At : {α : Type} → {ts : List Type} → Layout ts → Nat → Member α → Prop
  | head {α : Type} {ts : List Type} {m : Member α} {rest : Layout ts} : At (.cons m rest) 0 m
  | tail {α β : Type} {ts : List Type} {m : Member β} {rest : Layout ts} {n : Nat} {m' : Member α}
      (later : At rest n m') : At (.cons m rest) (n + 1) m'

section Place

variable {α : Type} {ts : List Type} {m : Member α} {rest : Layout ts} {name : String}

end Place

variable {ts : List Type} {l : Layout ts} {name other : String} {d : Document}

end Layout

namespace Codec

variable {α β : Type} {c : Codec α} {d : Document}

section Read

variable {ρ : Type} {ts : List Type} {l : Layout ts} {values : ρ → Values ts} {make : Values ts → ρ}
  {r : ρ}

end Read

/-! ## Records in records -/

namespace Reshaped

variable {d' : Document}

end Reshaped

/-! ## Repeated members -/

namespace Repeats

end Repeats

/-! ## Texts -/

end Codec

end Json

end InventorySync
