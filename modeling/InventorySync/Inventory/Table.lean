/-
# Inventory.Table — records of one kind, in ascending order of id

A table is a list of records whose ids strictly ascend; so an id has at most one
record, and a listing comes out ordered. `get?`, `put`, `modify` and `erase` go by
the record's own id.
-/
import InventorySync.Inventory.Record

namespace InventorySync

set_option autoImplicit false

/-- Records know their id. -/
class Identified (α : Type) where
  idOf : α → Id

export Identified (idOf)

instance : Identified CatalogEntry := ⟨CatalogEntry.id⟩
instance : Identified Device := ⟨Device.id⟩
instance : Identified Interface := ⟨Interface.id⟩
instance : Identified Address := ⟨Address.id⟩

structure Table (α : Type) [Identified α] where
  rows : List α
  ascending : rows.Pairwise fun a b => idOf a < idOf b

namespace Table

variable {α : Type} [Identified α]

def empty : Table α := ⟨[], .nil⟩

instance : Inhabited (Table α) := ⟨empty⟩

def get? (t : Table α) (id : Id) : Option α := t.rows.find? fun a => idOf a == id

/-- Insert a row before the first one with a greater id, or in place of the one with
the same id. -/
def insertRow (a : α) : List α → List α
  | [] => [a]
  | b :: rest =>
    if idOf a < idOf b then a :: b :: rest
    else if idOf a = idOf b then a :: rest
    else b :: insertRow a rest

theorem mem_insertRow {a b : α} {rows : List α} (h : b ∈ insertRow a rows) : b = a ∨ b ∈ rows := by
  induction rows with
  | nil => simpa [insertRow] using h
  | cons c rest ih =>
    simp only [insertRow] at h
    split at h
    · simpa using h
    · split at h
      · rcases List.mem_cons.1 h with h | h
        · exact .inl h
        · exact .inr (List.mem_cons_of_mem _ h)
      · rcases List.mem_cons.1 h with h | h
        · exact .inr (h ▸ List.mem_cons_self)
        · exact (ih h).imp_right (List.mem_cons_of_mem _)

theorem ascending_insertRow (a : α) {rows : List α}
    (h : rows.Pairwise fun a b => idOf a < idOf b) :
    (insertRow a rows).Pairwise fun a b => idOf a < idOf b := by
  induction rows with
  | nil => simp [insertRow]
  | cons b rest ih =>
    obtain ⟨hb, hrest⟩ := List.pairwise_cons.1 h
    simp only [insertRow]
    split
    · refine List.pairwise_cons.2 ⟨fun c hc => ?_, h⟩
      rcases List.mem_cons.1 hc with rfl | hc
      · assumption
      · exact UInt64.lt_trans ‹_› (hb c hc)
    · split
      · rename_i heq
        exact List.pairwise_cons.2 ⟨fun c hc => heq ▸ hb c hc, hrest⟩
      · refine List.pairwise_cons.2 ⟨fun c hc => ?_, ih hrest⟩
        rcases mem_insertRow hc with rfl | hc
        · rename_i hlt hne
          exact UInt64.lt_of_le_of_ne (UInt64.not_lt.1 hlt) (Ne.symm hne)
        · exact hb c hc

/-- Add a record, in place of one with the same id. -/
def put (t : Table α) (a : α) : Table α := ⟨insertRow a t.rows, ascending_insertRow a t.ascending⟩

/-- Change the record of that id, if there is one; its id stays. -/
def modify (t : Table α) (id : Id) (f : α → α) (keeps : ∀ a, idOf (f a) = idOf a) : Table α where
  rows := t.rows.map fun a => if idOf a = id then f a else a
  ascending := by
    refine List.pairwise_map.2 (t.ascending.imp fun {a b} h => ?_)
    have same : ∀ c : α, idOf (if idOf c = id then f c else c) = idOf c := fun c => by
      split
      · exact keeps c
      · rfl
    rw [same a, same b]
    exact h

def erase (t : Table α) (id : Id) : Table α where
  rows := t.rows.filter fun a => idOf a != id
  ascending := t.ascending.filter _

/-- The records that satisfy a test, in ascending order. -/
def select (t : Table α) (test : α → Bool) : List α := t.rows.filter test

end Table

end InventorySync
