/-
# Proofs.Table — what reading a table gives after a write

An id has at most one row (`eq_of_idOf_eq`), so `get?` and membership say the same
(`get?_eq_some_iff`). The lemmas on `modify` and `erase` say what each does to `select`:
a listing whose test does not see the change is the old listing with the one row changed
or removed, and a listing that never held the row is the old one.
-/
import InventorySync.Inventory.Table
import Mathlib.Data.List.Find
import Mathlib.Data.List.Nodup

namespace InventorySync

set_option autoImplicit false

namespace Table

variable {α : Type} [Identified α]

theorem nodup_ids (t : Table α) : (t.rows.map idOf).Nodup := by
  refine List.pairwise_map.2 (t.ascending.imp fun {a b} lt same => ?_)
  exact UInt64.lt_irrefl _ (same ▸ lt)

theorem eq_of_idOf_eq {t : Table α} {a b : α} (ha : a ∈ t.rows) (hb : b ∈ t.rows)
    (same : idOf a = idOf b) : a = b :=
  List.inj_on_of_nodup_map t.nodup_ids ha hb same

theorem get?_eq_some_iff {t : Table α} {id : Id} {a : α} :
    t.get? id = some a ↔ a ∈ t.rows ∧ idOf a = id := by
  constructor
  · intro found
    exact ⟨List.mem_of_find?_eq_some found, by simpa using List.find?_some found⟩
  · rintro ⟨member, rfl⟩
    have present : (t.get? (idOf a)).isSome := List.find?_isSome.2 ⟨a, member, by simp⟩
    obtain ⟨b, found⟩ := Option.isSome_iff_exists.1 present
    have same : idOf b = idOf a := by simpa using List.find?_some found
    rw [found, eq_of_idOf_eq (List.mem_of_find?_eq_some found) member same]

theorem get?_of_mem {t : Table α} {a : α} (member : a ∈ t.rows) : t.get? (idOf a) = some a :=
  get?_eq_some_iff.2 ⟨member, rfl⟩

theorem idOf_of_get? {t : Table α} {id : Id} {a : α} (found : t.get? id = some a) : idOf a = id :=
  (get?_eq_some_iff.1 found).2

theorem mem_select {t : Table α} {test : α → Bool} {a : α} :
    a ∈ t.select test ↔ a ∈ t.rows ∧ test a = true :=
  List.mem_filter

theorem nodup_select_ids (t : Table α) (test : α → Bool) : ((t.select test).map idOf).Nodup :=
  t.nodup_ids.sublist (List.filter_sublist.map idOf)

theorem eq_of_rows {t t' : Table α} (same : t.rows = t'.rows) : t = t' := by
  cases t
  cases t'
  cases same
  rfl

theorem select_congr {t : Table α} {p q : α → Bool} (same : ∀ a ∈ t.rows, p a = q a) :
    t.select p = t.select q :=
  List.filter_congr same

/-! ## Adding a row -/

section Modify

variable {t : Table α} {id : Id} {f : α → α} (keeps : ∀ a, idOf (f a) = idOf a)

theorem get?_modify (j : Id) :
    (t.modify id f keeps).get? j = (t.get? j).map fun a => if idOf a = id then f a else a := by
  have unseen : ((fun a => idOf a == j) ∘ fun a => if idOf a = id then f a else a) =
      fun a => idOf a == j := by
    funext a
    simp only [Function.comp]
    split
    · rw [keeps]
    · rfl
  simp only [get?, modify, List.find?_map, unseen]

theorem get?_modify_of_ne {j : Id} (ne : j ≠ id) :
    (t.modify id f keeps).get? j = t.get? j := by
  rw [get?_modify]
  cases found : t.get? j with
  | none => rfl
  | some a => simp [idOf_of_get? found, ne]

theorem get?_modify_self {a : α} (found : t.get? id = some a) :
    (t.modify id f keeps).get? id = some (f a) := by
  rw [get?_modify, found]
  simp [idOf_of_get? found]

theorem select_modify {test : α → Bool} (unseen : ∀ a, test (f a) = test a) :
    (t.modify id f keeps).select test =
      (t.select test).map fun a => if idOf a = id then f a else a := by
  have same : (test ∘ fun a => if idOf a = id then f a else a) = test := by
    funext a
    simp only [Function.comp]
    split
    · exact unseen a
    · rfl
  simp only [select, modify, List.filter_map, same]

theorem select_modify_of_not {test : α → Bool} (unseen : ∀ a, test (f a) = test a)
    (outside : ∀ a ∈ t.rows, idOf a = id → test a = false) :
    (t.modify id f keeps).select test = t.select test := by
  rw [select_modify keeps unseen]
  refine (List.map_congr_left fun a member => ?_).trans (List.map_id _)
  obtain ⟨row, passes⟩ := mem_select.1 member
  refine if_neg fun same => ?_
  rw [outside a row same] at passes
  cases passes

/-- Changes of two rows can be made in either order. -/
theorem modify_modify_comm {j : Id} {g : α → α} (keeps' : ∀ a, idOf (g a) = idOf a) (ne : id ≠ j) :
    (t.modify id f keeps).modify j g keeps' = (t.modify j g keeps').modify id f keeps := by
  refine eq_of_rows ?_
  simp only [modify, List.map_map]
  refine List.map_congr_left fun a _ => ?_
  simp only [Function.comp]
  by_cases first : idOf a = id
  · have other : idOf a ≠ j := fun second => ne (first.symm.trans second)
    rw [if_pos first, keeps, if_neg other, if_neg other, if_pos first]
  · rw [if_neg first]
    by_cases second : idOf a = j
    · rw [if_pos second, keeps', if_neg first]
    · rw [if_neg second, if_neg first]

end Modify

/-! ## Removing a row -/

section Erase

variable {t : Table α} {id : Id}

theorem mem_erase {a : α} : a ∈ (t.erase id).rows ↔ a ∈ t.rows ∧ idOf a ≠ id := by
  simp [erase]

theorem select_erase (test : α → Bool) :
    (t.erase id).select test = (t.select test).filter fun a => idOf a != id := by
  simp only [select, erase, List.filter_filter, Bool.and_comm]

theorem select_erase_of_not {test : α → Bool}
    (outside : ∀ a ∈ t.rows, idOf a = id → test a = false) :
    (t.erase id).select test = t.select test := by
  rw [select_erase]
  refine List.filter_eq_self.2 fun a member => ?_
  obtain ⟨row, passes⟩ := mem_select.1 member
  refine bne_iff_ne.2 fun same => ?_
  rw [outside a row same] at passes
  cases passes

theorem get?_erase_of_ne {j : Id} (ne : j ≠ id) : (t.erase id).get? j = t.get? j := by
  simp only [get?, erase, List.find?_filter]
  refine congrArg (t.rows.find? ·) (funext fun a => ?_)
  by_cases same : idOf a = j
  · simp [same, ne]
  · simp [same]

theorem erase_erase_comm (t : Table α) (id j : Id) : (t.erase id).erase j = (t.erase j).erase id :=
  eq_of_rows (List.filter_comm _ _ _)

/-- Whether a row is changed before another one goes or after it is the same. -/
theorem modify_erase_comm {f : α → α} (keeps : ∀ a, idOf (f a) = idOf a) (j : Id) :
    (t.modify id f keeps).erase j = (t.erase j).modify id f keeps :=
  eq_of_rows (select_modify keeps fun a => by rw [keeps])

end Erase

end Table

end InventorySync
