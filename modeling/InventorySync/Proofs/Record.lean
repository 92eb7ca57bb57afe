/-
# Proofs.Record — a record is read off the members it knows, in any order

The text of a value is whole (`isWhole_ofJson`). So a member that no name of the layout answers to
is passed over, whatever it holds, and the record is the same without it
(`readMembers_append_of_unknown`). A member that is known goes into the slot of the first member of
the layout that answers to its name, and no other slot changes (`take_cons`). A slot is filled
once, so two members that were both taken in can trade places (`take_swap`), and a record reads
the same in any order of its members (`readMembers_perm`).
-/
import InventorySync.Json.Codec
import Mathlib.Data.List.Perm.Basic

namespace InventorySync

set_option autoImplicit false

/-! ## The tree of a value -/

namespace Document

mutual

theorem isWhole_ofJson : ∀ j : Json, (ofJson j).isWhole = true
  | .null => rfl
  | .bool _ => rfl
  | .int _ => rfl
  | .real _ _ _ => rfl
  | .str _ => rfl
  | .arr items => by
      simp only [ofJson, isWhole, wholeItems_ofItems items, Bool.and_self]
  | .obj members => by
      simp only [ofJson, isWhole, wholeMembers_ofMembers members, Bool.and_true]
      rfl

theorem wholeItems_ofItems : ∀ items : List Json, wholeItems (ofItems items) = true
  | [] => rfl
  | j :: rest => by
      simp only [ofItems, wholeItems, isWhole_ofJson j, wholeItems_ofItems rest, Bool.and_self]

theorem wholeMembers_ofMembers : ∀ members : List (String × Json),
    wholeMembers (ofMembers members) = true
  | [] => rfl
  | (_, j) :: rest => by
      simp only [ofMembers, wholeMembers, isWhole_ofJson j, wholeMembers_ofMembers rest,
        Bool.and_self]

end

theorem ofMembers_eq_map (members : List (String × Json)) :
    ofMembers members = members.map fun m => (some m.1, ofJson m.2) := by
  induction members with
  | nil => rfl
  | cons m rest ih => rw [ofMembers, ih, List.map_cons]

theorem ofMembers_append (members more : List (String × Json)) :
    ofMembers (members ++ more) = ofMembers members ++ ofMembers more := by
  simp only [ofMembers_eq_map, List.map_append]

theorem ofMembers_perm {members members' : List (String × Json)} (same : members.Perm members') :
    (ofMembers members).Perm (ofMembers members') := by
  simp only [ofMembers_eq_map]
  exact same.map _

end Document

/-! ## Values that may be absent -/

theorem Json.Codec.read_option_of_present {α : Type} {c : Codec α} {d : Document}
    (present : d ≠ .null) : c.option.read d = (c.read d).map some := by
  cases d with
  | null => exact absurd rfl present
  | _ => rfl

theorem Json.Codec.read_option {α : Type} {c : Codec α} {d : Document} {a : α}
    (read : c.read d = .ok a) (present : d ≠ .null) : c.option.read d = .ok (some a) := by
  rw [read_option_of_present present, read]
  rfl

namespace Json.Layout

/-! ## One member -/

section Member

variable {α : Type} {ts : List Type} (m : Member α) (rest : Layout ts) (slot : Option α)
  (slots : Slots ts) (name : String) (d : Document)

/-- A member goes into the first slot whose name it answers to. -/
theorem take_cons : (Layout.cons m rest).take (slot, slots) (some name, d) =
    if m.answersTo name then
      match slot with
      | some _ => .error (.duplicateField m.name)
      | none => (m.codec.read d).map fun a => (some a, slots)
    else (rest.take slots (some name, d)).map fun slots => (slot, slots) := by
  by_cases own : m.answersTo name
  · cases slot <;> simp [take, fill, own]
  · simp only [take, fill, own]
    cases rest.fill name d slots with
    | some result => rfl
    | none => by_cases whole : d.isWhole = true <;> simp [whole, Except.map]

variable {m rest slot slots name d}

/-- What one member did. -/
theorem taken_cons {slot' : Option α} {slots' : Slots ts}
    (taken : (Layout.cons m rest).take (slot, slots) (some name, d) = .ok (slot', slots')) :
    (m.answersTo name = true ∧ slot = none ∧ slots' = slots ∧
      ∃ a, m.codec.read d = .ok a ∧ slot' = some a) ∨
    (m.answersTo name = false ∧ slot' = slot ∧ rest.take slots (some name, d) = .ok slots') := by
  rw [take_cons] at taken
  by_cases own : m.answersTo name = true
  · rw [if_pos own] at taken
    cases slot with
    | some a => cases taken
    | none =>
        cases read : m.codec.read d with
        | error fault =>
            rw [read] at taken
            cases taken
        | ok a =>
            rw [read] at taken
            cases taken
            exact .inl ⟨own, rfl, rfl, a, rfl, rfl⟩
  · rw [if_neg own] at taken
    cases result : rest.take slots (some name, d) with
    | error fault =>
        rw [result] at taken
        cases taken
    | ok slots =>
        rw [result] at taken
        cases taken
        exact .inr ⟨eq_false_of_ne_true own, rfl, rfl⟩

theorem take_cons_self (own : m.answersTo name = true) {a : α} (read : m.codec.read d = .ok a) :
    (Layout.cons m rest).take (none, slots) (some name, d) = .ok (some a, slots) := by
  rw [take_cons, if_pos own, read]
  rfl

theorem take_cons_of_not (other : m.answersTo name = false) {slots' : Slots ts}
    (taken : rest.take slots (some name, d) = .ok slots') :
    (Layout.cons m rest).take (slot, slots) (some name, d) = .ok (slot, slots') := by
  rw [take_cons, if_neg (by simp [other]), taken]
  rfl

end Member

variable {ts : List Type}

/-! ## Members without a slot -/

/-- One of the members answers to the name. -/
def knows : {ts : List Type} → Layout ts → String → Bool
  | _, .nil, _ => false
  | _, .cons m rest, name => m.answersTo name || rest.knows name

theorem take_of_unknown (l : Layout ts) {name : String} (unknown : l.knows name = false)
    {d : Document} (whole : d.isWhole = true) (slots : Slots ts) :
    l.take slots (some name, d) = .ok slots := by
  induction l with
  | nil => simp [take, fill, whole]
  | cons m rest ih =>
      obtain ⟨slot, slots⟩ := slots
      rw [knows, Bool.or_eq_false_iff] at unknown
      exact take_cons_of_not unknown.1 (ih unknown.2 slots)

/-- Members that the layout does not know fill no slot. -/
theorem foldlM_take_of_unknown (l : Layout ts) {members : List (String × Json)}
    (unknown : ∀ m ∈ members, l.knows m.1 = false) (slots : Slots ts) :
    (Document.ofMembers members).foldlM l.take slots = .ok slots := by
  induction members with
  | nil => rfl
  | cons m rest ih =>
      rw [Document.ofMembers, List.foldlM_cons,
        l.take_of_unknown (unknown _ List.mem_cons_self) (Document.isWhole_ofJson m.2)]
      exact ih fun m member => unknown m (List.mem_cons_of_mem _ member)

/-- **A record is the same without the members that it does not know.** -/
theorem readMembers_append_of_unknown (l : Layout ts) {others known : List (String × Json)}
    (unknown : ∀ m ∈ others, l.knows m.1 = false) (ending : Ending) :
    l.readMembers (Document.ofMembers (others ++ known)) ending =
      l.readMembers (Document.ofMembers known) ending := by
  rw [Document.ofMembers_append, readMembers, List.foldlM_append, l.foldlM_take_of_unknown unknown]
  rfl

/-! ## Members with a slot -/

theorem readMembers_of_taken {l : Layout ts} {members : List (Option String × Document)}
    {slots : Slots ts} (taken : members.foldlM l.take l.noneRead = .ok slots) :
    l.readMembers members .closed = l.finish slots := by
  rw [readMembers, taken]
  rfl

/-- A member that is taken, and all after it. -/
theorem foldlM_take_cons {l : Layout ts} {slots slots' : Slots ts}
    {m : Option String × Document} {rest : List (Option String × Document)}
    {read : Except Fault (Slots ts)} (taken : l.take slots m = .ok slots')
    (later : rest.foldlM l.take slots' = read) : (m :: rest).foldlM l.take slots = read := by
  rw [List.foldlM_cons, taken]
  exact later

theorem exists_of_foldlM_take {l : Layout ts} {slots last : Slots ts}
    {m : Option String × Document} {rest : List (Option String × Document)}
    (taken : (m :: rest).foldlM l.take slots = .ok last) :
    ∃ after, l.take slots m = .ok after ∧ rest.foldlM l.take after = .ok last := by
  rw [List.foldlM_cons] at taken
  cases first : l.take slots m with
  | error fault =>
      rw [first] at taken
      cases taken
  | ok after =>
      rw [first] at taken
      exact ⟨after, rfl, taken⟩

/-! ## The order of members -/

/-- Two members that are both taken in go into different slots, and can trade places. -/
theorem take_swap (l : Layout ts) {slots after last : Slots ts} {x y : Option String × Document}
    (first : l.take slots x = .ok after) (second : l.take after y = .ok last) :
    ∃ between, l.take slots y = .ok between ∧ l.take between x = .ok last := by
  obtain ⟨_ | name, d⟩ := x
  · cases first
  obtain ⟨_ | other, e⟩ := y
  · cases second
  induction l with
  | nil => exact ⟨(), second, first⟩
  | cons m rest ih =>
      obtain ⟨slot, slots⟩ := slots
      obtain ⟨slot', after⟩ := after
      obtain ⟨slot'', last⟩ := last
      rcases taken_cons first with ⟨own, rfl, rfl, a, read, rfl⟩ | ⟨foreign, rfl, inner⟩
      · rcases taken_cons second with ⟨-, filled, -⟩ | ⟨notOther, rfl, inner⟩
        · cases filled
        · exact ⟨(none, last), take_cons_of_not notOther inner, take_cons_self own read⟩
      · rcases taken_cons second with ⟨own, rfl, rfl, a, read, rfl⟩ | ⟨notOther, rfl, later⟩
        · exact ⟨(some a, slots), take_cons_self own read, take_cons_of_not foreign inner⟩
        · obtain ⟨between, early, late⟩ := ih inner later
          exact ⟨(_, between), take_cons_of_not notOther early, take_cons_of_not foreign late⟩

variable {l : Layout ts} {members members' : List (Option String × Document)}

theorem foldlM_take_perm (same : members.Perm members') {slots last : Slots ts}
    (taken : members.foldlM l.take slots = .ok last) :
    members'.foldlM l.take slots = .ok last := by
  induction same generalizing slots with
  | nil => exact taken
  | cons m same ih =>
      obtain ⟨after, first, taken⟩ := exists_of_foldlM_take taken
      exact foldlM_take_cons first (ih taken)
  | swap m other rest =>
      obtain ⟨after, first, taken⟩ := exists_of_foldlM_take taken
      obtain ⟨last, second, taken⟩ := exists_of_foldlM_take taken
      obtain ⟨between, early, late⟩ := l.take_swap first second
      exact foldlM_take_cons early (foldlM_take_cons late taken)
  | trans one two ihOne ihTwo => exact ihTwo (ihOne taken)

/-- What a record was read from. -/
theorem readMembers_eq_ok_iff {ending : Ending} {values : Values ts} :
    l.readMembers members ending = .ok values ↔
      ∃ slots, members.foldlM l.take l.noneRead = .ok slots ∧ ending = .closed ∧
        l.finish slots = .ok values := by
  unfold readMembers
  cases taken : members.foldlM l.take l.noneRead with
  | error fault => exact ⟨nofun, nofun⟩
  | ok slots =>
      by_cases closed : ending = .closed <;> simp [closed, bind, Except.bind]

/-- **A record reads the same in any order of its members.** -/
theorem readMembers_perm (same : members.Perm members') {ending : Ending} {values : Values ts}
    (read : l.readMembers members ending = .ok values) :
    l.readMembers members' ending = .ok values := by
  rw [readMembers_eq_ok_iff] at read ⊢
  obtain ⟨slots, taken, ends⟩ := read
  exact ⟨slots, foldlM_take_perm same taken, ends⟩

end Json.Layout

end InventorySync
