/-
# Proofs.RoundTrip — what is written of a record is read back as the record

A codec is `Lawful` if what it writes of a value is plain JSON whose tree it reads as that value.
The laws of plain values come first. An optional value is lawful if no present value is written as
null, and a record is lawful if its layout is: each member is lawful, a member is left out only if
its absence reads as the value it had, and no member answers to the name of a later one
(`Layout.foldlM_take_write`). So each record of the inventory and of the resource is lawful by the
codecs of its members.

`records_round_trip`: the text of a record decodes to the record.
-/
import InventorySync.Inventory.Codec
import InventorySync.Proofs.Compact
import InventorySync.Proofs.StatusPatch

namespace InventorySync

set_option autoImplicit false

namespace Json

open Document (ofJson ofMembers ofItems)

/-! ## Lawful codecs -/

/-- What is written of a value is plain, and is read back as the value. -/
structure Codec.Lawful {α : Type} (c : Codec α) : Prop where
  plain : ∀ a, (c.write a).Plain
  reads : ∀ a, c.read (.ofJson (c.write a)) = .ok a

/-- No value is written as null. -/
def Codec.Present {α : Type} (c : Codec α) : Prop := ∀ a, c.write a ≠ .null

namespace Codec

variable {α : Type} {c : Codec α}

/-- **The text of a value decodes to the value.** -/
theorem Lawful.decode_encode (lawful : c.Lawful) (a : α) : c.decode (c.encode a) = .ok a := by
  simp only [decode, encode, Document.ofString_compact (lawful.plain a), lawful.reads a, if_true]

theorem Lawful.string : Codec.string.Lawful where
  plain := .str
  reads _ := rfl

theorem Lawful.bool : Codec.bool.Lawful where
  plain := .bool
  reads _ := rfl

theorem Lawful.word : Codec.word.Lawful where
  plain n := .int (by
    rw [Int.natAbs_natCast]
    exact n.toNat_lt)
  reads n := by
    have range : 0 ≤ (n.toNat : Int) ∧ (n.toNat : Int) < Numeral.wordLimit 64 :=
      ⟨Int.natCast_nonneg _, Int.ofNat_lt.2 n.toNat_lt⟩
    simp only [Codec.word, ofJson, if_pos range, Int.toNat_natCast, UInt64.ofNat_toNat]

theorem Lawful.signedWord : Codec.signedWord.Lawful where
  plain n := .int (by
    have low := n.le_toInt
    have high := n.toInt_lt
    have limit : Numeral.wordLimit 64 = 18446744073709551616 := rfl
    omega)
  reads := read_signedWord

theorem Lawful.text {write : α → String} {read? : String → Option α}
    (inverse : ∀ a, read? (write a) = some a) : (Codec.text write read?).Lawful where
  plain a := .str (write a)
  reads a := by simp only [Codec.text, ofJson, inverse]

theorem Lawful.variant {name : α → String} {ofName? : String → Option α}
    (inverse : ∀ a, ofName? (name a) = some a) : (Codec.variant name ofName?).Lawful where
  plain a := .str (name a)
  reads a := by simp only [Codec.variant, ofJson, inverse]

theorem Lawful.option (lawful : c.Lawful) (present : c.Present) : c.option.Lawful where
  plain
    | none => .null
    | some a => lawful.plain a
  reads
    | none => rfl
    | some a => by
      refine read_option (lawful.reads a) fun null => present a ?_
      revert null
      change ofJson (c.write a) = .null → _
      cases c.write a <;> simp [ofJson]

theorem readItems_write (lawful : c.Lawful) (as : List α) :
    c.readItems (ofItems (as.map c.write)) = .ok as := by
  induction as with
  | nil => rfl
  | cons a as ih =>
      simp only [List.map_cons, ofItems, readItems, lawful.reads a, ih]
      rfl

theorem Lawful.list (lawful : c.Lawful) : c.list.Lawful where
  plain as := .arr (by
    intro j member
    obtain ⟨a, -, rfl⟩ := List.mem_map.1 member
    exact lawful.plain a)
  reads as := by
    simp only [Codec.list, ofJson, readItems_write lawful as]
    rfl

end Codec

/-! ## Lawful layouts -/

/-- A member is lawful if its codec is, and a value that is left out is the one that stands for a
missing member. -/
structure Member.Lawful {α : Type} (m : Member α) : Prop where
  codec : m.codec.Lawful
  omitted : ∀ a, m.isOmitted a = true → m.missing = .ok a

namespace Member.Lawful

variable {α : Type} {c : Codec α}

/-- A member that is always written. -/
theorem kept {m : Member α} (codec : m.codec.Lawful) (never : ∀ a, m.isOmitted a = false) :
    m.Lawful where
  codec := codec
  omitted a left := by
    rw [never] at left
    cases left

theorem needed {name : String} (codec : c.Lawful) : (Member.needed name c).Lawful :=
  kept codec fun _ => rfl

theorem nullable {name : String} (codec : c.Lawful) (present : c.Present) :
    (Member.nullable name c).Lawful :=
  kept (codec.option present) fun _ => rfl

/-- A member that is left out when it is not set. -/
theorem ifSet {m : Member (Option α)} (codec : m.codec.Lawful) (unset : m.isOmitted = Option.isNone)
    (missing : m.missing = .ok none) : m.Lawful where
  codec := codec
  omitted a left := by
    rw [unset, Option.isNone_iff_eq_none] at left
    rw [missing, left]

end Member.Lawful

namespace Layout

/-- The names that members are written under. -/
def names : {ts : List Type} → Layout ts → List String
  | _, .nil => []
  | _, .cons m rest => m.name :: rest.names

/-- No member answers to the name of a later one. -/
def namesApart : {ts : List Type} → Layout ts → Bool
  | _, .nil => true
  | _, .cons m rest => rest.names.all (fun name => !m.answersTo name) && rest.namesApart

/-- Every member is lawful. -/
def AllLawful : {ts : List Type} → Layout ts → Prop
  | _, .nil => True
  | _, .cons m rest => m.Lawful ∧ rest.AllLawful

structure Lawful {ts : List Type} (l : Layout ts) : Prop where
  members : l.AllLawful
  apart : l.namesApart = true

/-- What is read of each member once the written ones are taken in. -/
def written : {ts : List Type} → Layout ts → Values ts → Slots ts
  | _, .nil, _ => ()
  | _, .cons m rest, (a, as) => (if m.isOmitted a then none else some a, rest.written as)

variable {α : Type} {ts : List Type}

theorem mem_names_of_write (l : Layout ts) (as : Values ts) :
    ∀ x ∈ l.write as, x.1 ∈ l.names := by
  induction l with
  | nil => exact nofun
  | cons m rest ih =>
      obtain ⟨a, as⟩ := as
      intro x member
      rw [write] at member
      split at member
      · exact List.mem_cons_of_mem _ (ih as x member)
      · rcases List.mem_cons.1 member with rfl | later
        · exact List.mem_cons_self
        · exact List.mem_cons_of_mem _ (ih as x later)

theorem plain_of_write {l : Layout ts} (lawful : l.AllLawful) (as : Values ts) :
    ∀ x ∈ l.write as, x.2.Plain := by
  induction l with
  | nil => exact nofun
  | cons m rest ih =>
      obtain ⟨a, as⟩ := as
      intro x member
      rw [write] at member
      split at member
      · exact ih lawful.2 as x member
      · rcases List.mem_cons.1 member with rfl | later
        · exact lawful.1.codec.plain a
        · exact ih lawful.2 as x later

/-- Members that do not answer to the first name go into the later slots. -/
theorem foldlM_take_cons_of_not {m : Member α} {rest : Layout ts} {slot : Option α}
    {members : List (String × Json)} (others : ∀ x ∈ members, m.answersTo x.1 = false)
    {slots last : Slots ts} (taken : (ofMembers members).foldlM rest.take slots = .ok last) :
    (ofMembers members).foldlM (Layout.cons m rest).take (slot, slots) = .ok (slot, last) := by
  induction members generalizing slots with
  | nil =>
      cases taken
      rfl
  | cons x members ih =>
      obtain ⟨name, j⟩ := x
      obtain ⟨after, first, later⟩ := exists_of_foldlM_take taken
      refine foldlM_take_cons (take_cons_of_not (others _ List.mem_cons_self) first) ?_
      exact ih (fun x member => others x (List.mem_cons_of_mem _ member)) later

/-- The members that are written fill their slots, and no others. -/
theorem foldlM_take_write {l : Layout ts} (lawful : l.Lawful) (as : Values ts) :
    (ofMembers (l.write as)).foldlM l.take l.noneRead = .ok (l.written as) := by
  induction l with
  | nil => rfl
  | cons m rest ih =>
      obtain ⟨a, as⟩ := as
      obtain ⟨⟨memberLawful, restLawful⟩, apart⟩ := lawful
      rw [namesApart, Bool.and_eq_true, List.all_eq_true] at apart
      have others : ∀ x ∈ rest.write as, m.answersTo x.1 = false := fun x member => by
        simpa using apart.1 x.1 (rest.mem_names_of_write as x member)
      have later := ih ⟨restLawful, apart.2⟩ as
      rw [write, written, noneRead]
      split
      · exact foldlM_take_cons_of_not others later
      · have own : m.answersTo m.name = true := by simp [Member.answersTo]
        exact foldlM_take_cons (take_cons_self own (memberLawful.codec.reads a))
          (foldlM_take_cons_of_not others later)

theorem finish_written {l : Layout ts} (lawful : l.AllLawful) (as : Values ts) :
    l.finish (l.written as) = .ok as := by
  induction l with
  | nil => rfl
  | cons m rest ih =>
      obtain ⟨a, as⟩ := as
      cases left : m.isOmitted a with
      | true =>
          simp only [written, left, finish, lawful.1.omitted a left, ih lawful.2 as, if_true]
          rfl
      | false =>
          simp only [written, left, finish, ih lawful.2 as, Bool.false_eq_true, if_false]
          rfl

end Layout

theorem Codec.Lawful.record {ρ : Type} {ts : List Type} {layout : Layout ts}
    {values : ρ → Values ts} {make : Values ts → ρ} (lawful : layout.Lawful) (made : ∀ r, make (values r) = r) :
    (Codec.record layout values make).Lawful where
  plain r := .obj (Layout.plain_of_write lawful.members (values r))
  reads r := by
    have read := Layout.readMembers_of_taken (Layout.foldlM_take_write lawful (values r))
    rw [Layout.finish_written lawful.members] at read
    simp only [Codec.record, ofJson, read, Except.map, made]

end Json

open Json (Codec)
open Time (Timestamp)

/-! ## Records of the inventory -/

theorem CatalogEntry.codec_lawful : CatalogEntry.codec.Lawful :=
  .record ⟨⟨.needed .word, .needed .string, .needed .string, .needed .string, .needed .string,
    trivial⟩, by decide⟩ fun _ => rfl

theorem NamedRef.codec_lawful : NamedRef.codec.Lawful :=
  .record ⟨⟨.needed .word, .needed .string, .needed .string, .needed .string, trivial⟩,
    by decide⟩ fun _ => rfl

theorem DeviceRef.codec_lawful : DeviceRef.codec.Lawful :=
  .record ⟨⟨.needed .word, .needed .string, .needed .string, .nullable .string nofun, trivial⟩,
    by decide⟩ fun _ => rfl

theorem AddressRef.codec_lawful : AddressRef.codec.Lawful :=
  .record ⟨⟨.needed .word, .needed .string, .needed .string, .needed .string, trivial⟩,
    by decide⟩ fun _ => rfl

theorem Cluster.codec_lawful : Cluster.codec.Lawful :=
  .record ⟨⟨.needed .word, .needed .string, .needed .string, .needed .string,
    .nullable CatalogEntry.codec_lawful nofun, .nullable CatalogEntry.codec_lawful nofun,
    .nullable .word nofun, trivial⟩, by decide⟩ fun _ => rfl

theorem DeviceStatus.codec_lawful : DeviceStatus.codec.Lawful :=
  .variant fun s => congrArg some s.ofName_name

theorem Choice.codec_lawful {α : Type} {value : Codec α} (lawful : value.Lawful) :
    (Choice.codec value).Lawful :=
  .record ⟨⟨.needed lawful, .needed .string, trivial⟩, rfl⟩ fun _ => rfl

theorem Device.codec_lawful : Device.codec.Lawful :=
  .record ⟨⟨.needed .word, .needed .string, .needed .string, .nullable .string nofun,
    .needed (Choice.codec_lawful DeviceStatus.codec_lawful),
    .kept (.option CatalogEntry.codec_lawful nofun) fun _ => rfl,
    .nullable CatalogEntry.codec_lawful nofun, .nullable AddressRef.codec_lawful nofun,
    .nullable CatalogEntry.codec_lawful nofun, .nullable NamedRef.codec_lawful nofun, trivial⟩,
    by decide⟩ fun _ => rfl

theorem Interface.codec_lawful : Interface.codec.Lawful :=
  .record ⟨⟨.needed .word, .needed .string, .needed .string, .needed .string,
    .needed DeviceRef.codec_lawful, .nullable NamedRef.codec_lawful nofun,
    .kept .bool fun _ => rfl, .nullable .string nofun, trivial⟩, by decide⟩ fun _ => rfl

theorem Address.codec_lawful : Address.codec.Lawful :=
  .record ⟨⟨.needed .word, .needed .string, .needed .string, .needed .string,
    .nullable .string nofun, .nullable .word nofun, .kept .string fun _ => rfl, trivial⟩,
    by decide⟩ fun _ => rfl

theorem DevicePatch.codec_lawful : DevicePatch.codec.Lawful :=
  .record ⟨⟨.ifSet (.option .word nofun) rfl rfl, .ifSet (.option .word nofun) rfl rfl, trivial⟩,
    by decide⟩ fun _ => rfl

theorem InterfacePatch.codec_lawful : InterfacePatch.codec.Lawful :=
  .record ⟨⟨.ifSet (.option .string nofun) rfl rfl, trivial⟩, rfl⟩ fun _ => rfl

theorem Page.codec_lawful {α : Type} {item : Codec α} (lawful : item.Lawful) :
    (Page.codec item).Lawful :=
  .record ⟨⟨.needed .word, .kept (.option .string nofun) fun _ => rfl,
    .kept (.option .string nofun) fun _ => rfl, .needed lawful.list, trivial⟩, rfl⟩ fun _ => rfl

/-! ## Records of the resource -/

theorem Descriptor.codec_lawful : Descriptor.codec.Lawful :=
  .record ⟨⟨.kept .string fun _ => rfl, .needed .string, .needed .string, trivial⟩, by decide⟩
    fun _ => rfl

theorem SyncSpec.codec_lawful : SyncSpec.codec.Lawful :=
  .record ⟨⟨.kept Descriptor.codec_lawful.list fun _ => rfl, trivial⟩, rfl⟩ fun _ => rfl

theorem SyncState.codec_lawful : SyncState.codec.Lawful := .variant SyncState.ofName?_name

theorem SyncStatus.timestampCodec_lawful : SyncStatus.timestampCodec.Lawful :=
  .text (Timestamp.read?_render .letter)

theorem SyncStatus.codec_lawful : SyncStatus.codec.Lawful := by
  have present : timestampCodec.Present := by
    intro t null
    cases null
  exact .record ⟨⟨.needed SyncState.codec_lawful, .ifSet (.option .string nofun) rfl rfl,
    .ifSet (.option timestampCodec_lawful present) rfl rfl,
    .ifSet (.option .signedWord nofun) rfl rfl, trivial⟩, by decide⟩ fun _ => rfl

/-- The text that is written of each value decodes to that value. -/
def Json.Codec.RoundTrips {α : Type} (c : Codec α) : Prop := ∀ a, c.decode (c.encode a) = .ok a

/-- **Every record survives being written and read back**, whatever its texts, numbers and
timestamps are and whichever of its members are set. -/
theorem records_round_trip :
    Cluster.codec.RoundTrips ∧ Device.codec.RoundTrips ∧ Interface.codec.RoundTrips ∧
      Address.codec.RoundTrips ∧ (CatalogEntry.codec : Codec Platform).RoundTrips ∧
      (CatalogEntry.codec : Codec DeviceRole).RoundTrips ∧
      (Choice.codec DeviceStatus.codec).RoundTrips ∧ DevicePatch.codec.RoundTrips ∧
      InterfacePatch.codec.RoundTrips ∧
      (Page.codec (CatalogEntry.codec : Codec Platform)).RoundTrips ∧
      SyncSpec.codec.RoundTrips ∧ Descriptor.codec.RoundTrips ∧ SyncStatus.codec.RoundTrips ∧
      SyncState.codec.RoundTrips :=
  ⟨Cluster.codec_lawful.decode_encode, Device.codec_lawful.decode_encode,
    Interface.codec_lawful.decode_encode, Address.codec_lawful.decode_encode,
    CatalogEntry.codec_lawful.decode_encode, CatalogEntry.codec_lawful.decode_encode,
    (Choice.codec_lawful DeviceStatus.codec_lawful).decode_encode,
    DevicePatch.codec_lawful.decode_encode, InterfacePatch.codec_lawful.decode_encode,
    (Page.codec_lawful CatalogEntry.codec_lawful).decode_encode,
    SyncSpec.codec_lawful.decode_encode, Descriptor.codec_lawful.decode_encode,
    SyncStatus.codec_lawful.decode_encode, SyncState.codec_lawful.decode_encode⟩

end InventorySync
