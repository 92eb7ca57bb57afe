/-
# Proofs.Timestamp — a written timestamp reads back

A number of a timestamp is written with the width of its field, or ends at a mark that is no
digit. So what reads the field takes the digits that were written for it and leaves the rest
(`takeNumber_append`), and there are no blanks to skip in front of them (`trimStart_append`).

`read?_render`: the moment that is read is the one that was written, to the nanosecond, in every
year and with either form of the zero offset.
-/
import InventorySync.Time.Timestamp
import Mathlib.Algebra.GroupWithZero.Nat
import Mathlib.Data.List.TakeWhile

namespace InventorySync.Numeral

set_option autoImplicit false

/-! ## Padded digits -/

theorem isSome_digit?_iff {c : Char} : (digit? c).isSome = true ↔ '0' ≤ c ∧ c ≤ '9' := by
  simp [digit?]

theorem digit_of_mem_padded {width n : Nat} {c : Char} (member : c ∈ padded width n) :
    (digit? c).isSome = true := by
  rw [isSome_digit?_iff]
  rcases List.mem_append.1 member with zero | digit
  · obtain ⟨-, rfl⟩ := List.mem_replicate.1 zero
    decide
  · have isDigit := Nat.isDigit_of_mem_toDigits (by decide) (by decide) digit
    simp only [Char.isDigit, Bool.and_eq_true, decide_eq_true_eq] at isDigit
    exact isDigit

theorem length_padded {width n : Nat} (fits : n < 10 ^ width) (positive : 0 < width) :
    (padded width n).length = width := by
  have short : (decimal n).length ≤ width :=
    (Nat.length_toDigits_le_iff (by decide) positive).2 fits
  simp only [padded, List.length_append, List.length_replicate]
  omega

theorem padded_ne_nil (width n : Nat) : padded width n ≠ [] := by
  simp [padded, decimal]

theorem value_padded (width n : Nat) :
    (padded width n).foldl (fun n c => n * 10 + (c.toNat - 48)) 0 = n := by
  have value : Nat.ofDigitChars 10 (padded width n) 0 = n := by
    rw [padded, Nat.ofDigitChars_append, Nat.ofDigitChars_replicate_zero]
    exact Nat.ofDigitChars_ten_toDigits
  rw [Nat.ofDigitChars_eq_foldl] at value
  simp only [Nat.mul_comm 10] at value
  exact value

end InventorySync.Numeral

namespace InventorySync.Time

open Numeral Text

namespace Timestamp

/-! ## Single readers -/

theorem isBlank_of_digit {c : Char} (digit : (digit? c).isSome = true) : isBlank c = false := by
  have range := isSome_digit?_iff.1 digit
  have low : 48 ≤ c.toNat := range.1
  have high : c.toNat ≤ 57 := range.2
  simp only [isBlank, Bool.or_eq_false_iff, Bool.and_eq_false_iff, decide_eq_false_iff_not,
    beq_eq_false_iff_ne]
  omega

/-- No blank stands in front of digits. -/
theorem trimStart_append {ds : List Char} (digits : ∀ c ∈ ds, (digit? c).isSome = true)
    (filled : ds ≠ []) (rest : List Char) : trimStart (ds ++ rest) = ds ++ rest := by
  obtain ⟨c, ds, rfl⟩ := List.exists_cons_of_ne_nil filled
  exact List.dropWhile_cons_of_neg (by simp [isBlank_of_digit (digits c List.mem_cons_self)])

/-- Digits are read up to the width of the field, or to the first mark that is none. -/
theorem takeNumber_append {most : Nat} {ds rest : List Char}
    (digits : ∀ c ∈ ds, (digit? c).isSome = true) (filled : ds ≠ []) (short : ds.length ≤ most)
    (ends : ds.length = most ∨ ∀ c ∈ rest.head?, (digit? c).isSome = false) :
    takeNumber most (ds ++ rest) =
      some (ds.foldl (fun n c => n * 10 + (c.toNat - 48)) 0, rest) := by
  have taken : ((ds ++ rest).take most).takeWhile (fun c => (digit? c).isSome) = ds := by
    rw [List.take_append, List.take_of_length_le short, List.takeWhile_append_of_pos digits]
    refine List.append_right_eq_self.2 ?_
    rcases ends with full | mark
    · rw [full, Nat.sub_self, List.take_zero, List.takeWhile_nil]
    · cases rest with
      | nil => rw [List.take_nil, List.takeWhile_nil]
      | cons c rest =>
          have none := mark c rfl
          cases most - ds.length with
          | zero => rfl
          | succ k => rw [List.take_succ_cons, List.takeWhile_cons_of_neg (by simp [none])]
  unfold takeNumber
  simp only [taken, List.drop_left, List.isEmpty_iff, filled, if_false]

theorem takeNumber_padded {most width n : Nat} (rest : List Char) (fits : n < 10 ^ width)
    (positive : 0 < width) (narrow : width ≤ most)
    (ends : width = most ∨ ∀ c ∈ rest.head?, (digit? c).isSome = false) :
    takeNumber most (padded width n ++ rest) = some (n, rest) := by
  have length := length_padded fits positive
  rw [takeNumber_append (fun c => digit_of_mem_padded) (padded_ne_nil width n), value_padded]
  · rwa [length]
  · rwa [length]

theorem takeField_padded {n : Nat} (fits : n < 100) (rest : List Char) :
    takeField (padded 2 n ++ rest) = some (n, rest) := by
  rw [takeField, trimStart_append (fun c => digit_of_mem_padded) (padded_ne_nil 2 n)]
  exact takeNumber_padded rest fits (by decide) le_rfl (.inl rfl)

/-- A number of any width that ends at a hyphen. -/
theorem takeNumber_hyphen (n : Nat) (rest : List Char) :
    takeNumber (padded 4 n ++ '-' :: rest).length (padded 4 n ++ '-' :: rest) =
      some (n, '-' :: rest) := by
  rw [takeNumber_append (fun c => digit_of_mem_padded) (padded_ne_nil 4 n), value_padded]
  · simp
  · refine .inr ?_
    rintro c ⟨⟩
    rfl

theorem takeYear_yearChars (year : Int) (rest : List Char) :
    takeYear (yearChars year ++ '-' :: rest) = some (year, '-' :: rest) := by
  unfold yearChars
  split
  next plain =>
    have fits : year.toNat < 10 ^ 4 := by omega
    have read := takeNumber_padded ('-' :: rest) fits (by decide) le_rfl (.inl rfl)
    have digits : ∀ c ∈ padded 4 year.toNat, (digit? c).isSome = true := fun c => digit_of_mem_padded
    unfold takeYear
    rw [trimStart_append digits (padded_ne_nil 4 _)]
    obtain ⟨d, ds, eq⟩ := List.exists_cons_of_ne_nil (padded_ne_nil 4 year.toNat)
    have digit := isSome_digit?_iff.1 (digits d (eq ▸ List.mem_cons_self))
    rw [eq, List.cons_append] at read ⊢
    split
    next minus =>
      obtain ⟨rfl, -⟩ := List.cons.inj minus
      exact absurd digit (by decide)
    next plus =>
      obtain ⟨rfl, -⟩ := List.cons.inj plus
      exact absurd digit (by decide)
    next =>
      rw [read]
      simp [Int.toNat_of_nonneg plain.1]
  next signed =>
    by_cases negative : year < 0
    · rw [if_pos negative]
      refine (congrArg (Option.map _) (takeNumber_hyphen year.natAbs rest)).trans ?_
      have value : -(year.natAbs : Int) = year := by omega
      exact congrArg (fun n => some (n, '-' :: rest)) value
    · rw [if_neg negative]
      refine (congrArg (Option.map _) (takeNumber_hyphen year.natAbs rest)).trans ?_
      have value : (year.natAbs : Int) = year := by omega
      exact congrArg (fun n => some (n, '-' :: rest)) value

theorem takeFraction_fractionChars {nano : Nat} (fits : nano < 1000000000) (offset : Offset) :
    takeFraction (fractionChars nano ++ offsetChars offset) = some (nano, offsetChars offset) := by
  have mark : ∀ c ∈ (offsetChars offset).head?, (digit? c).isSome = false := by
    cases offset <;> rintro c ⟨⟩ <;> rfl
  have point {width n : Nat} (small : n < 10 ^ width) (positive : 0 < width) (narrow : width ≤ 9) :
      takeFraction ('.' :: (padded width n ++ offsetChars offset)) =
        some (n * 10 ^ (9 - width), offsetChars offset) := by
    have read := takeNumber_padded (offsetChars offset) small positive narrow (.inr mark)
    have length := length_padded small positive
    have kept : (offsetChars offset).dropWhile (fun c => (digit? c).isSome) = offsetChars offset := by
      cases offset <;> rfl
    simp only [takeFraction, read, Option.bind_eq_bind, Option.bind_some, kept]
    simp [length]
  unfold fractionChars
  split
  next none =>
    subst none
    cases offset <;> rfl
  split
  next millis =>
    rw [List.cons_append, point (by omega) (by decide) (by decide)]
    simp; omega
  split
  next micros =>
    rw [List.cons_append, point (by omega) (by decide) (by decide)]
    simp; omega
  next nanos =>
    rw [List.cons_append, point (by omega) (by decide) (by decide)]
    simp

theorem takeOffset_offsetChars (offset : Offset) :
    takeOffset (trimStart (offsetChars offset)) = some (0, []) := by
  cases offset <;> rfl

theorem takeMark_hyphen (rest : List Char) : takeMark '-' ('-' :: rest) = some rest := rfl

theorem takeMark_colon (rest : List Char) : takeMark ':' (':' :: rest) = some rest := rfl

theorem takeDateEnd_letter (rest : List Char) : takeDateEnd ('T' :: rest) = some rest := rfl

/-! ## The whole text -/

theorem daysInMonth_le (year : Int) (month : Nat) : daysInMonth year month ≤ 31 := by
  unfold daysInMonth
  split
  · split <;> decide
  all_goals decide

theorem readCivil_chars {c : Civil} (valid : c.Valid) (offset : Offset) :
    readCivil
      (yearChars c.year ++ '-' :: padded 2 c.month ++ '-' :: padded 2 c.day ++
        'T' :: padded 2 c.hour ++ ':' :: padded 2 c.minute ++ ':' :: padded 2 c.second ++
        fractionChars c.nano ++ offsetChars offset) = some (c, 0) := by
  obtain ⟨-, -, -, month, -, day, hour, minute, second, nano⟩ := valid
  have days := daysInMonth_le c.year c.month
  have month : c.month < 100 := by omega
  have day : c.day < 100 := by omega
  have hour : c.hour < 100 := by omega
  have minute : c.minute < 100 := by omega
  have second : c.second < 100 := by omega
  have next {α β : Type} {read : Option α} {a : α} {later : α → Option β} {b : β}
      (found : read = some a) (rest : later a = some b) : (read >>= later) = some b := by
    rw [found]
    exact rest
  simp only [List.append_assoc, List.cons_append]
  exact next (takeYear_yearChars c.year _) <| next (takeMark_hyphen _) <|
    next (takeField_padded month _) <| next (takeMark_hyphen _) <|
    next (takeField_padded day _) <| next (takeDateEnd_letter _) <|
    next (takeField_padded hour _) <| next (takeMark_colon _) <|
    next (takeField_padded minute _) <| next (takeMark_colon _) <|
    next (takeField_padded second _) <| next (takeFraction_fractionChars nano offset) <|
    next (takeOffset_offsetChars offset) rfl

/-- A clock that is not ahead shows UTC. -/
theorem toUtc_zero {c : Civil} (valid : c.Valid) : c.toUtc 0 = c := by
  obtain ⟨-, -, -, -, -, -, hour, minute, -, -⟩ := valid
  have minutes : (c.hour * 60 + c.minute - 0 : Int).toNat = c.hour * 60 + c.minute := by omega
  unfold Civil.toUtc
  simp only [minutes]
  rw [if_neg (by omega), if_pos (by omega)]
  have hours : (c.hour * 60 + c.minute) / 60 = c.hour := by omega
  have rest : (c.hour * 60 + c.minute) % 60 = c.minute := by omega
  rw [hours, rest]

/-- **What is read is what was written.** -/
theorem read?_render (offset : Offset) (t : Timestamp) : read? (t.render offset) = some t := by
  obtain ⟨c, valid⟩ := t
  have ahead : c.Valid ∧ (0 : Int).natAbs < 1440 := ⟨valid, by decide⟩
  unfold read? render
  simp only [String.toList_ofList, readCivil_chars valid offset, Option.bind_eq_bind,
    Option.bind_some, if_pos ahead, toUtc_zero valid, ofCivil?, dif_pos valid]

end Timestamp

end InventorySync.Time
