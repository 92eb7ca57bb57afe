/-
# Proofs.Compact — the compact text of a value is a text of its tree

What is written of a value follows the grammar: an integer has no zero in front, a character of a
string is written as itself or as an escape that stands for it, and no blanks stand anywhere. So
the text reads back as the value's tree (`ofString_compact`). Decimals are left out, and integers
that no word holds: no record has them (`Json.Plain`).
-/
import InventorySync.Proofs.Grammar

namespace InventorySync

set_option autoImplicit false

open Numeral Document

/-- No decimals, and no integers beyond the words of 64 bits. -/
inductive Json.Plain : Json → Prop
  | null : Plain .null
  | bool (b : Bool) : Plain (.bool b)
  | int {n : Int} (small : n.natAbs < wordLimit 64) : Plain (.int n)
  | str (s : String) : Plain (.str s)
  | arr {items : List Json} (plain : ∀ j ∈ items, Plain j) : Plain (.arr items)
  | obj {members : List (String × Json)} (plain : ∀ m ∈ members, Plain m.2) : Plain (.obj members)

namespace Document

/-! ## Integers -/

theorem digits_decimal (n : Nat) : Digits (decimal n) where
  filled := Nat.toDigits_ne_nil
  digits c member := by
    have padding : padded 0 n = decimal n := by simp [padded]
    exact digit_of_mem_padded (padding ▸ member)

theorem digitsValue_decimal (n : Nat) : digitsValue (decimal n) = n := by
  have value := value_padded 0 n
  rwa [padded, Nat.zero_sub, List.replicate_zero, List.nil_append] at value

theorem eq_zero_of_digitChar : ∀ n < 10, [Nat.digitChar n].head? = some '0' → n = 0 := by decide

/-- Only zero begins with a zero. -/
theorem eq_zero_of_head?_decimal (n : Nat) (zero : (decimal n).head? = some '0') : n = 0 := by
  induction n using Nat.strongRecOn with
  | ind n ih =>
      rw [decimal, Nat.toDigits_eq_if (by decide)] at zero
      split at zero
      next small => exact eq_zero_of_digitChar n small zero
      next large =>
        have first : (decimal (n / 10)).head? = some '0' := by
          rwa [List.head?_append_of_ne_nil _ Nat.toDigits_ne_nil] at zero
        have := ih (n / 10) (by omega) first
        omega

theorem isFinite_of_small {n : Nat} (small : n < wordLimit 64) : isFinite n 0 = true := by
  have short : (decimal n).length ≤ 20 :=
    (Nat.length_toDigits_le_iff (by decide) (by decide)).2 (small.trans (by decide))
  unfold isFinite
  split
  · rfl
  · rw [if_neg (by omega), if_pos (by omega)]

theorem ofNumber_decimal {n : Nat} (negative : Bool) (small : n < wordLimit 64)
    (signed : negative = true → n ≠ 0) :
    ofNumber negative (decimal n) [] none = .int (if negative then -(n : Int) else n) := by
  have finite := isFinite_of_small small
  have noZero : (negative && n == 0) = false := by
    cases negative with
    | false => rfl
    | true => simpa using signed rfl
  simp [ofNumber, digitsValue_decimal, finite, noZero]

theorem numberText_decimal {n : Nat} (negative : Bool) (small : n < wordLimit 64)
    (signed : negative = true → n ≠ 0) :
    NumberText negative (.int (if negative then -(n : Int) else n)) (decimal n) := by
  have plain : (decimal n).head? = some '0' → (decimal n).length = 1 := by
    intro zero
    rw [eq_zero_of_head?_decimal n zero]
    rfl
  have text : NumberText negative (ofNumber negative (decimal n) [] none)
      (decimal n ++ ([] ++ [])) :=
    .intro (digits_decimal n) plain .none .none
  rwa [ofNumber_decimal negative small signed, List.append_nil, List.append_nil] at text

theorem valueText_int {n : Int} (small : n.natAbs < wordLimit 64) :
    ValueText (.int n) (Json.intChars n) := by
  unfold Json.intChars
  split
  next below =>
    have text := numberText_decimal true small (by omega)
    have value : -(n.natAbs : Int) = n := by omega
    rw [if_pos rfl, value] at text
    exact .negative text
  next above =>
    have text := numberText_decimal false small nofun
    have value : (n.natAbs : Int) = n := by omega
    rw [if_neg nofun, value] at text
    exact .number text

/-! ## Strings -/

theorem hexValue?_digitChar : ∀ d < 16, hexValue? (Nat.digitChar d) = some d := by decide

/-- What is written of a character stands for it. -/
theorem exists_mark (c : Char) {marks : List Mark} {cs : List Char} (later : MarksText marks cs) :
    ∃ mark : Mark, (∀ st, mark.feed st = st.push c) ∧
      MarksText (mark :: marks) (Json.escapeChar c ++ cs) := by
  have escaped {letter d : Char} (known : escaped? letter = some d) (same : c = d) :
      ∃ mark : Mark, (∀ st, mark.feed st = st.push c) ∧
        MarksText (mark :: marks) (['\\', letter] ++ cs) :=
    ⟨.char d, fun _ => same ▸ rfl, .escaped known later⟩
  have ofCode {n : Nat} (code : c.toNat = n) : c = Char.ofNat n := by
    rw [← code, Char.ofNat_toNat]
  unfold Json.escapeChar
  split
  next quote => exact escaped rfl quote
  split
  next backslash => exact escaped rfl backslash
  split
  next newline => exact escaped rfl newline
  split
  next carriage => exact escaped rfl carriage
  split
  next tab => exact escaped rfl tab
  split
  next back => exact escaped rfl (ofCode back)
  split
  next feed => exact escaped rfl (ofCode feed)
  split
  next control =>
    have high := hexValue?_digitChar (c.toNat / 16) (by omega)
    have low := hexValue?_digitChar (c.toNat % 16) (by omega)
    refine ⟨_, fun st => ?_, .unit (show hexValue? '0' = some 0 from rfl)
      (show hexValue? '0' = some 0 from rfl) high low later⟩
    have code : ((0 * 16 + 0) * 16 + c.toNat / 16) * 16 + c.toNat % 16 = c.toNat := by omega
    rw [code, Mark.feed, StringState.pushUnit, if_neg (by omega), if_neg (by omega),
      Char.ofNat_toNat]
  next noQuote noEscape _ _ _ _ _ noControl =>
    exact ⟨.char c, fun _ => rfl, .char noQuote noEscape noControl later⟩

theorem exists_marks (cs : List Char) :
    ∃ marks, MarksText marks (cs.flatMap Json.escapeChar) ∧
      ∀ st, marks.foldl Mark.feed st = cs.foldl StringState.push st := by
  induction cs with
  | nil => exact ⟨[], .nil, fun _ => rfl⟩
  | cons c cs ih =>
      obtain ⟨marks, later, feeds⟩ := ih
      obtain ⟨mark, feed, text⟩ := exists_mark c later
      refine ⟨mark :: marks, text, fun st => ?_⟩
      rw [List.foldl_cons, List.foldl_cons, feed, feeds]

theorem foldl_push (cs text : List Char) :
    cs.foldl StringState.push ⟨text, none, false⟩ = ⟨cs.reverse ++ text, none, false⟩ := by
  induction cs generalizing text with
  | nil => rfl
  | cons c cs ih =>
      rw [List.foldl_cons, List.reverse_cons, List.append_assoc]
      exact ih (c :: text)

theorem stringText_escaped (s : String) :
    StringText (some s) (s.toList.flatMap Json.escapeChar ++ ['"']) := by
  obtain ⟨marks, text, feeds⟩ := exists_marks s.toList
  have value : Mark.value? marks = some s := by
    rw [Mark.value?, feeds, StringState.start, foldl_push]
    simp [StringState.result, StringState.settle]
  exact value ▸ .intro text

/-! ## Whole texts -/

theorem PaddedText.bare {d : Document} {cs : List Char} (text : ValueText d cs) :
    PaddedText d cs := by
  have padded : PaddedText d ([] ++ (cs ++ [])) := .intro nofun text nofun
  rwa [List.append_nil] at padded

theorem NameText.bare {name : Option String} {cs : List Char} (text : StringText name cs) :
    NameText name ('"' :: cs) := by
  have padded : NameText name ([] ++ '"' :: (cs ++ [])) := .intro nofun text nofun
  rwa [List.append_nil] at padded

mutual

/-- The compact text of a value is a text of its tree. -/
theorem valueText_chars : ∀ j : Json, j.Plain → ValueText (ofJson j) j.chars
  | .null, _ => .wordNull
  | .bool true, _ => .wordTrue
  | .bool false, _ => .wordFalse
  | .int _, .int small => valueText_int small
  | .str s, _ => .string (stringText_escaped s)
  | .arr [], _ => @ValueText.noItems [] nofun
  | .arr (j :: rest), .arr plain => .items (itemsText_chars (j :: rest) nofun plain)
  | .obj [], _ => @ValueText.noMembers [] nofun
  | .obj (m :: rest), .obj plain => .members (membersText_chars (m :: rest) nofun plain)

theorem itemsText_chars : ∀ items : List Json, items ≠ [] → (∀ j ∈ items, j.Plain) →
    ItemsText (ofItems items) (Json.itemChars items)
  | [j], _, plain => .last (.bare (valueText_chars j (plain j List.mem_cons_self)))
  | j :: k :: rest, _, plain =>
    .next (.bare (valueText_chars j (plain j List.mem_cons_self)))
      (itemsText_chars (k :: rest) nofun fun l member => plain l (List.mem_cons_of_mem _ member))

theorem membersText_chars : ∀ members : List (String × Json), members ≠ [] →
    (∀ m ∈ members, m.2.Plain) → MembersText (ofMembers members) (Json.memberChars members)
  | [(name, j)], _, plain =>
    .last (.bare (stringText_escaped name))
      (.bare (valueText_chars j (plain (name, j) List.mem_cons_self)))
  | (name, j) :: m :: rest, _, plain =>
    .next (.bare (stringText_escaped name))
      (.bare (valueText_chars j (plain (name, j) List.mem_cons_self)))
      (membersText_chars (m :: rest) nofun fun l member => plain l (List.mem_cons_of_mem _ member))

end

theorem isText_compact {j : Json} (plain : j.Plain) : IsText j.compact (ofJson j) := by
  rw [IsText, Json.compact, String.toList_ofList]
  exact .bare (valueText_chars j plain)

/-- **A compact text reads back as the tree of its value.** -/
theorem ofString_compact {j : Json} (plain : j.Plain) : ofString j.compact = (ofJson j, true) :=
  ofString_of_isText (isText_compact plain)

end Document

end InventorySync
