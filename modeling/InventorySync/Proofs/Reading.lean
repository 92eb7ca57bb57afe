/-
# Proofs.Reading — what is read to its end is a text of the grammar

The other half of the grammar: the reader goes on to what follows a token only after it has met
the whole token, so a reading with a rest has a text of its tree in front of that rest
(`exists_of_readValue`). The induction is on the fuel, which every call lowers.

`ofString_eq_iff_isText`: the texts that are read as a tree, and as complete, are the texts of the
tree.
-/
import InventorySync.Proofs.Grammar

namespace InventorySync.Document

set_option autoImplicit false

open InventorySync.Numeral

/-! ## Blanks and words -/

/-- What is skipped is blank. -/
theorem exists_blank (s : List Char) : ∃ blank, Blank blank ∧ s = blank ++ skipSpace s :=
  ⟨s.takeWhile isSpace, fun _ member => List.mem_takeWhile_imp member,
    (List.takeWhile_append_dropWhile ..).symm⟩

theorem Blank.append {blank more : List Char} (blanks : Blank blank) (later : Blank more) :
    Blank (blank ++ more) := List.forall_mem_append.2 ⟨blanks, later⟩

theorem PaddedText.blank_append {d : Document} {blank cs : List Char} (blanks : Blank blank)
    (text : PaddedText d cs) : PaddedText d (blank ++ cs) := by
  obtain ⟨before, inner, after⟩ := text
  rw [← List.append_assoc]
  exact .intro (blanks.append before) inner after

theorem NameText.blank_append {name : Option String} {blank cs : List Char} (blanks : Blank blank)
    (text : NameText name cs) : NameText name (blank ++ cs) := by
  obtain ⟨before, inner, after⟩ := text
  rw [← List.append_assoc]
  exact .intro (blanks.append before) inner after

theorem ItemsText.blank_append {items : List Document} {blank cs : List Char}
    (blanks : Blank blank) (text : ItemsText items cs) : ItemsText items (blank ++ cs) := by
  cases text with
  | last text =>
      rw [← List.append_assoc]
      exact .last (text.blank_append blanks)
  | next text later =>
      rw [← List.append_assoc]
      exact .next (text.blank_append blanks) later

theorem MembersText.blank_append {members : List (Option String × Document)} {blank cs : List Char}
    (blanks : Blank blank) (text : MembersText members cs) : MembersText members (blank ++ cs) := by
  cases text with
  | last named text =>
      rw [← List.append_assoc]
      exact .last (named.blank_append blanks) text
  | next named text later =>
      rw [← List.append_assoc]
      exact .next (named.blank_append blanks) text later

theorem eq_append_of_afterWord {word s rest : List Char} (read : afterWord word s = some rest) :
    s = word ++ rest := by
  induction word generalizing s with
  | nil => simpa [afterWord] using read
  | cons w word ih =>
      cases s with
      | nil => simp [afterWord] at read
      | cons c s =>
          by_cases same : w = c
          · rw [afterWord, if_pos same] at read
            rw [same, ih read, List.cons_append]
          · simp [afterWord, same] at read

theorem eq_append_of_readWord {word : String} {value d : Document} {s rest : List Char}
    (read : readWord word value s = (d, some rest)) : d = value ∧ s = word.toList ++ rest := by
  unfold readWord at read
  split at read
  next after found =>
    cases read
    exact ⟨rfl, eq_append_of_afterWord found⟩
  next => cases read

/-! ## Numbers -/

theorem digits_takeDigits {s : List Char} (filled : (takeDigits s).1 ≠ []) :
    Digits (takeDigits s).1 :=
  ⟨filled, fun _ member => List.mem_takeWhile_imp (p := fun c => (digit? c).isSome) member⟩

theorem takeDigits_append_rest (s : List Char) : (takeDigits s).1 ++ (takeDigits s).2 = s :=
  List.takeWhile_append_dropWhile ..

theorem exists_of_readFraction {s part rest : List Char}
    (read : readFraction s = some (part, rest)) :
    ∃ fraction, FractionText part fraction ∧ s = fraction ++ rest := by
  unfold readFraction at read
  split at read
  next after =>
    by_cases empty : (takeDigits after).1 = []
    · simp [empty] at read
    · simp only [List.isEmpty_iff, empty, if_false, Option.some.injEq, Prod.mk.injEq] at read
      obtain ⟨rfl, rfl⟩ := read
      refine ⟨'.' :: (takeDigits after).1, .some (digits_takeDigits empty), ?_⟩
      rw [List.cons_append, takeDigits_append_rest]
  next =>
    cases read
    exact ⟨[], .none, rfl⟩

theorem exists_of_readPower {s rest : List Char} {power : Option Int}
    (read : readPower s = some (power, rest)) :
    ∃ exponent, PowerText power exponent ∧ s = exponent ++ rest := by
  have signed {sign : Int} {letter : Char} {mark after : List Char}
      (isLetter : letter = 'e' ∨ letter = 'E') (signs : SignText sign mark)
      (read : (if (takeDigits after).1.isEmpty then none else
        some (some (sign * (digitsValue (takeDigits after).1 : Int)), (takeDigits after).2)) =
          some (power, rest)) :
      ∃ exponent, PowerText power exponent ∧ letter :: (mark ++ after) = exponent ++ rest := by
    by_cases empty : (takeDigits after).1 = []
    · simp [empty] at read
    · simp only [List.isEmpty_iff, empty, if_false, Option.some.injEq, Prod.mk.injEq] at read
      obtain ⟨rfl, rfl⟩ := read
      refine ⟨_, .some isLetter signs (digits_takeDigits empty), ?_⟩
      rw [List.cons_append, List.append_assoc, takeDigits_append_rest]
  unfold readPower at read
  simp only at read
  split at read
  · split at read
    · exact signed (.inl rfl) .plus read
    · exact signed (.inl rfl) .minus read
    · exact signed (.inl rfl) .none read
  · split at read
    · exact signed (.inr rfl) .plus read
    · exact signed (.inr rfl) .minus read
    · exact signed (.inr rfl) .none read
  · cases read
    exact ⟨[], .none, rfl⟩

theorem exists_of_readNumber {negative : Bool} {s rest : List Char} {d : Document}
    (read : readNumber negative s = (d, some rest)) :
    ∃ cs, NumberText negative d cs ∧ s = cs ++ rest := by
  unfold readNumber at read
  simp only at read
  split at read
  · cases read
  next plain =>
    split at read
    · cases read
    next part afterPart fractional =>
      split at read
      · cases read
      next power afterPower scaled =>
        cases read
        simp only [Bool.or_eq_true, List.isEmpty_iff, Bool.and_eq_true, beq_iff_eq,
          decide_eq_true_eq, not_or, not_and] at plain
        obtain ⟨filled, single⟩ := plain
        obtain ⟨fraction, fractionText, afterWhole⟩ := exists_of_readFraction fractional
        obtain ⟨exponent, powerText, afterFraction⟩ := exists_of_readPower scaled
        have short (zero : (takeDigits s).1.head? = some '0') : (takeDigits s).1.length = 1 := by
          have := single zero
          have := List.length_pos_iff.2 filled
          omega
        refine ⟨_, .intro (digits_takeDigits filled) short fractionText powerText, ?_⟩
        rw [List.append_assoc, List.append_assoc, ← afterFraction, ← afterWhole,
          takeDigits_append_rest]

/-! ## Strings -/

section Escapes

variable {st : StringState} {s : List Char} {r : Option String × List Char}

theorem exists_of_readStringFrom_unit {left value : Nat}
    (read : readStringFrom st (.unit left value) s = some r) :
    ∃ c x after, s = c :: after ∧ hexValue? c = some x ∧
      (if left ≤ 1 then readStringFrom (st.pushUnit (value * 16 + x)) .none after
        else readStringFrom st (.unit (left - 1) (value * 16 + x)) after) = some r := by
  cases s with
  | nil => cases read
  | cons c after =>
      rw [readStringFrom] at read
      split at read
      · cases read
      next x known => exact ⟨c, x, after, rfl, known, read⟩

/-- After a backslash stands a letter that is known, or a code unit in four digits. -/
theorem exists_of_readStringFrom_backslash (read : readStringFrom st .backslash s = some r) :
    ∃ (mark : Mark) (front after : List Char),
      s = front ++ after ∧ readStringFrom (mark.feed st) .none after = some r ∧
        ∀ {marks cs}, MarksText marks cs → MarksText (mark :: marks) ('\\' :: (front ++ cs)) := by
  cases s with
  | nil => cases read
  | cons c s =>
      rw [readStringFrom] at read
      split at read
      next isUnit =>
        obtain ⟨a, x, s, rfl, first, read⟩ := exists_of_readStringFrom_unit read
        obtain ⟨b, y, s, rfl, second, read⟩ := exists_of_readStringFrom_unit read
        obtain ⟨c, z, s, rfl, third, read⟩ := exists_of_readStringFrom_unit read
        obtain ⟨d, w, s, rfl, fourth, read⟩ := exists_of_readStringFrom_unit read
        rw [Nat.zero_mul, Nat.zero_add] at read
        exact ⟨.unit _, ['u', a, b, c, d], s, by rw [isUnit]; rfl, read,
          fun later => .unit first second third fourth later⟩
      next =>
        split at read
        next d known => exact ⟨.char d, [c], s, rfl, read, fun later => .escaped known later⟩
        next => cases read

end Escapes

/-- A string that was read has a text. -/
theorem exists_of_readStringFrom {s rest : List Char} {st : StringState} {name : Option String}
    (read : readStringFrom st .none s = some (name, rest)) :
    ∃ marks cs, MarksText marks cs ∧ s = cs ++ '"' :: rest ∧
      name = (marks.foldl Mark.feed st).result := by
  cases s with
  | nil => cases read
  | cons c s =>
      rw [readStringFrom] at read
      split at read
      next quote =>
        cases read
        exact ⟨[], [], .nil, by rw [quote, List.nil_append], rfl⟩
      next noQuote =>
        split at read
        next backslash =>
          obtain ⟨mark, front, after, rfl, read, text⟩ := exists_of_readStringFrom_backslash read
          obtain ⟨marks, cs, later, rfl, rfl⟩ := exists_of_readStringFrom read
          refine ⟨_, _, text later, ?_, rfl⟩
          rw [backslash, List.cons_append, List.append_assoc]
        next noEscape =>
          split at read
          · cases read
          next noControl =>
            obtain ⟨marks, cs, later, rfl, rfl⟩ := exists_of_readStringFrom read
            exact ⟨_, _, .char noQuote noEscape noControl later, rfl, rfl⟩
termination_by s.length

theorem exists_stringText {s rest : List Char} {name : Option String}
    (read : readStringFrom .start .none s = some (name, rest)) :
    ∃ cs, StringText name cs ∧ s = cs ++ rest := by
  obtain ⟨marks, cs, text, rfl, rfl⟩ := exists_of_readStringFrom read
  refine ⟨_, .intro text, ?_⟩
  rw [List.append_assoc]
  rfl

theorem exists_of_readString {s rest : List Char} {d : Document}
    (read : readString s = (d, some rest)) :
    ∃ name cs, StringText name cs ∧ s = cs ++ rest ∧ d = ofText name := by
  unfold readString at read
  split at read
  next text after reads =>
    cases read
    obtain ⟨cs, isText, same⟩ := exists_stringText reads
    exact ⟨_, cs, isText, same, rfl⟩
  next after reads =>
    cases read
    obtain ⟨cs, isText, same⟩ := exists_stringText reads
    exact ⟨_, cs, isText, same, rfl⟩
  next => cases read

/-! ## Values -/

/-- The blanks around a value are part of its text. -/
theorem exists_padded {d : Document} {s cs after : List Char} (text : ValueText d cs)
    (front : skipSpace s = cs ++ after) :
    ∃ padded, PaddedText d padded ∧ s = padded ++ skipSpace after := by
  obtain ⟨before, blankBefore, start⟩ := exists_blank s
  obtain ⟨blank, blanks, same⟩ := exists_blank after
  refine ⟨_, .intro blankBefore text blanks, ?_⟩
  rw [List.append_assoc, List.append_assoc, ← same, ← front]
  exact start

mutual

/-- In front of the rest stands a text of the value. -/
theorem exists_of_readValue : ∀ {fuel : Nat} {s rest : List Char} {d : Document},
    readValue fuel s = (d, some rest) → ∃ cs, ValueText d cs ∧ skipSpace s = cs ++ rest
  | 0, _, _, _, read => by cases read
  | fuel + 1, s, rest, d, read => by
      unfold readValue at read
      split at read
      next after brace =>
        obtain ⟨blank, blanks, same⟩ := exists_blank after
        rcases taken : readMembers fuel true after with ⟨members, ending, tail⟩
        rw [taken] at read
        cases read
        obtain ⟨rfl, ⟨rfl, close⟩ | ⟨cs, text, opened⟩⟩ := exists_of_readMembers taken
        · exact ⟨_, .noMembers blanks, by rw [brace, same, close]; simp⟩
        · exact ⟨_, .members (text.blank_append blanks), by rw [brace, same, opened]; simp⟩
      next after bracket =>
        obtain ⟨blank, blanks, same⟩ := exists_blank after
        rcases taken : readItems fuel true after with ⟨items, tail⟩
        rw [taken] at read
        cases read
        obtain ⟨rfl, close⟩ | ⟨cs, text, opened⟩ := exists_of_readItems taken
        · exact ⟨_, .noItems blanks, by rw [bracket, same, close]; simp⟩
        · exact ⟨_, .items (text.blank_append blanks), by rw [bracket, same, opened]; simp⟩
      next after quote =>
        obtain ⟨name, cs, text, rfl, rfl⟩ := exists_of_readString read
        exact ⟨_, .string text, quote⟩
      next after letter =>
        obtain ⟨rfl, rfl⟩ := eq_append_of_readWord read
        exact ⟨_, .wordTrue, letter⟩
      next after letter =>
        obtain ⟨rfl, rfl⟩ := eq_append_of_readWord read
        exact ⟨_, .wordFalse, letter⟩
      next after letter =>
        obtain ⟨rfl, rfl⟩ := eq_append_of_readWord read
        exact ⟨_, .wordNull, letter⟩
      next after minus =>
        obtain ⟨cs, text, rfl⟩ := exists_of_readNumber read
        exact ⟨_, .negative text, minus⟩
      next =>
        obtain ⟨cs, text, same⟩ := exists_of_readNumber read
        exact ⟨cs, .number text, same⟩

theorem exists_of_readItems : ∀ {fuel : Nat} {first : Bool} {s rest : List Char}
    {items : List Document}, readItems fuel first s = (items, some rest) →
      (items = [] ∧ skipSpace s = ']' :: rest) ∨
        ∃ cs, ItemsText items cs ∧ skipSpace s = if first then cs ++ rest else ',' :: (cs ++ rest)
  | 0, _, _, _, _, read => by cases read
  | fuel + 1, first, s, rest, items, read => by
      unfold readItems at read
      split at read
      next after close =>
        cases read
        exact .inl ⟨rfl, close⟩
      next after comma =>
        obtain ⟨blank, blanks, same⟩ := exists_blank after
        split at read
        · cases read
        · obtain ⟨cs, text, opened⟩ := exists_of_readItem read
          refine .inr ⟨_, text.blank_append blanks, ?_⟩
          rw [comma, same, opened]
          simp
      next => cases read
      next => exact .inr (exists_of_readItem read)

theorem exists_of_readItem : ∀ {fuel : Nat} {s rest : List Char} {items : List Document},
    readItem fuel s = (items, some rest) → ∃ cs, ItemsText items cs ∧ s = cs ++ rest
  | 0, _, _, _, read => by cases read
  | fuel + 1, s, rest, items, read => by
      unfold readItem at read
      split at read
      · cases read
      next d after value =>
        obtain ⟨cs, text, front⟩ := exists_of_readValue value
        obtain ⟨padded, isText, rfl⟩ := exists_padded text front
        rcases taken : readItems fuel false after with ⟨items, tail⟩
        rw [taken] at read
        cases read
        obtain ⟨rfl, close⟩ | ⟨more, later, opened⟩ := exists_of_readItems taken
        · exact ⟨_, .last isText, by simp [close]⟩
        · exact ⟨_, .next isText later, by simp [opened]⟩

theorem exists_of_readMembers : ∀ {fuel : Nat} {first : Bool} {s rest : List Char}
    {members : List (Option String × Document)} {ending : Ending},
    readMembers fuel first s = (members, ending, some rest) → ending = .closed ∧
      ((members = [] ∧ skipSpace s = '}' :: rest) ∨
        ∃ cs, MembersText members cs ∧
          skipSpace s = if first then cs ++ rest else ',' :: (cs ++ rest))
  | 0, _, _, _, _, _, read => by cases read
  | fuel + 1, first, s, rest, members, ending, read => by
      unfold readMembers at read
      split at read
      next after close =>
        cases read
        exact ⟨rfl, .inl ⟨rfl, close⟩⟩
      next after comma =>
        obtain ⟨blank, blanks, same⟩ := exists_blank after
        obtain ⟨rfl, cs, text, opened⟩ := exists_of_readMember read
        refine ⟨rfl, .inr ⟨_, text.blank_append blanks, ?_⟩⟩
        rw [comma, same, opened]
        simp
      next => cases read
      next =>
        obtain ⟨rfl, opened⟩ := exists_of_readMember read
        exact ⟨rfl, .inr opened⟩

theorem exists_of_readMember : ∀ {fuel : Nat} {s rest : List Char}
    {members : List (Option String × Document)} {ending : Ending},
    readMember fuel s = (members, ending, some rest) →
      ending = .closed ∧ ∃ cs, MembersText members cs ∧ s = cs ++ rest
  | 0, _, _, _, _, read => by cases read
  | fuel + 1, s, rest, members, ending, read => by
      unfold readMember at read
      split at read
      next quoted =>
        split at read
        · cases read
        next name afterName named =>
          obtain ⟨key, keyText, rfl⟩ := exists_stringText named
          obtain ⟨blank, blanks, same⟩ := exists_blank afterName
          split at read
          next afterColon colon =>
            split at read
            · cases read
            next d after value =>
              obtain ⟨cs, text, front⟩ := exists_of_readValue value
              obtain ⟨padded, isText, rfl⟩ := exists_padded text front
              rcases taken : readMembers fuel false after with ⟨members, ending, tail⟩
              rw [taken] at read
              cases read
              have nameText : NameText name ([] ++ '"' :: (key ++ blank)) :=
                .intro nofun keyText blanks
              obtain ⟨rfl, ⟨rfl, close⟩ | ⟨more, later, opened⟩⟩ := exists_of_readMembers taken
              · refine ⟨rfl, _, .last nameText isText, ?_⟩
                rw [same, colon, close]
                simp
              · refine ⟨rfl, _, .next nameText isText later, ?_⟩
                rw [same, colon, opened]
                simp
          next => cases read
      next =>
        split at read <;> cases read

end

/-- A text that is read as complete is a text of its tree. -/
theorem isText_of_ofString {text : String} {d : Document} (read : ofString text = (d, true)) :
    IsText text d := by
  unfold ofString ofChars at read
  split at read
  next e after value =>
    simp only [Prod.mk.injEq, List.isEmpty_iff] at read
    obtain ⟨rfl, ended⟩ := read
    obtain ⟨cs, isValue, front⟩ := exists_of_readValue value
    obtain ⟨padded, isText, same⟩ := exists_padded isValue front
    rw [ended, List.append_nil] at same
    rw [IsText, same]
    exact isText
  next => cases read

/-- **The texts that are read as a tree, and as complete, are the texts of the tree.** -/
theorem ofString_eq_iff_isText {text : String} {d : Document} :
    ofString text = (d, true) ↔ IsText text d :=
  ⟨isText_of_ofString, ofString_of_isText⟩

end InventorySync.Document
