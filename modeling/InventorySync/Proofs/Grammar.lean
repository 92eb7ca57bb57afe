/-
# Proofs.Grammar — the texts of a tree, and that each of them is read as that tree

The grammar of JSON, as a relation between a text and the tree of what stands in it: words,
numbers with a fraction and an exponent, strings with escapes, and arrays and objects with blanks
between their tokens. A number or a string of the grammar need not stand for a value; its tree
says so.

The reader goes over a text once, from left to right, so what is proved of a part of the grammar
quantifies over what follows it. Only a number could be continued by what follows (`Delimited`).
The fuel is bounded by the length of the part alone (`readValue_append`).

`ofString_of_isText`: every text of a tree is read as that tree, and as complete.
-/
import InventorySync.Json.Reader
import InventorySync.Proofs.Timestamp
import Mathlib.Data.List.DropRight

namespace InventorySync.Document

set_option autoImplicit false

open InventorySync.Numeral

/-! ## The grammar of tokens -/

/-- Nothing but blanks. -/
def Blank (cs : List Char) : Prop := ∀ c ∈ cs, isSpace c = true

/-- One digit or more. -/
structure Digits (ds : List Char) : Prop where
  filled : ds ≠ []
  digits : ∀ c ∈ ds, (digit? c).isSome = true

/-- A fraction with its point, or none. -/
inductive FractionText : List Char → List Char → Prop
  | none : FractionText [] []
  | some {ds : List Char} (digits : Digits ds) : FractionText ds ('.' :: ds)

inductive SignText : Int → List Char → Prop
  | none : SignText 1 []
  | plus : SignText 1 ['+']
  | minus : SignText (-1) ['-']

/-- An exponent with its letter, or none. -/
inductive PowerText : Option Int → List Char → Prop
  | none : PowerText none []
  | some {letter : Char} {sign : Int} {mark ds : List Char} (isLetter : letter = 'e' ∨ letter = 'E')
      (signed : SignText sign mark) (digits : Digits ds) :
      PowerText (some (sign * digitsValue ds)) (letter :: (mark ++ ds))

/-- A number after its sign. No zero stands in front of other digits. -/
inductive NumberText (negative : Bool) : Document → List Char → Prop
  | intro {whole part fraction exponent : List Char} {power : Option Int} (digits : Digits whole)
      (plain : whole.head? = some '0' → whole.length = 1) (fractional : FractionText part fraction)
      (scaled : PowerText power exponent) :
      NumberText negative (ofNumber negative whole part power) (whole ++ (fraction ++ exponent))

/-- What one part of a string's text stands for. -/
inductive Mark where
  | char (c : Char)
  | unit (n : Nat)

namespace Mark

def feed (st : StringState) : Mark → StringState
  | char c => st.push c
  | unit n => st.pushUnit n

/-- The string that the marks stand for, if no surrogate is left alone. -/
def value? (marks : List Mark) : Option String := (marks.foldl feed .start).result

end Mark

/-- Between the quotes of a string: characters, escaped characters and code units. -/
inductive MarksText : List Mark → List Char → Prop
  | nil : MarksText [] []
  | char {c : Char} {marks : List Mark} {cs : List Char} (noQuote : c ≠ '"') (noEscape : c ≠ '\\')
      (noControl : ¬c.toNat < 32) (later : MarksText marks cs) :
      MarksText (.char c :: marks) (c :: cs)
  | escaped {letter c : Char} {marks : List Mark} {cs : List Char}
      (known : escaped? letter = some c) (later : MarksText marks cs) : MarksText (.char c :: marks) ('\\' :: letter :: cs)
  | unit {a b c d : Char} {x y z w : Nat} {marks : List Mark} {cs : List Char}
      (first : hexValue? a = some x) (second : hexValue? b = some y) (third : hexValue? c = some z)
      (fourth : hexValue? d = some w) (later : MarksText marks cs) :
      MarksText (.unit (((x * 16 + y) * 16 + z) * 16 + w) :: marks)
        ('\\' :: 'u' :: a :: b :: c :: d :: cs)

/-- A string after its first quote. -/
inductive StringText : Option String → List Char → Prop
  | intro {marks : List Mark} {cs : List Char} (marked : MarksText marks cs) :
      StringText (Mark.value? marks) (cs ++ ['"'])

/-- The tree of a string, or of a text that stands for none. -/
def ofText : Option String → Document
  | some s => .str s
  | none => .unusable

/-- The name of a member, with blanks around it. -/
inductive NameText : Option String → List Char → Prop
  | intro {name : Option String} {before cs after : List Char} (blankBefore : Blank before)
      (text : StringText name cs) (blankAfter : Blank after) :
      NameText name (before ++ '"' :: (cs ++ after))

/-! ## The grammar of values -/

mutual

inductive ValueText : Document → List Char → Prop
  | wordNull : ValueText .null ['n', 'u', 'l', 'l']
  | wordTrue : ValueText (.bool true) ['t', 'r', 'u', 'e']
  | wordFalse : ValueText (.bool false) ['f', 'a', 'l', 's', 'e']
  | number {d : Document} {cs : List Char} (text : NumberText false d cs) : ValueText d cs
  | negative {d : Document} {cs : List Char} (text : NumberText true d cs) : ValueText d ('-' :: cs)
  | string {s : Option String} {cs : List Char} (text : StringText s cs) :
      ValueText (ofText s) ('"' :: cs)
  | noItems {blank : List Char} (blanks : Blank blank) :
      ValueText (.arr [] true) ('[' :: (blank ++ [']']))
  | items {items : List Document} {cs : List Char} (text : ItemsText items cs) :
      ValueText (.arr items true) ('[' :: cs)
  | noMembers {blank : List Char} (blanks : Blank blank) :
      ValueText (.obj [] .closed) ('{' :: (blank ++ ['}']))
  | members {members : List (Option String × Document)} {cs : List Char}
      (text : MembersText members cs) : ValueText (.obj members .closed) ('{' :: cs)

/-- A value with blanks around it. -/
inductive PaddedText : Document → List Char → Prop
  | intro {d : Document} {before cs after : List Char} (blankBefore : Blank before)
      (text : ValueText d cs) (blankAfter : Blank after) : PaddedText d (before ++ (cs ++ after))

/-- One item or more, up to the closing bracket. -/
inductive ItemsText : List Document → List Char → Prop
  | last {d : Document} {cs : List Char} (text : PaddedText d cs) : ItemsText [d] (cs ++ [']'])
  | next {d : Document} {items : List Document} {cs more : List Char} (text : PaddedText d cs)
      (later : ItemsText items more) : ItemsText (d :: items) (cs ++ ',' :: more)

/-- One member or more, up to the closing brace. -/
inductive MembersText : List (Option String × Document) → List Char → Prop
  | last {name : Option String} {d : Document} {key cs : List Char} (named : NameText name key)
      (text : PaddedText d cs) : MembersText [(name, d)] (key ++ ':' :: (cs ++ ['}']))
  | next {name : Option String} {d : Document} {members : List (Option String × Document)}
      {key cs more : List Char} (named : NameText name key) (text : PaddedText d cs)
      (later : MembersText members more) :
      MembersText ((name, d) :: members) (key ++ ':' :: (cs ++ ',' :: more))

end

/-- The text is one of the tree. -/
def IsText (text : String) (d : Document) : Prop := PaddedText d text.toList

/-! ## Trees of texts -/

theorem isWhole_ofNumber (negative : Bool) (whole part : List Char) (power : Option Int) :
    (ofNumber negative whole part power).isWhole = true := by
  simp only [ofNumber]
  split
  · rfl
  · split <;> rfl

theorem isWhole_ofText (s : Option String) : (ofText s).isWhole = true := by
  cases s <;> rfl

mutual

/-- A tree that has a text is whole. -/
theorem ValueText.isWhole : ∀ {d : Document} {cs : List Char}, ValueText d cs → d.isWhole = true
  | _, _, .wordNull => rfl
  | _, _, .wordTrue => rfl
  | _, _, .wordFalse => rfl
  | _, _, .number (.intro _ _ _ _) => isWhole_ofNumber ..
  | _, _, .negative (.intro _ _ _ _) => isWhole_ofNumber ..
  | _, _, .string _ => isWhole_ofText _
  | _, _, .noItems _ => rfl
  | _, _, .items text => text.wholeItems
  | _, _, .noMembers _ => rfl
  | _, _, .members text => text.wholeMembers

theorem PaddedText.isWhole : ∀ {d : Document} {cs : List Char}, PaddedText d cs → d.isWhole = true
  | _, _, .intro _ text _ => text.isWhole

theorem ItemsText.wholeItems : ∀ {items : List Document} {cs : List Char}, ItemsText items cs →
    wholeItems items = true
  | _, _, .last text => Bool.and_eq_true_iff.2 ⟨text.isWhole, rfl⟩
  | _, _, .next text later => Bool.and_eq_true_iff.2 ⟨text.isWhole, later.wholeItems⟩

theorem MembersText.wholeMembers : ∀ {members : List (Option String × Document)} {cs : List Char},
    MembersText members cs → wholeMembers members = true
  | _, _, .last _ text => Bool.and_eq_true_iff.2 ⟨text.isWhole, rfl⟩
  | _, _, .next _ text later => Bool.and_eq_true_iff.2 ⟨text.isWhole, later.wholeMembers⟩

end

/-! ## Blanks -/

theorem skipSpace_append {before : List Char} (blank : Blank before) (s : List Char) :
    skipSpace (before ++ s) = skipSpace s := by
  induction before with
  | nil => rfl
  | cons c before ih =>
      rw [List.cons_append, skipSpace, List.dropWhile_cons_of_pos (blank c List.mem_cons_self)]
      exact ih fun c member => blank c (List.mem_cons_of_mem _ member)

theorem skipSpace_cons {c : Char} (noSpace : isSpace c = false) (s : List Char) :
    skipSpace (c :: s) = c :: s := List.dropWhile_cons_of_neg (by simp [noSpace])

theorem skipSpace_skipSpace (s : List Char) : skipSpace (skipSpace s) = skipSpace s :=
  List.dropWhile_idempotent isSpace s

/-! ## Numbers -/

/-- What follows does not continue a number. -/
def Delimited (s : List Char) : Prop :=
  ∀ c ∈ s.head?, (digit? c).isSome = false ∧ c ≠ '.' ∧ c ≠ 'e' ∧ c ≠ 'E'

theorem delimited_cons {c : Char} (mark : (digit? c).isSome = false ∧ c ≠ '.' ∧ c ≠ 'e' ∧ c ≠ 'E')
    (s : List Char) : Delimited (c :: s) := by
  rintro _ ⟨⟩
  exact mark

theorem takeDigits_append {ds : List Char} (digits : ∀ c ∈ ds, (digit? c).isSome = true)
    {rest : List Char} (ends : ∀ c ∈ rest.head?, (digit? c).isSome = false) :
    takeDigits (ds ++ rest) = (ds, rest) := by
  have none : rest.takeWhile (fun c => (digit? c).isSome) = [] ∧
      rest.dropWhile (fun c => (digit? c).isSome) = rest := by
    cases rest with
    | nil => exact ⟨rfl, rfl⟩
    | cons c rest => simp [ends c rfl]
  rw [takeDigits, List.takeWhile_append_of_pos digits, List.dropWhile_append_of_pos digits, none.1,
    none.2, List.append_nil]

theorem readFraction_append {part fraction : List Char} (text : FractionText part fraction)
    {rest : List Char} (ends : ∀ c ∈ rest.head?, (digit? c).isSome = false ∧ c ≠ '.') :
    readFraction (fraction ++ rest) = some (part, rest) := by
  cases text with
  | none =>
      cases rest with
      | nil => rfl
      | cons c rest =>
          have noPoint := (ends c rfl).2
          simp [readFraction, noPoint]
  | some digits =>
      have taken := takeDigits_append digits.digits fun c head => (ends c head).1
      simp [readFraction, taken, digits.filled]

theorem readPower_append {power : Option Int} {exponent : List Char}
    (text : PowerText power exponent) {rest : List Char} (ends : Delimited rest) :
    readPower (exponent ++ rest) = some (power, rest) := by
  cases text with
  | none =>
      cases rest with
      | nil => rfl
      | cons c rest =>
          obtain ⟨-, -, small, big⟩ := ends c rfl
          simp [readPower, small, big]
  | some isLetter signed digits =>
      have taken := takeDigits_append digits.digits fun c head => (ends c head).1
      obtain ⟨d, ds, rfl⟩ := List.exists_cons_of_ne_nil digits.filled
      have noPlus : d ≠ '+' := by
        rintro rfl
        exact absurd (digits.digits '+' List.mem_cons_self) (by decide)
      have noMinus : d ≠ '-' := by
        rintro rfl
        exact absurd (digits.digits '-' List.mem_cons_self) (by decide)
      rcases isLetter with rfl | rfl <;> cases signed <;>
        simp_all [readPower]

/-- The letters and points that may come after digits are no digits. -/
theorem head?_power_append {power : Option Int} {exponent : List Char}
    (text : PowerText power exponent) {rest : List Char} (ends : Delimited rest) :
    ∀ c ∈ (exponent ++ rest).head?, (digit? c).isSome = false ∧ c ≠ '.' := by
  cases text with
  | none => exact fun c head => ⟨(ends c head).1, (ends c head).2.1⟩
  | some isLetter _ _ =>
      rintro c ⟨⟩
      rcases isLetter with rfl | rfl <;> decide

theorem head?_fraction_append {part fraction : List Char} (text : FractionText part fraction)
    {rest : List Char} (ends : ∀ c ∈ rest.head?, (digit? c).isSome = false ∧ c ≠ '.') :
    ∀ c ∈ (fraction ++ rest).head?, (digit? c).isSome = false := by
  cases text with
  | none => exact fun c head => (ends c head).1
  | some _ =>
      rintro c ⟨⟩
      rfl

theorem readNumber_append {negative : Bool} {d : Document} {cs : List Char}
    (text : NumberText negative d cs) {rest : List Char} (ends : Delimited rest) :
    readNumber negative (cs ++ rest) = (d, some rest) := by
  obtain ⟨digits, plain, fractional, scaled⟩ := text
  have afterPart := head?_power_append scaled ends
  have afterWhole := head?_fraction_append fractional afterPart
  simp only [List.append_assoc, readNumber, takeDigits_append digits.digits afterWhole,
    readFraction_append fractional afterPart, readPower_append scaled ends]
  refine if_neg ?_
  simp only [Bool.or_eq_true, List.isEmpty_iff, Bool.and_eq_true, beq_iff_eq, decide_eq_true_eq]
  rintro (empty | ⟨zero, long⟩)
  · exact digits.filled empty
  · exact absurd (plain zero) (by omega)

/-! ## Strings -/

theorem readStringFrom_append {marks : List Mark} {cs : List Char} (text : MarksText marks cs)
    (st : StringState) (rest : List Char) :
    readStringFrom st .none (cs ++ '"' :: rest) =
      some ((marks.foldl Mark.feed st).result, rest) := by
  induction text generalizing st with
  | nil => simp [readStringFrom]
  | char noQuote noEscape noControl _ ih =>
      simp [readStringFrom, noQuote, noEscape, noControl, ih, Mark.feed]
  | @escaped letter c marks cs known _ ih =>
      have noUnit : letter ≠ 'u' := by
        rintro rfl
        cases known
      simp [readStringFrom, noUnit, known, ih, Mark.feed]
  | unit first second third fourth _ ih =>
      simp [readStringFrom, first, second, third, fourth, ih, Mark.feed]

theorem readStringFrom_of_text {s : Option String} {cs : List Char} (text : StringText s cs)
    (rest : List Char) : readStringFrom .start .none (cs ++ rest) = some (s, rest) := by
  obtain ⟨marked⟩ := text
  rw [List.append_assoc]
  exact readStringFrom_append marked .start rest

theorem readString_of_text {s : Option String} {cs : List Char} (text : StringText s cs)
    (rest : List Char) : readString (cs ++ rest) = (ofText s, some rest) := by
  rw [readString, readStringFrom_of_text text]
  cases s <;> rfl

/-! ## One call of the reader -/

theorem readValue_skipSpace (fuel : Nat) (s : List Char) :
    readValue fuel (skipSpace s) = readValue fuel s := by
  cases fuel with
  | zero => rfl
  | succ fuel => simp only [readValue, skipSpace_skipSpace]

theorem readItem_skipSpace (fuel : Nat) (s : List Char) :
    readItem fuel (skipSpace s) = readItem fuel s := by
  cases fuel with
  | zero => rfl
  | succ fuel => simp only [readItem, readValue_skipSpace]

theorem readItems_close {s rest : List Char} (close : skipSpace s = ']' :: rest) (fuel : Nat)
    (first : Bool) : readItems (fuel + 1) first s = ([], some rest) := by
  simp [readItems, close]

theorem readItems_first {s : List Char} (more : ∀ rest, skipSpace s ≠ ']' :: rest) (fuel : Nat) :
    readItems (fuel + 1) true s = readItem fuel s := by
  unfold readItems
  split
  next rest close => exact absurd close (more rest)
  next => contradiction
  next => contradiction
  next => exact readItem_skipSpace fuel s

theorem readItems_next {s rest : List Char} (comma : skipSpace s = ',' :: rest)
    (more : ∀ after, skipSpace rest ≠ ']' :: after) (fuel : Nat) :
    readItems (fuel + 1) false s = readItem fuel rest := by
  simp only [readItems, comma]
  exact readItem_skipSpace fuel rest

theorem readMembers_close {s rest : List Char} (close : skipSpace s = '}' :: rest) (fuel : Nat)
    (first : Bool) : readMembers (fuel + 1) first s = ([], .closed, some rest) := by
  simp [readMembers, close]

theorem readMembers_first {s rest : List Char} (quote : skipSpace s = '"' :: rest) (fuel : Nat) :
    readMembers (fuel + 1) true s = readMember fuel ('"' :: rest) := by
  simp [readMembers, quote]

theorem readMembers_next {s rest : List Char} (comma : skipSpace s = ',' :: rest) (fuel : Nat) :
    readMembers (fuel + 1) false s = readMember fuel (skipSpace rest) := by
  simp [readMembers, comma]

/-- A name, its colon, and a value after it. -/
theorem readMember_name {name : Option String} {key : List Char} (named : NameText name key)
    {fuel : Nat} {s tail : List Char} {d : Document} (read : readValue fuel s = (d, some tail)) :
    readMember (fuel + 1) (skipSpace (key ++ ':' :: s)) =
      ((name, d) :: (readMembers fuel false tail).1, (readMembers fuel false tail).2) := by
  cases named with
  | @intro before cs after blankBefore text blankAfter =>
      have quote : skipSpace ((before ++ '"' :: (cs ++ after)) ++ ':' :: s) =
          '"' :: (cs ++ (after ++ ':' :: s)) := by
        rw [List.append_assoc, skipSpace_append blankBefore, List.cons_append, skipSpace_cons rfl,
          List.append_assoc]
      have colon : skipSpace (after ++ ':' :: s) = ':' :: s :=
        (skipSpace_append blankAfter _).trans (skipSpace_cons rfl s)
      simp only [quote, readMember, readStringFrom_of_text text, colon, read]

/-! ## Values -/

/-- How a value may begin. -/
theorem NumberText.head {negative : Bool} {d : Document} {cs : List Char}
    (text : NumberText negative d cs) : ∃ c more, cs = c :: more ∧ (digit? c).isSome = true := by
  obtain ⟨digits, -, -, -⟩ := text
  obtain ⟨c, more, rfl⟩ := List.exists_cons_of_ne_nil digits.filled
  exact ⟨c, _, List.cons_append, digits.digits c List.mem_cons_self⟩

theorem ValueText.head {d : Document} {cs : List Char} (text : ValueText d cs) :
    ∃ c more, cs = c :: more ∧ isSpace c = false ∧ c ≠ ']' := by
  cases text with
  | number text =>
      obtain ⟨c, more, rfl, digit⟩ := text.head
      refine ⟨c, more, rfl, ?_, ?_⟩
      · simp only [isSpace, Bool.or_eq_false_iff, beq_eq_false_iff_ne]
        refine ⟨⟨⟨?_, ?_⟩, ?_⟩, ?_⟩ <;> rintro rfl <;> cases digit
      · rintro rfl
        cases digit
  | _ => exact ⟨_, _, rfl, rfl, by decide⟩

theorem PaddedText.head {d : Document} {cs : List Char} (text : PaddedText d cs)
    (rest : List Char) : ∀ after, skipSpace (cs ++ rest) ≠ ']' :: after := by
  obtain ⟨blankBefore, text, -⟩ := text
  obtain ⟨c, more, rfl, noSpace, noClose⟩ := text.head
  rintro after close
  rw [List.append_assoc, skipSpace_append blankBefore, List.append_assoc, List.cons_append,
    skipSpace_cons noSpace] at close
  exact noClose (List.cons.inj close).1

theorem ItemsText.head {items : List Document} {cs : List Char} (text : ItemsText items cs)
    (rest : List Char) : ∀ after, skipSpace (cs ++ rest) ≠ ']' :: after := by
  cases text with
  | last text => simpa only [List.append_assoc] using text.head _
  | next text _ => simpa only [List.append_assoc] using text.head _

theorem MembersText.head {members : List (Option String × Document)} {cs : List Char}
    (text : MembersText members cs) (rest : List Char) :
    ∃ more, skipSpace (cs ++ rest) = '"' :: more := by
  have quoted {name : Option String} {key : List Char} (named : NameText name key)
      (later : List Char) : ∃ more, skipSpace (key ++ later) = '"' :: more := by
    obtain ⟨blankBefore, -, -⟩ := named
    rw [List.append_assoc, skipSpace_append blankBefore]
    exact ⟨_, skipSpace_cons rfl _⟩
  cases text with
  | last named _ => simpa only [List.append_assoc] using quoted named _
  | next named _ _ => simpa only [List.append_assoc] using quoted named _

theorem delimited_append {after rest : List Char} (blank : Blank after) (ends : Delimited rest) :
    Delimited (after ++ rest) := by
  cases after with
  | nil => exact ends
  | cons c after =>
      refine delimited_cons ?_ _
      have space := blank c List.mem_cons_self
      simp only [isSpace, Bool.or_eq_true, beq_iff_eq] at space
      rcases space with ((rfl | rfl) | rfl) | rfl <;> decide

theorem readValue_number {d : Document} {cs : List Char} (text : NumberText false d cs)
    {rest : List Char} (ends : Delimited rest) (fuel : Nat) :
    readValue (fuel + 1) (cs ++ rest) = (d, some rest) := by
  have read := readNumber_append text ends
  obtain ⟨c, more, rfl, noSpace, -⟩ := (ValueText.number text).head
  obtain ⟨_, _, ⟨⟩, digit⟩ := text.head
  rw [List.cons_append] at read ⊢
  unfold readValue
  rw [skipSpace_cons noSpace]
  split
  case h_8 => exact read
  all_goals
    obtain ⟨rfl, -⟩ := List.cons.inj ‹c :: (more ++ rest) = _›
    cases digit

mutual

/-- A value is read from its text, and what follows it is left. -/
theorem readValue_append : ∀ {d : Document} {cs : List Char}, ValueText d cs →
    ∀ {fuel : Nat} {rest : List Char}, 3 * cs.length ≤ fuel → Delimited rest →
      readValue fuel (cs ++ rest) = (d, some rest)
  | _, _, .wordNull, fuel + 1, rest, _, _ => rfl
  | _, _, .wordTrue, fuel + 1, rest, _, _ => rfl
  | _, _, .wordFalse, fuel + 1, rest, _, _ => rfl
  | _, _, .number text, 0, rest, enough, ends => by
      obtain ⟨c, more, rfl, -⟩ := text.head
      cases enough
  | _, _, .number text, fuel + 1, rest, enough, ends => readValue_number text ends fuel
  | _, _, .negative text, fuel + 1, rest, enough, ends => readNumber_append text ends
  | _, _, .string text, fuel + 1, rest, enough, ends => readString_of_text text rest
  | _, _, @ValueText.noItems blank blanks, fuel + 2, rest, enough, ends => by
      have close : skipSpace (blank ++ ']' :: rest) = ']' :: rest :=
        (skipSpace_append blanks _).trans (skipSpace_cons rfl rest)
      have read := readItems_close close fuel true
      simp only [List.cons_append, List.append_assoc, List.nil_append, readValue,
        skipSpace_cons (c := '[') rfl, read, Option.isSome_some]
  | _, _, @ValueText.items items cs text, fuel + 2, rest, enough, ends => by
      have left : 3 * cs.length ≤ fuel := by
        rw [List.length_cons] at enough
        omega
      have read := (readItems_first (text.head rest) fuel).trans (readItem_append text left)
      simp only [List.cons_append, readValue, skipSpace_cons (c := '[') rfl, read,
        Option.isSome_some]
  | _, _, @ValueText.noMembers blank blanks, fuel + 2, rest, enough, ends => by
      have close : skipSpace (blank ++ '}' :: rest) = '}' :: rest :=
        (skipSpace_append blanks _).trans (skipSpace_cons rfl rest)
      have read := readMembers_close close fuel true
      simp only [List.cons_append, List.append_assoc, List.nil_append, readValue,
        skipSpace_cons (c := '{') rfl, read]
  | _, _, @ValueText.members members cs text, fuel + 2, rest, enough, ends => by
      have left : 3 * cs.length ≤ fuel := by
        rw [List.length_cons] at enough
        omega
      obtain ⟨more, quote⟩ := text.head rest
      have read : readMember fuel (skipSpace (cs ++ rest)) = (members, .closed, some rest) :=
        readMember_append text left
      rw [quote] at read
      simp only [List.cons_append, readValue, skipSpace_cons (c := '{') rfl,
        readMembers_first quote, read]

/-- The blanks after a value are left, too. -/
theorem readValue_padded : ∀ {d : Document} {cs : List Char}, PaddedText d cs →
    ∀ {fuel : Nat} {rest : List Char}, 3 * cs.length ≤ fuel → Delimited rest →
      ∃ tail, readValue fuel (cs ++ rest) = (d, some tail) ∧ skipSpace tail = skipSpace rest
  | _, _, @PaddedText.intro d before cs after blankBefore text blankAfter, fuel, rest, enough,
      ends => by
      have left : 3 * cs.length ≤ fuel := by
        simp only [List.length_append] at enough
        omega
      refine ⟨after ++ rest, ?_, skipSpace_append blankAfter rest⟩
      rw [← readValue_skipSpace, List.append_assoc, skipSpace_append blankBefore,
        readValue_skipSpace, List.append_assoc]
      exact readValue_append text left (delimited_append blankAfter ends)

/-- The items are read up to the closing bracket. -/
theorem readItem_append : ∀ {items : List Document} {cs : List Char}, ItemsText items cs →
    ∀ {fuel : Nat} {rest : List Char}, 3 * cs.length ≤ fuel →
      readItem fuel (cs ++ rest) = (items, some rest)
  | _, _, @ItemsText.last d cs text, fuel, rest, enough => by
      obtain ⟨fuel, rfl, left⟩ : ∃ f, fuel = f + 2 ∧ 3 * cs.length ≤ f + 1 := by
        simp only [List.length_append, List.length_singleton] at enough
        exact ⟨fuel - 2, by omega⟩
      obtain ⟨tail, read, bracket⟩ :=
        readValue_padded text left (delimited_cons (c := ']') (by decide) rest)
      have close := readItems_close (bracket.trans (skipSpace_cons rfl rest)) fuel false
      simp only [List.append_assoc, List.cons_append, List.nil_append, readItem, read, close]
  | _, _, @ItemsText.next d items cs more text later, fuel, rest, enough => by
      obtain ⟨fuel, rfl, left, leftLater⟩ :
          ∃ f, fuel = f + 2 ∧ 3 * cs.length ≤ f + 1 ∧ 3 * more.length ≤ f := by
        simp only [List.length_append, List.length_cons] at enough
        exact ⟨fuel - 2, by omega⟩
      obtain ⟨tail, read, comma⟩ :=
        readValue_padded text left (delimited_cons (c := ',') (by decide) (more ++ rest))
      have next := readItems_next (comma.trans (skipSpace_cons rfl _)) (later.head rest) fuel
      simp only [List.append_assoc, List.cons_append, readItem, read, next,
        readItem_append later leftLater]

/-- The members are read up to the closing brace. -/
theorem readMember_append : ∀ {members : List (Option String × Document)} {cs : List Char},
    MembersText members cs → ∀ {fuel : Nat} {rest : List Char}, 3 * cs.length ≤ fuel →
      readMember fuel (skipSpace (cs ++ rest)) = (members, .closed, some rest)
  | _, _, @MembersText.last name d key cs named text, fuel, rest, enough => by
      obtain ⟨fuel, rfl, left⟩ : ∃ f, fuel = f + 2 ∧ 3 * cs.length ≤ f + 1 := by
        simp only [List.length_append, List.length_cons] at enough
        exact ⟨fuel - 2, by omega⟩
      obtain ⟨tail, read, brace⟩ :=
        readValue_padded text left (delimited_cons (c := '}') (by decide) rest)
      have close := readMembers_close (brace.trans (skipSpace_cons rfl rest)) fuel false
      simp only [List.append_assoc, List.cons_append, List.nil_append, readMember_name named read,
        close]
  | _, _, @MembersText.next name d members key cs more named text later, fuel, rest, enough => by
      obtain ⟨fuel, rfl, left, leftLater⟩ :
          ∃ f, fuel = f + 2 ∧ 3 * cs.length ≤ f + 1 ∧ 3 * more.length ≤ f := by
        simp only [List.length_append, List.length_cons] at enough
        exact ⟨fuel - 2, by omega⟩
      obtain ⟨tail, read, comma⟩ :=
        readValue_padded text left (delimited_cons (c := ',') (by decide) (more ++ rest))
      have next := readMembers_next (comma.trans (skipSpace_cons rfl _)) fuel
      simp only [List.append_assoc, List.cons_append, readMember_name named read, next,
        readMember_append later leftLater]

end

/-- **Every text of a tree is read as that tree**, and as complete. -/
theorem ofString_of_isText {text : String} {d : Document} (isText : IsText text d) :
    ofString text = (d, true) := by
  obtain ⟨tail, read, blank⟩ :=
    @readValue_padded d text.toList isText (3 * text.toList.length + 3) [] (by omega) nofun
  rw [List.append_nil] at read
  simp only [ofString, ofChars, read, blank]
  rfl

/-- A text has one tree. -/
theorem IsText.unique {text : String} {d e : Document} (one : IsText text d)
    (other : IsText text e) : d = e :=
  (Prod.mk.inj ((ofString_of_isText one).symm.trans (ofString_of_isText other))).1

end InventorySync.Document
