/-
# Proofs.Acceptance — settings are accepted exactly when every check passes

What counts of a variable is its text without the white space at both ends, if anything is left
(`setting_eq_some_iff`). What counts of a number is what its digits are worth
(`Numeral.readUnsigned_eq_ok_iff`), or the default of a variable that is not set.

There are eight checks (`Check.order`). `Check.Passed` says what each of them asks of the
variables, and `Check.Violated` with which fault it ends otherwise; a check that is passed is not
violated, and a violated one has a single fault. Settings are refused with the fault of the first
check that is violated (`FirstViolated`), and accepted if there is none. What was accepted can be
relied on without another look (`Sound`).
-/
import InventorySync.Proofs.Requeue

namespace InventorySync

set_option autoImplicit false

/-! ## Trimming -/

namespace Text

/-- The text is what is left of `raw` without the blanks at both ends. -/
structure IsTrimOf (raw t : List Char) : Prop where
  split : ∃ front back, raw = front ++ t ++ back ∧ (∀ c ∈ front, isBlank c = true) ∧
    ∀ c ∈ back, isBlank c = true
  first : ∀ c ∈ t.head?, isBlank c = false
  last : ∀ c ∈ t.getLast?, isBlank c = false

theorem trimStart_append_of_blank {front : List Char} (blank : ∀ c ∈ front, isBlank c = true)
    (s : List Char) : trimStart (front ++ s) = trimStart s :=
  List.dropWhile_append_of_pos blank

theorem trimStart_of_head? {s : List Char} (first : ∀ c ∈ s.head?, isBlank c = false) :
    trimStart s = s := by
  cases s with
  | nil => rfl
  | cons c s => exact List.dropWhile_cons_of_neg (by simp [first c rfl])

theorem exists_trimStart (s : List Char) :
    ∃ front, s = front ++ trimStart s ∧ (∀ c ∈ front, isBlank c = true) ∧
      ∀ c ∈ (trimStart s).head?, isBlank c = false := by
  refine ⟨s.takeWhile isBlank, List.takeWhile_append_dropWhile.symm,
    fun c member => List.mem_takeWhile_imp member, fun c first => ?_⟩
  have stopped := List.head?_dropWhile_not isBlank s
  rw [show (s.dropWhile isBlank).head? = some c from first] at stopped
  exact stopped

theorem isTrimOf_trimChars (s : List Char) : IsTrimOf s (trimChars s) := by
  obtain ⟨front, split, blankFront, first⟩ := exists_trimStart s
  obtain ⟨back, split', blankBack, last⟩ := exists_trimStart (trimStart s).reverse
  have inner : trimStart s = trimChars s ++ back.reverse := by
    rw [trimChars, ← List.reverse_append, ← split', List.reverse_reverse]
  refine ⟨⟨front, back.reverse, ?_, blankFront, by simpa using blankBack⟩, fun c head => ?_, ?_⟩
  · rw [List.append_assoc, ← inner]
    exact split
  · refine first c ?_
    rw [inner, List.head?_append, Option.mem_def.1 head]
    rfl
  · simpa [trimChars] using last

theorem trimChars_of_isTrimOf {raw t : List Char} (trim : IsTrimOf raw t) : trimChars raw = t := by
  obtain ⟨⟨front, back, rfl, blankFront, blankBack⟩, first, last⟩ := trim
  cases t with
  | nil =>
      refine trim_blank fun c member => ?_
      simp only [List.append_nil, List.mem_append] at member
      exact member.elim (blankFront c) (blankBack c)
  | cons c t =>
      have inner : trimStart (front ++ (c :: t) ++ back) = (c :: t) ++ back := by
        rw [List.append_assoc, trimStart_append_of_blank blankFront]
        exact trimStart_of_head? first
      have last' : ∀ d ∈ (c :: t).reverse.head?, isBlank d = false := by
        rwa [List.head?_reverse]
      have blankBack' : ∀ d ∈ back.reverse, isBlank d = true := by simpa using blankBack
      rw [trimChars, inner, List.reverse_append, trimStart_append_of_blank blankBack',
        trimStart_of_head? last', List.reverse_reverse]

theorem trimChars_eq_iff {raw t : List Char} : trimChars raw = t ↔ IsTrimOf raw t :=
  ⟨fun same => same ▸ isTrimOf_trimChars raw, trimChars_of_isTrimOf⟩

end Text

/-! ## Numbers -/

namespace Numeral

/-- The text writes the number in decimal digits, with a plus sign in front or without. -/
def Writes (s : String) (n : Nat) : Prop :=
  ∃ digits, digits ≠ [] ∧ (s.toList = digits ∨ s.toList = '+' :: digits) ∧
    (∀ c ∈ digits, c.isDigit = true) ∧ Nat.ofDigitChars 10 digits 0 = n

theorem wordLimit_pos (bits : Nat) : 0 < wordLimit bits := Nat.pow_pos (by decide)

theorem digit?_eq (c : Char) :
    digit? c = if c.isDigit then some (c.toNat - '0'.toNat) else none := rfl

theorem le_ofDigitChars (cs : List Char) (n : Nat) : n ≤ Nat.ofDigitChars 10 cs n := by
  induction cs generalizing n with
  | nil => exact le_rfl
  | cons c cs ih =>
      rw [Nat.ofDigitChars_cons]
      exact le_trans (by omega) (ih _)

/-- Digits are read from the left, and their worth only grows: it stays below the limit if it ends
below it. -/
theorem readDigits_eq_ok_iff {limit n : Nat} {cs : List Char} {acc : Nat} (below : acc < limit) :
    readDigits limit acc cs = .ok n ↔
      (∀ c ∈ cs, c.isDigit = true) ∧ Nat.ofDigitChars 10 cs acc = n ∧ n < limit := by
  induction cs generalizing acc with
  | nil =>
      simp only [readDigits, Except.ok.injEq, Nat.ofDigitChars_nil, List.not_mem_nil,
        IsEmpty.forall_iff, implies_true, true_and]
      exact ⟨fun same => ⟨same, same ▸ below⟩, And.left⟩
  | cons c cs ih =>
      rw [Nat.ofDigitChars_cons, List.forall_mem_cons, readDigits, digit?_eq, Nat.mul_comm 10 acc]
      by_cases digit : c.isDigit = true
      · simp only [digit, if_true, true_and]
        split
        next small => exact ih small
        next large =>
          have more := le_ofDigitChars cs (acc * 10 + (c.toNat - '0'.toNat))
          constructor
          · intro read
            cases read
          · rintro ⟨-, worth, short⟩
            omega
      · simp [digit]

theorem readUnsigned_eq_ok_iff {limit n : Nat} {s : String} (some : 0 < limit) :
    readUnsigned limit s = .ok n ↔ Writes s n ∧ n < limit := by
  have plus : ¬ '+'.isDigit = true := by decide
  unfold readUnsigned Writes
  split
  next empty =>
    refine iff_of_false nofun ?_
    rintro ⟨⟨digits, present, same | same, -⟩, -⟩
    · exact present (same.symm.trans empty)
    · cases empty.symm.trans same
  next sign =>
    refine iff_of_false nofun ?_
    rintro ⟨⟨digits, present, same | same, all, -⟩, -⟩
    · exact plus (all _ (same ▸ sign ▸ List.mem_cons_self))
    · exact present (List.cons.inj (sign.symm.trans same)).2.symm
  next digits bare signed =>
    rw [readDigits_eq_ok_iff some]
    constructor
    · rintro ⟨all, worth, short⟩
      exact ⟨⟨digits, bare, .inr signed, all, worth⟩, short⟩
    · rintro ⟨⟨others, present, same | same, all, worth⟩, short⟩
      · exact absurd (all _ (same ▸ signed ▸ List.mem_cons_self)) plus
      · cases (List.cons.inj (signed.symm.trans same)).2
        exact ⟨all, worth, short⟩
  next present bare unsigned =>
    rw [readDigits_eq_ok_iff some]
    constructor
    · rintro ⟨all, worth, short⟩
      exact ⟨⟨s.toList, present, .inl rfl, all, worth⟩, short⟩
    · rintro ⟨⟨others, -, same | same, all, worth⟩, short⟩
      · exact ⟨same ▸ all, same ▸ worth, short⟩
      · exact absurd same (unsigned _)

theorem Denotes.isFinite {a : Float.Model.UnpackedFloat} {u : ℚ} (denotes : Denotes a u) :
    a.isFinite = true := by
  cases denotes <;> rfl

end Numeral

namespace Config

open Numeral Time

/-! ## Checks -/

/-- What is checked, in a name for each. -/
inductive Check where
  | token
  | interval
  | burst
  | rate
  | base
  | most
  | backoff
  | dryRun
  deriving DecidableEq, Repr

section Checks

variable (lookup : String → Option String)

/-- The variable is not set and the number is the default, or the number is what its text
writes. -/
def Gives (name : String) (limit default n : Nat) : Prop :=
  setting lookup name = none ∧ n = default ∨
    ∃ raw, setting lookup name = some raw ∧ Writes raw n ∧ n < limit

def GivesInterval : Nat → Prop := Gives lookup "RECONCILE_INTERVAL_SECS" (wordLimit 64) 300

def GivesBurst : Nat → Prop := Gives lookup "RATE_LIMIT_BURST" (wordLimit 32) 100

def GivesBase : Nat → Prop := Gives lookup "BACKOFF_BASE_MS" (wordLimit 64) 5

def GivesMost : Nat → Prop := Gives lookup "BACKOFF_MAX_SECS" (wordLimit 64) 1000

/-- The rate is the default, or the double that the text of the variable reads as. -/
def GivesRate (qps : Float) : Prop :=
  setting lookup "RATE_LIMIT_QPS" = none ∧ qps = 10 ∨
    ∃ raw, setting lookup "RATE_LIMIT_QPS" = some raw ∧ readReal raw = .ok qps

/-- The words of a flag, in lower case. -/
def flagWords : List String := ["true", "1", "yes", "false", "0", "no"]

/-- What a check asks of the variables. -/
def Check.Passed : Check → Prop
  | token => ∃ t, setting lookup "NETBOX_TOKEN" = some t
  | interval => ∃ n, GivesInterval lookup n ∧ n ≠ 0
  | burst => ∃ n, GivesBurst lookup n ∧ 1 ≤ n
  | rate => ∃ qps v, GivesRate lookup qps ∧ HasValue qps v ∧ 0 < v
  | base => ∃ n, GivesBase lookup n
  | most => ∃ n, GivesMost lookup n
  | backoff => ∀ b m, GivesBase lookup b → GivesMost lookup m →
      Duration.zero < .ofMillis b ∧ Duration.ofMillis b ≤ .ofSeconds m
  | dryRun => ∀ raw, setting lookup "DRY_RUN" = some raw → raw.map Char.toLower ∈ flagWords

/-- A variable is set, but its text is not of its type. -/
def Unread {α : Type} (name : String) (read : String → Except Numeral.Fault α) (e : ConfigFault) :
    Prop :=
  ∃ raw cause, setting lookup name = some raw ∧ read raw = .error cause ∧
    e = .unreadable name raw cause

/-- The fault of a check that is not passed. -/
inductive Check.Violated : Check → ConfigFault → Prop
  | tokenMissing (unset : setting lookup "NETBOX_TOKEN" = none) : Violated .token .tokenMissing
  | interval {e : ConfigFault}
      (unread : Unread lookup "RECONCILE_INTERVAL_SECS" (readUnsigned (wordLimit 64)) e) :
      Violated .interval e
  | zeroInterval (zero : GivesInterval lookup 0) : Violated .interval .zeroInterval
  | burst {e : ConfigFault}
      (unread : Unread lookup "RATE_LIMIT_BURST" (readUnsigned (wordLimit 32)) e) :
      Violated .burst e
  | zeroBurst (zero : GivesBurst lookup 0) : Violated .burst .zeroBurst
  | rate {e : ConfigFault} (unread : Unread lookup "RATE_LIMIT_QPS" readReal e) : Violated .rate e
  | badRate {qps : Float} (given : GivesRate lookup qps) (bad : ¬ ∃ v, HasValue qps v ∧ 0 < v) :
      Violated .rate (.badRate qps)
  | base {e : ConfigFault}
      (unread : Unread lookup "BACKOFF_BASE_MS" (readUnsigned (wordLimit 64)) e) :
      Violated .base e
  | most {e : ConfigFault}
      (unread : Unread lookup "BACKOFF_MAX_SECS" (readUnsigned (wordLimit 64)) e) :
      Violated .most e
  | badBackoff {b m : Nat} (base : GivesBase lookup b) (most : GivesMost lookup m)
      (bad : ¬ (Duration.zero < .ofMillis b ∧ Duration.ofMillis b ≤ .ofSeconds m)) :
      Violated .backoff (.badBackoff (.ofMillis b) (.ofSeconds m))
  | badFlag {raw : String} (set : setting lookup "DRY_RUN" = some raw)
      (other : raw.map Char.toLower ∉ flagWords) :
      Violated .dryRun (.badFlag (raw.map Char.toLower))

/-- The checks before one are passed, and that one is violated with this fault. -/
inductive FirstViolated : List Check → ConfigFault → Prop
  | here {k : Check} {rest : List Check} {e : ConfigFault} (violated : k.Violated lookup e) :
      FirstViolated (k :: rest) e
  | later {k : Check} {rest : List Check} {e : ConfigFault} (passed : k.Passed lookup)
      (next : FirstViolated rest e) : FirstViolated (k :: rest) e

end Checks

/-- The order of the checks. -/
def Check.order : List Check := [.token, .interval, .burst, .rate, .base, .most, .backoff, .dryRun]

/-- What can be relied on without another look at the settings. -/
structure Sound (c : Config) : Prop where
  url : c.url ≠ ""
  token : c.token ≠ ""
  expectedPlatform : c.expectedPlatform ≠ ""
  watchNamespace : c.watchNamespace ≠ some ""
  deviceRole : c.deviceRole ≠ some ""
  interval : Duration.zero < c.interval
  burst : 1 ≤ c.burst
  qps : ∃ v, HasValue c.qps v ∧ 0 < v
  backoffBase : Duration.zero < c.backoffBase
  backoffMax : c.backoffBase ≤ c.backoffMax

/-! ## Reading the variables -/

variable {lookup : String → Option String}

/-- A setting is the text of the variable, trimmed, if something is left of it. -/
theorem setting_eq_some_iff {name t : String} : setting lookup name = some t ↔
    ∃ raw, lookup name = some raw ∧ Text.IsTrimOf raw.toList t.toList ∧ t ≠ "" := by
  have trim (raw : String) : Text.trim raw = t ↔ Text.IsTrimOf raw.toList t.toList := by
    rw [← Text.trimChars_eq_iff, Text.trim, ← String.toList_inj, String.toList_ofList]
  cases found : lookup name with
  | none => simp [setting, found]
  | some raw =>
      simp only [setting, found, Option.some.injEq, exists_eq_left', ← trim]
      split
      next blank =>
        refine iff_of_false nofun ?_
        rintro ⟨rfl, some⟩
        exact some (String.isEmpty_iff.1 blank)
      next some =>
        rw [Option.some.injEq]
        refine ⟨?_, And.left⟩
        rintro rfl
        exact ⟨rfl, fun blank => some (String.isEmpty_iff.2 blank)⟩

theorem setting_ne_empty (name : String) : setting lookup name ≠ some "" := fun blank => by
  obtain ⟨-, -, -, some⟩ := setting_eq_some_iff.1 blank
  exact some rfl

theorem getD_ne_empty (name : String) {default : String} (some : default ≠ "") :
    (setting lookup name).getD default ≠ "" := by
  cases found : setting lookup name with
  | none => exact some
  | some t => exact fun blank => setting_ne_empty name (found.trans (congrArg _ blank))

section Numbers

variable {name : String} {default n m : Nat} {e e' : ConfigFault}

theorem number_eq_error_iff {α : Type} {read : String → Except Numeral.Fault α} {default : α} :
    number lookup name read default = .error e ↔ Unread lookup name read e := by
  cases found : setting lookup name with
  | none => simp [number, Unread, found]
  | some raw =>
      cases parsed : read raw with
      | error cause => simp [number, Unread, found, parsed, eq_comm]
      | ok a => simp [number, Unread, found, parsed]

theorem gives_iff {bits : Nat} : Gives lookup name (wordLimit bits) default n ↔
    number lookup name (readUnsigned (wordLimit bits)) default = .ok n := by
  rw [number_eq_ok_iff, Gives]
  simp only [readUnsigned_eq_ok_iff (wordLimit_pos bits)]

theorem Unread.unique {α : Type} {read : String → Except Numeral.Fault α}
    (first : Unread lookup name read e) (second : Unread lookup name read e') : e = e' := by
  obtain ⟨raw, cause, set, refused, rfl⟩ := first
  obtain ⟨raw', cause', set', refused', rfl⟩ := second
  cases set.symm.trans set'
  cases refused.symm.trans refused'
  rfl

theorem Gives.unique {bits : Nat} (first : Gives lookup name (wordLimit bits) default n)
    (second : Gives lookup name (wordLimit bits) default m) : n = m := by
  rw [gives_iff] at first second
  exact Except.ok.inj (first.symm.trans second)

theorem Unread.not_gives {bits : Nat}
    (unread : Unread lookup name (readUnsigned (wordLimit bits)) e)
    (given : Gives lookup name (wordLimit bits) default n) : False := by
  rw [gives_iff] at given
  cases given.symm.trans (number_eq_error_iff.2 unread)

end Numbers

theorem givesRate_iff {qps : Float} :
    GivesRate lookup qps ↔ number lookup "RATE_LIMIT_QPS" readReal 10 = .ok qps :=
  number_eq_ok_iff.symm

theorem GivesRate.unique {x y : Float} (first : GivesRate lookup x) (second : GivesRate lookup y) :
    x = y :=
  Except.ok.inj ((givesRate_iff.1 first).symm.trans (givesRate_iff.1 second))

theorem Unread.not_givesRate {e : ConfigFault} {qps : Float}
    (unread : Unread lookup "RATE_LIMIT_QPS" readReal e) (given : GivesRate lookup qps) :
    False := by
  cases (givesRate_iff.1 given).symm.trans (number_eq_error_iff.2 unread)

theorem isPositiveRate_iff {qps : Float} :
    isPositiveRate qps = true ↔ ∃ v, HasValue qps v ∧ 0 < v := by
  refine ⟨exists_rate, ?_⟩
  rintro ⟨v, value, positive⟩
  have zero : HasValue 0 0 := Denotes.zero .positive
  rw [isPositiveRate, Bool.and_eq_true, Bool.not_eq_true', decide_eq_false_iff_not,
    le_iff value zero]
  exact ⟨Denotes.isFinite value, not_le.2 positive⟩

/-! ## Passed and violated -/

namespace Check

variable {k : Check} {e e' : ConfigFault}

/-- A check that is passed is not violated. -/
theorem Violated.not_passed (violated : k.Violated lookup e) : ¬ k.Passed lookup := by
  cases violated with
  | tokenMissing unset =>
      rintro ⟨t, set⟩
      cases unset.symm.trans set
  | interval unread | burst unread =>
      rintro ⟨n, given, -⟩
      exact unread.not_gives given
  | base unread | most unread =>
      rintro ⟨n, given⟩
      exact unread.not_gives given
  | rate unread =>
      rintro ⟨qps, v, given, -⟩
      exact unread.not_givesRate given
  | zeroInterval zero =>
      rintro ⟨n, given, some⟩
      exact some (given.unique zero)
  | zeroBurst zero =>
      rintro ⟨n, given, some⟩
      have none := given.unique zero
      omega
  | badRate given bad =>
      rintro ⟨qps, v, given', value, positive⟩
      cases given.unique given'
      exact bad ⟨v, value, positive⟩
  | badBackoff base most bad => exact fun passed => bad (passed _ _ base most)
  | badFlag set other => exact fun passed => other (passed _ set)

/-- A check that is violated has one fault. -/
theorem Violated.unique : ∀ {k : Check} {e e' : ConfigFault},
    k.Violated lookup e → k.Violated lookup e' → e = e'
  | _, _, _, .tokenMissing _, .tokenMissing _ => rfl
  | _, _, _, .interval unread, .interval unread' => unread.unique unread'
  | _, _, _, .interval unread, .zeroInterval zero => (unread.not_gives zero).elim
  | _, _, _, .zeroInterval zero, .interval unread => (unread.not_gives zero).elim
  | _, _, _, .zeroInterval _, .zeroInterval _ => rfl
  | _, _, _, .burst unread, .burst unread' => unread.unique unread'
  | _, _, _, .burst unread, .zeroBurst zero => (unread.not_gives zero).elim
  | _, _, _, .zeroBurst zero, .burst unread => (unread.not_gives zero).elim
  | _, _, _, .zeroBurst _, .zeroBurst _ => rfl
  | _, _, _, .rate unread, .rate unread' => unread.unique unread'
  | _, _, _, .rate unread, .badRate given _ => (unread.not_givesRate given).elim
  | _, _, _, .badRate given _, .rate unread => (unread.not_givesRate given).elim
  | _, _, _, .badRate given _, .badRate given' _ => congrArg _ (given.unique given')
  | _, _, _, .base unread, .base unread' => unread.unique unread'
  | _, _, _, .most unread, .most unread' => unread.unique unread'
  | _, _, _, .badBackoff ofBase ofMost _, .badBackoff ofBase' ofMost' _ => by
      rw [ofBase.unique ofBase', ofMost.unique ofMost']
  | _, _, _, .badFlag set _, .badFlag set' _ => by
      cases set.symm.trans set'
      rfl

end Check

theorem FirstViolated.not_passed {ks : List Check} {e : ConfigFault}
    (first : FirstViolated lookup ks e) : ∃ k ∈ ks, ¬ k.Passed lookup := by
  induction first with
  | here violated => exact ⟨_, List.mem_cons_self, violated.not_passed⟩
  | later _ _ ih =>
      obtain ⟨k, member, failed⟩ := ih
      exact ⟨k, List.mem_cons_of_mem _ member, failed⟩

theorem FirstViolated.unique {ks : List Check} {e e' : ConfigFault}
    (first : FirstViolated lookup ks e) (second : FirstViolated lookup ks e') : e = e' := by
  induction first with
  | here violated =>
      cases second with
      | here violated' => exact violated.unique violated'
      | later passed => exact absurd passed violated.not_passed
  | later passed _ ih =>
      cases second with
      | here violated => exact absurd passed violated.not_passed
      | later _ next => exact ih next

/-! ## Loading -/

theorem flag?_eq_none_iff {value : String} :
    flag? value = none ↔ value.map Char.toLower ∉ flagWords := by
  unfold flag?
  split <;> simp_all [flagWords]

theorem flag_eq_error_iff {name : String} {e : ConfigFault} : flag lookup name = .error e ↔
    ∃ raw, setting lookup name = some raw ∧ raw.map Char.toLower ∉ flagWords ∧
      e = .badFlag (raw.map Char.toLower) := by
  cases found : setting lookup name with
  | none => simp [flag, found]
  | some raw =>
      cases word : flag? raw with
      | none => simp [flag, found, word, flag?_eq_none_iff.1 word, eq_comm]
      | some b =>
          have known : ¬ raw.map Char.toLower ∉ flagWords := by simp [← flag?_eq_none_iff, word]
          simp [flag, found, word, known]

theorem backoff_iff {base most : Duration} :
    ¬ (base = Duration.zero ∨ most < base) ↔ Duration.zero < base ∧ base ≤ most := by
  have zero : base = Duration.zero ↔ base.nanos = 0 := by
    cases base
    simp [Duration.zero]
  rw [zero]
  change ¬ (base.nanos = 0 ∨ most.nanos < base.nanos) ↔ 0 < base.nanos ∧ base.nanos ≤ most.nanos
  omega

theorem bind_eq_error {ε α β : Type} {x : Except ε α} {f : α → Except ε β} {e : ε}
    (bound : x.bind f = .error e) : x = .error e ∨ ∃ a, x = .ok a ∧ f a = .error e := by
  cases x with
  | error e' =>
      cases bound
      exact .inl rfl
  | ok a => exact .inr ⟨a, rfl, bound⟩

/-- A check that was not passed, or one that was. -/
theorem check_eq_error {ε α : Type} {p : Prop} [Decidable p] {e e' : ε} {f : Unit → Except ε α}
    (checked : (if p then (Except.error e').bind f else f ()) = .error e) :
    p ∧ e' = e ∨ ¬ p ∧ f () = .error e := by
  split at checked
  · exact .inl ⟨‹_›, Except.error.inj checked⟩
  · exact .inr ⟨‹_›, checked⟩

/-- What is refused is refused with the fault of the first check that is violated. -/
theorem firstViolated_of_load {e : ConfigFault} (refused : load lookup = .error e) :
    FirstViolated lookup Check.order e := by
  rw [load] at refused
  split at refused
  case h_2 _ unset =>
    cases refused
    exact .here (.tokenMissing (Option.eq_none_iff_forall_ne_some.2 unset))
  next token set =>
    refine .later ⟨token, set⟩ ?_
    obtain unread | ⟨interval, readInterval, refused⟩ := bind_eq_error refused
    · exact .here (.interval (number_eq_error_iff.1 unread))
    obtain ⟨rfl, rfl⟩ | ⟨some, refused⟩ := check_eq_error refused
    · exact .here (.zeroInterval (gives_iff.2 readInterval))
    refine .later ⟨interval, gives_iff.2 readInterval, some⟩ ?_
    obtain unread | ⟨burst, readBurst, refused⟩ := bind_eq_error refused
    · exact .here (.burst (number_eq_error_iff.1 unread))
    obtain ⟨rfl, rfl⟩ | ⟨some, refused⟩ := check_eq_error refused
    · exact .here (.zeroBurst (gives_iff.2 readBurst))
    refine .later ⟨burst, gives_iff.2 readBurst, Nat.pos_of_ne_zero some⟩ ?_
    obtain unread | ⟨qps, readQps, refused⟩ := bind_eq_error refused
    · exact .here (.rate (number_eq_error_iff.1 unread))
    obtain ⟨bad, rfl⟩ | ⟨positive, refused⟩ := check_eq_error refused
    · refine .here (.badRate (givesRate_iff.2 readQps) ?_)
      rw [← isPositiveRate_iff]
      simpa using bad
    obtain ⟨v, value, above⟩ := isPositiveRate_iff.1 (by simpa using positive)
    refine .later ⟨qps, v, givesRate_iff.2 readQps, value, above⟩ ?_
    obtain unread | ⟨base, readBase, refused⟩ := bind_eq_error refused
    · exact .here (.base (number_eq_error_iff.1 unread))
    refine .later ⟨base, gives_iff.2 readBase⟩ ?_
    obtain unread | ⟨most, readMost, refused⟩ := bind_eq_error refused
    · exact .here (.most (number_eq_error_iff.1 unread))
    refine .later ⟨most, gives_iff.2 readMost⟩ ?_
    obtain ⟨bad, rfl⟩ | ⟨ordered, refused⟩ := check_eq_error refused
    · exact .here (.badBackoff (gives_iff.2 readBase) (gives_iff.2 readMost)
        fun good => backoff_iff.2 good bad)
    refine .later (fun b m ofBase ofMost => ?_) ?_
    · rw [ofBase.unique (gives_iff.2 readBase), ofMost.unique (gives_iff.2 readMost)]
      exact backoff_iff.1 ordered
    obtain unknown | ⟨dryRun, -, accepted⟩ := bind_eq_error refused
    · obtain ⟨raw, set, other, rfl⟩ := flag_eq_error_iff.1 unknown
      exact .here (.badFlag set other)
    cases accepted

/-- What is accepted has passed every check. -/
theorem passed_of_load {c : Config} (accepted : load lookup = .ok c) (k : Check) :
    k.Passed lookup := by
  have passes := load_eq_ok accepted
  obtain ⟨base, readBase, sameBase⟩ := passes.base
  obtain ⟨most, readMost, sameMost⟩ := passes.most
  have ofBase := gives_iff.2 readBase
  have ofMost := gives_iff.2 readMost
  cases k with
  | token => exact ⟨_, passes.token⟩
  | interval =>
      obtain ⟨n, read, some, -⟩ := passes.interval
      exact ⟨n, gives_iff.2 read, some⟩
  | burst =>
      exact ⟨_, gives_iff.2 passes.burst.1,
        Nat.pos_of_ne_zero passes.burst.2⟩
  | rate =>
      obtain ⟨v, value, positive⟩ := exists_rate passes.qps.2
      exact ⟨_, v, givesRate_iff.2 passes.qps.1, value, positive⟩
  | base => exact ⟨base, ofBase⟩
  | most => exact ⟨most, ofMost⟩
  | backoff =>
      intro b m ofBase' ofMost'
      rw [ofBase'.unique ofBase, ofMost'.unique ofMost, ← sameBase, ← sameMost]
      exact backoff_iff.1 passes.ordered
  | dryRun =>
      intro raw set
      by_contra other
      cases passes.dryRun.symm.trans (flag_eq_error_iff.2 ⟨raw, set, other, rfl⟩)

theorem sound_of_load {c : Config} (accepted : load lookup = .ok c) : c.Sound := by
  have passes := load_eq_ok accepted
  obtain ⟨n, -, some, interval⟩ := passes.interval
  obtain ⟨positive, ordered⟩ := backoff_iff.1 passes.ordered
  exact {
    url := by
      rw [passes.url]
      exact getD_ne_empty _ (by decide)
    token := fun blank => setting_ne_empty _ (blank ▸ passes.token)
    expectedPlatform := by
      rw [passes.expectedPlatform]
      exact getD_ne_empty _ (by decide)
    watchNamespace := passes.watchNamespace ▸ setting_ne_empty _
    deviceRole := passes.deviceRole ▸ setting_ne_empty _
    interval := by
      rw [interval]
      exact Nat.mul_pos (Nat.pos_of_ne_zero some) (by decide)
    burst := Nat.pos_of_ne_zero passes.burst.2
    qps := exists_rate passes.qps.2
    backoffBase := positive
    backoffMax := ordered }

theorem load_congr {other : String → Option String}
    (same : ∀ name ∈ variableNames, setting other name = setting lookup name) :
    load other = load lookup := by
  simp only [variableNames, List.forall_mem_cons] at same
  obtain ⟨url, token, watched, platform, role, interval, burst, qps, base, most, dryRun, -⟩ := same
  simp only [load, number, flag, url, token, watched, platform, role, interval, burst, qps, base,
    most, dryRun]

/-- **Settings are accepted exactly when every check passes.** Only the trimmed texts of the eleven
variables count, a blank one as none at all. Accepted settings are sound; the others are refused
with the fault of the first check that is violated. -/
theorem load_exact (lookup : String → Option String) :
    (∀ name t, setting lookup name = some t ↔
      ∃ raw, lookup name = some raw ∧ Text.IsTrimOf raw.toList t.toList ∧ t ≠ "") ∧
    (∀ other, (∀ name ∈ variableNames, setting other name = setting lookup name) →
      load other = load lookup) ∧
    ((∃ c, load lookup = .ok c) ↔ ∀ k : Check, k.Passed lookup) ∧
    (∀ c, load lookup = .ok c → c.Sound) ∧
    ∀ e, load lookup = .error e ↔ FirstViolated lookup Check.order e := by
  refine ⟨fun _ _ => setting_eq_some_iff, fun _ => load_congr, ⟨?_, fun passed => ?_⟩,
    fun _ => sound_of_load, fun e => ⟨firstViolated_of_load, fun first => ?_⟩⟩
  · rintro ⟨c, accepted⟩
    exact passed_of_load accepted
  · cases loaded : load lookup with
    | ok c => exact ⟨c, rfl⟩
    | error e =>
        obtain ⟨k, -, failed⟩ := (firstViolated_of_load loaded).not_passed
        exact absurd (passed k) failed
  · cases loaded : load lookup with
    | ok c =>
        obtain ⟨k, -, failed⟩ := first.not_passed
        exact absurd (passed_of_load loaded k) failed
    | error e' => rw [(firstViolated_of_load loaded).unique first]

/-- White space around a text and variables of other names do not count. What is wrong with a
later variable does not either, once an earlier one is refused. -/
theorem load_exact_trimmed :
    let plain := listed [("NETBOX_TOKEN", "t"), ("RATE_LIMIT_QPS", "0.5"), ("DRY_RUN", "YES")]
    let padded := listed [("NETBOX_TOKEN", " t\n"), ("RATE_LIMIT_QPS", "0.5\t"),
      ("DRY_RUN", "\u00a0YES"), ("WATCH_NAMESPACE", "  "), ("HOME", "/")]
    let refused := listed [("NETBOX_TOKEN", "t"), ("RECONCILE_INTERVAL_SECS", "+0"),
      ("DRY_RUN", "maybe")]
    (∀ name ∈ variableNames, setting padded name = setting plain name) ∧
      load padded = load plain ∧ (∃ c, load padded = .ok c ∧ c.Sound ∧ c.dryRun = true) ∧
      load refused = .error .zeroInterval := by
  intro plain padded refused
  have same : ∀ name ∈ variableNames, setting padded name = setting plain name := by
    decide +kernel
  obtain ⟨c, accepted, dry⟩ : ∃ c, load padded = .ok c ∧ c.dryRun = true :=
    exists_accepted (by decide +kernel)
  have zero : GivesInterval refused 0 :=
    .inr ⟨"+0", by decide +kernel, ⟨['0'], by decide, .inr (by decide +kernel),
      List.forall_mem_singleton.2 rfl, rfl⟩, wordLimit_pos 64⟩
  have token : setting refused "NETBOX_TOKEN" = some "t" := by decide +kernel
  exact ⟨same, (load_exact plain).2.1 padded same,
    ⟨c, accepted, (load_exact padded).2.2.2.1 c accepted, dry⟩,
    ((load_exact refused).2.2.2.2 _).2 (.later ⟨"t", token⟩ (.here (.zeroInterval zero)))⟩

end Config

end InventorySync
