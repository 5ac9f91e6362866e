import FieldFilter.Text.Blank
import FieldFilter.Text.Digits
import Mathlib.Data.List.DropRight
import Mathlib.Data.List.Induction
import Mathlib.Data.Nat.Digits.Defs

/-! Decimal texts, and the blanks around them. An integer is read from exactly the texts of a sign,
which may be missing, and at least one digit. No blank is a part of such a text, so that trimming
leaves exactly the text of the integer when there is one.
-/

namespace FieldFilter.Text

-----------------------------------------------------------------------------------------
-- Integers
-----------------------------------------------------------------------------------------

/-- The text has at least one character, and every one is a decimal digit. -/
def IsDigits (cs : List Char) : Prop :=
  cs ≠ [] ∧ ∀ c ∈ cs, '0' ≤ c ∧ c ≤ '9'

/-- The number that a text of digits stands for in base ten. -/
def decimalValue (digits : List Char) : Nat :=
  Nat.ofDigits 10 (digits.reverse.map fun c => c.toNat - '0'.toNat)

/-- The text is an integer in decimal: digits, behind at most one sign. -/
inductive IsDecimal : List Char → Int → Prop
  | unsigned {digits} (h : IsDigits digits) : IsDecimal digits (decimalValue digits)
  | plus {digits} (h : IsDigits digits) : IsDecimal ('+' :: digits) (decimalValue digits)
  | minus {digits} (h : IsDigits digits) : IsDecimal ('-' :: digits) (-decimalValue digits)

theorem digit?_lt {c : Char} {d : Nat} (read : digit? c = some d) : d < 10 := by
  simp only [digit?] at read
  split at read
  · next within =>
      obtain rfl := Option.some.inj read
      have most : c.toNat ≤ '9'.toNat := within.2
      simp only [Char.reduceToNat] at *
      omega
  · cases read

/-- Digits are read one by one as their numbers, by induction on the text. -/
theorem mapM_digit?_eq_some_iff {cs : List Char} {digits : List Nat}
    : cs.mapM digit? = some digits
      ↔ (∀ c ∈ cs, '0' ≤ c ∧ c ≤ '9') ∧ digits = cs.map fun c => c.toNat - '0'.toNat := by
  induction cs generalizing digits with
  | nil => simp [eq_comm]
  | cons c cs ih =>
      rw [List.mapM_cons, List.forall_mem_cons]
      by_cases first : '0' ≤ c ∧ c ≤ '9'
      · have digit : digit? c = some (c.toNat - '0'.toNat) := if_pos first
        simp only [digit, Option.bind_eq_bind, Option.bind_some, Option.bind_eq_some_iff, ih]
        constructor
        · rintro ⟨_, ⟨later, rfl⟩, same⟩
          exact ⟨⟨first, later⟩, (Option.some.inj same).symm⟩
        · rintro ⟨⟨_, later⟩, rfl⟩
          exact ⟨_, ⟨later, rfl⟩, rfl⟩
      · have other : digit? c = none := if_neg first
        simp [other, first]

/-- Digits spell a number with the last one counting least, by induction from the end. -/
theorem ofDigits_eq (digits : List Nat) : ofDigits 0 digits = Nat.ofDigits 10 digits.reverse := by
  induction digits using List.reverseRecOn with
  | nil => rfl
  | append_singleton digits d ih =>
      have last : ofDigits 0 (digits ++ [d]) = ofDigits 0 digits * 10 + d := by
        simp [ofDigits, List.foldl_append]
      rw [last, ih, List.reverse_append, List.reverse_singleton, List.singleton_append,
        Nat.ofDigits_cons, Nat.mul_comm, Nat.add_comm]

/-- Digits spell a number with at most as many places as there are of them. -/
theorem ofDigits_lt {digits : List Nat} (small : ∀ d ∈ digits, d < 10)
    : ofDigits 0 digits < 10 ^ digits.length := by
  rw [ofDigits_eq, ← List.length_reverse]
  exact Nat.ofDigits_lt_base_pow_length (by decide) fun d own => small d (List.mem_reverse.mp own)

/-- A natural number is read from the texts of digits. -/
theorem readNat?_eq_some_iff {cs : List Char} {n : Nat}
    : readNat? cs = some n ↔ IsDigits cs ∧ n = decimalValue cs := by
  rw [readNat?, IsDigits, decimalValue, List.map_reverse]
  cases cs with
  | nil => simp
  | cons c cs =>
      simp only [List.isEmpty_cons, Bool.false_eq_true, if_false, Option.map_eq_some_iff,
        mapM_digit?_eq_some_iff, ofDigits_eq, ne_eq, reduceCtorEq, not_false_eq_true, true_and]
      constructor
      · rintro ⟨_, ⟨each, rfl⟩, rfl⟩
        exact ⟨each, rfl⟩
      · rintro ⟨each, rfl⟩
        exact ⟨_, ⟨each, rfl⟩, rfl⟩

theorem map_readNat?_eq_some_iff {cs : List Char} {signed : Nat → Int} {n : Int}
    : (readNat? cs).map signed = some n ↔ IsDigits cs ∧ n = signed (decimalValue cs) := by
  simp only [Option.map_eq_some_iff, readNat?_eq_some_iff]
  constructor
  · rintro ⟨_, ⟨digits, rfl⟩, rfl⟩
    exact ⟨digits, rfl⟩
  · rintro ⟨digits, rfl⟩
    exact ⟨_, ⟨digits, rfl⟩, rfl⟩

/-- An integer is read from the decimal texts, by cases on the sign. -/
theorem readInt?_eq_some_iff {cs : List Char} {n : Int}
    : readInt? cs = some n ↔ IsDecimal cs n := by
  constructor
  · intro read
    unfold readInt? at read
    split at read
    · obtain ⟨digits, rfl⟩ := map_readNat?_eq_some_iff.mp read
      exact .plus digits
    · obtain ⟨digits, rfl⟩ := map_readNat?_eq_some_iff.mp read
      exact .minus digits
    · obtain ⟨digits, rfl⟩ := map_readNat?_eq_some_iff.mp read
      exact .unsigned digits
  · intro decimal
    cases decimal with
    | plus digits | minus digits => exact map_readNat?_eq_some_iff.mpr ⟨digits, rfl⟩
    | unsigned digits =>
        -- A text of digits starts with no sign.
        unfold readInt?
        split
        · exact absurd (digits.2 '+' (by simp)) (by decide)
        · exact absurd (digits.2 '-' (by simp)) (by decide)
        · exact map_readNat?_eq_some_iff.mpr ⟨digits, rfl⟩

theorem readWord?_eq_some_iff {cs : List Char} {n : Int}
    : readWord? cs = some n ↔ IsDecimal cs n ∧ Word.Fits n := by
  simp only [readWord?, Option.bind_eq_some_iff, readInt?_eq_some_iff, Word.check?_eq_some_iff]
  constructor
  · rintro ⟨_, decimal, fits, rfl⟩
    exact ⟨decimal, fits⟩
  · rintro ⟨decimal, fits⟩
    exact ⟨n, decimal, fits, rfl⟩

-----------------------------------------------------------------------------------------
-- Blanks around a text
-----------------------------------------------------------------------------------------

/-- The first text is the second one with blanks around it, or without any. -/
def Pads (cs core : List Char) : Prop :=
  ∃ before after,
    (∀ c ∈ before, isBlank c = true) ∧ (∀ c ∈ after, isBlank c = true)
    ∧ cs = before ++ core ++ after

/-- There is something in the text, and it neither starts nor ends with a blank. -/
structure IsTrimmed (cs : List Char) : Prop where
  start : ∃ c rest, cs = c :: rest ∧ isBlank c = false
  stop : ∃ rest c, cs = rest ++ [c] ∧ isBlank c = false

theorem trimEnd_eq_rdropWhile (cs : List Char) : trimEnd cs = cs.rdropWhile isBlank :=
  rfl

/-- Trimming takes away blanks and nothing else. -/
theorem pads_trim (cs : List Char) : Pads cs (trim cs) := by
  refine ⟨cs.takeWhile isBlank, (trimStart cs).rtakeWhile isBlank,
    fun _ => List.mem_takeWhile_imp, fun _ => List.mem_rtakeWhile_imp, ?_⟩
  rw [trim, trimEnd_eq_rdropWhile, List.append_assoc, List.rdropWhile_append_rtakeWhile, trimStart,
    List.takeWhile_append_dropWhile]

/-- Trimming takes away all blanks around a text. -/
theorem Pads.trim {cs core : List Char} (pads : Pads cs core) (trimmed : IsTrimmed core)
    : trim cs = core := by
  obtain ⟨before, after, beforeBlank, afterBlank, rfl⟩ := pads
  have front : trimStart (before ++ core ++ after) = core ++ after := by
    obtain ⟨c, rest, rfl, stays⟩ := trimmed.start
    rw [trimStart, List.append_assoc, List.dropWhile_append_of_pos beforeBlank, List.cons_append,
      List.dropWhile_cons_of_neg (by simp [stays])]
  have back : (core ++ after).rdropWhile isBlank = core := by
    obtain ⟨rest, c, rfl, stays⟩ := trimmed.stop
    rw [List.rdropWhile, List.reverse_append,
      List.dropWhile_append_of_pos (by simpa using afterBlank), ← List.rdropWhile,
      List.rdropWhile_concat_neg _ _ _ (by simp [stays])]
  rw [Text.trim, front, trimEnd_eq_rdropWhile, back]

/-- The printable characters of ASCII, without the space, are not blank. -/
theorem isBlank_of_printable {c : Char} (least : '!' ≤ c) (greatest : c ≤ '~')
    : isBlank c = false := by
  have low : 33 ≤ c.toNat := least
  have high : c.toNat ≤ 126 := greatest
  simp only [isBlank, Bool.or_eq_false_iff, Bool.and_eq_false_iff, decide_eq_false_iff_not,
    beq_eq_false_iff_ne]
  omega

theorem isBlank_of_isDigit {c : Char} (digit : '0' ≤ c ∧ c ≤ '9') : isBlank c = false :=
  isBlank_of_printable (Char.le_trans (by decide) digit.1) (Char.le_trans digit.2 (by decide))

/-- A text without blanks in it has none at its ends. -/
theorem isTrimmed_of_forall {cs : List Char} (filled : cs ≠ [])
    (none : ∀ c ∈ cs, isBlank c = false)
    : IsTrimmed cs where
  start := by
    obtain ⟨c, rest, rfl⟩ := List.exists_cons_of_ne_nil filled
    exact ⟨c, rest, rfl, none c (by simp)⟩
  stop := by
    have apart := List.dropLast_append_getLast filled
    exact ⟨_, _, apart.symm, none _ (List.getLast_mem filled)⟩

theorem IsDecimal.isTrimmed {cs : List Char} {n : Int} (h : IsDecimal cs n) : IsTrimmed cs := by
  cases h with
  | unsigned digits =>
      exact isTrimmed_of_forall digits.1 fun c own => isBlank_of_isDigit (digits.2 c own)
  | plus digits | minus digits =>
      refine isTrimmed_of_forall (List.cons_ne_nil _ _) (List.forall_mem_cons.mpr ⟨by decide, ?_⟩)
      exact fun c own => isBlank_of_isDigit (digits.2 c own)

/-- Behind trimming, an integer of 64 bits is read from the decimal texts with blanks around them. -/
theorem readWord?_trim_eq_some_iff {cs : List Char} {n : Int}
    : readWord? (trim cs) = some n
      ↔ (∃ number, Pads cs number ∧ IsDecimal number n) ∧ Word.Fits n := by
  rw [readWord?_eq_some_iff]
  constructor
  · rintro ⟨decimal, fits⟩
    exact ⟨⟨_, pads_trim cs, decimal⟩, fits⟩
  · rintro ⟨⟨number, pads, decimal⟩, fits⟩
    exact ⟨pads.trim decimal.isTrimmed ▸ decimal, fits⟩

end FieldFilter.Text
