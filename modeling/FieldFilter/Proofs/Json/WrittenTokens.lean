import FieldFilter.Json.Reader
import FieldFilter.Json.Writer
import Mathlib.Data.Nat.Digits.Defs
import Mathlib.Tactic.IntervalCases

/-! What the text of a JSON scalar is scanned as. A string ends with its quote; a number only ends
where something follows it that does not go on with it, so what is written behind one matters.
-/

namespace FieldFilter.Json

-----------------------------------------------------------------------------------------
-- Scanning from between two tokens
-----------------------------------------------------------------------------------------

namespace Scan

/-- The tokens of a text behind complete tokens, which are given in reverse. -/
def after (done : List Token) (text : List Char) : Option (List Token) :=
  (text.foldlM step ⟨done, .between⟩).bind tokens?

/-- What follows a value in a container or at the end of a text. -/
def Closes (rest : List Char) : Prop :=
  rest = [] ∨ ∃ c ∈ [',', ']', '\x7d'], ∃ more, rest = c :: more

/-- The text of a value is scanned as some tokens, whatever stands before it, when what follows it
closes it.
-/
def Yields (text : List Char) (tokens : List Token) : Prop :=
  ∀ done rest, Closes rest → after done (text ++ rest) = after (tokens.reverse ++ done) rest

theorem yields_null : Yields ['n', 'u', 'l', 'l'] [.null] :=
  fun _ _ _ => rfl

end Scan

-----------------------------------------------------------------------------------------
-- Strings
-----------------------------------------------------------------------------------------

namespace StringUnit

/-- How a character is read back: by its number when only that can be written, and as itself
otherwise.
-/
def ofChar (c : Char) : StringUnit :=
  if c.toNat < 0x20 ∧ c ∉ ['\n', '\r', '\t', '\x08', '\x0c'] then .code c.toNat else .char c

/-- The units of a text. -/
def ofText (s : String) : List StringUnit :=
  s.toList.map ofChar

/-- A code unit below those of pairs stands for a character alone, by cases on what follows it. -/
theorem decode?_code {n : Nat} (low : n < 0xD800) (done : List Char) (rest : List StringUnit)
    : decode? done (.code n :: rest) = decode? (Char.ofNat n :: done) rest := by
  have leading : isLeading n = false := by
    simp only [isLeading, Bool.and_eq_false_iff, decide_eq_false_iff_not]
    omega
  have trailing : isTrailing n = false := by
    simp only [isTrailing, Bool.and_eq_false_iff, decide_eq_false_iff_not]
    omega
  cases rest with
  | nil => simp [decode?, leading, trailing]
  | cons unit rest => cases unit <;> simp [decode?, leading, trailing]

theorem decode?_ofChar (c : Char) (done : List Char) (rest : List StringUnit)
    : decode? done (ofChar c :: rest) = decode? (c :: done) rest := by
  unfold ofChar
  split
  · next control =>
      have low : c.toNat < 0x20 := control.1
      rw [decode?_code (by omega), Char.ofNat_toNat]
  · rw [decode?]

/-- Units of characters stand for these characters, by induction on them. -/
theorem decode?_map_ofChar (done cs : List Char)
    : decode? done (cs.map ofChar) = some (done.reverse ++ cs) := by
  induction cs generalizing done with
  | nil => simp [decode?]
  | cons c cs ih =>
      rw [List.map_cons, decode?_ofChar, ih, List.reverse_cons, List.append_assoc]
      rfl

theorem text?_ofText (s : String) : text? (ofText s) = some s := by
  simp [text?, ofText, decode?_map_ofChar]

end StringUnit

namespace Scan

/-- A digit below sixteen is read back as it is written. -/
theorem hexDigit?_hexDigit {n : Nat} (bound : n < 16) : Text.hexDigit? (hexDigit n) = some n := by
  have all : ∀ n < 16, Text.hexDigit? (hexDigit n) = some n := by decide
  exact all n bound

/-- A character of a string is scanned as its unit, by cases on how it is written. -/
theorem foldlM_escape (done : List Token) (units : List StringUnit) (c : Char) (rest : List Char)
    : (escape c ++ rest).foldlM step ⟨done, .string units⟩
      = rest.foldlM step ⟨done, .string (.ofChar c :: units)⟩ := by
  unfold escape
  split_ifs with quote slash line ret tab back feed control
  · subst quote; rfl
  · subst slash; rfl
  · subst line; rfl
  · subst ret; rfl
  · subst tab; rfl
  · subst back; rfl
  · subst feed; rfl
  · have unit : StringUnit.ofChar c = .code c.toNat := by
      rw [StringUnit.ofChar, if_pos]
      simp [control, line, ret, tab, back, feed]
    have zero : Text.hexDigit? '0' = some 0 := by rfl
    have high := hexDigit?_hexDigit (n := c.toNat / 16) (by omega)
    have low := hexDigit?_hexDigit (n := c.toNat % 16) (by omega)
    have value : c.toNat / 16 * 16 + c.toNat % 16 = c.toNat := by omega
    simp [List.foldlM_cons, step, stepString, stepEscape, stepCode, zero, high, low, unit, value]
  · have unit : StringUnit.ofChar c = .char c := by
      rw [StringUnit.ofChar, if_neg]
      exact fun low => control low.1
    simp [List.foldlM_cons, step, stepString, quote, slash, control, unit]

/-- A quoted text is scanned as one string, by induction on the text. -/
theorem foldlM_flatMap_escape (done : List Token) (units : List StringUnit) (cs rest : List Char)
    : (cs.flatMap escape ++ '"' :: rest).foldlM step ⟨done, .string units⟩
      = rest.foldlM step ⟨.string (units.reverse ++ cs.map .ofChar) :: done, .between⟩ := by
  induction cs generalizing units with
  | nil => simp [step, stepString, push]
  | cons c cs ih =>
      rw [List.flatMap_cons, List.append_assoc, foldlM_escape, ih, List.reverse_cons,
        List.append_assoc, List.map_cons, List.singleton_append]

/-- A quoted text is scanned as a string whatever follows it. -/
theorem after_quoted (done : List Token) (s : String) (rest : List Char)
    : after done ((quoted s).toList ++ rest)
      = after (.string (StringUnit.ofText s) :: done) rest := by
  have text : (quoted s).toList ++ rest = '"' :: (s.toList.flatMap escape ++ '"' :: rest) := by
    simp [quoted]
  have opened : step ⟨done, .between⟩ '"' = some ⟨done, .string []⟩ := by rfl
  simp only [after, text, List.foldlM_cons, opened, Option.bind_eq_bind, Option.bind_some,
    foldlM_flatMap_escape]
  rfl

theorem yields_quoted (s : String) : Yields (quoted s).toList [.string (StringUnit.ofText s)] :=
  fun done rest _ => after_quoted done s rest

-----------------------------------------------------------------------------------------
-- Integers
-----------------------------------------------------------------------------------------

end Scan

/-- How an integer is written. -/
def NumberLiteral.ofInt (n : Int) : NumberLiteral :=
  { negative := decide (n < 0)
    whole := if n = 0 then [0] else (Nat.digits 10 n.natAbs).reverse
    fraction := []
    exponentNegative := false
    exponent := [] }

namespace Scan

/-- A digit is read back as it is written. -/
theorem digit?_digitChar {d : Nat} (bound : d < 10) : Text.digit? d.digitChar = some d := by
  have all : ∀ d < 10, Text.digit? d.digitChar = some d := by decide
  exact all d bound

/-- Where a number may start with any digit but zero, the digits of a positive number are scanned as
its whole part, by strong induction on the number.
-/
theorem foldlM_toDigits {start : Scan} {done : List Token} {negative : Bool}
    (first
      : ∀ d, 0 < d → d < 10
          → step start d.digitChar
            = some ⟨done, .number .whole { emptyLiteral negative with whole := [d] }⟩)
    {n : Nat} (positive : 0 < n)
    : (Nat.toDigits 10 n).foldlM step start
      = some ⟨done, .number .whole { emptyLiteral negative with whole := Nat.digits 10 n }⟩ := by
  induction n using Nat.strong_induction_on with
  | _ n ih =>
      by_cases single : n < 10
      · rw [Nat.toDigits_of_lt_base single, Nat.digits_of_lt 10 n positive.ne' single]
        simpa using first n positive single
      · -- The last digit is written behind the others; a scan keeps what it has read in reverse, which
        -- is the order of `Nat.digits`.
        have shorter := ih (n / 10) (by omega) (by omega)
        have digit := digit?_digitChar (Nat.mod_lt n (by decide : 0 < 10))
        rw [Nat.toDigits_of_base_le (by decide) (by omega), List.foldlM_append, shorter,
          Nat.digits_def' (by decide) positive]
        simp [step, stepNumber, stepDigit, digit]

/-- A whole number ends where something closes it, by cases on what does. -/
theorem after_number {place : NumberPlace} (whole : place = .zero ∨ place = .whole)
    (n : NumberLiteral) (done : List Token) {rest : List Char} (closes : Closes rest)
    : (rest.foldlM step ⟨done, .number place n⟩).bind tokens?
      = after (.number (finish n) :: done) rest := by
  rcases closes with rfl | ⟨c, member, more, rfl⟩
  · rcases whole with rfl | rfl <;> rfl
  · -- The character that ends the number is the start of what follows it, and is scanned as that.
    simp only [List.mem_cons, List.not_mem_nil, or_false] at member
    rcases whole with rfl | rfl <;> rcases member with rfl | rfl | rfl <;> rfl

/-- The digits of a positive number are scanned as that number, or as what is below zero by as much
behind a minus sign.
-/
theorem after_toDigits {start : Scan} {done : List Token} {n : Int}
    (first
      : ∀ d, 0 < d → d < 10
          → step start d.digitChar
            = some ⟨done, .number .whole { emptyLiteral (decide (n < 0)) with whole := [d] }⟩)
    (nonzero : n ≠ 0) {rest : List Char} (closes : Closes rest)
    : ((Nat.toDigits 10 n.natAbs ++ rest).foldlM step start).bind tokens?
      = after (.number (.ofInt n) :: done) rest := by
  have literal
      : finish { emptyLiteral (decide (n < 0)) with whole := Nat.digits 10 n.natAbs }
        = .ofInt n := by
    simp [finish, emptyLiteral, NumberLiteral.ofInt, nonzero]
  rw [List.foldlM_append, foldlM_toDigits first (Int.natAbs_pos.mpr nonzero), ← literal]
  exact after_number (.inr rfl) _ done closes

/-- An integer is scanned as a number, by cases on its sign. -/
theorem yields_integerText (n : Int)
    : Yields (integerText n).toList [.number (.ofInt n)] := by
  intro done rest closes
  rcases lt_trichotomy n 0 with below | rfl | above
  · have text : (integerText n).toList = '-' :: Nat.toDigits 10 n.natAbs := by
      obtain ⟨k, rfl⟩ := Int.eq_negSucc_of_lt_zero below
      simp [integerText, toString, Int.repr]
    have signed : step ⟨done, .between⟩ '-' = some ⟨done, .number .sign (emptyLiteral true)⟩ := by
      rfl
    rw [text, List.cons_append, after, List.foldlM_cons, signed]
    refine after_toDigits (fun d positive bound => ?_) below.ne closes
    simp [step, stepNumber, stepDigit, digit?_digitChar bound, positive.ne', below, emptyLiteral]
  · exact after_number (.inl rfl) _ done closes
  · have text : (integerText n).toList = Nat.toDigits 10 n.natAbs := by
      obtain ⟨k, rfl⟩ := Int.eq_ofNat_of_zero_le above.le
      simp [integerText, toString, Int.repr]
    rw [text]
    refine after_toDigits (fun d positive bound => ?_) above.ne' closes
    rw [decide_eq_false above.not_gt]
    interval_cases d <;> rfl

end Scan

namespace NumberLiteral

/-- Digits that are absorbed whole are followed by more as if these stood alone, by induction on the
digits.
-/
theorem absorb_append {n m : Nat} {ds : List Nat} (all : absorb n ds = (m, [])) (more : List Nat)
    : absorb n (ds ++ more) = absorb m more := by
  induction ds generalizing n with
  | nil =>
      obtain rfl : n = m := congrArg Prod.fst all
      rfl
  | cons d ds ih =>
      rw [List.cons_append, absorb] at *
      split at all
      · next below => rw [if_pos below, ih all]
      · cases all

/-- The digits of a number of at most 64 bits are absorbed whole, by strong induction on the number.
-/
theorem absorb_digits {n : Nat} (bound : n < Word.count)
    : absorb 0 (Nat.digits 10 n).reverse = (n, []) := by
  induction n using Nat.strong_induction_on with
  | _ n ih =>
      rcases Nat.eq_zero_or_pos n with rfl | positive
      · rfl
      · have shorter := ih (n / 10) (by omega) (by omega)
        have whole : n / 10 * 10 + n % 10 = n := by omega
        rw [Nat.digits_def' (by decide) positive, List.reverse_cons, absorb_append shorter, absorb,
          whole, if_pos bound, absorb]

/-- An integer of at most 64 bits is read back as it is written, by cases on its sign. -/
theorem number?_ofInt {n : Int} (least : Word.least ≤ n) (bound : n < Word.count)
    : (ofInt n).number? = some (.integer n) := by
  have low : -9223372036854775808 ≤ n := least
  have high : n < 18446744073709551616 := bound
  rcases eq_or_ne n 0 with rfl | nonzero
  · rfl
  have fits : n.natAbs < 18446744073709551616 := by omega
  have whole : absorb 0 (ofInt n).whole = (n.natAbs, []) := by
    rw [ofInt, if_neg nonzero]
    exact absorb_digits fits
  have simple
      : (ofInt n).fraction.isEmpty ∧ (ofInt n).exponent.isEmpty ∧ ([] : List Nat).isEmpty :=
    ⟨rfl, rfl, rfl⟩
  simp only [number?, whole]
  rw [if_pos simple]
  rcases lt_or_gt_of_ne nonzero with below | above
  · have negative : (ofInt n).negative = true := decide_eq_true below
    have back : -(n.natAbs : Int) = n := by omega
    rw [negative, if_neg (by decide), back, if_pos ⟨by omega, least⟩]
  · have positive : (ofInt n).negative = false := decide_eq_false above.not_gt
    have back : (n.natAbs : Int) = n := by omega
    rw [positive, if_pos (by decide), back]

end NumberLiteral

end FieldFilter.Json
