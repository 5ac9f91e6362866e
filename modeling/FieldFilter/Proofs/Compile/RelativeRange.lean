import FieldFilter.Proofs.Compile.DateComparison
import FieldFilter.Proofs.Compile.Negation
import FieldFilter.Proofs.Compile.PresentInstant
import FieldFilter.Proofs.Text.DecimalText

/-! Relative ranges. The operand names an anchor and a number of days, and what is bound is the instant
that many days away from the anchor in exact arithmetic. An operand for which a step of the count
leaves 64 bits is refused as one that names nothing.
-/

namespace FieldFilter

open FilterExpr (arrivalField stJohnsClock)
open Text (Pads IsDecimal IsTrimmed isBlank readWord? trim)

namespace Operand

-----------------------------------------------------------------------------------------
-- Relative offsets
-----------------------------------------------------------------------------------------

/-- The letter that stands for an anchor. -/
def Anchor.letter : Anchor → Char
  | beforeNow => 'a'
  | beforeToday => 'b'
  | afterNow => 'c'
  | afterToday => 'd'

/-- Days are counted back from the first two anchors and on from the others. -/
def Anchor.sign : Anchor → Int
  | beforeNow | beforeToday => -1
  | afterNow | afterToday => 1

/-- With no blanks around it, the text is the letter of an anchor and a number of days in decimal,
perhaps with blanks between them.
-/
def IsOffset (cs : List Char) (anchor : Anchor) (days : Int) : Prop :=
  ∃ between number,
    Pads cs (anchor.letter :: (between ++ number))
    ∧ (∀ c ∈ between, isBlank c = true)
    ∧ IsDecimal number days

/-- The operand is a relative offset, and it leads to the instant: the number of days and that of
seconds have 64 bits, and so has the instant.
-/
inductive Reaches (clock : Clock) : Json.Value → Int → Prop
  | intro {s anchor days} (spelt : IsOffset s.toList anchor days) (whole : Word.Fits days)
    (seconds : Word.Fits (days * 86400))
    (target : Word.Fits (anchor.base clock + anchor.sign * (days * 86400)))
    : Reaches clock (.string s) (anchor.base clock + anchor.sign * (days * 86400))

theorem Anchor.ofChar?_eq_some_iff {c : Char} {anchor : Anchor}
    : ofChar? c = some anchor ↔ c = anchor.letter := by
  constructor
  · intro named
    unfold ofChar? at named
    split at named
    · cases named; rfl
    · cases named; rfl
    · cases named; rfl
    · cases named; rfl
    · cases named
  · rintro rfl
    cases anchor <;> rfl

theorem Anchor.isBlank_letter (anchor : Anchor) : isBlank anchor.letter = false := by
  cases anchor <;> decide

theorem Anchor.target_eq (anchor : Anchor) (clock : Clock) (seconds : Int)
    : anchor.target clock seconds = anchor.base clock + anchor.sign * seconds := by
  cases anchor <;>
    simp only [target, base, sign] <;>
    omega

/-- Behind trimming, the first character is taken for the letter and the others, trimmed again, for
the days. This reads exactly the offsets whose days have 64 bits.
-/
theorem isOffset_iff {cs : List Char} {anchor : Anchor} {days : Int}
    : (trim cs).head?.bind Anchor.ofChar? = some anchor
          ∧ readWord? (trim ((trim cs).drop 1)) = some days
        ↔ IsOffset cs anchor days ∧ Word.Fits days := by
  rw [Text.readWord?_trim_eq_some_iff]
  constructor
  · rintro ⟨letter, ⟨number, inner, decimal⟩, fits⟩
    have outer := Text.pads_trim cs
    cases core : trim cs with
    | nil => simp [core] at letter
    | cons c rest =>
        rw [core] at letter inner outer
        obtain rfl := Anchor.ofChar?_eq_some_iff.mp letter
        obtain ⟨between, after, blank, afterBlank, rfl⟩ := inner
        obtain ⟨before, last, beforeBlank, lastBlank, rfl⟩ := outer
        have behind : ∀ c ∈ after ++ last, isBlank c = true :=
          List.forall_mem_append.mpr ⟨afterBlank, lastBlank⟩
        exact ⟨⟨between, number, ⟨before, _, beforeBlank, behind, by simp⟩, blank, decimal⟩, fits⟩
  · rintro ⟨⟨between, number, pads, blank, decimal⟩, fits⟩
    have trimmed : IsTrimmed (anchor.letter :: (between ++ number)) := by
      obtain ⟨rest, c, rfl, stays⟩ := decimal.isTrimmed.stop
      exact
        { start := ⟨_, _, rfl, anchor.isBlank_letter⟩
          stop := ⟨anchor.letter :: (between ++ rest), c, by simp, stays⟩ }
    rw [pads.trim trimmed]
    refine ⟨Anchor.ofChar?_eq_some_iff.mpr rfl, ⟨number, ?_, decimal⟩, fits⟩
    exact ⟨between, [], blank, by simp, by simp⟩

theorem offsetSeconds_eq_ok_iff {raw : List Char} {seconds : Int}
    : offsetSeconds raw = .ok seconds
      ↔ ∃ days,
          readWord? (trim (raw.drop 1)) = some days
          ∧ Word.Fits (days * 86400)
          ∧ seconds = days * 86400 := by
  have day : Calendar.secondsPerDay = 86400 := rfl
  unfold offsetSeconds
  cases read : readWord? (trim (raw.drop 1)) with
  | none => simp
  | some days =>
      simp only [Option.some.injEq, exists_eq_left', day]
      cases checked : Word.check? (days * 86400) with
      | none =>
          have wide : ¬ Word.Fits (days * 86400) := fun fits => by
            simp [Word.check?_eq_some_iff.mpr ⟨fits, rfl⟩] at checked
          exact iff_of_false nofun fun ⟨fits, _⟩ => wide fits
      | some offset =>
          obtain ⟨fits, rfl⟩ := Word.check?_eq_some_iff.mp checked
          exact ⟨fun h => ⟨fits, (Except.ok.inj h).symm⟩, fun h => congrArg Except.ok h.2.symm⟩

/-- A relative offset is accepted if it leads to an instant, and that instant is taken. -/
theorem relativeInstant_eq_ok_iff_reaches {clock : Clock} {operand : Json.Value} {t : Int}
    : relativeInstant clock operand = .ok t ↔ Reaches clock operand t := by
  rw [relativeInstant_eq_ok_iff]
  constructor
  · rintro ⟨s, anchor, seconds, rfl, letter, read, target, rfl⟩
    obtain ⟨days, number, fits, rfl⟩ := offsetSeconds_eq_ok_iff.mp read
    obtain ⟨spelt, whole⟩ := isOffset_iff.mp ⟨letter, number⟩
    rw [anchor.target_eq] at target ⊢
    exact .intro spelt whole fits target
  · rintro ⟨spelt, whole, seconds, target⟩
    next s anchor days =>
      obtain ⟨letter, number⟩ := isOffset_iff.mpr ⟨spelt, whole⟩
      have read := offsetSeconds_eq_ok_iff.mpr ⟨days, number, seconds, rfl⟩
      rw [← anchor.target_eq] at target ⊢
      exact ⟨s, anchor, _, rfl, letter, read, target, rfl⟩

end Operand

-----------------------------------------------------------------------------------------
-- The two ends of a relative range
-----------------------------------------------------------------------------------------

/-- The operator bounds a column by a relative offset, with the comparison. -/
inductive LiteralOperator.BoundsByOffset : LiteralOperator → Comparison → Prop
  | rangeFrom : BoundsByOffset rangeFrom .ge
  | rangeTo : BoundsByOffset rangeTo .le

/-- The two operators differ in their comparison only. -/
theorem LiteralOperator.BoundsByOffset.test_eq {op : LiteralOperator} {relation : Comparison}
    (bounds : op.BoundsByOffset relation) (type : FieldType) (c : Column) (clock : Clock)
    (operand : Json.Value)
    : op.test type c clock operand
      = (Ending.reporting (Operand.relativeInstant clock operand)).map fun t =>
          .any [Test.compared relation c (.int t)] := by
  cases bounds <;> rfl

/-- Relative ranges are exact and never wrap. A condition that bounds a field by a relative offset is
planned exactly when its operand leads to an instant, which is then the one value that it binds;
otherwise it fails for its operand, with the code of the field and the operator.
-/
theorem Condition.plan_relativeRange {fields : List Field} {code : String} {f : Field}
    (resolved : Field.resolve? fields code = some f) {op : LiteralOperator}
    {relation : Comparison} (bounds : op.BoundsByOffset relation) (clock : Clock) (used : Nat)
    (operand : Json.Value)
    : (∀ test joins,
        (literal code op operand).plan fields clock used = .ok (test, joins)
        ↔ ∃ t,
            Operand.Reaches clock operand t
            ∧ test = .any [Test.compared relation (f.columnAfter used).1 (.int t)]
            ∧ test.params = [.int t]
            ∧ joins = (f.columnAfter used).2)
      ∧ ((∀ t, ¬ Operand.Reaches clock operand t)
          ↔ ∃ fault,
              (literal code op operand).plan fields clock used
              = .error (.reported (.malformedOperand code (.literal op) fault))) := by
  refine ⟨fun test joins => ?_, ?_⟩
  · simp only [plan_literal_eq_ok_iff, bounds.test_eq, map_eq_ok_iff, Ending.reporting_eq_ok_iff,
      Operand.relativeInstant_eq_ok_iff_reaches]
    constructor
    · rintro ⟨g, own, ⟨t, reaches, rfl⟩, rfl⟩
      obtain rfl := Option.some.inj (resolved.symm.trans own)
      exact ⟨t, reaches, rfl, rfl, rfl⟩
    · rintro ⟨t, reaches, rfl, _, rfl⟩
      exact ⟨f, resolved, ⟨t, reaches, rfl⟩, rfl⟩
  · simp only [← Operand.relativeInstant_eq_ok_iff_reaches]
    have test := bounds.test_eq f.type (f.columnAfter used).1 clock operand
    cases read : Operand.relativeInstant clock operand with
    | error fault =>
        rw [read] at test
        have failed := plan_literal_eq_error_iff.mpr (.inr ⟨f, _, resolved, test, rfl⟩)
        refine iff_of_true (fun t accepted => ?_) ⟨fault, failed⟩
        cases accepted
    | ok t =>
        rw [read] at test
        have planned := plan_literal_eq_ok_iff.mpr ⟨f, resolved, test, rfl⟩
        refine iff_of_false (fun nowhere => nowhere t rfl) ?_
        rintro ⟨fault, failed⟩
        cases planned.symm.trans failed

/-- St. John's in 2006, half an hour after the clock was set back into October 28. -/
def setBackClock : Clock :=
  { stJohnsClock with now := 1162090860 }

/-- Three days less than none before the present day are three days after its start. As many days as
64 bits of seconds hold are one too many after it.
-/
theorem Condition.plan_relativeRange_of_days
    : Field.resolve? [arrivalField] "arrival" = some arrivalField
      ∧ LiteralOperator.BoundsByOffset .rangeFrom .ge
      ∧ (literal "arrival" .rangeFrom (.string " b -3 ")).plan [arrivalField]
            setBackClock 0
          = .ok (.any [Test.compared .ge (.fixed "r.arrival") (.int 1162261800)], [])
      ∧ ∃ fault,
          (literal "arrival" .rangeFrom (.string "d106751991167300")).plan [arrivalField]
            setBackClock 0
          = .error (.reported (.malformedOperand "arrival" (.literal .rangeFrom) fault)) := by
  have resolved : Field.resolve? [arrivalField] "arrival" = some arrivalField := rfl
  have today : setBackClock.today = 1162002600 := by decide +kernel
  have digits : Text.IsDigits ['3'] := ⟨by simp, List.forall_mem_singleton.mpr (by decide)⟩
  have blank : ∀ c ∈ [' '], isBlank c = true := List.forall_mem_singleton.mpr rfl
  have spelt : Operand.IsOffset " b -3 ".toList .beforeToday (-3) :=
    ⟨[' '], ['-', '3'], ⟨[' '], [' '], blank, blank, rfl⟩, blank, .minus digits⟩
  have reaches : Operand.Reaches setBackClock (.string " b -3 ") 1162261800 := by
    have base : Operand.Anchor.base setBackClock .beforeToday = 1162002600 := today
    have target : Word.Fits (1162002600 + Operand.Anchor.sign .beforeToday * (-3 * 86400)) := by
      decide
    rw [← base] at target
    have reached := Operand.Reaches.intro spelt (by decide) (by decide) target
    rwa [base] at reached
  have refused
      : (Operand.relativeInstant setBackClock (.string "d106751991167300")).toOption = none := by
    decide +kernel
  have plan := plan_relativeRange resolved .rangeFrom setBackClock 0
  refine ⟨resolved, .rangeFrom, ?_, ?_⟩
  · exact ((plan (.string " b -3 ")).1 _ _).mpr ⟨_, reaches, rfl, rfl, rfl⟩
  · refine (plan (.string "d106751991167300")).2.mp fun t reached => ?_
    rw [Operand.relativeInstant_eq_ok_iff_reaches.mpr reached] at refused
    cases refused

end FieldFilter
