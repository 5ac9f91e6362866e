import FieldFilter.Compile.Render

/-! Which entities a test selects. A database server answers each atom for the entity at hand with
yes or no, or leaves it open when a value is missing. `OR` and `AND` combine the answers in
three-valued logic, and an entity is selected when the answer to its test is yes.
-/

namespace FieldFilter

/-- An answer in three-valued logic: yes, no, or open. -/
abbrev Truth := Option Bool

namespace Truth

def or : Truth → Truth → Truth
  | some true, _ | _, some true => some true
  | some false, some false => some false
  | _, _ => none

def and : Truth → Truth → Truth
  | some false, _ | _, some false => some false
  | some true, some true => some true
  | _, _ => none

theorem or_eq_yes_iff {p q : Truth} : or p q = some true ↔ p = some true ∨ q = some true := by
  rcases p with _ | _ | _ <;> rcases q with _ | _ | _ <;> decide

theorem and_eq_yes_iff {p q : Truth} : and p q = some true ↔ p = some true ∧ q = some true := by
  rcases p with _ | _ | _ <;> rcases q with _ | _ | _ <;> decide

end Truth

/-- What a comparison says of two integers. -/
def Comparison.Holds : Comparison → Int → Int → Prop
  | eq, m, n => m = n
  | ne, m, n => m ≠ n
  | lt, m, n => m < n
  | gt, m, n => n < m
  | le, m, n => m ≤ n
  | ge, m, n => n ≤ m

instance (relation : Comparison) (m n : Int) : Decidable (relation.Holds m n) :=
  match relation with
  | .eq => inferInstanceAs (Decidable (m = n))
  | .ne => inferInstanceAs (Decidable (m ≠ n))
  | .lt => inferInstanceAs (Decidable (m < n))
  | .gt => inferInstanceAs (Decidable (n < m))
  | .le => inferInstanceAs (Decidable (m ≤ n))
  | .ge => inferInstanceAs (Decidable (n ≤ m))

namespace Comparison

/-- The six comparisons agree with each other as those of an order do: exactly one of less, equal
and greater holds, and the other three follow from these.
-/
structure Trichotomous (holds : Comparison → Prop) : Prop where
  some_holds : holds lt ∨ holds eq ∨ holds gt
  not_lt_eq : ¬ (holds lt ∧ holds eq)
  not_lt_gt : ¬ (holds lt ∧ holds gt)
  not_eq_gt : ¬ (holds eq ∧ holds gt)
  le_iff : holds le ↔ holds lt ∨ holds eq
  ge_iff : holds ge ↔ holds gt ∨ holds eq
  ne_iff : holds ne ↔ ¬ holds eq

theorem trichotomous_holds (m n : Int) : Trichotomous fun relation => relation.Holds m n := by
  constructor <;>
    simp only [Holds] <;>
    omega

end Comparison

namespace Test

variable (judge : Atom → Truth)

/-- The answer to a test, from the answers to its atoms. -/
def truth : Test → Truth
  | any atoms => atoms.foldr (fun atom answer => (judge atom).or answer) (some false)
  | all atoms => atoms.foldr (fun atom answer => (judge atom).and answer) (some true)

/-- The test selects the entity for which the atoms are answered. -/
def Selects (test : Test) : Prop :=
  test.truth judge = some true

variable {judge}

/-- A disjunction selects what one of its atoms selects, by induction on the atoms. -/
theorem selects_any_iff {atoms : List Atom}
    : (any atoms).Selects judge ↔ ∃ atom ∈ atoms, judge atom = some true := by
  induction atoms with
  | nil => simp [Selects, truth]
  | cons atom atoms ih =>
      simp only [Selects, truth, List.foldr_cons] at ih ⊢
      rw [Truth.or_eq_yes_iff, ih]
      simp

/-- A conjunction selects what all of its atoms select, by induction on the atoms. -/
theorem selects_all_iff {atoms : List Atom}
    : (all atoms).Selects judge ↔ ∀ atom ∈ atoms, judge atom = some true := by
  induction atoms with
  | nil => simp [Selects, truth]
  | cons atom atoms ih =>
      simp only [Selects, truth, List.foldr_cons] at ih ⊢
      rw [Truth.and_eq_yes_iff, ih, List.forall_mem_cons]

end Test

/-- The answers are those for an entity with the integer `t` in a column: comparisons of the column
with bound integers are comparisons of integers.
-/
def StoresInteger (judge : Atom → Truth) (c : Column) (t : Int) : Prop :=
  ∀ relation n,
    judge (Test.compared relation c (.int n)) = some (decide (Comparison.Holds relation t n))

/-- The answers for an entity with the integer `t` in every column, as far as columns are compared
with bound integers.
-/
def answersFor (t : Int) : Atom → Truth
  | .compare relation (.column _) (.bound (.int n)) => some (decide (relation.Holds t n))
  | _ => none

theorem storesInteger_answersFor (c : Column) (t : Int) : StoresInteger (answersFor t) c t :=
  fun _ _ => rfl

namespace StoresInteger

variable {judge : Atom → Truth} {c : Column} {t : Int}

theorem answer_iff (stores : StoresInteger judge c t) {relation : Comparison} {n : Int}
    : judge (Test.compared relation c (.int n)) = some true ↔ relation.Holds t n := by
  rw [stores relation n, Option.some.injEq, decide_eq_true_iff]

theorem selects_compared_iff (stores : StoresInteger judge c t) {relation : Comparison} {n : Int}
    : (Test.any [Test.compared relation c (.int n)]).Selects judge ↔ relation.Holds t n := by
  simp [Test.selects_any_iff, stores.answer_iff]

/-- A comparison of dates selects by the day in which the stored instant lies, when the day with the
number `d` starts at `start` and the day after it at `next`. By cases on the relation.
-/
theorem selects_dateIs_iff (stores : StoresInteger judge c t) {start next day d : Int}
    (starts : start ≤ t ↔ d ≤ day) (ends : next ≤ t ↔ d + 1 ≤ day) (relation : Comparison)
    : (Test.dateIs relation c start next).Selects judge ↔ relation.Holds day d := by
  cases relation with
  | eq =>
      simp only [Test.dateIs, Test.selects_all_iff, List.mem_cons, List.not_mem_nil, or_false,
        forall_eq_or_imp, forall_eq, stores.answer_iff, Comparison.Holds]
      omega
  | ne =>
      simp only [Test.dateIs, Test.selects_any_iff, List.mem_cons, List.not_mem_nil, or_false,
        exists_eq_or_imp, exists_eq_left, stores.answer_iff, Comparison.Holds]
      omega
  | lt =>
      refine stores.selects_compared_iff.trans ?_
      simp only [Comparison.Holds]
      omega
  | gt =>
      refine stores.selects_compared_iff.trans ?_
      simp only [Comparison.Holds]
      omega
  | le =>
      refine stores.selects_compared_iff.trans ?_
      simp only [Comparison.Holds]
      omega
  | ge =>
      refine stores.selects_compared_iff.trans ?_
      simp only [Comparison.Holds]
      omega

end StoresInteger

end FieldFilter
