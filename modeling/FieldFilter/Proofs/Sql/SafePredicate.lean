import FieldFilter.Proofs.Sql.BalancedText
import FieldFilter.Proofs.Sql.SafeText

/-! Predicates and joins over plain names are safe texts. What a filter compares with is nowhere in
them, so it is enough that the columns and the layout have nothing foreign in their names.
-/

namespace FieldFilter

-----------------------------------------------------------------------------------------
-- Terms
-----------------------------------------------------------------------------------------

theorem Column.IsName.madeOf {t : ValueTable} {c : Column} (h : c.IsName t)
    : MadeOf openMarks (c.text t).toList :=
  .of_names (by decide) (by decide) (List.all_eq_true.mp h)

theorem madeOf_toString (n : Nat) : MadeOf openMarks (toString n).toList :=
  .of_digits fun _ member => isDigit_of_mem_toString member

/-- Moving a word ahead is safe: the number that is added or taken away has no sign, so the minus
sign stands between blanks. By cases on the sign of the offset.
-/
theorem Term.safeText_shiftedText {expression : String} (h : MadeOf openMarks expression.toList)
    (offset : Int)
    : SafeText (shiftedText expression offset).toList := by
  rcases shiftedText_cases expression offset with same | ⟨sign, n, sum, text⟩
  · rw [same]
    exact .of_word h
  · have number : SafeText (toString n ++ ")").toList := by
      rw [String.toList_append]
      exact .word_append (madeOf_toString n) (.of_word (by decide))
    have opening : MadeOf openMarks ("(" ++ expression).toList := by
      have parenthesis : MadeOf openMarks "(".toList := by decide
      rw [String.toList_append]
      exact parenthesis.append h
    rw [text, String.append_assoc, String.append_assoc, String.toList_append]
    refine .word_append opening ?_
    rw [String.toList_append]
    rcases sum with rfl | rfl
    · exact .word_append (by decide) number
    · exact .minus number

/-- The date of a column is safe: it brings two of the fixed literals. -/
theorem Term.safeText_date {t : ValueTable} {c : Column} (h : c.IsName t) (offset : Int)
    : SafeText ((date c offset).text t).toList := by
  have value : MadeOf openMarks ("COALESCE(" ++ c.text t ++ ", 0)").toList :=
    .within (by decide) h.madeOf (by decide)
  have addition : MadeOf openMarks "DATE_FORMAT(DATE_ADD(".toList := by decide
  have day : "1970-01-01".toList ∈ fixedLiterals := by decide
  have interval : MadeOf openMarks ", INTERVAL ".toList := by decide
  have unit : MadeOf openMarks " SECOND), ".toList := by decide
  have format : "%Y-%m-%d".toList ∈ fixedLiterals := by decide
  have closing : MadeOf openMarks ")".toList := by decide
  have last : SafeText " SECOND), '%Y-%m-%d')".toList :=
    .literal_append unit format closing (by decide) .nil
  have moved := (safeText_shiftedText value offset).append last (by decide)
  have whole := SafeText.literal_append addition day interval (by decide) moved
  have first
      : "DATE_FORMAT(DATE_ADD('1970-01-01', INTERVAL ".toList
        = "DATE_FORMAT(DATE_ADD(".toList
          ++ '\'' :: ("1970-01-01".toList ++ '\'' :: ", INTERVAL ".toList) := by
    decide
  rw [text_date, String.toList_append, String.toList_append, first]
  simpa only [List.append_assoc, List.cons_append] using whole

/-- Terms are safe when their columns are names, by cases on the term. -/
theorem Term.safeText {t : ValueTable} {term : Term} (h : ∀ c ∈ term.columns, c.IsName t)
    : SafeText (term.text t).toList := by
  cases term with
  | column c => exact .of_word (h c (by simp [columns])).madeOf
  | bound p =>
      have mark : SafeText "?".toList := .of_word (by decide)
      exact mark
  | literal n => exact .of_word (madeOf_toString n)
  | emptyText =>
      have empty : [] ∈ fixedLiterals := by decide
      have quotes : SafeText ['\'', '\''] := .literal empty (by decide) .nil
      rw [text_emptyText]
      exact quotes
  | locate p c =>
      have name := (h c (by simp [columns])).madeOf
      exact .within (by decide) (.of_word name) (by decide)
  | length c =>
      have name := (h c (by simp [columns])).madeOf
      exact .within (by decide) (.of_word name) (by decide)
  | bytes c =>
      have name := (h c (by simp [columns])).madeOf
      have comma : MadeOf openMarks ", ".toList := by decide
      have empty : "".toList ∈ fixedLiterals := by decide
      have closing : MadeOf openMarks ")".toList := by decide
      have last : SafeText ", '')".toList := .literal_append comma empty closing (by decide) .nil
      rw [text_bytes, String.toList_append, String.toList_append, List.append_assoc]
      exact .word_append (by decide) (.word_append name last)
  | date c offset => exact safeText_date (h c (by simp [columns])) offset

-----------------------------------------------------------------------------------------
-- Atoms and tests
-----------------------------------------------------------------------------------------

/-- The tests for single documents are safe, one by one. -/
theorem Atom.safeText_membershipText {t : ValueTable} {c : Column} (h : c.IsName t)
    (documents : List Parameter)
    : SafeText (membershipText t c documents).toList := by
  refine SafeText.intercalate (by decide) (by decide) fun text member => ?_
  obtain ⟨_, _, rfl⟩ := List.mem_map.mp member
  exact .within (by decide) (.of_word h.madeOf) (by decide)

/-- Atoms are safe when their columns are names, by cases on the atom. -/
theorem Atom.safeText {t : ValueTable} {atom : Atom} (h : ∀ c ∈ atom.columns, c.IsName t)
    : SafeText (atom.text t).toList := by
  have before (c : Column) (name : c.IsName t) (word : String) (hw : MadeOf openMarks word.toList)
      : SafeText (c.text t ++ word).toList := by
    rw [String.toList_append]
    exact .of_word (name.madeOf.append hw)
  cases atom with
  | compare relation left right =>
      have hl := Term.safeText fun c hc => h c (List.mem_append_left _ hc)
      have hr := Term.safeText fun c hc => h c (List.mem_append_right _ hc)
      have between : MadeOf openMarks (" " ++ relation.text ++ " ").toList := by
        cases relation <;> decide
      have whole := hl.append_word between (by simp) hr
      simpa using whole
  | isNull c => exact before c (h c (by simp [columns])) _ (by decide)
  | isNotNull c => exact before c (h c (by simp [columns])) _ (by decide)
  | like c pattern => exact before c (h c (by simp [columns])) _ (by decide)
  | regexp c pattern => exact before c (h c (by simp [columns])) _ (by decide)
  | between c least greatest => exact before c (h c (by simp [columns])) _ (by decide)
  | contains negated c documents =>
      have inside := safeText_membershipText (h c (by simp [columns])) documents
      cases negated with
      | false => exact .within (by decide) inside (by decide)
      | true => exact .within (by decide) inside (by decide)

/-- Tests are safe when their columns are names: their atoms are, and the words between them are
words of marks.
-/
theorem Test.safeText {t : ValueTable} {test : Test} (h : ∀ c ∈ test.columns, c.IsName t)
    : SafeText (test.text t).toList := by
  have each : ∀ text ∈ test.atoms.map (Atom.text t), SafeText text.toList := by
    intro text member
    obtain ⟨atom, ha, rfl⟩ := List.mem_map.mp member
    exact Atom.safeText fun c hc => h c (List.mem_flatMap.mpr ⟨atom, ha, hc⟩)
  cases test with
  | any atoms => exact SafeText.intercalate (by decide) (by decide) each
  | all atoms => exact SafeText.intercalate (by decide) (by decide) each

-----------------------------------------------------------------------------------------
-- Predicates
-----------------------------------------------------------------------------------------

theorem Conjunction.madeOf (conjunction : Conjunction)
    : MadeOf openMarks conjunction.text.toList := by
  cases conjunction <;> decide

namespace Predicate

variable {t : ValueTable}

mutual

/-- A predicate is safe when the columns of its tests are names, by induction on the predicate. -/
theorem safeText {p : Predicate} (h : ∀ test ∈ p.tests, ∀ c ∈ test.columns, c.IsName t)
    : SafeText (p.text t).toList := by
  cases p with
  | test test =>
      rw [text_test]
      refine .within (by decide) (Test.safeText ?_) (by decide)
      exact h test (by simp [tests])
  | group first rest =>
      rw [tests] at h
      have head : SafeText (first.text t).toList :=
        safeText fun test member => h test (List.mem_append_left _ member)
      have children : SafeText (first.text t ++ restText t rest).toList := by
        rw [String.toList_append]
        exact safeText_restText head fun test member => h test (List.mem_append_right _ member)
      rw [text_group]
      exact .within (by decide) children (by decide)

theorem safeText_restText {u : List Char} {rest : List (Conjunction × Predicate)}
    (before : SafeText u) (h : ∀ test ∈ restTests rest, ∀ c ∈ test.columns, c.IsName t)
    : SafeText (u ++ (restText t rest).toList) := by
  cases rest with
  | nil => simpa using before
  | cons child rest =>
      obtain ⟨conjunction, p⟩ := child
      rw [restTests] at h
      have own : SafeText (p.text t).toList :=
        safeText fun test member => h test (List.mem_append_left _ member)
      have nonempty : conjunction.text.toList ≠ [] := by cases conjunction <;> decide
      have through := before.append_word conjunction.madeOf nonempty own
      rw [restText_cons, String.toList_append, String.toList_append, ← List.append_assoc,
        ← List.append_assoc]
      exact safeText_restText through fun test member => h test (List.mem_append_right _ member)

end

end Predicate

-----------------------------------------------------------------------------------------
-- Joins
-----------------------------------------------------------------------------------------

/-- The names in the layout are plain identifiers. -/
def ValueTable.IsPlain (t : ValueTable) : Prop :=
  ∀ name ∈ t.names, Identifier.isPlain name = true

/-- A join over a plain layout is made of names, digits and words, by its characters. -/
theorem Join.madeOf {t : ValueTable} (plain : t.IsPlain) (j : Join)
    : MadeOf joinMarks (j.text t).toList := by
  intro x member
  rcases mem_text member with ⟨name, known, inside⟩ | digit | word
  · have letter := Identifier.inName_of_mem (plain name known) inside
    rcases Identifier.isAlphanum_or_mark_of_inName letter with letter | rfl | rfl
    · exact Or.inl letter
    · exact Or.inr (by decide)
    · exact Or.inr (by decide)
  · exact Or.inl (by simp [Char.isAlphanum, digit])
  · have words : MadeOf joinMarks joinWords := by decide
    exact words x word

theorem Join.dash_notMem_lead {t : ValueTable} (plain : t.IsPlain) (j : Join)
    : '-' ∉ (j.lead t).toList := by
  intro member
  rcases mem_lead member with ⟨name, known, inside⟩ | digit | word
  · exact absurd (Identifier.inName_of_mem (plain name known) inside) (by decide)
  · exact absurd digit (by decide)
  · exact absurd word (by decide)

/-- An integer has at most its sign for a dash, by cases on the sign. -/
theorem count_dash_toString (n : Int) : (toString n).toList.count '-' ≤ 1 := by
  have natural (n : Nat) : (toString n).toList.count '-' = 0 := by
    refine List.count_eq_zero.mpr fun member => ?_
    exact absurd (isDigit_of_mem_toString member) (by decide)
  cases n with
  | ofNat n =>
      have unsigned : (toString (Int.ofNat n)).toList.count '-' = 0 := natural n
      omega
  | negSucc n =>
      have signed : (toString (Int.negSucc n)).toList = '-' :: (toString (n + 1)).toList := by
        simp [toString, Int.repr]
      have one : (toString (Int.negSucc n)).toList.count '-' = 1 := by
        rw [signed, List.count_cons_self, natural]
      omega

/-- No two dashes follow each other in a join over a plain layout: the sign of the field id is the
only one.
-/
theorem Join.no_comment {t : ValueTable} (plain : t.IsPlain) (j : Join)
    : ¬ "--".toList <:+: (j.text t).toList := by
  intro comment
  have two : "--".toList.count '-' = 2 := by decide
  have more := comment.sublist.count_le '-'
  have lead : (j.lead t).toList.count '-' = 0 := List.count_eq_zero.mpr (dash_notMem_lead plain j)
  have sign := count_dash_toString j.fieldId
  rw [text_eq, String.toList_append, List.count_append] at more
  omega

end FieldFilter
