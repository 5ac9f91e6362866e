import FieldFilter.Proofs.Compile.TestForm
import FieldFilter.Proofs.Sql.Characters
import FieldFilter.Proofs.Sql.Parentheses
import FieldFilter.Proofs.Sql.Rendering

/-! Every part of a predicate is balanced when the columns in it are names: each parenthesis that
the text of a term or an atom opens is closed by the same term or atom.
-/

namespace FieldFilter

/-- The text of the column is made of the characters of names. -/
def Column.IsName (t : ValueTable) (c : Column) : Prop :=
  (c.text t).toList.all Identifier.inName = true

theorem Column.IsName.balanced {t : ValueTable} {c : Column} (h : c.IsName t)
    : Balanced (c.text t).toList :=
  .of_all rfl rfl h

theorem balanced_toString (n : Nat) : Balanced (toString n).toList := by
  have digits : (toString n).toList.all Char.isDigit = true :=
    List.all_eq_true.mpr fun x hx => isDigit_of_mem_toString hx
  exact .of_all rfl rfl digits

/-- Moving an expression ahead keeps it balanced, by cases on the sign of the offset. -/
theorem Term.balanced_shiftedText {expression : String} (h : Balanced expression.toList)
    (offset : Int)
    : Balanced (shiftedText expression offset).toList := by
  rcases shiftedText_cases expression offset with same | ⟨sign, n, blank, text⟩
  · rw [same]
    exact h
  · have between : Balanced sign.toList := by
      rcases blank with rfl | rfl
      · decide
      · decide
    rw [text]
    have sum : Balanced (expression ++ sign ++ toString n).toList := by
      rw [String.toList_append, String.toList_append]
      exact (h.append between).append (balanced_toString n)
    have whole : Balanced ("(" ++ (expression ++ sign ++ toString n) ++ ")").toList :=
      .within rfl sum rfl
    simpa [String.append_assoc] using whole

/-- Terms are balanced when their columns are names, by cases on the term. -/
theorem Term.balanced {t : ValueTable} {term : Term} (h : ∀ c ∈ term.columns, c.IsName t)
    : Balanced (term.text t).toList := by
  cases term with
  | column c => exact (h c (by simp [columns])).balanced
  | bound p =>
      have mark : Balanced "?".toList := by decide
      exact mark
  | literal n => exact balanced_toString n
  | emptyText =>
      have quotes : Balanced "''".toList := by decide
      exact quotes
  | locate p c => exact .within rfl (h c (by simp [columns])).balanced rfl
  | length c => exact .within rfl (h c (by simp [columns])).balanced rfl
  | bytes c => exact .within rfl (h c (by simp [columns])).balanced rfl
  | date c offset =>
      have value : Balanced ("COALESCE(" ++ c.text t ++ ", 0)").toList :=
        .within rfl (h c (by simp [columns])).balanced rfl
      exact .within rfl (balanced_shiftedText value offset) rfl

theorem Comparison.balanced (relation : Comparison) : Balanced relation.text.toList := by
  cases relation <;> decide

/-- The tests for single documents are balanced, one by one. -/
theorem Atom.balanced_membershipText {t : ValueTable} {c : Column} (h : c.IsName t)
    (documents : List Parameter)
    : Balanced (membershipText t c documents).toList := by
  refine Balanced.intercalate (by decide) fun text member => ?_
  obtain ⟨_, _, rfl⟩ := List.mem_map.mp member
  exact .within rfl h.balanced rfl

/-- Atoms are balanced when their columns are names, by cases on the atom. -/
theorem Atom.balanced {t : ValueTable} {atom : Atom} (h : ∀ c ∈ atom.columns, c.IsName t)
    : Balanced (atom.text t).toList := by
  have before (c : Column) (name : c.IsName t) (word : String) (hw : Balanced word.toList)
      : Balanced (c.text t ++ word).toList := by
    rw [String.toList_append]
    exact name.balanced.append hw
  cases atom with
  | compare relation left right =>
      have hl := Term.balanced fun c hc => h c (List.mem_append_left _ hc)
      have hr := Term.balanced fun c hc => h c (List.mem_append_right _ hc)
      have blank : Balanced " ".toList := by decide
      simp only [text_compare, String.toList_append]
      exact (((hl.append blank).append relation.balanced).append blank).append hr
  | isNull c => exact before c (h c (by simp [columns])) _ (by decide)
  | isNotNull c => exact before c (h c (by simp [columns])) _ (by decide)
  | like c pattern => exact before c (h c (by simp [columns])) _ (by decide)
  | regexp c pattern => exact before c (h c (by simp [columns])) _ (by decide)
  | between c least greatest => exact before c (h c (by simp [columns])) _ (by decide)
  | contains negated c documents =>
      have inside := balanced_membershipText (h c (by simp [columns])) documents
      cases negated with
      | false => exact .within rfl inside rfl
      | true => exact .within rfl inside rfl

/-- Tests are balanced when their columns are names: their atoms are, and the words between
them have no parentheses.
-/
theorem Test.balanced {t : ValueTable} {test : Test} (h : ∀ c ∈ test.columns, c.IsName t)
    : Balanced (test.text t).toList := by
  have each : ∀ text ∈ test.atoms.map (Atom.text t), Balanced text.toList := by
    intro text member
    obtain ⟨atom, ha, rfl⟩ := List.mem_map.mp member
    exact Atom.balanced fun c hc => h c (List.mem_flatMap.mpr ⟨atom, ha, hc⟩)
  cases test with
  | any atoms => exact Balanced.intercalate (by decide) each
  | all atoms => exact Balanced.intercalate (by decide) each

end FieldFilter
