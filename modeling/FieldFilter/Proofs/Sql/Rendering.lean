import FieldFilter.Sql.Query

/-! The text of each part of a predicate, one equation for each constructor. Facts about texts are
proved with these equations, so that they depend on the wording in this one place.
-/

namespace FieldFilter

section Terms

variable (t : ValueTable) (c : Column) (p : Parameter)

@[simp] theorem Term.text_column : (column c).text t = c.text t := rfl

@[simp] theorem Term.text_bound : (bound p).text t = "?" := rfl

@[simp] theorem Term.text_literal (n : Nat) : (literal n).text t = toString n := rfl

@[simp] theorem Term.text_emptyText : emptyText.text t = "''" := rfl

@[simp] theorem Term.text_locate : (locate p c).text t = "LOCATE(?, " ++ c.text t ++ ")" := rfl

@[simp] theorem Term.text_length : (length c).text t = "CHAR_LENGTH(" ++ c.text t ++ ")" := rfl

@[simp] theorem Term.text_bytes
    : (bytes c).text t = "BINARY COALESCE(" ++ c.text t ++ ", '')" := rfl

@[simp] theorem Term.text_date (offset : Int)
    : (date c offset).text t
      = "DATE_FORMAT(DATE_ADD('1970-01-01', INTERVAL "
        ++ shiftedText ("COALESCE(" ++ c.text t ++ ", 0)") offset
        ++ " SECOND), '%Y-%m-%d')" := rfl

end Terms

/-- An expression is moved ahead by a sum or a difference in parentheses, or stays as it is. What
is added or taken away has no sign.
-/
theorem Term.shiftedText_cases (expression : String) (offset : Int)
    : shiftedText expression offset = expression
      ∨ ∃ sign, ∃ n : Nat,
          (sign = " + " ∨ sign = " - ")
          ∧ shiftedText expression offset = "(" ++ expression ++ sign ++ toString n ++ ")" := by
  by_cases hz : offset = 0
  · exact Or.inl (if_pos hz)
  · by_cases hp : 0 < offset
    · obtain ⟨n, rfl⟩ := Int.eq_ofNat_of_zero_le (Int.le_of_lt hp)
      exact Or.inr ⟨" + ", n, Or.inl rfl, (if_neg hz).trans (if_pos hp)⟩
    · have back : 0 ≤ -offset := by omega
      obtain ⟨n, same⟩ := Int.eq_ofNat_of_zero_le back
      refine Or.inr ⟨" - ", n, Or.inr rfl, ?_⟩
      rw [shiftedText, if_neg hz, if_neg hp, same]
      rfl

section Atoms

variable (t : ValueTable) (c : Column) (p : Parameter)

@[simp] theorem Atom.text_compare (relation : Comparison) (left right : Term)
    : (compare relation left right).text t
      = left.text t ++ " " ++ relation.text ++ " " ++ right.text t := rfl

@[simp] theorem Atom.text_isNull : (isNull c).text t = c.text t ++ " IS NULL" := rfl

@[simp] theorem Atom.text_isNotNull : (isNotNull c).text t = c.text t ++ " IS NOT NULL" := rfl

@[simp] theorem Atom.text_like : (like c p).text t = c.text t ++ " LIKE ?" := rfl

@[simp] theorem Atom.text_regexp : (regexp c p).text t = c.text t ++ " REGEXP ?" := rfl

@[simp] theorem Atom.text_between (greatest : Parameter)
    : (between c p greatest).text t = c.text t ++ " BETWEEN ? AND ?" := rfl

/-- The tests for single documents, one for each of them, with `OR` between neighbours. -/
def Atom.membershipText (t : ValueTable) (c : Column) (documents : List Parameter) : String :=
  String.intercalate " OR " (documents.map fun _ => "JSON_CONTAINS(" ++ c.text t ++ ", ?)")

@[simp] theorem Atom.text_contains_false (documents : List Parameter)
    : (contains false c documents).text t = "(" ++ membershipText t c documents ++ ")" := rfl

@[simp] theorem Atom.text_contains_true (documents : List Parameter)
    : (contains true c documents).text t = "NOT (" ++ membershipText t c documents ++ ")" := rfl

end Atoms

section Predicates

variable (t : ValueTable)

@[simp] theorem Test.text_any (atoms : List Atom)
    : (any atoms).text t = String.intercalate " OR " (atoms.map (Atom.text t)) := rfl

@[simp] theorem Test.text_all (atoms : List Atom)
    : (all atoms).text t = String.intercalate " AND " (atoms.map (Atom.text t)) := rfl

@[simp] theorem Predicate.text_test (test : Test)
    : (Predicate.test test).text t = "(" ++ test.text t ++ ")" := by
  rw [text, parenthesized]

@[simp] theorem Predicate.text_group (first : Predicate) (rest : List (Conjunction × Predicate))
    : (group first rest).text t = "(" ++ (first.text t ++ restText t rest) ++ ")" := by
  rw [text, parenthesized]

@[simp] theorem Predicate.restText_nil : restText t [] = "" := by
  rw [restText]

@[simp] theorem Predicate.restText_cons (conjunction : Conjunction) (p : Predicate)
    (rest : List (Conjunction × Predicate))
    : restText t ((conjunction, p) :: rest)
      = conjunction.text ++ p.text t ++ restText t rest := by
  rw [restText]

end Predicates

end FieldFilter
