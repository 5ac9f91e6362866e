import FieldFilter.Proofs.Sql.BalancedText

/-! The text of a predicate gives its groups back. Parentheses say where each child ends, and the
start of what stands in a pair of parentheses says whether it is a test or a group.
-/

namespace FieldFilter

-----------------------------------------------------------------------------------------
-- How the inside of a pair of parentheses starts
-----------------------------------------------------------------------------------------

/-- The first word of a text, with the mark that ends it. -/
def opening (w : List Char) : List Char :=
  w.takeWhile Identifier.inName ++ (w.dropWhile Identifier.inName).take 1

/-- A text that starts with a word and a mark opens with them. -/
theorem opening_of_isPrefix {word w : List Char} {mark : Char}
    (names : word.all Identifier.inName = true) (ends : Identifier.inName mark = false)
    (h : word ++ [mark] <+: w)
    : opening w = word ++ [mark] := by
  obtain ⟨rest, rfl⟩ := h
  have each := List.all_eq_true.mp names
  rw [opening, List.append_assoc, List.takeWhile_append_of_pos each,
    List.dropWhile_append_of_pos each]
  simp [ends]

/-- What the tests of a list for its documents open with, of which there may be none. -/
def documentOpenings : List (List Char) :=
  [[], "JSON_CONTAINS(".toList]

/-- A text that opens neither with a parenthesis nor like the tests for documents. -/
def Bare (w : List Char) : Prop :=
  opening w ≠ ['('] ∧ opening w ∉ documentOpenings

/-- A text that starts with a word and a blank is bare, whatever the word: a column may be
called like a function.
-/
theorem Bare.of_word {word w : List Char} (names : word.all Identifier.inName = true)
    (h : word ++ [' '] <+: w)
    : Bare w := by
  have opens : opening w = word ++ [' '] := opening_of_isPrefix names (by decide) h
  have blank : ' ' ∈ opening w := by simp [opens]
  refine ⟨?_, ?_⟩
  · intro same
    exact absurd (same ▸ blank) (by decide)
  · intro member
    have none : ∀ start ∈ documentOpenings, ' ' ∉ start := by decide
    exact none _ member blank

/-- The functions whose calls a test may start with, apart from the one for documents. -/
def leadingCalls : List (List Char) :=
  ["LOCATE".toList, "CHAR_LENGTH".toList, "DATE_FORMAT".toList]

/-- A text that starts with the call of one of these functions is bare. -/
theorem Bare.of_call {word w : List Char} (called : word ∈ leadingCalls)
    (h : word ++ ['('] <+: w)
    : Bare w := by
  have names : ∀ word ∈ leadingCalls, word.all Identifier.inName = true := by decide
  have others
      : ∀ word ∈ leadingCalls, word ++ ['('] ≠ ['('] ∧ word ++ ['('] ∉ documentOpenings := by
    decide
  have opens : opening w = word ++ ['('] :=
    opening_of_isPrefix (names word called) (by decide) h
  unfold Bare
  rw [opens]
  exact others word called

/-- The tests for documents open like one of them, or are empty, by cases on the documents. -/
theorem Atom.opening_membershipText (t : ValueTable) (c : Column) (documents : List Parameter)
    : opening (membershipText t c documents).toList ∈ documentOpenings := by
  cases documents with
  | nil =>
      have empty : opening "".toList ∈ documentOpenings := by decide
      exact empty
  | cons document documents =>
      have starts
          : "JSON_CONTAINS".toList ++ ['(']
            <+: (membershipText t c (document :: documents)).toList := by
        cases documents with
        | nil => simp [membershipText]
        | cons next documents => simp [membershipText]
      rw [opening_of_isPrefix (by decide) (by decide) starts]
      decide

/-- The text of a test, as it stands in its parentheses: balanced, and either bare or the tests
for documents in parentheses of their own.
-/
inductive Test.Stands (w : List Char) : Prop
  | bare (balanced : Balanced w) (bare : Bare w)
  | documents (inside : List Char) (balanced : Balanced inside)
    (opens : opening inside ∈ documentOpenings) (same : w = '(' :: (inside ++ [')']))

theorem Test.Stands.isBalanced {w : List Char} (h : Test.Stands w) : Balanced w := by
  cases h with
  | bare balanced _ => exact balanced
  | documents inside balanced _ same =>
      rw [same]
      exact balanced.parenthesized

/-- A test of any form on a name stands in its parentheses, by cases on the form. Most forms
start with the column and a blank.
-/
theorem Test.Form.stands {t : ValueTable} {storage : Storage} {c : Column} {test : Test}
    (form : Form storage c test) (name : c.IsName t)
    : Stands (test.text t).toList := by
  have balanced : Balanced (test.text t).toList := by
    refine Test.balanced fun column member => ?_
    rw [form.columns column member]
    exact name
  have word (h : (c.text t).toList ++ [' '] <+: (test.text t).toList)
      : Stands (test.text t).toList :=
    .bare balanced (.of_word name h)
  cases form with
  | included documents =>
      refine .documents _ (Atom.balanced_membershipText name documents)
        (Atom.opening_membershipText t c documents) ?_
      simp
  | found p | notFound p =>
      refine .bare balanced (Bare.of_call (by decide : "LOCATE".toList ∈ leadingCalls) ?_)
      simp
  | length relation p =>
      refine .bare balanced (Bare.of_call (by decide : "CHAR_LENGTH".toList ∈ leadingCalls) ?_)
      simp
  | blank | filled | blankOrRegexp =>
      apply word
      cases hs : storage.holdsText <;> simp [blankAtoms, filledAtoms, hs]
  | _ =>
      apply word
      simp [equalTo, differentFrom, Test.compared]

/-- A test between two names stands in its parentheses, by cases on the operator. -/
theorem FieldOperator.test_stands {t : ValueTable} {op : FieldOperator} {c other : Column}
    {clock : Clock} (hc : c.IsName t) (ho : other.IsName t)
    : Test.Stands ((op.test c other clock).text t).toList := by
  have balanced : Balanced ((op.test c other clock).text t).toList := by
    refine Test.balanced fun column member => ?_
    rcases test_columns column member with rfl | rfl
    · exact hc
    · exact ho
  refine .bare balanced ?_
  cases op with
  | same | notSame =>
      have name : "BINARY".toList.all Identifier.inName = true := by decide
      exact .of_word name (by simp [test])
  | sameDate | notSameDate =>
      refine Bare.of_call (by decide : "DATE_FORMAT".toList ∈ leadingCalls) ?_
      simp [test]

-----------------------------------------------------------------------------------------
-- The groups of a predicate, read back from its text
-----------------------------------------------------------------------------------------

/-- The groups of an expression: where they start and end, the token before each child after
the first, and the places of the conditions.
-/
inductive Shape
  | condition
  | group (first : Shape) (rest : List (Conjunction × Shape))

/-- Tokens differ from their second character on, whatever follows them. -/
theorem Conjunction.text_append_inj {c d : Conjunction} {r s : List Char}
    (h : c.text.toList ++ r = d.text.toList ++ s)
    : c = d ∧ r = s := by
  cases c with
  | and =>
      cases d with
      | and => exact ⟨rfl, List.append_cancel_left h⟩
      | or => simp [text] at h
  | or =>
      cases d with
      | and => simp [text] at h
      | or => exact ⟨rfl, List.append_cancel_left h⟩

namespace Predicate

mutual

def shape : Predicate → Shape
  | test _ => .condition
  | group first rest => .group first.shape (restShape rest)

def restShape : List (Conjunction × Predicate) → List (Conjunction × Shape)
  | [] => []
  | (conjunction, p) :: rest => (conjunction, p.shape) :: restShape rest

end

variable {t u : ValueTable}

/-- What stands in the outer parentheses of a predicate. -/
def inside (t : ValueTable) : Predicate → List Char
  | test found => (found.text t).toList
  | group first rest => (first.text t).toList ++ (restText t rest).toList

/-- A predicate is its inside in parentheses, by cases on the predicate. -/
theorem text_toList (p : Predicate)
    : (p.text t).toList = '(' :: (p.inside t ++ [')']) := by
  cases p with
  | test test => simp [inside]
  | group first rest => simp [inside]

def TestsStand (t : ValueTable) (p : Predicate) : Prop :=
  ∀ test ∈ p.tests, Test.Stands (test.text t).toList

def RestTestsStand (t : ValueTable) (rest : List (Conjunction × Predicate)) : Prop :=
  ∀ test ∈ restTests rest, Test.Stands (test.text t).toList

theorem TestsStand.of_group {first : Predicate} {rest : List (Conjunction × Predicate)}
    (h : (group first rest).TestsStand t)
    : first.TestsStand t ∧ RestTestsStand t rest :=
  ⟨fun test member => h test (by simp [tests, member]),
    fun test member => h test (by simp [tests, member])⟩

theorem RestTestsStand.of_cons {conjunction : Conjunction} {p : Predicate}
    {rest : List (Conjunction × Predicate)} (h : RestTestsStand t ((conjunction, p) :: rest))
    : p.TestsStand t ∧ RestTestsStand t rest :=
  ⟨fun test member => h test (by simp [restTests, member]),
    fun test member => h test (by simp [restTests, member])⟩

mutual

/-- The inside of a predicate is balanced when its tests stand, by induction on the predicate. -/
theorem TestsStand.balanced_inside {p : Predicate} (h : p.TestsStand t)
    : Balanced (p.inside t) := by
  cases p with
  | test test => exact (h test (by simp [tests])).isBalanced
  | group first rest =>
      have head := (TestsStand.balanced_inside h.of_group.1).parenthesized
      rw [← text_toList] at head
      exact head.append (RestTestsStand.balanced h.of_group.2)

theorem RestTestsStand.balanced {rest : List (Conjunction × Predicate)}
    (h : RestTestsStand t rest)
    : Balanced (restText t rest).toList := by
  cases rest with
  | nil =>
      rw [restText_nil]
      rfl
  | cons child rest =>
      obtain ⟨conjunction, p⟩ := child
      have token : Balanced conjunction.text.toList := by
        cases conjunction <;> decide
      have head := (TestsStand.balanced_inside h.of_cons.1).parenthesized
      rw [← text_toList] at head
      simp only [restText_cons, String.toList_append]
      exact (token.append head).append (RestTestsStand.balanced h.of_cons.2)

end

/-- The text of a predicate is one pair of parentheses with everything in it. -/
theorem TestsStand.enclosed {p : Predicate} (h : p.TestsStand t)
    : Enclosed (p.text t).toList := by
  rw [text_toList]
  exact h.balanced_inside.enclosed

theorem opening_parenthesis (w : List Char) : opening ('(' :: w) = ['('] := by
  have none : ([] : List Char).all Identifier.inName = true := rfl
  exact opening_of_isPrefix none (by decide) (by simp)

/-- The inside of a predicate does not open like the tests for documents: those have
parentheses of their own. By cases on the predicate and on how its test stands.
-/
theorem TestsStand.opening_inside {p : Predicate} (h : p.TestsStand t)
    : opening (p.inside t) ∉ documentOpenings := by
  cases p with
  | test test =>
      have stands : Test.Stands ((Predicate.test test).inside t) := h test (by simp [tests])
      cases stands with
      | bare _ bare => exact bare.2
      | documents inside _ _ same =>
          rw [same, opening_parenthesis]
          decide
  | group first rest =>
      rw [inside, text_toList, List.cons_append, opening_parenthesis]
      decide

/-- No test reads like the inside of a group. A bare test does not open with a parenthesis;
the tests for documents would have to be the first child, and open like no inside of one.
-/
theorem TestsStand.inside_test_ne_inside_group {test : Test} {first : Predicate}
    {rest : List (Conjunction × Predicate)} (ht : (Predicate.test test).TestsStand t)
    (hg : (group first rest).TestsStand u)
    : (Predicate.test test).inside t ≠ (group first rest).inside u := by
  intro same
  have head := hg.of_group.1
  have stands : Test.Stands ((Predicate.test test).inside t) := ht test (by simp [tests])
  cases stands with
  | bare _ bare =>
      apply bare.1
      rw [same, inside, text_toList, List.cons_append, opening_parenthesis]
  | documents inside balanced opens own =>
      have equal
          : '(' :: (inside ++ [')']) ++ []
            = (first.text u).toList ++ (restText u rest).toList := by
        rw [List.append_nil, ← own, same, Predicate.inside]
      obtain ⟨child, _⟩ := balanced.enclosed.append_inj head.enclosed equal
      rw [text_toList] at child
      have insides : inside = first.inside u :=
        List.append_cancel_right (List.cons.inj child).2
      exact head.opening_inside (insides ▸ opens)

mutual

/-- Predicates with the same text have the same shape, also over different layouts, by induction
on the predicates. Each child is cut off where its parentheses close.
-/
theorem TestsStand.shape_eq {p q : Predicate} (hp : p.TestsStand t) (hq : q.TestsStand u)
    (same : (p.text t).toList = (q.text u).toList)
    : p.shape = q.shape := by
  have insides : p.inside t = q.inside u := by
    rw [text_toList, text_toList] at same
    exact List.append_cancel_right (List.cons.inj same).2
  cases p with
  | test test =>
      cases q with
      | test other => simp only [shape]
      | group first rest => exact absurd insides (hp.inside_test_ne_inside_group hq)
  | group first rest =>
      cases q with
      | test test => exact absurd insides.symm (hq.inside_test_ne_inside_group hp)
      | group head others =>
          obtain ⟨children, later⟩ :=
            hp.of_group.1.enclosed.append_inj hq.of_group.1.enclosed insides
          simp only [shape, TestsStand.shape_eq hp.of_group.1 hq.of_group.1 children,
            RestTestsStand.shape_eq hp.of_group.2 hq.of_group.2 later]

theorem RestTestsStand.shape_eq {ps qs : List (Conjunction × Predicate)}
    (hp : RestTestsStand t ps) (hq : RestTestsStand u qs)
    (same : (restText t ps).toList = (restText u qs).toList)
    : restShape ps = restShape qs := by
  cases ps with
  | nil =>
      cases qs with
      | nil => rfl
      | cons other qs =>
          obtain ⟨conjunction, q⟩ := other
          cases conjunction <;> simp [Conjunction.text] at same
  | cons child ps =>
      obtain ⟨conjunction, p⟩ := child
      cases qs with
      | nil => cases conjunction <;> simp [Conjunction.text] at same
      | cons other qs =>
          obtain ⟨other, q⟩ := other
          simp only [restText_cons, String.toList_append, List.append_assoc] at same
          obtain ⟨token, more⟩ := Conjunction.text_append_inj same
          obtain ⟨children, later⟩ :=
            hp.of_cons.1.enclosed.append_inj hq.of_cons.1.enclosed more
          simp only [restShape, token, TestsStand.shape_eq hp.of_cons.1 hq.of_cons.1 children,
            RestTestsStand.shape_eq hp.of_cons.2 hq.of_cons.2 later]

end

end Predicate

end FieldFilter
