import FieldFilter.Proofs.Compile.TestForm
import FieldFilter.Proofs.Sql.Characters
import FieldFilter.Proofs.Sql.Rendering

/-! Placeholders and parameters stay in step. Over names without a question mark, every part of a
predicate has as many placeholders as parameters, so the values reach the conditions they are for.
-/

namespace FieldFilter

/-- How many placeholders a text has. -/
def placeholders (text : String) : Nat :=
  text.toList.count '?'

@[simp] theorem placeholders_append (left right : String)
    : placeholders (left ++ right) = placeholders left + placeholders right := by
  simp [placeholders]

theorem placeholders_eq_zero_iff {text : String}
    : placeholders text = 0 ↔ '?' ∉ text.toList := by
  simp [placeholders, List.count_eq_zero]

/-- Texts of some items that have a placeholder for each parameter of their item still do when
they are joined by a separator without any, by induction on the items.
-/
theorem placeholders_intercalate {α : Type} {separator : String} {text : α → String}
    {params : α → List Parameter} {items : List α} (h : placeholders separator = 0)
    (each : ∀ item ∈ items, placeholders (text item) = (params item).length)
    : placeholders (separator.intercalate (items.map text))
      = (items.flatMap params).length := by
  induction items with
  | nil => simp [placeholders]
  | cons item items ih =>
      have head := each item List.mem_cons_self
      have tail := ih fun other member => each other (List.mem_cons_of_mem item member)
      cases items with
      | nil => simpa using head
      | cons next items =>
          have whole
              : (item :: next :: items).flatMap params
                = params item ++ (next :: items).flatMap params := List.flatMap_cons
          rw [List.map_cons] at tail
          rw [List.map_cons, List.map_cons, String.intercalate_cons_cons, placeholders_append,
            placeholders_append, head, h, tail, whole, List.length_append, Nat.add_zero]

-----------------------------------------------------------------------------------------
-- Terms, atoms and tests
-----------------------------------------------------------------------------------------

theorem placeholders_toString (n : Nat) : placeholders (toString n) = 0 := by
  refine placeholders_eq_zero_iff.mpr fun member => ?_
  exact absurd (isDigit_of_mem_toString member) (by decide)

/-- An expression that is moved ahead keeps its placeholders, by cases on the direction. -/
theorem Term.placeholders_shiftedText (expression : String) (offset : Int)
    : placeholders (shiftedText expression offset) = placeholders expression := by
  rcases shiftedText_cases expression offset with same | ⟨sign, n, hs, moved⟩
  · rw [same]
  · have quiet : placeholders sign = 0 := by
      rcases hs with rfl | rfl <;> decide
    rw [moved]
    simp only [placeholders_append, quiet, placeholders_toString]
    exact Nat.zero_add _

/-- A term has a placeholder for each of its parameters, by cases on the term. -/
theorem Term.placeholders_text {t : ValueTable} {term : Term}
    (h : ∀ c ∈ term.columns, placeholders (c.text t) = 0)
    : placeholders (term.text t) = term.params.length := by
  cases term with
  | column c => simpa [params] using h c (by simp [columns])
  | bound p => rw [text_bound]; rfl
  | literal n => exact placeholders_toString n
  | emptyText => rw [text_emptyText]; rfl
  | locate p c =>
      rw [text_locate, placeholders_append, placeholders_append, h c (by simp [columns])]
      rfl
  | length c =>
      rw [text_length, placeholders_append, placeholders_append, h c (by simp [columns])]
      rfl
  | bytes c =>
      rw [text_bytes, placeholders_append, placeholders_append, h c (by simp [columns])]
      rfl
  | date c offset =>
      rw [text_date, placeholders_append, placeholders_append, placeholders_shiftedText,
        placeholders_append, placeholders_append, h c (by simp [columns])]
      rfl

/-- An atom has a placeholder for each of its parameters, by cases on the atom. -/
theorem Atom.placeholders_text {t : ValueTable} {atom : Atom}
    (h : ∀ c ∈ atom.columns, placeholders (c.text t) = 0)
    : placeholders (atom.text t) = atom.params.length := by
  cases atom with
  | compare relation left right =>
      have hl := Term.placeholders_text (fun c hc => h c (List.mem_append_left _ hc))
      have hr := Term.placeholders_text (fun c hc => h c (List.mem_append_right _ hc))
      have quiet : placeholders relation.text = 0 := by cases relation <;> decide
      simp only [text_compare, placeholders_append, hl, hr, quiet, params, List.length_append]
      exact congrArg (· + right.params.length) (Nat.add_zero _)
  | isNull c =>
      rw [text_isNull, placeholders_append, h c (by simp [columns])]
      rfl
  | isNotNull c =>
      rw [text_isNotNull, placeholders_append, h c (by simp [columns])]
      rfl
  | like c p =>
      rw [text_like, placeholders_append, h c (by simp [columns])]
      rfl
  | regexp c p =>
      rw [text_regexp, placeholders_append, h c (by simp [columns])]
      rfl
  | between c least greatest =>
      rw [text_between, placeholders_append, h c (by simp [columns])]
      rfl
  | contains negated c documents =>
      have one : placeholders ("JSON_CONTAINS(" ++ c.text t ++ ", ?)") = 1 := by
        rw [placeholders_append, placeholders_append, h c (by simp [columns])]
        rfl
      have membership : placeholders (membershipText t c documents) = documents.length := by
        have each
            : ∀ document ∈ documents,
                placeholders ("JSON_CONTAINS(" ++ c.text t ++ ", ?)") = [document].length :=
          fun _ _ => one
        simpa [membershipText] using placeholders_intercalate (by decide) each
      cases negated with
      | false =>
          rw [text_contains_false, placeholders_append, placeholders_append, membership]
          exact Nat.zero_add _
      | true =>
          rw [text_contains_true, placeholders_append, placeholders_append, membership]
          exact Nat.zero_add _

/-- A test has a placeholder for each of its parameters: its atoms do, and the words between
them have none.
-/
theorem Test.placeholders_text {t : ValueTable} {test : Test}
    (h : ∀ c ∈ test.columns, placeholders (c.text t) = 0)
    : placeholders (test.text t) = test.params.length := by
  have each : ∀ atom ∈ test.atoms, placeholders (atom.text t) = atom.params.length := by
    intro atom member
    exact Atom.placeholders_text fun c hc => h c (List.mem_flatMap.mpr ⟨atom, member, hc⟩)
  cases test with
  | any atoms => exact placeholders_intercalate (by decide) each
  | all atoms => exact placeholders_intercalate (by decide) each

-----------------------------------------------------------------------------------------
-- The segments of a predicate
-----------------------------------------------------------------------------------------

/-- The stretch of a predicate text up to the end of one condition's test: the text since the
condition before it, and the test itself.
-/
structure Segment where
  lead : String
  test : Test

namespace Segment

def text (t : ValueTable) (s : Segment) : String :=
  s.lead ++ s.test.text t

/-- The text of some segments and of what follows the last one. -/
def assemble (t : ValueTable) (segments : List Segment) (tail : String) : String :=
  String.join (segments.map (text t)) ++ tail

def params (segments : List Segment) : List Parameter :=
  segments.flatMap fun s => s.test.params

/-- The text between the tests of some segments, before and after them has no placeholder,
and each test has one for each parameter that it pushes.
-/
structure Aligned (t : ValueTable) (segments : List Segment) (tail : String) : Prop where
  lead : ∀ s ∈ segments, placeholders s.lead = 0
  test : ∀ s ∈ segments, placeholders (s.test.text t) = s.test.params.length
  tail : placeholders tail = 0

@[simp] theorem assemble_nil (t : ValueTable) (tail : String) : assemble t [] tail = tail := by
  simp [assemble]

@[simp] theorem assemble_cons (t : ValueTable) (s : Segment) (segments : List Segment)
    (tail : String)
    : assemble t (s :: segments) tail
      = s.lead ++ s.test.text t ++ assemble t segments tail := by
  simp [assemble, text, String.append_assoc]

/-- Segments follow each other when the second ones start with the tail of the first, by
induction on the first.
-/
theorem assemble_append (t : ValueTable) (left right : List Segment) (tail : String)
    : assemble t (left ++ right) tail = assemble t left (assemble t right tail) := by
  induction left with
  | nil => simp
  | cons s left ih => simp [ih]

theorem assemble_tail_append (t : ValueTable) (segments : List Segment) (tail more : String)
    : assemble t segments (tail ++ more) = assemble t segments tail ++ more := by
  simp [assemble, String.append_assoc]

theorem Aligned.append {t : ValueTable} {left right : List Segment} {middle tail : String}
    (hl : Aligned t left middle) (hr : Aligned t right tail)
    : Aligned t (left ++ right) tail where
  lead s hs := (List.mem_append.mp hs).elim (hl.lead s) (hr.lead s)
  test s hs := (List.mem_append.mp hs).elim (hl.test s) (hr.test s)
  tail := hr.tail

/-- Aligned segments have a placeholder for each parameter, by induction on the segments. -/
theorem Aligned.placeholders_assemble {t : ValueTable} {segments : List Segment}
    {tail : String} (aligned : Aligned t segments tail)
    : placeholders (assemble t segments tail) = (params segments).length := by
  obtain ⟨lead, test, ht⟩ := aligned
  induction segments with
  | nil => simpa [params] using ht
  | cons s segments ih =>
      have later := ih (fun s hs => lead s (by simp [hs])) (fun s hs => test s (by simp [hs]))
      simp only [assemble_cons, placeholders_append, lead s (by simp), test s (by simp), later,
        params, List.flatMap_cons, List.length_append, Nat.zero_add]

/-- A character is found in one of two texts that follow each other. -/
theorem found_in_append {left right before after : List Char} {x : Char}
    (h : left ++ right = before ++ x :: after)
    : (∃ rest, left = before ++ x :: rest)
      ∨ ∃ middle, before = left ++ middle ∧ right = middle ++ x :: after := by
  rcases List.append_eq_append_iff.mp h with ⟨middle, hb, hr⟩ | ⟨middle, hl, hr⟩
  · exact Or.inr ⟨middle, hb, hr⟩
  · cases middle with
    | nil => exact Or.inr ⟨[], by simpa using hl.symm, by simpa using hr.symm⟩
    | cons y middle =>
        obtain ⟨rfl, _⟩ := List.cons.inj hr
        exact Or.inl ⟨middle, hl⟩

/-- A character that a text lacks is found in what follows the text. -/
theorem found_after {left right before after : List Char} {x : Char} (absent : x ∉ left)
    (h : left ++ right = before ++ x :: after)
    : ∃ middle, before = left ++ middle ∧ right = middle ++ x :: after := by
  rcases found_in_append h with ⟨rest, hl⟩ | found
  · exact absurd (by simp [hl]) absent
  · exact found

/-- Every placeholder of aligned segments stands in the test that pushed its parameter: the
number of the placeholder in the whole text leads to the same parameter as its number in the
test. By induction on the segments.
-/
theorem Aligned.owner {t : ValueTable} {segments : List Segment} {tail : String}
    (aligned : Aligned t segments tail) {before after : List Char}
    (h : (assemble t segments tail).toList = before ++ '?' :: after)
    : ∃ left s right inner rest,
        segments = left ++ s :: right
        ∧ (s.test.text t).toList = inner ++ '?' :: rest
        ∧ before = (assemble t left s.lead).toList ++ inner
        ∧ inner.count '?' < s.test.params.length
        ∧ (params segments)[before.count '?']? = s.test.params[inner.count '?']? := by
  obtain ⟨lead, test, ht⟩ := aligned
  induction segments generalizing before with
  | nil =>
      refine absurd ?_ (placeholders_eq_zero_iff.mp ht)
      rw [assemble_nil] at h
      simp [h]
  | cons s segments ih =>
      have quiet : '?' ∉ s.lead.toList := placeholders_eq_zero_iff.mp (lead s (by simp))
      have count : (s.test.text t).toList.count '?' = s.test.params.length := test s (by simp)
      rw [assemble_cons, String.append_assoc, String.toList_append, String.toList_append] at h
      obtain ⟨inner, rfl, hr⟩ := found_after quiet h
      rcases found_in_append hr with ⟨rest, inside⟩ | ⟨middle, rfl, hl⟩
      · have bound : inner.count '?' < s.test.params.length := by
          rw [← count, inside]
          simp
        refine ⟨[], s, segments, inner, rest, rfl, inside, by simp, bound, ?_⟩
        rw [List.count_append, List.count_eq_zero.mpr quiet, Nat.zero_add]
        simp only [params, List.flatMap_cons]
        exact List.getElem?_append_left bound
      · obtain ⟨left, owner, right, inner, rest, rfl, inside, rfl, bound, same⟩ :=
          ih hl (fun s hs => lead s (by simp [hs])) (fun s hs => test s (by simp [hs]))
        refine ⟨s :: left, owner, right, inner, rest, rfl, inside, by simp, bound, ?_⟩
        rw [← same]
        simp only [List.count_append, List.count_eq_zero.mpr quiet, Nat.zero_add, count]
        simp only [params, List.flatMap_cons]
        rw [List.getElem?_append_right (Nat.le_add_right _ _), Nat.add_sub_cancel_left]

end Segment

end FieldFilter
