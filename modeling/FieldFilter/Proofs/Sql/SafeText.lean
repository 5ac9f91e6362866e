import FieldFilter.Proofs.Sql.Characters

/-! SQL text that holds nothing foreign. It is spelled with letters, digits and a few marks, quotes
stand around fixed literals alone, and no two dashes follow each other to start a comment.
-/

namespace FieldFilter

-----------------------------------------------------------------------------------------
-- Alphabets
-----------------------------------------------------------------------------------------

/-- The text is made of ASCII letters, ASCII digits and some marks. -/
def MadeOf (marks w : List Char) : Prop :=
  ∀ x ∈ w, x.isAlphanum = true ∨ x ∈ marks

instance (marks w : List Char) : Decidable (MadeOf marks w) :=
  List.decidableBAll _ w

/-- The marks of joins. -/
def joinMarks : List Char := "_.=- ".toList

/-- The marks of predicates. -/
def predicateMarks : List Char := "_.?(),<>=+-%' ".toList

/-- The marks that stand anywhere in a predicate outside its literals. -/
def openMarks : List Char := "_.?(),<>=+ ".toList

/-- What stands in quotes in predicates: the empty text, the day from which seconds are counted
and the format of a date.
-/
def fixedLiterals : List (List Char) :=
  ["".toList, "1970-01-01".toList, "%Y-%m-%d".toList]

theorem MadeOf.append {marks u v : List Char} (hu : MadeOf marks u) (hv : MadeOf marks v)
    : MadeOf marks (u ++ v) := by
  intro x member
  rcases List.mem_append.mp member with first | second
  · exact hu x first
  · exact hv x second

theorem MadeOf.within {marks : List Char} {opening text closing : String}
    (opens : MadeOf marks opening.toList) (h : MadeOf marks text.toList)
    (closes : MadeOf marks closing.toList)
    : MadeOf marks (opening ++ text ++ closing).toList := by
  rw [String.toList_append, String.toList_append]
  exact (opens.append h).append closes

theorem MadeOf.mono {marks more w : List Char} (h : MadeOf marks w) (subset : marks ⊆ more)
    : MadeOf more w :=
  fun x member => (h x member).imp_right fun mark => subset mark

theorem isAlphanum_iff {x : Char}
    : x.isAlphanum = true
      ↔ (('A' ≤ x ∧ x ≤ 'Z') ∨ ('a' ≤ x ∧ x ≤ 'z')) ∨ ('0' ≤ x ∧ x ≤ '9') := by
  have upper : x.isUpper = true ↔ 'A' ≤ x ∧ x ≤ 'Z' := decide_eq_true_iff
  have lower : x.isLower = true ↔ 'a' ≤ x ∧ x ≤ 'z' :=
    Bool.and_eq_true_iff.trans (and_congr decide_eq_true_iff decide_eq_true_iff)
  have digit : x.isDigit = true ↔ '0' ≤ x ∧ x ≤ '9' :=
    Bool.and_eq_true_iff.trans (and_congr decide_eq_true_iff decide_eq_true_iff)
  have letter : x.isAlpha = true ↔ ('A' ≤ x ∧ x ≤ 'Z') ∨ ('a' ≤ x ∧ x ≤ 'z') :=
    Bool.or_eq_true_iff.trans (or_congr upper lower)
  exact Bool.or_eq_true_iff.trans (or_congr letter digit)

/-- A character of a name is a letter, a digit, an underscore or a point. -/
theorem Identifier.isAlphanum_or_mark_of_inName {x : Char} (h : inName x = true)
    : x.isAlphanum = true ∨ x = '_' ∨ x = '.' := by
  simp only [inName, isRest, isStart, Bool.or_eq_true, Bool.and_eq_true, decide_eq_true_eq,
    beq_iff_eq] at h
  rcases h with (((lower | upper) | underscore) | digit) | point
  · exact Or.inl (isAlphanum_iff.mpr (Or.inl (Or.inr lower)))
  · exact Or.inl (isAlphanum_iff.mpr (Or.inl (Or.inl upper)))
  · exact Or.inr (Or.inl underscore)
  · exact Or.inl (isAlphanum_iff.mpr (Or.inr digit))
  · exact Or.inr (Or.inr point)

theorem MadeOf.of_names {marks w : List Char} (underscore : '_' ∈ marks) (point : '.' ∈ marks)
    (h : ∀ x ∈ w, Identifier.inName x = true)
    : MadeOf marks w := by
  intro x member
  rcases Identifier.isAlphanum_or_mark_of_inName (h x member) with letter | rfl | rfl
  · exact Or.inl letter
  · exact Or.inr underscore
  · exact Or.inr point

theorem MadeOf.of_digits {marks w : List Char} (h : ∀ x ∈ w, x.isDigit = true)
    : MadeOf marks w := by
  intro x member
  exact Or.inl (by simp [Char.isAlphanum, h x member])

-----------------------------------------------------------------------------------------
-- Literals
-----------------------------------------------------------------------------------------

/-- Where the reading of a text stands: outside of literals, inside one, or after a quote that
ends one unless it is doubled.
-/
inductive QuoteState
  | outside
  | inside (literal : List Char)
  | quoted (literal : List Char)

/-- The literals of a text that is read from a state on; nothing if the last one does not end. -/
def literalsFrom : QuoteState → List Char → Option (List (List Char))
  | .outside, [] => some []
  | .inside _, [] => none
  | .quoted literal, [] => some [literal]
  | .outside, x :: w =>
    literalsFrom (if x = '\'' then .inside [] else .outside) w
  | .inside literal, x :: w =>
    literalsFrom (if x = '\'' then .quoted literal else .inside (literal ++ [x])) w
  | .quoted literal, x :: w =>
    if x = '\'' then literalsFrom (.inside (literal ++ ['\''])) w
    else (literalsFrom .outside w).map (literal :: ·)

/-- The literals of a text, in order. -/
def stringLiterals (text : String) : Option (List (List Char)) :=
  literalsFrom .outside text.toList

theorem literalsFrom_outside_cons {x : Char} (h : x ≠ '\'') (w : List Char)
    : literalsFrom .outside (x :: w) = literalsFrom .outside w := by
  rw [literalsFrom, if_neg h]

/-- A literal without quotes goes on up to the next quote, by induction on it. -/
theorem literalsFrom_inside {literal text : List Char} (h : '\'' ∉ text) (w : List Char)
    : literalsFrom (.inside literal) (text ++ '\'' :: w)
      = literalsFrom (.quoted (literal ++ text)) w := by
  induction text generalizing literal with
  | nil => rw [List.nil_append, literalsFrom, if_pos rfl, List.append_nil]
  | cons x text ih =>
      obtain ⟨other, rest⟩ : '\'' ≠ x ∧ '\'' ∉ text := by simpa using h
      rw [List.cons_append, literalsFrom, if_neg other.symm, ih rest, List.append_assoc,
        List.singleton_append]

/-- A quote that is not doubled ends the literal, by cases on what follows. -/
theorem literalsFrom_quoted {literal w : List Char} (apart : w.head? ≠ some '\'')
    : literalsFrom (.quoted literal) w = (literalsFrom .outside w).map (literal :: ·) := by
  cases w with
  | nil => rfl
  | cons x w =>
      have other : x ≠ '\'' := by
        rintro rfl
        exact apart rfl
      rw [literalsFrom_outside_cons other, literalsFrom, if_neg other]

-----------------------------------------------------------------------------------------
-- Safe texts
-----------------------------------------------------------------------------------------

/-- A text in which marks stand freely, dashes only as minus signs between blanks, and quotes
only around the fixed literals, each of them set apart from the next.
-/
inductive SafeText : List Char → Prop
  | nil : SafeText []
  | mark {x : Char} {w : List Char} (known : x.isAlphanum = true ∨ x ∈ openMarks)
    (rest : SafeText w)
    : SafeText (x :: w)
  | minus {w : List Char} (rest : SafeText w) : SafeText (' ' :: '-' :: ' ' :: w)
  | literal {text w : List Char} (fixed : text ∈ fixedLiterals) (apart : w.head? ≠ some '\'')
    (rest : SafeText w)
    : SafeText ('\'' :: (text ++ '\'' :: w))

namespace SafeText

/-- A word of marks may stand before a safe text, by induction on the word. -/
theorem word_append {word w : List Char} (h : MadeOf openMarks word) (hw : SafeText w)
    : SafeText (word ++ w) := by
  induction word with
  | nil => exact hw
  | cons x word ih =>
      exact .mark (h x List.mem_cons_self) (ih fun y member => h y (List.mem_cons_of_mem x member))

theorem of_word {word : List Char} (h : MadeOf openMarks word) : SafeText word := by
  simpa using word_append h .nil

/-- Safe texts follow each other when the second one does not start with a quote, which could
double a quote at the end of the first. By induction on the first.
-/
theorem append {u v : List Char} (hu : SafeText u) (hv : SafeText v) (apart : v.head? ≠ some '\'')
    : SafeText (u ++ v) := by
  induction hu with
  | nil => exact hv
  | mark known _ ih => exact .mark known ih
  | minus _ ih => exact .minus ih
  | @literal text w fixed free _ ih =>
      rw [List.cons_append, List.append_assoc, List.cons_append]
      refine .literal fixed ?_ ih
      cases w with
      | nil => exact apart
      | cons x w => exact free

/-- A word of marks keeps two safe texts apart. -/
theorem append_word {u word v : List Char} (hu : SafeText u) (h : MadeOf openMarks word)
    (nonempty : word ≠ []) (hv : SafeText v)
    : SafeText (u ++ word ++ v) := by
  rw [List.append_assoc]
  refine hu.append (word_append h hv) fun quote => ?_
  cases word with
  | nil => exact nonempty rfl
  | cons x word =>
      obtain rfl : x = '\'' := Option.some.inj quote
      rcases h '\'' List.mem_cons_self with letter | mark
      · exact absurd letter (by decide)
      · exact absurd mark (by decide)

/-- A word of marks may stand after a safe text too. -/
theorem append_of_word {u word : List Char} (hu : SafeText u) (h : MadeOf openMarks word)
    : SafeText (u ++ word) := by
  cases word with
  | nil => simpa using hu
  | cons x word => simpa using hu.append_word h (List.cons_ne_nil x word) .nil

theorem within {opening text closing : String} (opens : MadeOf openMarks opening.toList)
    (h : SafeText text.toList) (closes : MadeOf openMarks closing.toList)
    : SafeText (opening ++ text ++ closing).toList := by
  rw [String.toList_append, String.toList_append]
  exact (word_append opens h).append_of_word closes

/-- A fixed literal between words of marks may stand before a safe text. -/
theorem literal_append {before text after w : List Char} (hb : MadeOf openMarks before)
    (fixed : text ∈ fixedLiterals) (ha : MadeOf openMarks after) (nonempty : after ≠ [])
    (hw : SafeText w)
    : SafeText (before ++ '\'' :: (text ++ '\'' :: (after ++ w))) := by
  have quoted : SafeText ('\'' :: text ++ ['\'']) := .literal fixed (by decide) .nil
  have whole := (word_append hb quoted).append_word ha nonempty hw
  simpa using whole

/-- Safe texts with a word of marks between neighbours are safe, by induction on the texts. -/
theorem intercalate {separator : String} {texts : List String}
    (h : MadeOf openMarks separator.toList) (nonempty : separator.toList ≠ [])
    (each : ∀ text ∈ texts, SafeText text.toList)
    : SafeText (String.intercalate separator texts).toList := by
  rw [String.toList_intercalate]
  induction texts with
  | nil => exact .nil
  | cons text rest ih =>
      have head : SafeText text.toList := each text List.mem_cons_self
      have tail := ih fun t ht => each t (List.mem_cons_of_mem text ht)
      cases rest with
      | nil => simpa using head
      | cons next rest =>
          rw [List.map_cons, List.map_cons, List.intercalate_cons_cons]
          exact head.append_word h nonempty tail

-----------------------------------------------------------------------------------------
-- What a safe text is free of
-----------------------------------------------------------------------------------------

theorem madeOf_of_mem_fixedLiterals {text : List Char} (h : text ∈ fixedLiterals)
    : MadeOf predicateMarks text := by
  have all : ∀ text ∈ fixedLiterals, MadeOf predicateMarks text := by decide
  exact all text h

theorem quote_notMem_of_mem_fixedLiterals {text : List Char} (h : text ∈ fixedLiterals)
    : '\'' ∉ text := by
  have all : ∀ text ∈ fixedLiterals, '\'' ∉ text := by decide
  exact all text h

/-- A safe text is made of the marks of predicates, by induction on it. -/
theorem madeOf {w : List Char} (h : SafeText w) : MadeOf predicateMarks w := by
  induction h with
  | nil => exact fun x member => absurd member (List.not_mem_nil)
  | mark known _ ih =>
      have subset : openMarks ⊆ predicateMarks := by decide
      intro y member
      rcases List.mem_cons.mp member with rfl | later
      · exact known.imp_right fun mark => subset mark
      · exact ih y later
  | @minus w _ ih =>
      have sign : MadeOf predicateMarks " - ".toList := by decide
      exact sign.append ih
  | @literal text w fixed _ _ ih =>
      have quote : MadeOf predicateMarks ['\''] := by decide
      exact quote.append ((madeOf_of_mem_fixedLiterals fixed).append (quote.append ih))

/-- The literals of a safe text are fixed, by induction on it. -/
theorem literalsFrom_outside {w : List Char} (h : SafeText w)
    : ∃ found, literalsFrom .outside w = some found ∧ found ⊆ fixedLiterals := by
  induction h with
  | nil => exact ⟨[], rfl, List.nil_subset _⟩
  | @mark x w known _ ih =>
      have other : x ≠ '\'' := by
        rintro rfl
        rcases known with letter | mark
        · exact absurd letter (by decide)
        · exact absurd mark (by decide)
      rw [literalsFrom_outside_cons other]
      exact ih
  | @minus w _ ih =>
      rw [literalsFrom_outside_cons (by decide), literalsFrom_outside_cons (by decide),
        literalsFrom_outside_cons (by decide)]
      exact ih
  | @literal text w fixed apart _ ih =>
      obtain ⟨found, read, subset⟩ := ih
      refine ⟨text :: found, ?_, List.cons_subset.mpr ⟨fixed, subset⟩⟩
      rw [literalsFrom, if_pos rfl, literalsFrom_inside (quote_notMem_of_mem_fixedLiterals fixed),
        literalsFrom_quoted apart, read]
      rfl

/-- No two dashes follow each other in a safe text, by induction on it. -/
theorem no_comment {w : List Char} (h : SafeText w) : ¬ "--".toList <:+: w := by
  have dashes : "--".toList = ['-', '-'] := rfl
  rw [dashes]
  induction h with
  | nil => simp
  | @mark x w known _ ih =>
      have other : '-' ≠ x := by
        rintro rfl
        rcases known with letter | mark
        · exact absurd letter (by decide)
        · exact absurd mark (by decide)
      simp [List.infix_cons_iff, other, ih]
  | minus _ ih => simp [List.infix_cons_iff, ih]
  | literal fixed _ _ ih =>
      simp only [fixedLiterals, List.mem_cons, List.not_mem_nil, or_false] at fixed
      rcases fixed with rfl | rfl | rfl
      · simp [List.infix_cons_iff, ih]
      · simp [List.infix_cons_iff, ih]
      · simp [List.infix_cons_iff, ih]

end SafeText

end FieldFilter
