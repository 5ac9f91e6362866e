import FieldFilter.Proofs.Compile.ConditionRun

/-! Searches for the start and for the end of a text. Both bind a pattern for `LIKE`, made of the
text that is searched for and one wildcard. Escaping takes the meaning away from whatever stands in
that text, so that the pattern is matched by the texts that start or end with it and by no others.
-/

namespace FieldFilter

namespace Like

-----------------------------------------------------------------------------------------
-- Matching
-----------------------------------------------------------------------------------------

/-- A pattern matches a text: a percent sign stands for any characters, an underscore for one, a
backslash makes the next character stand for itself, and so does any other character.
-/
inductive Matches : List Char → List Char → Prop
  | nil : Matches [] []
  | any (skipped) {pattern rest} (later : Matches pattern rest)
    : Matches ('%' :: pattern) (skipped ++ rest)
  | one (c) {pattern rest} (later : Matches pattern rest) : Matches ('_' :: pattern) (c :: rest)
  | literal (c) {pattern rest} (later : Matches pattern rest)
    : Matches ('\\' :: c :: pattern) (c :: rest)
  | plain {c pattern rest} (ordinary : c ∉ ['%', '_', '\\']) (later : Matches pattern rest)
    : Matches (c :: pattern) (c :: rest)

variable {pattern text : List Char}

theorem matches_nil_iff : Matches [] text ↔ text = [] := by
  constructor
  · rintro ⟨⟩
    rfl
  · rintro rfl
    exact .nil

theorem matches_any_iff
    : Matches ('%' :: pattern) text
      ↔ ∃ skipped rest, text = skipped ++ rest ∧ Matches pattern rest := by
  constructor
  · intro found
    cases found with
    | any skipped later => exact ⟨skipped, _, rfl, later⟩
    | plain ordinary => simp at ordinary
  · rintro ⟨skipped, rest, rfl, later⟩
    exact .any skipped later

/-- An escaped character is matched by itself alone, by cases on whether it needs a backslash. -/
theorem matches_escapeChar_append_iff {c : Char}
    : Matches (escapeChar c ++ pattern) text
      ↔ ∃ rest, text = c :: rest ∧ Matches pattern rest := by
  unfold escapeChar
  split
  · constructor
    · intro found
      cases found with
      | literal _ later => exact ⟨_, rfl, later⟩
      | plain ordinary => simp at ordinary
    · rintro ⟨rest, rfl, later⟩
      exact .literal c later
  · next plain =>
      simp only [not_or] at plain
      obtain ⟨backslash, percent, underscore⟩ := plain
      constructor
      · intro found
        cases found with
        | any => exact absurd rfl percent
        | one => exact absurd rfl underscore
        | literal => exact absurd rfl backslash
        | plain _ later => exact ⟨_, rfl, later⟩
      · rintro ⟨rest, rfl, later⟩
        exact .plain (by simp [backslash, percent, underscore]) later

/-- An escaped text is matched by itself alone, whatever the pattern goes on with, by induction on the
text.
-/
theorem matches_escape_append_iff {cs : List Char}
    : Matches (cs.flatMap escapeChar ++ pattern) text
      ↔ ∃ rest, text = cs ++ rest ∧ Matches pattern rest := by
  induction cs generalizing text with
  | nil => simp
  | cons c cs ih =>
      rw [List.flatMap_cons, List.append_assoc, matches_escapeChar_append_iff]
      constructor
      · rintro ⟨_, rfl, later⟩
        obtain ⟨rest, rfl, last⟩ := ih.mp later
        exact ⟨rest, rfl, last⟩
      · rintro ⟨rest, rfl, last⟩
        exact ⟨cs ++ rest, rfl, ih.mpr ⟨rest, rfl, last⟩⟩

-----------------------------------------------------------------------------------------
-- Patterns for the start and for the end of a text
-----------------------------------------------------------------------------------------

theorem toList_startingWith (s : String)
    : (startingWith s).toList = s.toList.flatMap escapeChar ++ ['%'] := by
  simp [startingWith, escape]

theorem toList_endingWith (s : String)
    : (endingWith s).toList = '%' :: s.toList.flatMap escapeChar := by
  simp [endingWith, escape]

theorem matches_startingWith_iff {s : String}
    : Matches (startingWith s).toList text ↔ s.toList <+: text := by
  have open_end (rest : List Char) : Matches ['%'] rest :=
    matches_any_iff.mpr ⟨rest, [], by simp, .nil⟩
  rw [toList_startingWith, matches_escape_append_iff]
  constructor
  · rintro ⟨rest, rfl, _⟩
    exact List.prefix_append s.toList rest
  · rintro ⟨rest, rfl⟩
    exact ⟨rest, rfl, open_end rest⟩

theorem matches_endingWith_iff {s : String}
    : Matches (endingWith s).toList text ↔ s.toList <:+ text := by
  have alone (rest : List Char) : Matches (s.toList.flatMap escapeChar) rest ↔ rest = s.toList := by
    have whole
        : Matches (s.toList.flatMap escapeChar ++ []) rest
          ↔ ∃ last, rest = s.toList ++ last ∧ Matches [] last :=
      matches_escape_append_iff
    simpa [matches_nil_iff] using whole
  rw [toList_endingWith, matches_any_iff]
  constructor
  · rintro ⟨skipped, rest, rfl, later⟩
    rw [(alone rest).mp later]
    exact List.suffix_append skipped s.toList
  · rintro ⟨skipped, rfl⟩
    exact ⟨skipped, s.toList, rfl, (alone s.toList).mpr rfl⟩

/-- A text with a backslash in front of each place of one character. -/
def guarded (c : Char) (cs : List Char) : List Char :=
  cs.flatMap fun d => if d = c then ['\\', d] else [d]

/-- Escaping guards the three characters with a meaning one after the other. The backslash comes
first, since the backslashes that guard the other two are not to be guarded themselves.
-/
theorem flatMap_escapeChar (cs : List Char)
    : cs.flatMap escapeChar = guarded '_' (guarded '%' (guarded '\\' cs)) := by
  simp only [guarded, List.flatMap_assoc]
  congr 1
  funext c
  by_cases backslash : c = '\\'
  · subst backslash
    rfl
  by_cases percent : c = '%'
  · subst percent
    rfl
  by_cases underscore : c = '_'
  · subst underscore
    rfl
  simp [escapeChar, backslash, percent, underscore]

end Like

-----------------------------------------------------------------------------------------
-- The two operators
-----------------------------------------------------------------------------------------

/-- The operand stands for a text: it is one, or a number with its own text. -/
inductive Operand.StandsForText : Json.Value → String → Prop
  | string (s) : StandsForText (.string s) s
  | number (n) : StandsForText (.number n) n.text

theorem Operand.text_eq_ok_iff {operand : Json.Value} {s : String}
    : Operand.text operand = .ok s ↔ StandsForText operand s := by
  constructor
  · intro read
    cases operand with
    | string => exact Except.ok.inj read ▸ .string _
    | number => exact Except.ok.inj read ▸ .number _
    | _ => cases read
  · rintro (_ | _) <;>
      rfl

/-- What is built from the text of an operand is built from a text that the operand stands for. -/
theorem Operand.map_text_eq_ok_iff {operand : Json.Value} {build : String → Test} {test : Test}
    : (Ending.reporting (Operand.text operand)).map build = .ok test
      ↔ ∃ s, StandsForText operand s ∧ test = build s := by
  rw [map_eq_ok_iff]
  exact exists_congr fun s =>
    and_congr (Ending.reporting_eq_ok_iff.trans text_eq_ok_iff) eq_comm

/-- The two searches accept the operands that stand for a text, and bind it with a wildcard behind or
in front of it and a backslash before each of the three characters with a meaning. A column's text
matches what they bind exactly when it starts or ends with the text of the operand.
-/
theorem LiteralOperator.affix_tests_match (type : FieldType) (c : Column) (clock : Clock)
    (operand : Json.Value)
    : (∀ test,
        startsWith.test type c clock operand = .ok test
        ↔ ∃ s,
            Operand.StandsForText operand s
            ∧ test = .any [.like c (.text (Like.startingWith s))])
      ∧ (∀ test,
          endsWith.test type c clock operand = .ok test
          ↔ ∃ s,
              Operand.StandsForText operand s
              ∧ test = .any [.like c (.text (Like.endingWith s))])
      ∧ ∀ s : String,
          let escaped := Like.guarded '_' (Like.guarded '%' (Like.guarded '\\' s.toList))
          (Like.startingWith s).toList = escaped ++ ['%']
          ∧ (Like.endingWith s).toList = '%' :: escaped
          ∧ ∀ t : String,
              (Like.Matches (Like.startingWith s).toList t.toList ↔ s.toList <+: t.toList)
              ∧ (Like.Matches (Like.endingWith s).toList t.toList ↔ s.toList <:+ t.toList) := by
  refine ⟨fun _ => Operand.map_text_eq_ok_iff, fun _ => Operand.map_text_eq_ok_iff, fun s => ?_⟩
  refine ⟨?_, ?_, fun t => ?_⟩
  · rw [Like.toList_startingWith, Like.flatMap_escapeChar]
  · rw [Like.toList_endingWith, Like.flatMap_escapeChar]
  · exact ⟨Like.matches_startingWith_iff, Like.matches_endingWith_iff⟩

-- A percent sign that is searched for is one in the text, and no wildcard.
example
    : (Like.startingWith "50%_\\").toList = "50\\%\\_\\\\%".toList
      ∧ (Like.endingWith "%").toList = "%\\%".toList := by
  decide

end FieldFilter
