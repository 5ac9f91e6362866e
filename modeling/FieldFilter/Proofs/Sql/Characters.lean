import FieldFilter.Sql.Query

/-! Which characters the names and numbers in SQL text are made of. Columns and joins bring the
names of the layout and of fixed fields, the digits of aliases and field ids, and a few words.
-/

namespace FieldFilter

-----------------------------------------------------------------------------------------
-- Numbers
-----------------------------------------------------------------------------------------

theorem isDigit_of_mem_toString {n : Nat} {x : Char} (h : x ∈ (toString n).toList)
    : x.isDigit = true := by
  have digits : x ∈ Nat.toDigits 10 n := by simpa [toString] using h
  exact Nat.isDigit_of_mem_toDigits (by decide) (by decide) digits

/-- An integer is written in digits after at most a sign, by cases on its sign. -/
theorem isDigit_or_minus_of_mem_toString {n : Int} {x : Char} (h : x ∈ (toString n).toList)
    : x.isDigit = true ∨ x = '-' := by
  cases n with
  | ofNat n => exact Or.inl (isDigit_of_mem_toString h)
  | negSucc n =>
      have split : x = '-' ∨ x ∈ (toString (n + 1)).toList := by
        simpa [toString, Int.repr] using h
      exact split.symm.imp_left isDigit_of_mem_toString

-----------------------------------------------------------------------------------------
-- Plain names
-----------------------------------------------------------------------------------------

namespace Identifier

/-- Cutting a text at its points loses nothing but the points, by induction on the text. -/
theorem mem_pieces {cs : List Char} {x : Char} (h : x ∈ cs)
    : x = '.' ∨ ∃ piece ∈ pieces cs, x ∈ piece := by
  induction cs with
  | nil => simp at h
  | cons c cs ih =>
      unfold pieces
      split
      · next point =>
          rcases List.mem_cons.mp h with rfl | h
          · exact Or.inl point
          · refine (ih h).imp_right fun ⟨piece, member, inside⟩ => ?_
            exact ⟨piece, List.mem_cons_of_mem _ member, inside⟩
      · cases hp : pieces cs with
        | nil =>
            rcases List.mem_cons.mp h with rfl | h
            · exact Or.inr ⟨[x], by simp, by simp⟩
            · simpa [hp] using (ih h).imp_right fun ⟨piece, member, _⟩ => by simp [hp] at member
        | cons head rest =>
            rcases List.mem_cons.mp h with rfl | h
            · exact Or.inr ⟨x :: head, by simp, by simp⟩
            · refine (ih h).imp_right fun ⟨piece, member, inside⟩ => ?_
              rw [hp] at member
              rcases List.mem_cons.mp member with rfl | member
              · exact ⟨c :: piece, by simp, List.mem_cons_of_mem _ inside⟩
              · exact ⟨piece, List.mem_cons_of_mem _ member, inside⟩

/-- A part of a plain name starts like it goes on. -/
theorem isRest_of_mem_isPart {cs : List Char} {x : Char} (part : isPart cs = true) (h : x ∈ cs)
    : isRest x = true := by
  cases cs with
  | nil => simp at h
  | cons c cs =>
      obtain ⟨start, rest⟩ : isStart c = true ∧ cs.all isRest = true := by
        simpa [isPart] using part
      rcases List.mem_cons.mp h with rfl | h
      · simp [isRest, start]
      · exact List.all_eq_true.mp rest x h

/-- A letter, a digit, an underscore or the point between two parts of a name. -/
def inName (x : Char) : Bool :=
  isRest x || x == '.'

theorem inName_of_isDigit {x : Char} (digit : x.isDigit = true) : inName x = true := by
  have bounds : '0' ≤ x ∧ x ≤ '9' := by
    simp only [Char.isDigit, Bool.and_eq_true, decide_eq_true_eq] at digit
    exact digit
  simp [inName, isRest, bounds]

theorem inName_of_mem {name : String} {x : Char} (plain : isPlain name = true)
    (h : x ∈ name.toList)
    : inName x = true := by
  have parts : ∀ piece ∈ pieces name.toList, isPart piece = true := by
    simpa [isPlain] using (Bool.and_eq_true_iff.mp plain).2
  rcases mem_pieces h with point | ⟨piece, member, inside⟩
  · simp [inName, point]
  · simp [inName, isRest_of_mem_isPart (parts piece member) inside]

end Identifier

-----------------------------------------------------------------------------------------
-- Columns and joins
-----------------------------------------------------------------------------------------

def ValueTable.names (t : ValueTable) : List String :=
  [ t.table, t.parentKey, t.keyColumn, t.fieldColumn, t.textColumn, t.listColumn,
    t.booleanColumn, t.numericColumn ]

/-- The column for every kind of storage is a name of the layout, by cases on the storage. -/
theorem ValueTable.storageColumn_mem_names (t : ValueTable) (storage : Storage)
    : t.storageColumn storage ∈ t.names := by
  cases storage <;> simp [storageColumn, names]

theorem mem_aliasText {n : Nat} {x : Char} (h : x ∈ (aliasText n).toList)
    : x = 'f' ∨ x.isDigit = true := by
  have split : x = 'f' ∨ x ∈ (toString n).toList := by simpa [aliasText] using h
  exact split.imp_right isDigit_of_mem_toString

/-- The text of a column is a fixed name, or an alias before a name of the layout. -/
theorem Column.mem_text {t : ValueTable} {c : Column} {x : Char} (h : x ∈ (c.text t).toList)
    : (∃ name, c = .fixed name ∧ x ∈ name.toList)
      ∨ x = 'f'
      ∨ x.isDigit = true
      ∨ x = '.'
      ∨ ∃ storage, x ∈ (t.storageColumn storage).toList := by
  cases c with
  | fixed name => exact Or.inl ⟨name, rfl, h⟩
  | joined n storage =>
      have split
          : x ∈ (aliasText n).toList ∨ x = '.' ∨ x ∈ (t.storageColumn storage).toList := by
        simpa [text] using h
      rcases split with ha | point | hs
      · rcases mem_aliasText ha with letter | digit
        · exact Or.inr (Or.inl letter)
        · exact Or.inr (Or.inr (Or.inl digit))
      · exact Or.inr (Or.inr (Or.inr (Or.inl point)))
      · exact Or.inr (Or.inr (Or.inr (Or.inr ⟨storage, hs⟩)))

/-- The characters of a join that are the same for every layout. -/
def joinWords : List Char :=
  "LEFT OUTER JOIN AS ON = . AND f -".toList

/-- The character is in a name of the layout, a digit, or one of the fixed ones of a join. -/
def ValueTable.OccursInJoins (t : ValueTable) (x : Char) : Prop :=
  (∃ name ∈ t.names, x ∈ name.toList) ∨ x.isDigit = true ∨ x ∈ joinWords

/-- The text of a join up to the field id, which ends it. -/
def Join.lead (t : ValueTable) (j : Join) : String :=
  "LEFT OUTER JOIN " ++ t.table ++ " AS " ++ aliasText j.number ++ " ON " ++ t.parentKey ++ " = "
    ++ aliasText j.number ++ "." ++ t.keyColumn ++ " AND " ++ aliasText j.number ++ "."
    ++ t.fieldColumn ++ " = "

theorem Join.text_eq (t : ValueTable) (j : Join) : j.text t = j.lead t ++ toString j.fieldId := rfl

/-- The characters that every join has before the field id. -/
def leadWords : List Char :=
  "LEFT OUTER JOIN AS ON = . AND f".toList

/-- The character is in a name of the layout, a digit, or one of the fixed ones before the id. -/
def ValueTable.OccursInLeads (t : ValueTable) (x : Char) : Prop :=
  (∃ name ∈ t.names, x ∈ name.toList) ∨ x.isDigit = true ∨ x ∈ leadWords

/-- What stands before the field id is made of names of the layout, digits of the alias and fixed
words, by its parts.
-/
theorem Join.mem_lead {t : ValueTable} {j : Join} {x : Char} (h : x ∈ (j.lead t).toList)
    : t.OccursInLeads x := by
  have name (n : String) (hn : n ∈ t.names) (hx : x ∈ n.toList) : t.OccursInLeads x :=
    Or.inl ⟨n, hn, hx⟩
  have word (w : String) (hw : w.toList ⊆ leadWords) (hx : x ∈ w.toList) : t.OccursInLeads x :=
    Or.inr (Or.inr (hw hx))
  have number (hx : x ∈ (aliasText j.number).toList) : t.OccursInLeads x := by
    rcases mem_aliasText hx with rfl | digit
    · exact Or.inr (Or.inr (by decide))
    · exact Or.inr (Or.inl digit)
  unfold lead at h
  simp only [String.toList_append, List.mem_append, or_assoc] at h
  rcases h with h | h | h | h | h | h | h | h | h | h | h | h | h | h | h
  · exact word _ (by decide) h
  · exact name t.table (by simp [ValueTable.names]) h
  · exact word _ (by decide) h
  · exact number h
  · exact word _ (by decide) h
  · exact name t.parentKey (by simp [ValueTable.names]) h
  · exact word _ (by decide) h
  · exact number h
  · exact word _ (by decide) h
  · exact name t.keyColumn (by simp [ValueTable.names]) h
  · exact word _ (by decide) h
  · exact number h
  · exact word _ (by decide) h
  · exact name t.fieldColumn (by simp [ValueTable.names]) h
  · exact word _ (by decide) h

/-- The text of a join is made of names of the layout, digits and fixed words: the field id adds
digits and a sign.
-/
theorem Join.mem_text {t : ValueTable} {j : Join} {x : Char} (h : x ∈ (j.text t).toList)
    : t.OccursInJoins x := by
  rw [text_eq, String.toList_append] at h
  rcases List.mem_append.mp h with lead | id
  · have words : leadWords ⊆ joinWords := by decide
    rcases mem_lead lead with name | digit | word
    · exact Or.inl name
    · exact Or.inr (Or.inl digit)
    · exact Or.inr (Or.inr (words word))
  · rcases isDigit_or_minus_of_mem_toString id with digit | rfl
    · exact Or.inr (Or.inl digit)
    · exact Or.inr (Or.inr (by decide))

end FieldFilter
