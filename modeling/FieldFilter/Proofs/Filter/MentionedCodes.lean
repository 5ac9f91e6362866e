import FieldFilter.Filter.Codes
import FieldFilter.Proofs.Filter.Inversion

/-! A filter mentions the codes that its expression refers to. The codes are collected from the JSON
value and the references read off the expression, so the two walks are compared step by step.
-/

namespace FieldFilter

-----------------------------------------------------------------------------------------
-- References
-----------------------------------------------------------------------------------------

namespace FilterExpr

/-- The codes that an expression refers to, from left to right: those of each condition, its own
field before the other one.
-/
def references (e : FilterExpr) : List String :=
  e.conditions.flatMap Condition.codes

def restReferences (rest : List (Conjunction × FilterExpr)) : List String :=
  (restConditions rest).flatMap Condition.codes

theorem codes_subset_references {e : FilterExpr} {condition : Condition}
    (member : condition ∈ e.conditions)
    : condition.codes ⊆ e.references :=
  fun _ code => List.mem_flatMap.mpr ⟨condition, member, code⟩

@[simp] theorem references_condition (c : Condition) : (condition c).references = c.codes := by
  simp [references, conditions]

@[simp] theorem references_group (first : FilterExpr) (rest : List (Conjunction × FilterExpr))
    : (group first rest).references = first.references ++ restReferences rest := by
  simp [references, restReferences, conditions]

@[simp] theorem restReferences_nil : restReferences [] = [] := by
  simp [restReferences, restConditions]

@[simp] theorem restReferences_cons (conjunction : Conjunction) (e : FilterExpr)
    (rest : List (Conjunction × FilterExpr))
    : restReferences ((conjunction, e) :: rest) = e.references ++ restReferences rest := by
  simp [references, restReferences, restConditions]

end FilterExpr

-----------------------------------------------------------------------------------------
-- The codes that are collected
-----------------------------------------------------------------------------------------

/-- A list with a new element has its old ones and the new one. -/
theorem mem_insertNew {codes : List String} {code x : String}
    : x ∈ insertNew codes code ↔ x ∈ codes ∨ x = code := by
  unfold insertNew
  split
  · next known =>
      have member : code ∈ codes := List.contains_iff_mem.mp known
      constructor
      · exact Or.inl
      · rintro (old | rfl)
        · exact old
        · exact member
  · simp

/-- Collecting codes one by one loses none, by induction on them. -/
theorem mem_foldl_insertNew {codes start : List String} {x : String}
    : x ∈ codes.foldl insertNew start ↔ x ∈ start ∨ x ∈ codes := by
  induction codes generalizing start with
  | nil => simp
  | cons code codes ih =>
      rw [List.foldl_cons, ih, mem_insertNew, List.mem_cons, or_assoc]

theorem mem_fieldCodes {filter : Json.Value} {code : String}
    : code ∈ fieldCodes filter ↔ code ∈ mentionedCodes filter := by
  simp [fieldCodes, mem_foldl_insertNew]

/-- The items of a condition mention exactly its codes, the one of an operand when the operator
compares with a field.
-/
theorem Condition.itemCodes_of_ofItems {code token operand : Json.Value} {c : Condition}
    (h : Condition.ofItems code token operand = .ok c)
    : itemCodes code token operand = c.codes := by
  obtain ⟨field, spelled, ⟨op, rfl, rfl⟩ | ⟨op, other, rfl, spelledOther, rfl⟩⟩ :=
    ofItems_eq_ok_iff.mp h
  · simp [codes, itemCodes, spelled, Json.Value.string?, Operator.ofToken?_token,
      Operator.isCrossField]
  · simp [codes, itemCodes, spelled, spelledOther, Json.Value.string?, Operator.ofToken?_token,
      Operator.isCrossField]

/-- A conjunction mentions nothing, as every text. -/
theorem Conjunction.mentionedCodes_of_ofJson? {token : Json.Value} {conjunction : Conjunction}
    (h : Conjunction.ofJson? token = some conjunction)
    : mentionedCodes token = [] := by
  obtain rfl := ofJson?_eq_some_iff.mp h
  rfl

namespace FilterExpr

mutual

/-- A value mentions exactly what the expression that it is refers to, in the same order and as
often. By induction on the value; both walks take an array for a condition by the same look at its
items.
-/
theorem mentionedCodes_of_ofJson {value : Json.Value} {e : FilterExpr} (h : ofJson value = .ok e)
    : mentionedCodes value = e.references := by
  cases value with
  | array items =>
      cases items with
      | nil => cases h
      | cons item items =>
          simp only [ofJson, mentionedCodes] at h ⊢
          cases hi : conditionItems? (item :: items) with
          | some parts =>
              obtain ⟨code, token, operand⟩ := parts
              simp only [hi] at h ⊢
              obtain ⟨c, hc, rfl⟩ := map_eq_ok_iff.mp h
              rw [references_condition]
              exact Condition.itemCodes_of_ofItems hc
          | none =>
              simp only [hi] at h ⊢
              exact mentionedCodes_of_groupOfItems h
  | _ => cases h

theorem mentionedCodes_of_groupOfItems {items : List Json.Value} {e : FilterExpr}
    (h : groupOfItems items = .ok e)
    : mentionedCodesOfItems items = e.references := by
  cases items with
  | nil => cases h
  | cons value items =>
      obtain ⟨first, rest, hf, hr, rfl⟩ := groupOfItems_cons_eq_ok_iff.mp h
      rw [references_group, mentionedCodesOfItems, mentionedCodes_of_ofJson hf,
        mentionedCodes_of_restOfItems hr]

theorem mentionedCodes_of_restOfItems {items : List Json.Value}
    {rest : List (Conjunction × FilterExpr)} (h : restOfItems items = .ok rest)
    : mentionedCodesOfItems items = restReferences rest := by
  cases items with
  | nil =>
      obtain rfl := Except.ok.inj h
      rw [restReferences_nil, mentionedCodesOfItems]
  | cons token items =>
      cases items with
      | nil =>
          simp only [restOfItems] at h
          split at h <;> cases h
      | cons value items =>
          obtain ⟨conjunction, child, later, joined, hc, hl, rfl⟩ :=
            restOfItems_cons_eq_ok_iff.mp h
          rw [restReferences_cons, mentionedCodesOfItems, mentionedCodesOfItems,
            Conjunction.mentionedCodes_of_ofJson? joined, List.nil_append,
            mentionedCodes_of_ofJson hc, mentionedCodes_of_restOfItems hl]

end

/-- The codes of a filter are enough for its expression: everything that the expression refers
to is among them.
-/
theorem references_subset_fieldCodes {filter : Json.Value} {e : FilterExpr}
    (h : ofFilter filter = .ok (some e))
    : e.references ⊆ fieldCodes filter := by
  intro code member
  rwa [mem_fieldCodes, mentionedCodes_of_ofJson (ofFilter_eq_ok_some_iff.mp h)]

end FilterExpr

end FieldFilter
