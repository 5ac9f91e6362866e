import FieldFilter.Filter.Wire
import FieldFilter.Proofs.Compile.ConditionRun

/-! What the reading of a filter says about its value, one equivalence for each step of the reader.
Facts about whole filters are proved with these, so that they depend on the reader in this one
place.
-/

namespace FieldFilter

-----------------------------------------------------------------------------------------
-- Tokens
-----------------------------------------------------------------------------------------

theorem Conjunction.ofJson?_eq_some_iff {value : Json.Value} {conjunction : Conjunction}
    : Conjunction.ofJson? value = some conjunction ↔ value = .string conjunction.token := by
  constructor
  · intro h
    obtain ⟨text, spelled, known⟩ := Option.bind_eq_some_iff.mp h
    have same : text = conjunction.token := by
      unfold ofToken? at known
      split at known
      · next and =>
          obtain rfl := Option.some.inj known
          exact and
      · split at known
        · next or =>
            obtain rfl := Option.some.inj known
            exact or
        · cases known
    subst same
    cases value with
    | string s =>
        obtain rfl := Option.some.inj spelled
        rfl
    | _ => cases spelled
  · rintro rfl
    exact ofToken?_token conjunction

theorem Operator.ofToken?_eq_some_iff {token : String} {op : Operator}
    : Operator.ofToken? token = some op ↔ token = op.token := by
  constructor
  · intro h
    have same := List.find?_some h
    simpa using (beq_iff_eq.mp same).symm
  · rintro rfl
    exact ofToken?_token op

/-- No operator is written like a conjunction, by cases on the operator. -/
theorem Operator.ofJson?_token (op : Operator)
    : Conjunction.ofJson? (.string op.token) = none := by
  rcases op with op | op
  · cases op with
    | date relation => cases relation <;> decide
    | _ => decide
  · cases op <;> decide

-----------------------------------------------------------------------------------------
-- Conditions
-----------------------------------------------------------------------------------------

/-- Three items are read as a condition when the first spells a field code and the second is the
token of an operator; the third is kept, or spells the other field code.
-/
theorem Condition.ofItems_eq_ok_iff {code token operand : Json.Value} {c : Condition}
    : ofItems code token operand = .ok c
      ↔ ∃ field,
          fieldCode? code = some field
          ∧ ((∃ op : LiteralOperator,
                token = .string (Operator.literal op).token ∧ literal field op operand = c)
              ∨ ∃ (op : FieldOperator) (other : String),
                  token = .string (Operator.field op).token
                  ∧ fieldCode? operand = some other
                  ∧ fields field op other = c) := by
  constructor
  · intro h
    unfold ofItems at h
    split at h
    · cases h
    · next field spelled =>
        refine ⟨field, spelled, ?_⟩
        split at h
        · next text =>
            split at h
            · cases h
            · next op known =>
                obtain rfl := Operator.ofToken?_eq_some_iff.mp known
                exact Or.inl ⟨op, rfl, Except.ok.inj h⟩
            · next op known =>
                obtain rfl := Operator.ofToken?_eq_some_iff.mp known
                split at h
                · cases h
                · next other spelledOther =>
                    exact Or.inr ⟨op, other, rfl, spelledOther, Except.ok.inj h⟩
        · cases h
  · rintro ⟨field, spelled, ⟨op, rfl, rfl⟩ | ⟨op, other, rfl, spelledOther, rfl⟩⟩
    · simp only [ofItems, spelled, Operator.ofToken?_token]
    · simp only [ofItems, spelled, spelledOther, Operator.ofToken?_token]

/-- Items are those of a condition when they are three and the second is no conjunction. -/
theorem conditionItems?_eq_some_iff {items : List Json.Value} {code token operand : Json.Value}
    : conditionItems? items = some (code, token, operand)
      ↔ items = [code, token, operand] ∧ Conjunction.ofJson? token = none := by
  constructor
  · intro h
    unfold conditionItems? at h
    split at h
    · next first second third =>
        split at h
        · cases h
        · next free =>
            obtain ⟨rfl, rfl, rfl⟩ : first = code ∧ second = token ∧ third = operand := by
              simpa using h
            exact ⟨rfl, by simpa using free⟩
    · cases h
  · rintro ⟨rfl, free⟩
    simp [conditionItems?, free]

-----------------------------------------------------------------------------------------
-- Expressions
-----------------------------------------------------------------------------------------

namespace FilterExpr

/-- A group is read when its first child and then the others are. -/
theorem groupOfItems_cons_eq_ok_iff {value : Json.Value} {items : List Json.Value}
    {e : FilterExpr}
    : groupOfItems (value :: items) = .ok e
      ↔ ∃ first rest,
          ofJson value = .ok first ∧ restOfItems items = .ok rest ∧ group first rest = e := by
  simp [groupOfItems, bind_eq_ok_iff, pure, Except.pure]

/-- Further children are read when a conjunction stands before each of them. -/
theorem restOfItems_cons_eq_ok_iff {token value : Json.Value} {items : List Json.Value}
    {rest : List (Conjunction × FilterExpr)}
    : restOfItems (token :: value :: items) = .ok rest
      ↔ ∃ conjunction child later,
          Conjunction.ofJson? token = some conjunction
          ∧ ofJson value = .ok child
          ∧ restOfItems items = .ok later
          ∧ (conjunction, child) :: later = rest := by
  rw [restOfItems]
  cases Conjunction.ofJson? token with
  | none => simp
  | some conjunction => simp [bind_eq_ok_iff, pure, Except.pure]

/-- A value is read as the condition that its items are, or else as the group of them. -/
theorem ofJson_eq_ok_iff {value : Json.Value} {e : FilterExpr}
    : ofJson value = .ok e
      ↔ ∃ items,
          value = .array items
          ∧ ((∃ code token operand c,
                conditionItems? items = some (code, token, operand)
                ∧ Condition.ofItems code token operand = .ok c
                ∧ condition c = e)
              ∨ conditionItems? items = none ∧ groupOfItems items = .ok e) := by
  cases value with
  | array items =>
      cases items with
      | nil => simp [ofJson, groupOfItems, conditionItems?]
      | cons item items =>
          cases parts : conditionItems? (item :: items) with
          | none => simp [ofJson, parts]
          | some triple =>
              obtain ⟨code, token, operand⟩ := triple
              have read
                  : ofJson (.array (item :: items))
                    = (Condition.ofItems code token operand).map condition := by
                simp only [ofJson, parts]
              rw [read, map_eq_ok_iff]
              constructor
              · rintro ⟨c, hc, same⟩
                exact ⟨_, rfl, Or.inl ⟨code, token, operand, c, parts, hc, same⟩⟩
              · rintro ⟨others, whole, read⟩
                obtain rfl := Json.Value.array.inj whole
                rcases read with ⟨first, second, third, c, found, hc, same⟩ | ⟨free, _⟩
                · obtain ⟨rfl, rfl, rfl⟩ : code = first ∧ token = second ∧ operand = third := by
                    simpa [parts] using found
                  exact ⟨c, hc, same⟩
                · rw [parts] at free
                  cases free
  | _ => simp [ofJson]

/-- A whole filter has an expression when it is one inside a group too: nothing and the empty
array, which a filter may be besides, are no expressions.
-/
theorem ofFilter_eq_ok_some_iff {filter : Json.Value} {e : FilterExpr}
    : ofFilter filter = .ok (some e) ↔ ofJson filter = .ok e := by
  cases filter with
  | array items =>
      cases items with
      | nil => simp [ofFilter, ofJson]
      | cons item items => simp [ofFilter, map_eq_ok_iff]
  | _ => simp [ofFilter, ofJson]

theorem ofFilter_eq_ok_none_iff {filter : Json.Value}
    : ofFilter filter = .ok none ↔ filter = .null ∨ filter = .array [] := by
  cases filter with
  | array items =>
      cases items with
      | nil => simp [ofFilter]
      | cons item items => simp [ofFilter, map_eq_ok_iff]
  | _ => simp [ofFilter]

end FilterExpr

end FieldFilter
