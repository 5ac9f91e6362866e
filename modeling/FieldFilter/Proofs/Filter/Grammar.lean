import FieldFilter.Proofs.Filter.MentionedCodes
import Mathlib.Data.List.DropRight

/-! The grammar of filters in JSON, said without the reader: what a condition and a group look like,
the canonical value of an expression, and a filter without the qualifiers of its field codes.
-/

namespace FieldFilter

-----------------------------------------------------------------------------------------
-- Field codes
-----------------------------------------------------------------------------------------

/-- A text names a field by its part after the last point, or by all of it when it has no point.
The name is not empty.
-/
def NamesField (text name : String) : Prop :=
  name ≠ "" ∧ '.' ∉ name.toList ∧ (text = name ∨ ∃ qualifier, text = qualifier ++ "." ++ name)

/-- What is left of a text without its qualifier is its longest end without a point. -/
theorem toList_stripQualifier (text : String)
    : (stripQualifier text).toList = text.toList.rtakeWhile (· ≠ '.') := by
  rw [stripQualifier, String.toList_ofList]
  rfl

theorem point_notMem_stripQualifier (text : String) : '.' ∉ (stripQualifier text).toList := by
  intro member
  rw [toList_stripQualifier] at member
  simpa using List.mem_rtakeWhile_imp member

/-- A text without a point has no qualifier. -/
theorem stripQualifier_eq_self {text : String} (h : '.' ∉ text.toList)
    : stripQualifier text = text := by
  refine String.toList_injective ?_
  rw [toList_stripQualifier]
  refine List.rtakeWhile_eq_self_iff.mpr fun x member => ?_
  have other : x ≠ '.' := by
    rintro rfl
    exact h member
  simpa using other

/-- A text is what is left of it without its qualifier, or that after a qualifier and a point. By
cases on what stands before the longest end without a point.
-/
theorem exists_qualifier (text : String)
    : text = stripQualifier text ∨ ∃ qualifier, text = qualifier ++ "." ++ stripQualifier text := by
  have parts := List.rdropWhile_append_rtakeWhile (p := (· ≠ '.')) (l := text.toList)
  rw [← toList_stripQualifier] at parts
  have last := List.rdropWhile_last_not (· ≠ '.') text.toList
  rcases List.eq_nil_or_concat' (text.toList.rdropWhile (· ≠ '.')) with none | ⟨before, x, some⟩
  · left
    rw [none, List.nil_append] at parts
    exact String.toList_injective parts.symm
  · right
    have point : x = '.' := by
      simp only [some] at last
      simpa using last
    refine ⟨String.ofList before, String.toList_injective ?_⟩
    rw [← parts, some, point]
    simp

/-- A qualifier ends at the last point, so the name after it is what is left. -/
theorem NamesField.stripQualifier_eq {text name : String} (h : NamesField text name)
    : stripQualifier text = name := by
  obtain ⟨_, bare, rfl | ⟨qualifier, rfl⟩⟩ := h
  · exact stripQualifier_eq_self bare
  · have letters : ∀ x ∈ name.toList.reverse, decide (x ≠ '.') = true := by
      intro x member
      have other : x ≠ '.' := by
        rintro rfl
        exact bare (List.mem_reverse.mp member)
      simpa using other
    refine String.toList_injective ?_
    rw [toList_stripQualifier, List.rtakeWhile, String.toList_append, String.toList_append,
      List.reverse_append, List.takeWhile_append_of_pos letters]
    simp

/-- A value spells a field code when it is a text that names the field. -/
theorem fieldCode?_eq_some_iff {value : Json.Value} {name : String}
    : fieldCode? value = some name ↔ ∃ text, value = .string text ∧ NamesField text name := by
  constructor
  · intro h
    obtain ⟨found, nonempty⟩ := Option.filter_eq_some_iff.mp h
    obtain ⟨text, spelled, rfl⟩ := Option.map_eq_some_iff.mp found
    have same : value = .string text := by
      cases value with
      | string s =>
          obtain rfl := Option.some.inj spelled
          rfl
      | _ => cases spelled
    refine ⟨text, same, by simpa using nonempty, point_notMem_stripQualifier text, ?_⟩
    exact exists_qualifier text
  · rintro ⟨text, rfl, names⟩
    have nonempty := names.1
    simp [fieldCode?, Json.Value.string?, names.stripQualifier_eq, nonempty]

-----------------------------------------------------------------------------------------
-- The grammar
-----------------------------------------------------------------------------------------

/-- A filter is a condition, which is an array of a field code, the token of an operator and an
operand, which is a field code too when the operator compares with a field; or it is a group,
which is an array of odd length with filters at even places and conjunctions at odd places.
-/
inductive IsNode : Json.Value → Prop
  | condition {text name : String} {op : Operator} {operand : Json.Value}
    (field : NamesField text name)
    (other
      : op.isCrossField = true
        → ∃ text name, operand = .string text ∧ NamesField text name)
    : IsNode (.array [.string text, .string op.token, operand])
  | group {items : List Json.Value} (odd : items.length % 2 = 1)
    (children : ∀ i (h : i < items.length), i % 2 = 0 → IsNode items[i])
    (tokens
      : ∀ i (h : i < items.length),
          i % 2 = 1 → items[i] = .string "and" ∨ items[i] = .string "or")
    : IsNode (.array items)

-----------------------------------------------------------------------------------------
-- Canonical values
-----------------------------------------------------------------------------------------

/-- The canonical value of a condition. -/
def Condition.toJson : Condition → Json.Value
  | literal field op operand => .array [.string field, .string op.token, operand]
  | fields field op other => .array [.string field, .string op.token, .string other]

namespace FilterExpr

mutual

/-- The canonical value of an expression. -/
def toJson : FilterExpr → Json.Value
  | condition c => c.toJson
  | group first rest => .array (first.toJson :: restToJson rest)

def restToJson : List (Conjunction × FilterExpr) → List Json.Value
  | [] => []
  | (conjunction, e) :: rest => .string conjunction.token :: e.toJson :: restToJson rest

end

/-- The codes of the expression are names: none is empty and none has a qualifier. -/
def HasBareCodes (e : FilterExpr) : Prop :=
  ∀ code ∈ e.references, code ≠ "" ∧ '.' ∉ code.toList

end FilterExpr

/-- A text without its qualifier; other values have none. -/
def Json.Value.withoutQualifier : Json.Value → Json.Value
  | .string text => .string (stripQualifier text)
  | value => value

/-- The token is that of an operator whose operand is a field code. -/
def isCrossFieldToken (token : Json.Value) : Bool :=
  (token.string?.bind Operator.ofToken?).any Operator.isCrossField

mutual

/-- A filter without the qualifiers of its field codes and of operands that are field codes. -/
def withoutQualifiers : Json.Value → Json.Value
  | .array items =>
    match conditionItems? items with
    | some (code, token, operand) =>
      .array
        [ code.withoutQualifier, token,
          if isCrossFieldToken token then operand.withoutQualifier else operand ]
    | none => .array (itemsWithoutQualifiers items)
  | value => value

def itemsWithoutQualifiers : List Json.Value → List Json.Value
  | [] => []
  | item :: items => withoutQualifiers item :: itemsWithoutQualifiers items

end

end FieldFilter
