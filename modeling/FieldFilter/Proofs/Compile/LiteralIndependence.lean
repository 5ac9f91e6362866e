import FieldFilter.Proofs.Compile.TestForm
import FieldFilter.Proofs.Sql.Skeleton

/-! Literals stay out of the SQL text. Two expressions that differ in literals alone compile to
the same predicate and the same joins, as long as the literals agree in the few facts that choose
between forms of a test.
-/

namespace FieldFilter

open Ending (reporting_eq_ok_iff)

-----------------------------------------------------------------------------------------
-- Literals that the text of a test cannot tell apart
-----------------------------------------------------------------------------------------

/-- The facts about the operands of an operator that its text may depend on: whether an equality
has something to compare with, which truth value that is on a Boolean field, whether a class
holds the empty text, and how many ids a list has.
-/
def LiteralOperator.Alike (type : FieldType) (left right : Json.Value) : LiteralOperator → Prop
  | equal | notEqual =>
    Operand.isEmpty left = Operand.isEmpty right
    ∧ (type = .boolean
        → Operand.isEmpty left = false
        → ∀ a b, Operand.truth left = .ok a → Operand.truth right = .ok b → a = b)
  | regex =>
    ∀ a b,
      RegexClass.ofOperand? left = some a
      → RegexClass.ofOperand? right = some b
      → a.acceptsBlank = b.acceptsBlank
  | listInclude | listNotInclude =>
    (Operand.entries left).length = (Operand.entries right).length
  | _ => True

/-- Two conditions that differ in a literal alone, alike on the field of the condition. -/
inductive Condition.Alike (fields : List Field) : Condition → Condition → Prop
  | literal {code op left right}
    (alike : ∀ f, Field.resolve? fields code = some f → op.Alike f.type left right)
    : Alike fields (literal code op left) (literal code op right)
  | fields {code op other} : Alike fields (.fields code op other) (.fields code op other)

namespace FilterExpr

mutual

/-- Two expressions with the same groups, conjunctions, codes and operators, and with alike
literals at each condition.
-/
inductive Alike (fields : List Field) : FilterExpr → FilterExpr → Prop
  | condition {left right} (alike : left.Alike fields right)
    : Alike fields (condition left) (condition right)
  | group {left right restLeft restRight} (first : Alike fields left right)
    (rest : RestAlike fields restLeft restRight)
    : Alike fields (group left restLeft) (group right restRight)

inductive RestAlike (fields : List Field)
    : List (Conjunction × FilterExpr) → List (Conjunction × FilterExpr) → Prop
  | nil : RestAlike fields [] []
  | cons {conjunction left right restLeft restRight} (head : Alike fields left right)
    (rest : RestAlike fields restLeft restRight)
    : RestAlike fields ((conjunction, left) :: restLeft) ((conjunction, right) :: restRight)

end

end FilterExpr

-----------------------------------------------------------------------------------------
-- Alike literals give the same skeleton
-----------------------------------------------------------------------------------------

namespace LiteralOperator

/-- Tests that are built alike from accepted operands have the same skeleton. -/
theorem skeleton_eq_of_map {α ε : Type} {x y : Except ε α} {build : α → Test}
    {left right : Test} (same : ∀ a b, (build a).skeleton = (build b).skeleton)
    (hl : x.map build = .ok left) (hr : y.map build = .ok right)
    : left.skeleton = right.skeleton := by
  obtain ⟨a, _, rfl⟩ := map_eq_ok_iff.mp hl
  obtain ⟨b, _, rfl⟩ := map_eq_ok_iff.mp hr
  exact same a b

/-- Alike operands of an equality give terms with the same skeleton, or none both, by cases on
what the equality compares with.
-/
theorem equalityTerm_skeleton {type : FieldType} {left right : Json.Value}
    {a b : Option Term} (alike : equal.Alike type left right)
    (hl : equalityTerm type left = .ok a) (hr : equalityTerm type right = .ok b)
    : a.map Term.skeleton = b.map Term.skeleton := by
  obtain ⟨empty, truth⟩ := alike
  rcases equalityTerm_eq_ok_iff.mp hl with
    ⟨el, rfl⟩ | ⟨el, bl, p, tl, rfl⟩ | ⟨el, bl, p, sl, rfl⟩
  · rcases equalityTerm_eq_ok_iff.mp hr with ⟨er, rfl⟩ | ⟨er, _⟩ | ⟨er, _⟩
    · rfl
    · exact absurd (empty ▸ el) er
    · exact absurd (empty ▸ el) er
  · rcases equalityTerm_eq_ok_iff.mp hr with ⟨er, rfl⟩ | ⟨er, br, q, tr, rfl⟩ | ⟨er, br, _⟩
    · exact absurd (empty ▸ er) el
    · obtain rfl := truth bl (by simpa using el) p q tl tr
      rfl
    · exact absurd bl br
  · rcases equalityTerm_eq_ok_iff.mp hr with ⟨er, rfl⟩ | ⟨er, br, _⟩ | ⟨er, br, q, sr, rfl⟩
    · exact absurd (empty ▸ er) el
    · exact absurd br bl
    · rfl

/-- Each accepted entry of a list has two documents, by induction on the entries. -/
theorem length_flatten_entryDocuments {items : List Json.Value}
    {documents : List (List Parameter)}
    (h : items.mapM Operand.entryDocuments = .ok documents)
    : documents.flatten.length = 2 * items.length := by
  induction items generalizing documents with
  | nil =>
      obtain rfl := Except.ok.inj h
      rfl
  | cons item items ih =>
      rw [List.mapM_cons] at h
      obtain ⟨first, hf, h⟩ := bind_eq_ok_iff.mp h
      obtain ⟨later, hl, h⟩ := bind_eq_ok_iff.mp h
      obtain rfl := Except.ok.inj h
      have two : first.length = 2 := by
        unfold Operand.entryDocuments at hf
        split at hf
        · obtain rfl := Except.ok.inj hf
          rfl
        · cases hf
      rw [List.flatten_cons, List.length_append, ih hl, two, List.length_cons]
      omega

theorem length_documents {operand : Json.Value} {documents : List Parameter}
    (h : Operand.documents operand = .ok documents)
    : documents.length = 2 * (Operand.entries operand).length := by
  unfold Operand.documents at h
  split at h
  · cases h
  · obtain ⟨lists, hm, rfl⟩ := map_eq_ok_iff.mp h
    exact length_flatten_entryDocuments hm

/-- Lists with as many entries have as many documents, which are all alike without values. -/
theorem documents_skeleton {left right : Json.Value} {a b : List Parameter}
    (alike : (Operand.entries left).length = (Operand.entries right).length)
    (hl : Operand.documents left = .ok a) (hr : Operand.documents right = .ok b)
    : (a.map fun _ => Parameter.int 0) = b.map fun _ => Parameter.int 0 := by
  rw [List.map_const', List.map_const', length_documents hl, length_documents hr, alike]

theorem regexClass_eq_ok_iff {operand : Json.Value} {cls : RegexClass}
    : Operand.regexClass operand = .ok cls ↔ RegexClass.ofOperand? operand = some cls := by
  unfold Operand.regexClass
  cases RegexClass.ofOperand? operand with
  | none => simp
  | some found => simp

/-- An operator gives tests with the same skeleton for alike operands, whatever its clock shows, by
cases on the operator. Only the equalities, the class of texts and the lists look at their operands
for the text.
-/
theorem test_skeleton {op : LiteralOperator} {type : FieldType} {c : Column}
    {clock later : Clock} {left right : Json.Value} {a b : Test} (alike : op.Alike type left right)
    (hl : op.test type c clock left = .ok a) (hr : op.test type c later right = .ok b)
    : a.skeleton = b.skeleton := by
  cases op with
  | equal | notEqual =>
      obtain ⟨s, sl, hl⟩ := bind_eq_ok_iff.mp hl
      obtain ⟨t, tr, hr⟩ := bind_eq_ok_iff.mp hr
      have same :=
        equalityTerm_skeleton alike (reporting_eq_ok_iff.mp sl) (reporting_eq_ok_iff.mp tr)
      cases s <;> cases t <;> cases hl <;> cases hr
      · rfl
      · cases same
      · cases same
      · simpa [Test.equalTo, Test.differentFrom, Test.skeleton, Atom.skeleton, Term.skeleton]
          using same
  | regex =>
      obtain ⟨x, hx, rfl⟩ := map_eq_ok_iff.mp hl
      obtain ⟨y, hy, rfl⟩ := map_eq_ok_iff.mp hr
      have first := regexClass_eq_ok_iff.mp (reporting_eq_ok_iff.mp hx)
      have second := regexClass_eq_ok_iff.mp (reporting_eq_ok_iff.mp hy)
      rw [alike x y first second]
      simp [Test.skeleton, Atom.skeleton]
  | listInclude | listNotInclude =>
      obtain ⟨ds, hd, rfl⟩ := map_eq_ok_iff.mp hl
      obtain ⟨es, he, rfl⟩ := map_eq_ok_iff.mp hr
      have same :=
        documents_skeleton alike (reporting_eq_ok_iff.mp hd) (reporting_eq_ok_iff.mp he)
      simp [Test.skeleton, Atom.skeleton, same]
  | isBlank | isNotBlank | nowGreaterThan | nowLessThan =>
      obtain rfl := Except.ok.inj hl
      obtain rfl := Except.ok.inj hr
      rfl
  | date relation => exact skeleton_eq_of_map (fun _ _ => by cases relation <;> rfl) hl hr
  | _ => exact skeleton_eq_of_map (fun _ _ => rfl) hl hr

end LiteralOperator

-----------------------------------------------------------------------------------------
-- Alike expressions compile to the same text
-----------------------------------------------------------------------------------------

/-- The test between two columns depends on the clock by its offset alone, by cases on the operator.
-/
theorem FieldOperator.test_of_offset_eq (op : FieldOperator) (c other : Column)
    {clock later : Clock} (offset : clock.offset = later.offset)
    : op.test c other clock = op.test c other later := by
  cases op <;>
    simp only [test, offset]

/-- Alike conditions after the same joins need the same joins and have tests with the same
skeleton, on clocks with the same offset.
-/
theorem Condition.Alike.plan_skeleton {fields : List Field} {clock later : Clock} {used : Nat}
    {left right : Condition} {a b : Test} {joins more : List Join}
    (alike : left.Alike fields right) (offset : clock.offset = later.offset)
    (hl : left.plan fields clock used = .ok (a, joins))
    (hr : right.plan fields later used = .ok (b, more))
    : a.skeleton = b.skeleton ∧ joins = more := by
  cases alike with
  | literal alike =>
      obtain ⟨f, hf, ha, rfl⟩ := plan_literal_eq_ok_iff.mp hl
      obtain ⟨g, hg, hb, rfl⟩ := plan_literal_eq_ok_iff.mp hr
      obtain rfl := Option.some.inj (hf.symm.trans hg)
      exact ⟨LiteralOperator.test_skeleton (alike f hf) ha hb, rfl⟩
  | fields =>
      obtain ⟨f, f', hf, hf', rfl, rfl⟩ := plan_fields_eq_ok_iff.mp hl
      obtain ⟨g, g', hg, hg', rfl, rfl⟩ := plan_fields_eq_ok_iff.mp hr
      obtain rfl := Option.some.inj (hf.symm.trans hg)
      obtain rfl := Option.some.inj (hf'.symm.trans hg')
      exact ⟨congrArg Test.skeleton (FieldOperator.test_of_offset_eq _ _ _ offset), rfl⟩

namespace FilterExpr

mutual

/-- Alike expressions after the same joins need the same joins and have predicates with the
same skeleton, on clocks with the same offset, by induction on their likeness.
-/
theorem Alike.plan_skeleton {fields : List Field} {clock later : Clock} {used : Nat}
    {left right : FilterExpr} {p q : Plan} (alike : Alike fields left right)
    (offset : clock.offset = later.offset) (hl : left.plan fields clock used = .ok p)
    (hr : right.plan fields later used = .ok q)
    : p.predicate.skeleton = q.predicate.skeleton ∧ p.joins = q.joins := by
  cases alike with
  | condition alike =>
      obtain ⟨a, joins, ha, rfl⟩ := plan_condition_eq_ok_iff.mp hl
      obtain ⟨b, more, hb, rfl⟩ := plan_condition_eq_ok_iff.mp hr
      obtain ⟨same, rfl⟩ := alike.plan_skeleton offset ha hb
      exact ⟨congrArg Predicate.test same, rfl⟩
  | group first rest =>
      obtain ⟨head, children, joins, hf, hc, rfl⟩ := plan_group_eq_ok_iff.mp hl
      obtain ⟨other, others, more, hg, hd, rfl⟩ := plan_group_eq_ok_iff.mp hr
      obtain ⟨sameHead, sameJoins⟩ := first.plan_skeleton offset hf hg
      rw [← sameJoins] at hd
      obtain ⟨sameRest, rfl⟩ := rest.plan_skeleton offset hc hd
      simp only [Predicate.skeleton, sameHead, sameRest, sameJoins, and_self]

theorem RestAlike.plan_skeleton {fields : List Field} {clock later : Clock} {used : Nat}
    {left right : List (Conjunction × FilterExpr)} {ps qs : List (Conjunction × Predicate)}
    {joins more : List Join} (alike : RestAlike fields left right)
    (offset : clock.offset = later.offset)
    (hl : restPlan fields clock used left = .ok (ps, joins))
    (hr : restPlan fields later used right = .ok (qs, more))
    : Predicate.restSkeleton ps = Predicate.restSkeleton qs ∧ joins = more := by
  cases alike with
  | nil =>
      obtain ⟨rfl, rfl⟩ := Prod.mk.inj (Except.ok.inj hl)
      obtain ⟨rfl, rfl⟩ := Prod.mk.inj (Except.ok.inj hr)
      exact ⟨rfl, rfl⟩
  | cons head rest =>
      obtain ⟨p, ps, joins, hp, hc, rfl, rfl⟩ := restPlan_cons_eq_ok_iff.mp hl
      obtain ⟨q, qs, more, hq, hd, rfl, rfl⟩ := restPlan_cons_eq_ok_iff.mp hr
      obtain ⟨sameHead, sameJoins⟩ := head.plan_skeleton offset hp hq
      rw [← sameJoins] at hd
      obtain ⟨sameRest, rfl⟩ := rest.plan_skeleton offset hc hd
      simp only [Predicate.restSkeleton, sameHead, sameRest, sameJoins, and_self]

end

/-- Alike expressions have predicates with the same skeleton and the same joins on one clock. -/
theorem Alike.plan {fields : List Field} {clock : Clock} {used : Nat} {left right : FilterExpr}
    {p q : Plan} (alike : Alike fields left right) (hl : left.plan fields clock used = .ok p)
    (hr : right.plan fields clock used = .ok q)
    : p.predicate.skeleton = q.predicate.skeleton ∧ p.joins = q.joins :=
  alike.plan_skeleton rfl hl hr

/-- Literals do not reach the SQL text. Expressions that differ in alike literals alone compile,
if they compile, to the same predicate text and the same joins, with as many parameters.
-/
theorem compile_eq_of_alike_literals {table : ValueTable} {clock : Clock} {fields : List Field}
    {left right : FilterExpr} {q r : CompiledQuery} (alike : Alike fields left right)
    (hl : FilterExpr.compile table clock fields (some left) = .ok q)
    (hr : FilterExpr.compile table clock fields (some right) = .ok r)
    : q.predicate = r.predicate ∧ q.joins = r.joins ∧ q.params.length = r.params.length := by
  obtain ⟨p, hp, rfl⟩ := compile_some_eq_ok_iff.mp hl
  obtain ⟨s, hs, rfl⟩ := compile_some_eq_ok_iff.mp hr
  obtain ⟨same, joins⟩ := alike.plan hp hs
  refine ⟨?_, congrArg (List.map (Join.text table)) joins, ?_⟩
  · calc
      p.predicate.text table = p.predicate.skeleton.text table :=
        (Predicate.text_skeleton table p.predicate).symm
      _ = s.predicate.text table := by rw [same, Predicate.text_skeleton]
  · calc
      p.predicate.params.length = p.predicate.skeleton.params.length :=
        (Predicate.length_params_skeleton p.predicate).symm
      _ = s.predicate.params.length := by rw [same, Predicate.length_params_skeleton]

/-- A text with a column of its own, and a list in the value table. -/
def noteFields : List Field :=
  [ { code := "note", id := 4, type := .text, placement := .fixed "r.note", scope := 0,
      style := none },
    { code := "tags", id := 9, type := .list, placement := .custom, scope := 7, style := none } ]

/-- Entities with a note and without some tags. -/
def noteFilter (note tags : Json.Value) : FilterExpr :=
  .group (.condition (.literal "note" .equal note))
    [(.and, .condition (.literal "tags" .listNotInclude tags))]

/-- What such a filter compiles to: the documents of a tag stand twice, and nothing of an operand
stands in the text. -/
def noteQuery (note : String) (documents : List Parameter) : CompiledQuery :=
  { predicate := "((r.note = ?) and (f1.value_list IS NULL OR NOT "
      ++ "(JSON_CONTAINS(f1.value_list, ?) OR JSON_CONTAINS(f1.value_list, ?))))"
    joins := [Join.text .standard { number := 1, fieldId := 9 }]
    params := .text note :: documents }

/-- A note that tries to end its condition is bound like any other. -/
theorem compile_eq_of_alike_literals_quote
    : let harmless := noteQuery "x" [.text "5", .text "\x7b\"id\":5\x7d"]
      let hostile := noteQuery "') OR 1=1 -- "
        [.text "\"00ab12CD\"", .text "\x7b\"id\":\"00ab12CD\"\x7d"]
      harmless.predicate = hostile.predicate
        ∧ harmless.joins = hostile.joins
        ∧ harmless.params.length = hostile.params.length := by
  intro harmless hostile
  have alike
      : Alike noteFields (noteFilter (.string "x") (.string "5"))
          (noteFilter (.string "') OR 1=1 -- ") (.array [.string "00ab12CD"])) := by
    refine .group (.condition (.literal fun f found => ?_))
      (.cons (.condition (.literal fun f found => rfl)) .nil)
    refine ⟨by decide, fun type => ?_⟩
    obtain rfl := Option.some.inj found
    cases type
  have left
      : compile .standard ⟨.utc, 0⟩ noteFields (some (noteFilter (.string "x") (.string "5")))
          = .ok harmless := rfl
  have right
      : compile .standard ⟨.utc, 0⟩ noteFields
          (some (noteFilter (.string "') OR 1=1 -- ") (.array [.string "00ab12CD"])))
        = .ok hostile := rfl
  exact compile_eq_of_alike_literals alike left right

end FilterExpr

end FieldFilter
