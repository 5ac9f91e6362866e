import FieldFilter.Proofs.Filter.Grammar

/-! Reading a filter is inverse to writing the canonical value of an expression. What is read is
what the grammar allows, and all that reading forgets is the qualifiers of field codes.
-/

namespace FieldFilter

-----------------------------------------------------------------------------------------
-- Items of two kinds in turn
-----------------------------------------------------------------------------------------

/-- Items at even places have one property and items at odd places another. -/
def Alternates (even odd : Json.Value → Prop) (items : List Json.Value) : Prop :=
  ∀ i (h : i < items.length), (i % 2 = 0 → even items[i]) ∧ (i % 2 = 1 → odd items[i])

/-- After the first item the places change their parity. -/
theorem alternates_cons {even odd : Json.Value → Prop} {item : Json.Value}
    {items : List Json.Value}
    : Alternates even odd (item :: items) ↔ even item ∧ Alternates odd even items := by
  constructor
  · intro h
    refine ⟨(h 0 (by simp)).1 rfl, fun i bound => ?_⟩
    have next := h (i + 1) (by simpa using bound)
    refine ⟨fun parity => ?_, fun parity => ?_⟩
    · simpa using next.2 (by omega)
    · simpa using next.1 (by omega)
  · rintro ⟨head, tail⟩ i bound
    cases i with
    | zero => exact ⟨fun _ => head, fun parity => absurd parity (by decide)⟩
    | succ i =>
        have next := tail i (by simpa using bound)
        refine ⟨fun parity => ?_, fun parity => ?_⟩
        · simpa using next.2 (by omega)
        · simpa using next.1 (by omega)

/-- The value is one of the tokens between the children of a group. -/
def IsConjunction (value : Json.Value) : Prop :=
  value = .string "and" ∨ value = .string "or"

theorem isConjunction_iff {value : Json.Value}
    : IsConjunction value ↔ ∃ conjunction, Conjunction.ofJson? value = some conjunction := by
  simp only [Conjunction.ofJson?_eq_some_iff]
  constructor
  · rintro (rfl | rfl)
    · exact ⟨.and, rfl⟩
    · exact ⟨.or, rfl⟩
  · rintro ⟨conjunction, rfl⟩
    cases conjunction with
    | and => exact Or.inl rfl
    | or => exact Or.inr rfl

-----------------------------------------------------------------------------------------
-- From a value to its expression
-----------------------------------------------------------------------------------------

theorem withoutQualifier_of_fieldCode? {value : Json.Value} {name : String}
    (h : fieldCode? value = some name)
    : value.withoutQualifier = .string name := by
  obtain ⟨text, rfl, names⟩ := fieldCode?_eq_some_iff.mp h
  rw [Json.Value.withoutQualifier, names.stripQualifier_eq]

theorem isCrossFieldToken_token (op : Operator)
    : isCrossFieldToken (.string op.token) = op.isCrossField := by
  simp [isCrossFieldToken, Json.Value.string?, Operator.ofToken?_token]

theorem withoutQualifiers_condition (code operand : Json.Value) (op : Operator)
    : withoutQualifiers (.array [code, .string op.token, operand])
      = .array
          [ code.withoutQualifier, .string op.token,
            if op.isCrossField then operand.withoutQualifier else operand ] := by
  have parts
      : conditionItems? [code, .string op.token, operand]
        = some (code, .string op.token, operand) :=
    conditionItems?_eq_some_iff.mpr ⟨rfl, op.ofJson?_token⟩
  simp only [withoutQualifiers, parts, isCrossFieldToken_token]

/-- What holds of a value that is read as an expression: the value is in the grammar, without its
qualifiers it is the canonical value, and the expression has bare codes.
-/
structure Reads (value : Json.Value) (e : FilterExpr) : Prop where
  node : IsNode value
  form : e.toJson = withoutQualifiers value
  bare : e.HasBareCodes

/-- What holds of the items of a group after the first, which start with a conjunction. -/
structure ReadsRest (items : List Json.Value) (rest : List (Conjunction × FilterExpr)) : Prop where
  even : items.length % 2 = 0
  places : Alternates IsConjunction IsNode items
  form : FilterExpr.restToJson rest = itemsWithoutQualifiers items
  bare : ∀ code ∈ FilterExpr.restReferences rest, code ≠ "" ∧ '.' ∉ code.toList

/-- A condition reads as what it is, by cases on its operator. -/
theorem Condition.reads {code token operand : Json.Value} {c : Condition}
    (h : ofItems code token operand = .ok c)
    : Reads (.array [code, token, operand]) (.condition c) := by
  have bareName {text name : String} (names : NamesField text name)
      : name ≠ "" ∧ '.' ∉ name.toList := ⟨names.1, names.2.1⟩
  obtain ⟨field, spelled, ⟨op, rfl, rfl⟩ | ⟨op, other, rfl, spelledOther, rfl⟩⟩ :=
    ofItems_eq_ok_iff.mp h
  · obtain ⟨text, rfl, names⟩ := fieldCode?_eq_some_iff.mp spelled
    have literal : ¬ (Operator.literal op).isCrossField = true := Bool.false_ne_true
    refine {
      node := .condition names fun cross => absurd cross literal
      form := ?_
      bare := ?_
    }
    · rw [withoutQualifiers_condition, withoutQualifier_of_fieldCode? spelled]
      rfl
    · intro code member
      rw [FilterExpr.references_condition, codes, List.mem_singleton] at member
      exact member ▸ bareName names
  · obtain ⟨text, rfl, names⟩ := fieldCode?_eq_some_iff.mp spelled
    obtain ⟨otherText, rfl, otherNames⟩ := fieldCode?_eq_some_iff.mp spelledOther
    refine {
      node := .condition names fun _ => ⟨otherText, other, rfl, otherNames⟩
      form := ?_
      bare := ?_
    }
    · rw [withoutQualifiers_condition, withoutQualifier_of_fieldCode? spelled,
        withoutQualifier_of_fieldCode? spelledOther]
      rfl
    · intro code member
      rw [FilterExpr.references_condition, codes] at member
      rcases List.mem_cons.mp member with rfl | member
      · exact bareName names
      · exact List.mem_singleton.mp member ▸ bareName otherNames

/-- A group reads as what it is when its items do. -/
theorem Reads.group {value : Json.Value} {items : List Json.Value} {first : FilterExpr}
    {rest : List (Conjunction × FilterExpr)} (head : Reads value first)
    (tail : ReadsRest items rest) (free : conditionItems? (value :: items) = none)
    : Reads (.array (value :: items)) (.group first rest) := by
  have places : Alternates IsNode IsConjunction (value :: items) :=
    alternates_cons.mpr ⟨head.node, tail.places⟩
  have even := tail.even
  refine { node := .group ?_ ?_ ?_, form := ?_, bare := ?_ }
  · rw [List.length_cons]
    omega
  · intro i bound parity
    exact (places i bound).1 parity
  · intro i bound parity
    exact (places i bound).2 parity
  · rw [FilterExpr.toJson, head.form, tail.form, withoutQualifiers, free, itemsWithoutQualifiers]
  · intro code member
    rw [FilterExpr.references_group] at member
    rcases List.mem_append.mp member with own | later
    · exact head.bare code own
    · exact tail.bare code later

namespace FilterExpr

mutual

/-- What is read is in the grammar and is read up to qualifiers, by induction on the value. -/
theorem reads_of_ofJson {value : Json.Value} {e : FilterExpr} (h : ofJson value = .ok e)
    : Reads value e := by
  obtain ⟨items, rfl, ⟨code, token, operand, c, parts, read, rfl⟩ | ⟨free, read⟩⟩ :=
    ofJson_eq_ok_iff.mp h
  · obtain ⟨rfl, _⟩ := conditionItems?_eq_some_iff.mp parts
    exact Condition.reads read
  · cases items with
    | nil => cases read
    | cons value items =>
        obtain ⟨first, rest, hf, hr, rfl⟩ := groupOfItems_cons_eq_ok_iff.mp read
        exact (reads_of_ofJson hf).group (readsRest_of_restOfItems hr) free

theorem readsRest_of_restOfItems {items : List Json.Value}
    {rest : List (Conjunction × FilterExpr)} (h : restOfItems items = .ok rest)
    : ReadsRest items rest := by
  match items with
  | [] =>
      obtain rfl := Except.ok.inj h
      exact { even := rfl, places := by simp [Alternates], form := rfl, bare := by simp }
  | [token] =>
      simp only [restOfItems] at h
      split at h <;> cases h
  | token :: value :: items =>
      obtain ⟨conjunction, child, later, known, hc, hl, rfl⟩ := restOfItems_cons_eq_ok_iff.mp h
      have own := reads_of_ofJson hc
      have others := readsRest_of_restOfItems hl
      have even := others.even
      have isToken : IsConjunction token := isConjunction_iff.mpr ⟨conjunction, known⟩
      obtain rfl := Conjunction.ofJson?_eq_some_iff.mp known
      refine {
        even := by
          rw [List.length_cons, List.length_cons]
          omega
        places := alternates_cons.mpr ⟨isToken, alternates_cons.mpr ⟨own.node, others.places⟩⟩
        form := ?_
        bare := ?_
      }
      · simp only [restToJson, itemsWithoutQualifiers, own.form, others.form, withoutQualifiers]
      · intro code member
        rw [restReferences_cons] at member
        rcases List.mem_append.mp member with first | later
        · exact own.bare code first
        · exact others.bare code later

end

-----------------------------------------------------------------------------------------
-- From the grammar to an expression
-----------------------------------------------------------------------------------------

/-- Items that alternate between conjunctions and readable values are read, two at a time. -/
theorem exists_restOfItems_eq_ok {items : List Json.Value} (even : items.length % 2 = 0)
    (places : Alternates IsConjunction (fun value => ∃ e, ofJson value = .ok e) items)
    : ∃ rest, restOfItems items = .ok rest := by
  match items with
  | [] => exact ⟨[], rfl⟩
  | [token] => simp at even
  | token :: value :: items =>
      obtain ⟨isToken, later⟩ := alternates_cons.mp places
      obtain ⟨⟨child, hc⟩, later⟩ := alternates_cons.mp later
      obtain ⟨conjunction, known⟩ := isConjunction_iff.mp isToken
      rw [List.length_cons, List.length_cons] at even
      have even : items.length % 2 = 0 := by omega
      obtain ⟨rest, hr⟩ := exists_restOfItems_eq_ok even later
      refine ⟨(conjunction, child) :: rest, ?_⟩
      exact restOfItems_cons_eq_ok_iff.mpr ⟨conjunction, child, rest, known, hc, hr, rfl⟩

/-- A group is not taken for a condition: its second item is a conjunction. -/
theorem conditionItems?_eq_none_of_isConjunction {first token : Json.Value}
    {items : List Json.Value} (h : IsConjunction token)
    : conditionItems? (first :: token :: items) = none := by
  cases parts : conditionItems? (first :: token :: items) with
  | none => rfl
  | some triple =>
      obtain ⟨code, second, operand⟩ := triple
      obtain ⟨same, free⟩ := conditionItems?_eq_some_iff.mp parts
      obtain ⟨_, rfl, _⟩ : first = code ∧ token = second ∧ items = [operand] := by
        simpa using same
      obtain ⟨conjunction, known⟩ := isConjunction_iff.mp h
      rw [free] at known
      cases known

/-- What the grammar allows is read, by induction on the grammar. -/
theorem exists_ofJson_eq_ok {value : Json.Value} (node : IsNode value)
    : ∃ e, ofJson value = .ok e := by
  induction node with
  | @condition text name op operand field other =>
      have spelled : fieldCode? (.string text) = some name :=
        fieldCode?_eq_some_iff.mpr ⟨text, rfl, field⟩
      have parts
          : conditionItems? [.string text, .string op.token, operand]
            = some (.string text, .string op.token, operand) :=
        conditionItems?_eq_some_iff.mpr ⟨rfl, op.ofJson?_token⟩
      have read : ∃ c, Condition.ofItems (.string text) (.string op.token) operand = .ok c := by
        cases op with
        | literal op =>
            refine ⟨.literal name op operand, ?_⟩
            exact Condition.ofItems_eq_ok_iff.mpr ⟨name, spelled, Or.inl ⟨op, rfl, rfl⟩⟩
        | field op =>
            obtain ⟨otherText, otherName, rfl, names⟩ := other rfl
            have spelledOther := fieldCode?_eq_some_iff.mpr ⟨otherText, rfl, names⟩
            refine ⟨.fields name op otherName, Condition.ofItems_eq_ok_iff.mpr ?_⟩
            exact ⟨name, spelled, Or.inr ⟨op, otherName, rfl, spelledOther, rfl⟩⟩
      obtain ⟨c, hc⟩ := read
      refine ⟨condition c, ofJson_eq_ok_iff.mpr ⟨_, rfl, Or.inl ?_⟩⟩
      exact ⟨_, _, _, c, parts, hc, rfl⟩
  | @group items odd _ tokens ih =>
      cases items with
      | nil => exact absurd odd (by decide)
      | cons value items =>
          have places
              : Alternates (fun value => ∃ e, ofJson value = .ok e) IsConjunction
                  (value :: items) :=
            fun i bound => ⟨ih i bound, tokens i bound⟩
          obtain ⟨⟨first, hf⟩, later⟩ := alternates_cons.mp places
          rw [List.length_cons] at odd
          have even : items.length % 2 = 0 := by omega
          obtain ⟨rest, hr⟩ := exists_restOfItems_eq_ok even later
          have free : conditionItems? (value :: items) = none := by
            cases items with
            | nil => rfl
            | cons token items =>
                exact conditionItems?_eq_none_of_isConjunction (alternates_cons.mp later).1
          refine ⟨group first rest, ofJson_eq_ok_iff.mpr ⟨_, rfl, Or.inr ⟨free, ?_⟩⟩⟩
          exact groupOfItems_cons_eq_ok_iff.mpr ⟨first, rest, hf, hr, rfl⟩

-----------------------------------------------------------------------------------------
-- From an expression to its canonical value and back
-----------------------------------------------------------------------------------------

/-- A bare code spells itself. -/
theorem fieldCode?_string {code : String} (bare : code ≠ "" ∧ '.' ∉ code.toList)
    : fieldCode? (.string code) = some code :=
  fieldCode?_eq_some_iff.mpr ⟨code, rfl, bare.1, bare.2, Or.inl rfl⟩

/-- The canonical value of a condition with bare codes is read as it, by cases on the
condition.
-/
theorem ofJson_toJson_condition {c : Condition} (bare : (condition c).HasBareCodes)
    : ofJson c.toJson = .ok (condition c) := by
  unfold HasBareCodes at bare
  rw [references_condition] at bare
  cases c with
  | literal field op operand =>
      have spelled := fieldCode?_string (bare field (by simp [Condition.codes]))
      have parts
          : conditionItems? [.string field, .string (Operator.literal op).token, operand]
            = some (.string field, .string (Operator.literal op).token, operand) :=
        conditionItems?_eq_some_iff.mpr ⟨rfl, (Operator.literal op).ofJson?_token⟩
      refine ofJson_eq_ok_iff.mpr ⟨_, rfl, Or.inl ⟨_, _, operand, _, parts, ?_, rfl⟩⟩
      exact Condition.ofItems_eq_ok_iff.mpr ⟨field, spelled, Or.inl ⟨op, rfl, rfl⟩⟩
  | fields field op other =>
      have spelled := fieldCode?_string (bare field (by simp [Condition.codes]))
      have spelledOther := fieldCode?_string (bare other (by simp [Condition.codes]))
      have parts
          : conditionItems? [.string field, .string (Operator.field op).token, .string other]
            = some (.string field, .string (Operator.field op).token, .string other) :=
        conditionItems?_eq_some_iff.mpr ⟨rfl, (Operator.field op).ofJson?_token⟩
      refine ofJson_eq_ok_iff.mpr ⟨_, rfl, Or.inl ⟨_, _, .string other, _, parts, ?_, rfl⟩⟩
      exact Condition.ofItems_eq_ok_iff.mpr
        ⟨field, spelled, Or.inr ⟨op, other, rfl, spelledOther, rfl⟩⟩

mutual

/-- The canonical value of an expression with bare codes is read as it, by induction on the
expression.
-/
theorem ofJson_toJson {e : FilterExpr} (bare : e.HasBareCodes) : ofJson e.toJson = .ok e := by
  cases e with
  | condition c =>
      rw [toJson]
      exact ofJson_toJson_condition bare
  | group first rest =>
      unfold HasBareCodes at bare
      rw [references_group] at bare
      have head := ofJson_toJson fun code member => bare code (List.mem_append_left _ member)
      have tail :=
        restOfItems_restToJson fun code member => bare code (List.mem_append_right _ member)
      have free : conditionItems? (first.toJson :: restToJson rest) = none := by
        cases rest with
        | nil => rfl
        | cons child rest =>
            have isToken : IsConjunction (.string child.1.token) :=
              isConjunction_iff.mpr ⟨child.1, Conjunction.ofToken?_token child.1⟩
            rw [restToJson]
            exact conditionItems?_eq_none_of_isConjunction isToken
      refine ofJson_eq_ok_iff.mpr ⟨_, by rw [toJson], Or.inr ⟨free, ?_⟩⟩
      exact groupOfItems_cons_eq_ok_iff.mpr ⟨first, rest, head, tail, rfl⟩

theorem restOfItems_restToJson {rest : List (Conjunction × FilterExpr)}
    (bare : ∀ code ∈ restReferences rest, code ≠ "" ∧ '.' ∉ code.toList)
    : restOfItems (restToJson rest) = .ok rest := by
  cases rest with
  | nil =>
      rw [restToJson]
      rfl
  | cons child rest =>
      obtain ⟨conjunction, e⟩ := child
      rw [restReferences_cons] at bare
      have head := ofJson_toJson fun code member => bare code (List.mem_append_left _ member)
      have tail :=
        restOfItems_restToJson fun code member => bare code (List.mem_append_right _ member)
      rw [restToJson]
      refine restOfItems_cons_eq_ok_iff.mpr ⟨conjunction, e, rest, ?_, head, tail, rfl⟩
      exact Conjunction.ofToken?_token conjunction

end

-----------------------------------------------------------------------------------------
-- Whole filters
-----------------------------------------------------------------------------------------

/-- A filter has an expression when it is in the grammar. -/
theorem exists_ofFilter_eq_ok_some_iff {filter : Json.Value}
    : (∃ e, ofFilter filter = .ok (some e)) ↔ IsNode filter := by
  simp only [ofFilter_eq_ok_some_iff]
  constructor
  · rintro ⟨e, read⟩
    exact (reads_of_ofJson read).node
  · exact exists_ofJson_eq_ok

/-- Two filters with expressions have the same one when they differ in qualifiers alone: the
canonical value of an expression determines it.
-/
theorem eq_iff_withoutQualifiers_eq {filter other : Json.Value} {e d : FilterExpr}
    (read : ofFilter filter = .ok (some e)) (readOther : ofFilter other = .ok (some d))
    : e = d ↔ withoutQualifiers filter = withoutQualifiers other := by
  have own := reads_of_ofJson (ofFilter_eq_ok_some_iff.mp read)
  have others := reads_of_ofJson (ofFilter_eq_ok_some_iff.mp readOther)
  constructor
  · rintro rfl
    exact own.form.symm.trans others.form
  · intro same
    have canonical : e.toJson = d.toJson := own.form.trans (same.trans others.form.symm)
    have back : Except.ok e = Except.ok d :=
      calc
        .ok e = ofJson e.toJson := (ofJson_toJson own.bare).symm
        _ = ofJson d.toJson := by rw [canonical]
        _ = .ok d := ofJson_toJson others.bare
    exact Except.ok.inj back

/-- Reading accepts exactly the grammar and is inverse to writing canonical values. No filter at
all is read from nothing and the empty array, an expression from what the grammar allows, and
everything else is an error. The canonical value of an expression that was read is the filter
without its qualifiers, the canonical value of an expression with bare codes is read as it, and
so two filters have the same expression when they are equal without their qualifiers.
-/
theorem ofFilter_grammar (filter : Json.Value)
    : (ofFilter filter = .ok none ↔ filter = .null ∨ filter = .array [])
      ∧ ((∃ e, ofFilter filter = .ok (some e)) ↔ IsNode filter)
      ∧ ((∃ error, ofFilter filter = .error error)
          ↔ ¬ (filter = .null ∨ filter = .array [] ∨ IsNode filter))
      ∧ (∀ e, ofFilter filter = .ok (some e) → e.toJson = withoutQualifiers filter)
      ∧ (∀ e : FilterExpr, e.HasBareCodes → ofFilter e.toJson = .ok (some e))
      ∧ ∀ other e d,
          ofFilter filter = .ok (some e)
          → ofFilter other = .ok (some d)
          → (e = d ↔ withoutQualifiers filter = withoutQualifiers other) := by
  refine ⟨ofFilter_eq_ok_none_iff, exists_ofFilter_eq_ok_some_iff, ?_, ?_, ?_, ?_⟩
  · rw [← or_assoc, ← ofFilter_eq_ok_none_iff, ← exists_ofFilter_eq_ok_some_iff]
    cases ofFilter filter with
    | error error => simp
    | ok expression => cases expression <;> simp
  · intro e read
    exact (reads_of_ofJson (ofFilter_eq_ok_some_iff.mp read)).form
  · intro e bare
    exact ofFilter_eq_ok_some_iff.mpr (ofJson_toJson bare)
  · intro other e d read readOther
    exact eq_iff_withoutQualifiers_eq read readOther

/-- Entities of age three, or called like their host, in a group of its own. -/
def hostFilter (age name host : String) : Json.Value :=
  .array
    [ .array [.string age, .string "=", .number (.integer 3)],
      .string "or",
      .array [.array [.string name, .string "same", .string host]] ]

def hostExpr : FilterExpr :=
  .group (.condition (.literal "age" .equal (.number (.integer 3))))
    [(.or, .group (.condition (.fields "name" .same "host")) [])]

/-- A filter with qualifiers and the one without them have one expression, whose canonical value
is the latter.
-/
theorem ofFilter_grammar_hostFilter
    : ofFilter (hostFilter "guests.age" "guests.name" "rooms.hosts.host") = .ok (some hostExpr)
      ∧ ofFilter (hostFilter "age" "name" "host") = .ok (some hostExpr)
      ∧ hostExpr.toJson = hostFilter "age" "name" "host" := by
  have read
      : ofFilter (hostFilter "guests.age" "guests.name" "rooms.hosts.host")
        = .ok (some hostExpr) := by
    rfl
  have canonical : hostExpr.toJson = hostFilter "age" "name" "host" := by
    obtain ⟨_, _, _, forms, _⟩ :=
      ofFilter_grammar (hostFilter "guests.age" "guests.name" "rooms.hosts.host")
    exact forms hostExpr read
  obtain ⟨_, _, _, _, back, _⟩ := ofFilter_grammar (hostFilter "age" "name" "host")
  have bare : hostExpr.HasBareCodes := by
    unfold HasBareCodes
    decide
  exact ⟨read, canonical ▸ back hostExpr bare, canonical⟩

end FilterExpr

end FieldFilter
