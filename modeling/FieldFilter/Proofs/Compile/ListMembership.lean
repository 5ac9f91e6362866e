import FieldFilter.Proofs.Compile.GroupGluing
import FieldFilter.Proofs.Compile.LiteralIndependence
import FieldFilter.Proofs.Json.WrittenText
import FieldFilter.Proofs.Text.DecimalText

/-! Membership in lists. Every entry of an operand names one id, and a list is tested for any of them,
each as itself and inside an object. The negated test is that of the same disjunction, which its
parentheses keep together.
-/

namespace FieldFilter

open Json (Value)
open Text (Pads IsDecimal IsTrimmed)

/-- The value is no container. -/
def Json.Value.IsScalar : Value → Prop
  | .array _ | .object _ => False
  | .null | .bool _ | .number _ | .string _ => True

namespace Operand

-----------------------------------------------------------------------------------------
-- The ids of entries
-----------------------------------------------------------------------------------------

/-- The text has eight characters, and every one is a hexadecimal digit. -/
def IsHexText (cs : List Char) : Prop :=
  cs.length = 8
  ∧ ∀ c ∈ cs, ('0' ≤ c ∧ c ≤ '9') ∨ ('a' ≤ c ∧ c ≤ 'f') ∨ ('A' ≤ c ∧ c ≤ 'F')

/-- The entry of a list names an id: eight hexadecimal digits name themselves, and an integer of 64
bits is a number or another text. Blanks around a text have no part in it.
-/
inductive EntryId : Value → Value → Prop
  | hex {s core} (pads : Pads s.toList core) (hex : IsHexText core)
    : EntryId (.string s) (.string (String.ofList core))
  | integer {n} (fits : Word.Fits n) : EntryId (.number (.integer n)) (.number (.integer n))
  | decimal {s core n} (pads : Pads s.toList core) (other : ¬ IsHexText core)
    (decimal : IsDecimal core n) (fits : Word.Fits n)
    : EntryId (.string s) (.number (.integer n))

/-- The entries of the operand name the ids, of which there is at least one. -/
structure Lists (operand : Value) (ids : List Value) : Prop where
  nonempty : ids ≠ []
  each : List.Forall₂ EntryId (entries operand) ids

theorem isSome_hexDigit? {c : Char}
    : (Text.hexDigit? c).isSome = true
      ↔ ('0' ≤ c ∧ c ≤ '9') ∨ ('a' ≤ c ∧ c ≤ 'f') ∨ ('A' ≤ c ∧ c ≤ 'F') := by
  unfold Text.hexDigit?
  split_ifs with digit lower upper
  · exact iff_of_true rfl (.inl digit)
  · exact iff_of_true rfl (.inr (.inl lower))
  · exact iff_of_true rfl (.inr (.inr upper))
  · exact iff_of_false nofun (not_or.mpr ⟨digit, not_or.mpr ⟨lower, upper⟩⟩)

theorem isHexId_iff {cs : List Char} : isHexId cs = true ↔ IsHexText cs := by
  simp only [isHexId, IsHexText, Bool.and_eq_true, beq_iff_eq, List.all_eq_true,
    isSome_hexDigit?]

theorem IsHexText.isTrimmed {cs : List Char} (h : IsHexText cs) : IsTrimmed cs := by
  have filled : cs ≠ [] := fun empty => by simp [IsHexText, empty] at h
  refine Text.isTrimmed_of_forall filled fun c own => ?_
  have printable {least greatest : Char} (first : '!' ≤ least) (last : greatest ≤ '~')
      (within : least ≤ c ∧ c ≤ greatest) : Text.isBlank c = false :=
    Text.isBlank_of_printable (Char.le_trans first within.1) (Char.le_trans within.2 last)
  rcases h.2 c own with digit | lower | upper
  · exact printable (by decide) (by decide) digit
  · exact printable (by decide) (by decide) lower
  · exact printable (by decide) (by decide) upper

/-- The id that is read from an entry is the one that it names, by cases on the entry. A text of
digits alone is hexadecimal as well, so that comes first.
-/
theorem listId?_eq_some_iff {value id : Value} : listId? value = some id ↔ EntryId value id := by
  cases value with
  | string s =>
      have outer := Text.pads_trim s.toList
      simp only [listId?]
      split
      · next hex =>
          have hex := isHexId_iff.mp hex
          constructor
          · rintro ⟨⟩
            exact .hex outer hex
          · rintro (⟨pads, text⟩ | _ | ⟨pads, other, decimal, _⟩)
            · rw [pads.trim text.isTrimmed]
            · exact absurd (pads.trim decimal.isTrimmed ▸ hex) other
      · next other =>
          rw [isHexId_iff] at other
          simp only [Option.map_eq_some_iff, Text.readWord?_eq_some_iff]
          constructor
          · rintro ⟨n, ⟨decimal, fits⟩, rfl⟩
            exact .decimal outer other decimal fits
          · rintro (⟨pads, text⟩ | _ | ⟨pads, _, decimal, fits⟩)
            · exact absurd ((pads.trim text.isTrimmed).symm ▸ text) other
            · exact ⟨_, ⟨pads.trim decimal.isTrimmed ▸ decimal, fits⟩, rfl⟩
  | number n =>
      simp only [listId?, word?, Option.map_eq_some_iff]
      cases n with
      | integer n =>
          simp only [Json.Number.word?, Word.check?_eq_some_iff]
          constructor
          · rintro ⟨_, ⟨fits, rfl⟩, rfl⟩
            exact .integer fits
          · rintro ⟨⟩
            next fits => exact ⟨n, ⟨fits, rfl⟩, rfl⟩
      | double x => exact iff_of_false nofun nofun
  | _ => exact iff_of_false nofun nofun

-----------------------------------------------------------------------------------------
-- The documents of ids
-----------------------------------------------------------------------------------------

/-- The parameters are two JSON texts for each of the ids, in order: the id, and an object with it. -/
inductive Documents : List Value → List Parameter → Prop
  | nil : Documents [] []
  | cons {id ids own inside later} (itself : Value.read? own = some id)
    (member : Value.read? inside = some (.object [("id", id)])) (rest : Documents ids later)
    : Documents (id :: ids) (.text own :: .text inside :: later)

/-- An id is a string or an integer of 64 bits. -/
theorem EntryId.isExact {value id : Value} (named : EntryId value id) : id.IsExact := by
  cases named with
  | hex => exact .string _
  | integer fits | decimal _ _ _ fits =>
      exact .integer fits.1 (lt_of_le_of_lt fits.2 (by decide))

/-- An entry that names an id is no container. -/
theorem EntryId.isScalar {value id : Value} (named : EntryId value id) : value.IsScalar := by
  cases named <;> trivial

theorem entryDocuments_eq_ok_iff {value : Value} {documents : List Parameter}
    : entryDocuments value = .ok documents
      ↔ ∃ id, EntryId value id ∧ documents = idDocuments id := by
  simp only [← listId?_eq_some_iff, entryDocuments]
  cases listId? value with
  | none => simp
  | some id => simp [eq_comm]

/-- Entries have documents one by one when they name ids one by one, by induction on the entries. -/
theorem forall₂_entryDocuments_iff {items : List Value} {lists : List (List Parameter)}
    : List.Forall₂ (fun item documents => entryDocuments item = .ok documents) items lists
      ↔ ∃ ids, List.Forall₂ EntryId items ids ∧ lists = ids.map idDocuments := by
  simp only [entryDocuments_eq_ok_iff]
  constructor
  · intro each
    induction each with
    | nil => exact ⟨[], .nil, rfl⟩
    | cons first _ ih =>
        obtain ⟨id, named, rfl⟩ := first
        obtain ⟨ids, later, rfl⟩ := ih
        exact ⟨id :: ids, .cons named later, rfl⟩
  · rintro ⟨ids, each, rfl⟩
    exact List.forall₂_map_right_iff.mpr (each.imp fun _ id named => ⟨id, named, rfl⟩)

/-- The documents of a list are those of the ids that its entries name, in order. -/
theorem documents_eq_ok_iff {operand : Value} {documents : List Parameter}
    : Operand.documents operand = .ok documents
      ↔ ∃ ids, Lists operand ids ∧ documents = ids.flatMap idDocuments := by
  unfold Operand.documents
  split
  · next empty =>
      refine iff_of_false nofun ?_
      rintro ⟨ids, ⟨nonempty, each⟩, _⟩
      rw [empty] at each
      exact nonempty (List.forall₂_nil_left_iff.mp each)
  · next filled =>
      simp only [map_eq_ok_iff, mapM_eq_ok_iff, forall₂_entryDocuments_iff, List.flatMap_def]
      constructor
      · rintro ⟨_, ⟨ids, each, rfl⟩, rfl⟩
        refine ⟨ids, ⟨?_, each⟩, rfl⟩
        rintro rfl
        exact filled (List.forall₂_nil_right_iff.mp each)
      · rintro ⟨ids, ⟨_, each⟩, rfl⟩
        exact ⟨_, ⟨ids, each, rfl⟩, rfl⟩

/-- What is bound for ids, read as JSON, is each of them and an object with it, by induction on the
ids.
-/
theorem documents_flatMap {items ids : List Value} (each : List.Forall₂ EntryId items ids)
    : Documents ids (ids.flatMap idDocuments) := by
  induction each with
  | nil => exact .nil
  | cons named _ ih => exact .cons named.isExact.read?_compact (named.isExact.read?_member "id") ih

-----------------------------------------------------------------------------------------
-- The ids of lists
-----------------------------------------------------------------------------------------

/-- An entry alone names what it names in a list of one. -/
theorem entries_of_isScalar {value : Value} (scalar : value.IsScalar)
    : entries value = entries (.array [value]) := by
  cases value with
  | array | object => exact scalar.elim
  | _ => rfl

theorem exists_lists_iff_of_isScalar {value : Value} (scalar : value.IsScalar)
    : (∃ ids, Lists value ids) ↔ ∃ id, EntryId value id := by
  have single : entries value = [value] := entries_of_isScalar scalar
  constructor
  · rintro ⟨ids, _, each⟩
    rw [single] at each
    obtain ⟨id, _, named, _⟩ := List.forall₂_cons_left_iff.mp each
    exact ⟨id, named⟩
  · rintro ⟨id, named⟩
    exact ⟨[id], List.cons_ne_nil _ _, single ▸ .cons named .nil⟩

/-- An array names ids if there is something in it and each of its items is a scalar that names ids
alone.
-/
theorem exists_lists_array_iff {items : List Value}
    : (∃ ids, Lists (.array items) ids)
      ↔ items ≠ [] ∧ ∀ item ∈ items, item.IsScalar ∧ ∃ ids, Lists item ids := by
  have alone (item : Value)
      : (item.IsScalar ∧ ∃ ids, Lists item ids) ↔ ∃ id, EntryId item id := by
    constructor
    · rintro ⟨scalar, listed⟩
      exact (exists_lists_iff_of_isScalar scalar).mp listed
    · rintro ⟨id, named⟩
      exact ⟨named.isScalar, (exists_lists_iff_of_isScalar named.isScalar).mpr ⟨id, named⟩⟩
  simp only [alone, ← exists_forall₂_iff]
  constructor
  · rintro ⟨ids, nonempty, each⟩
    refine ⟨?_, ids, each⟩
    rintro rfl
    exact nonempty (List.forall₂_nil_left_iff.mp each)
  · rintro ⟨nonempty, ids, each⟩
    refine ⟨ids, ?_, each⟩
    rintro rfl
    exact nonempty (List.forall₂_nil_right_iff.mp each)

/-- One array behind another names the ids of both, in order. -/
theorem Lists.append {xs ys ids others : List Value} (left : Lists (.array xs) ids)
    (right : Lists (.array ys) others)
    : Lists (.array (xs ++ ys)) (ids ++ others) where
  nonempty := by simp [left.nonempty]
  each := List.rel_append left.each right.each

end Operand

-----------------------------------------------------------------------------------------
-- Tests for any of some ids
-----------------------------------------------------------------------------------------

/-- One test asks whether a column contains any of some ids and the other one whether it contains none:
a disjunction in parentheses, with two tests for each id, and the same disjunction behind a negation.
-/
structure ListTests (c : Column) (ids : List Value) (included excluded : Test) : Prop where
  params : Operand.Documents ids included.params
  text
    : ∀ table,
        included.text table
        = "("
          ++ String.intercalate " OR "
              (List.replicate (2 * ids.length) ("JSON_CONTAINS(" ++ c.text table ++ ", ?)"))
          ++ ")"
  same : excluded.params = included.params
  negated
    : ∀ table, excluded.text table = c.text table ++ " IS NULL OR NOT " ++ included.text table

/-- The documents of ids make up both tests. -/
theorem Operand.Lists.listTests {operand : Value} {ids : List Value} (listed : Lists operand ids)
    (c : Column)
    : ListTests c ids (.any [.contains false c (ids.flatMap idDocuments)])
        (.any [.isNull c, .contains true c (ids.flatMap idDocuments)]) := by
  have count : (ids.flatMap idDocuments).length = 2 * ids.length := by
    rw [LiteralOperator.length_documents (documents_eq_ok_iff.mpr ⟨ids, listed, rfl⟩),
      listed.each.length_eq]
  have text (table : ValueTable)
      : ((ids.flatMap idDocuments).map fun _ => "JSON_CONTAINS(" ++ c.text table ++ ", ?)")
        = List.replicate (2 * ids.length) ("JSON_CONTAINS(" ++ c.text table ++ ", ?)") := by
    rw [List.map_const', count]
  refine { params := ?_, text := fun table => ?_, same := ?_, negated := fun table => ?_ }
  · simpa [Test.params, Test.atoms, Atom.params] using documents_flatMap listed.each
  · rw [Test.text, List.map_singleton, String.intercalate_singleton, Atom.text, text]
    rfl
  · simp [Test.params, Test.atoms, Atom.params]
  · have opening
        : c.text table ++ " IS NULL" ++ " OR " ++ "NOT ("
          = c.text table ++ " IS NULL OR NOT " ++ "(" := by
      simp only [String.append_assoc]
      rfl
    simp only [Test.text, List.map_cons, List.map_nil, String.intercalate_cons_cons,
      String.intercalate_singleton, Atom.text, if_true, Bool.false_eq_true, if_false,
      ← String.append_assoc, opening]

namespace LiteralOperator

variable {type : FieldType} {c : Column} {clock : Clock} {operand : Value} {test : Test}

theorem listInclude_eq_ok_iff
    : listInclude.test type c clock operand = .ok test
      ↔ ∃ ids,
          Operand.Lists operand ids
          ∧ test = .any [.contains false c (ids.flatMap Operand.idDocuments)] := by
  refine map_eq_ok_iff.trans ?_
  simp only [Ending.reporting_eq_ok_iff, Operand.documents_eq_ok_iff]
  constructor
  · rintro ⟨_, ⟨ids, listed, rfl⟩, rfl⟩
    exact ⟨ids, listed, rfl⟩
  · rintro ⟨ids, listed, rfl⟩
    exact ⟨_, ⟨ids, listed, rfl⟩, rfl⟩

theorem exists_listInclude_eq_ok_iff
    : (∃ test, listInclude.test type c clock operand = .ok test)
      ↔ ∃ ids, Operand.Lists operand ids := by
  simp only [listInclude_eq_ok_iff]
  constructor
  · rintro ⟨_, ids, listed, _⟩
    exact ⟨ids, listed⟩
  · rintro ⟨ids, listed⟩
    exact ⟨_, ids, listed, rfl⟩

/-- Both operators take the operands that name ids, and refuse any other one for the same fault. -/
theorem list_tests (type : FieldType) (c : Column) (clock : Clock) (operand : Value)
    : (∃ ids included excluded,
        Operand.Lists operand ids
        ∧ listInclude.test type c clock operand = .ok included
        ∧ listNotInclude.test type c clock operand = .ok excluded
        ∧ ListTests c ids included excluded)
      ∨ ∃ fault,
          (∀ ids, ¬ Operand.Lists operand ids)
          ∧ listInclude.test type c clock operand = .error (.reported fault)
          ∧ listNotInclude.test type c clock operand = .error (.reported fault) := by
  cases read : Operand.documents operand with
  | ok documents =>
      obtain ⟨ids, listed, rfl⟩ := Operand.documents_eq_ok_iff.mp read
      have reported := Ending.reporting_eq_ok_iff.mpr read
      exact .inl ⟨ids, _, _, listed, map_eq_ok_iff.mpr ⟨_, reported, rfl⟩,
        map_eq_ok_iff.mpr ⟨_, reported, rfl⟩, listed.listTests c⟩
  | error fault =>
      have reported := Ending.reporting_eq_error_iff.mpr ⟨fault, read, rfl⟩
      refine .inr ⟨fault, fun ids listed => ?_, map_eq_error_iff.mpr reported,
        map_eq_error_iff.mpr reported⟩
      cases read.symm.trans (Operand.documents_eq_ok_iff.mpr ⟨ids, listed, rfl⟩)

/-- An array of the items of two others binds what they bind, one after the other. -/
theorem listInclude_append {xs ys : List Value} {s t : Test}
    (left : listInclude.test type c clock (.array xs) = .ok s)
    (right : listInclude.test type c clock (.array ys) = .ok t)
    : ∃ u,
        listInclude.test type c clock (.array (xs ++ ys)) = .ok u
        ∧ u.params = s.params ++ t.params := by
  obtain ⟨ids, listed, rfl⟩ := listInclude_eq_ok_iff.mp left
  obtain ⟨others, listed', rfl⟩ := listInclude_eq_ok_iff.mp right
  refine ⟨_, listInclude_eq_ok_iff.mpr ⟨_, listed.append listed', rfl⟩, ?_⟩
  simp [Test.params, Test.atoms, Atom.params]

/-- Membership in a list is membership of any of its ids, under both encodings. The two operators take
the same operands and bind the same documents, and one negates the disjunction of the other; an array
is taken if there is something in it and each of its items is a scalar that is taken alone, which is
the same as a list of one; and the documents of one array behind another are those of both.
-/
theorem list_membership (type : FieldType) (c : Column) (clock : Clock)
    : (∀ operand,
        (∃ ids included excluded,
          Operand.Lists operand ids
          ∧ listInclude.test type c clock operand = .ok included
          ∧ listNotInclude.test type c clock operand = .ok excluded
          ∧ ListTests c ids included excluded)
        ∨ ∃ fault,
            (∀ ids, ¬ Operand.Lists operand ids)
            ∧ listInclude.test type c clock operand = .error (.reported fault)
            ∧ listNotInclude.test type c clock operand = .error (.reported fault))
      ∧ (∀ items,
          (∃ test, listInclude.test type c clock (.array items) = .ok test)
          ↔ items ≠ []
            ∧ ∀ item ∈ items,
                item.IsScalar ∧ ∃ test, listInclude.test type c clock item = .ok test)
      ∧ (∀ value : Value,
          value.IsScalar
          → listInclude.test type c clock value
              = listInclude.test type c clock (.array [value])
            ∧ listNotInclude.test type c clock value
              = listNotInclude.test type c clock (.array [value]))
      ∧ ∀ xs ys s t,
          listInclude.test type c clock (.array xs) = .ok s
          → listInclude.test type c clock (.array ys) = .ok t
          → ∃ u,
              listInclude.test type c clock (.array (xs ++ ys)) = .ok u
              ∧ u.params = s.params ++ t.params := by
  refine ⟨list_tests type c clock, fun items => ?_, fun value scalar => ?_,
    fun _ _ _ _ => listInclude_append⟩
  · simp only [exists_listInclude_eq_ok_iff, Operand.exists_lists_array_iff]
  · have alone : Operand.documents value = Operand.documents (.array [value]) := by
      rw [Operand.documents, Operand.documents, Operand.entries_of_isScalar scalar]
    simp only [test, alone, and_self]

/-- A number and a text with blanks around it come before the last text. An array in an array is
refused, although it is taken alone.
-/
theorem list_membership_of_mixed
    : (∃ u,
        listInclude.test .list (.joined 1 .list) ⟨.utc, 0⟩
            (.array [.number (.integer 5), .string " 00ab12CD ", .string "-7"])
          = .ok u
        ∧ u.params
          = [ .text "5", .text "\x7b\"id\":5\x7d", .text "\"00ab12CD\"",
              .text "\x7b\"id\":\"00ab12CD\"\x7d", .text "-7", .text "\x7b\"id\":-7\x7d" ])
      ∧ (∃ alone,
          listInclude.test .list (.joined 1 .list) ⟨.utc, 0⟩ (.array [.number (.integer 5)])
          = .ok alone)
      ∧ ¬ ∃ nested,
          listInclude.test .list (.joined 1 .list) ⟨.utc, 0⟩
            (.array [.array [.number (.integer 5)]])
          = .ok nested := by
  obtain ⟨_, arrays, _, append⟩ := list_membership .list (.joined 1 .list) ⟨.utc, 0⟩
  refine ⟨?_, ⟨_, rfl⟩, fun nested => ?_⟩
  · obtain ⟨u, taken, params⟩ :=
      append [.number (.integer 5), .string " 00ab12CD "] [.string "-7"] _ _ rfl rfl
    exact ⟨u, taken, params⟩
  · obtain ⟨_, each⟩ := (arrays _).mp nested
    exact (each (.array [.number (.integer 5)]) (by simp)).1

end LiteralOperator

end FieldFilter
