import FieldFilter.Catalog.Listing
import Mathlib.Data.List.Basic

/-! The order of catalog fields by scope is stable, so it does not matter whether fields are ordered
before or after those with one code are picked. A batched lookup resolves the codes it was asked for
like the whole catalog does.
-/

namespace FieldFilter

-----------------------------------------------------------------------------------------
-- Stable sorting
-----------------------------------------------------------------------------------------

section Sorting

variable {α : Type} {le : α → α → Bool}

/-- Sorting puts a new first element before everything that it is not above, and keeps the rest
as it was sorted without it.
-/
theorem mergeSort_cons_eq (trans : ∀ a b c, le a b → le b c → le a c)
    (total : ∀ a b, le a b || le b a) (a : α) (l : List α)
    : (a :: l).mergeSort le
      = (l.mergeSort le).filter (fun b => !le a b) ++ a :: (l.mergeSort le).filter (le a) := by
  obtain ⟨below, above, whole, rest, strict⟩ := List.mergeSort_cons trans total a l
  have sorted := List.pairwise_mergeSort trans total (a :: l)
  rw [whole] at sorted
  have after : ∀ b ∈ above, le a b := by
    intro b hb
    exact (List.pairwise_cons.mp (List.pairwise_append.mp sorted).2.1).1 b hb
  have lower : below.filter (fun b => !le a b) = below := List.filter_eq_self.mpr strict
  have upper : above.filter (le a) = above := List.filter_eq_self.mpr after
  have noneBelow : below.filter (le a) = [] := by
    refine List.filter_eq_nil_iff.mpr fun b hb => ?_
    simpa using strict b hb
  have noneAbove : above.filter (fun b => !le a b) = [] := by
    refine List.filter_eq_nil_iff.mpr fun b hb => ?_
    simpa using after b hb
  rw [whole, rest, List.filter_append, List.filter_append, lower, upper, noneBelow, noneAbove,
    List.append_nil, List.nil_append]

/-- Sorting and picking commute, by induction on the list. -/
theorem filter_mergeSort (trans : ∀ a b c, le a b → le b c → le a c)
    (total : ∀ a b, le a b || le b a) (p : α → Bool) (l : List α)
    : (l.mergeSort le).filter p = (l.filter p).mergeSort le := by
  induction l with
  | nil => simp
  | cons a l ih =>
      by_cases picked : p a = true
      · rw [mergeSort_cons_eq trans total, List.filter_append, List.filter_cons_of_pos picked,
          List.filter_comm p, List.filter_comm p, ih, List.filter_cons_of_pos picked,
          mergeSort_cons_eq trans total]
      · obtain ⟨below, above, whole, rest, _⟩ := List.mergeSort_cons trans total a l
        rw [whole, List.filter_append, List.filter_cons_of_neg picked, ← List.filter_append,
          ← rest, ih, List.filter_cons_of_neg picked]

end Sorting

-----------------------------------------------------------------------------------------
-- Resolving codes
-----------------------------------------------------------------------------------------

namespace Field

/-- Fields in order of their scopes; those of one scope stay as they were. -/
def byScope (fields : List Field) : List Field :=
  fields.mergeSort fun f g => f.scope ≤ g.scope

/-- The fields of a catalog that can be used in a scope, in order of their scopes. -/
def usableIn (scope : Int) (fields : List Field) : List Field :=
  byScope ((fields.filter (·.hasPlainColumn)).filter (·.isVisibleIn scope))

/-- The order of scopes is transitive on fields. -/
theorem scope_le_trans (f g h : Field) (fg : decide (f.scope ≤ g.scope) = true)
    (gh : decide (g.scope ≤ h.scope) = true)
    : decide (f.scope ≤ h.scope) = true := by
  simp only [decide_eq_true_eq] at fg gh ⊢
  omega

/-- The order of scopes compares any two fields. -/
theorem scope_le_total (f g : Field)
    : (decide (f.scope ≤ g.scope) || decide (g.scope ≤ f.scope)) = true := by
  simp only [Bool.or_eq_true, decide_eq_true_eq]
  omega

/-- Ordering fields by scope and picking some of them commute. -/
theorem filter_byScope (p : Field → Bool) (fields : List Field)
    : (byScope fields).filter p = byScope (fields.filter p) :=
  filter_mergeSort scope_le_trans scope_le_total p fields

/-- A code stands for the last of its fields, so for one of the second list if that has any. -/
theorem resolve?_append (fields more : List Field) (code : String)
    : resolve? (fields ++ more) code = (resolve? more code).or (resolve? fields code) := by
  rw [resolve?, List.filter_append, List.getLast?_append]
  rfl

end Field

namespace Listing

variable (catalog : Listing) (scope : Int)

theorem mem_fieldsWith {code : String} {f : Field}
    : f ∈ catalog.fieldsWith scope code
      ↔ f ∈ catalog.fields ∧ f.code = code ∧ f.isVisibleIn scope = true := by
  simp [fieldsWith]

/-- Among the fields with one code, that code stands for the last, and no other for any. -/
theorem resolve?_fieldsWith (asked code : String)
    : Field.resolve? (catalog.fieldsWith scope asked) code
      = if asked = code then (catalog.fieldsWith scope code).getLast? else none := by
  unfold Field.resolve?
  split
  · next same =>
      subst same
      rw [List.filter_eq_self.mpr]
      intro f member
      simpa using ((mem_fieldsWith catalog scope).mp member).2.1
  · next other =>
      rw [List.filter_eq_nil_iff.mpr, List.getLast?_nil]
      intro f member
      have own := ((mem_fieldsWith catalog scope).mp member).2.1
      simpa [own] using other

/-- A lookup resolves what it was asked for to the last field with the code, and nothing else,
by induction on the codes.
-/
theorem resolve?_lookup (codes : List String) (code : String)
    : Field.resolve? (catalog.lookup scope codes) code
      = if code ∈ codes then (catalog.fieldsWith scope code).getLast? else none := by
  induction codes with
  | nil => rfl
  | cons asked codes ih =>
      have split
          : catalog.lookup scope (asked :: codes)
            = catalog.fieldsWith scope asked ++ catalog.lookup scope codes := by
        simp [lookup]
      rw [split, Field.resolve?_append, ih, resolve?_fieldsWith]
      by_cases same : asked = code
      · by_cases later : code ∈ codes <;> simp [same, later]
      · by_cases later : code ∈ codes <;> simp [same, later, Ne.symm same]

theorem filter_isVisibleIn_lookup (codes : List String)
    : (catalog.lookup scope codes).filter (·.isVisibleIn scope)
      = catalog.lookup scope codes := by
  refine List.filter_eq_self.mpr fun f member => ?_
  obtain ⟨code, _, found⟩ := List.mem_flatMap.mp member
  exact ((mem_fieldsWith catalog scope).mp found).2.2

/-- Loading some fields keeps those that can be used, in order. -/
theorem fields_ofFields (fields : List Field)
    : (ofFields fields).value.fields = fields.filter (·.hasPlainColumn) := by
  simp only [ofFields, Logged.collect]
  induction fields with
  | nil => rfl
  | cons f fields ih =>
      by_cases plain : f.hasPlainColumn = true
      · simp [Field.plain?, plain, Logged.quiet, ← ih]
      · simp [Field.plain?, plain, ← ih]

/-- A lookup resolves what it was asked for like all fields of the catalog that can be used in
the scope: the order among fields with one code is the order they have among all.
-/
theorem resolve?_lookup_ofFields (fields : List Field) {codes : List String} {code : String}
    (asked : code ∈ codes)
    : Field.resolve? ((ofFields fields).value.lookup scope codes) code
      = Field.resolve? (Field.usableIn scope fields) code := by
  rw [resolve?_lookup, if_pos asked, Field.resolve?, Field.usableIn, Field.filter_byScope,
    List.filter_filter, fieldsWith, fields_ofFields]
  rfl

end Listing

end FieldFilter
