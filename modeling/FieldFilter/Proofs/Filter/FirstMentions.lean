import FieldFilter.Proofs.Filter.Grammar

/-! What is looked up for a filter is what its expression refers to, each code at its first mention. A
value that is no filter has codes too, and they are proper names all the same.
-/

namespace FieldFilter

-----------------------------------------------------------------------------------------
-- Collecting one by one
-----------------------------------------------------------------------------------------

/-- A code that is added to the different codes of a list makes them those of a longer list. -/
theorem insertNew_eraseDups (codes : List String) (code : String)
    : insertNew codes.eraseDups code = (codes ++ [code]).eraseDups := by
  have known : codes.eraseDups.contains code = codes.contains code := by
    rw [Bool.eq_iff_iff, List.contains_iff_mem, List.contains_iff_mem, List.mem_eraseDups]
  rw [insertNew, known, List.eraseDups_append]
  cases seen : codes.contains code with
  | true => simp [List.removeAll, List.contains_iff_mem.mp seen]
  | false =>
      have fresh : code ∉ codes := by simpa using seen
      simp [List.removeAll, fresh, List.eraseDups_cons]

/-- Collecting codes one by one keeps each at its first place, by induction on them. -/
theorem foldl_insertNew_eraseDups (codes start : List String)
    : codes.foldl insertNew start.eraseDups = (start ++ codes).eraseDups := by
  induction codes generalizing start with
  | nil => rw [List.foldl_nil, List.append_nil]
  | cons code codes ih =>
      rw [List.foldl_cons, insertNew_eraseDups, ih, List.append_assoc, List.singleton_append]

/-- A code is not added to a list that has it. -/
theorem nodup_insertNew {codes : List String} {code : String} (different : codes.Nodup)
    : (insertNew codes code).Nodup := by
  unfold insertNew
  split
  · exact different
  · next unknown =>
      have fresh : code ∉ codes := by simpa using unknown
      refine List.nodup_append.mpr ⟨different, by simp, fun x member y single => ?_⟩
      obtain rfl := List.mem_singleton.mp single
      rintro rfl
      exact fresh member

theorem nodup_foldl_insertNew {codes start : List String} (different : start.Nodup)
    : (codes.foldl insertNew start).Nodup := by
  induction codes generalizing start with
  | nil => exact different
  | cons code codes ih => exact ih (nodup_insertNew different)

-----------------------------------------------------------------------------------------
-- Mentions
-----------------------------------------------------------------------------------------

/-- A code is a bare name: it is not empty and has no qualifier. -/
def IsBareCode (code : String) : Prop :=
  code ≠ "" ∧ '.' ∉ code.toList

/-- What a value spells is a bare name. -/
theorem isBareCode_of_fieldCode? {value : Json.Value} {code : String}
    (spelled : fieldCode? value = some code)
    : IsBareCode code := by
  obtain ⟨_, _, nonempty, bare, _⟩ := fieldCode?_eq_some_iff.mp spelled
  exact ⟨nonempty, bare⟩

theorem isBareCode_of_mem_itemCodes {first token operand : Json.Value} {code : String}
    (member : code ∈ itemCodes first token operand)
    : IsBareCode code := by
  rcases List.mem_append.mp member with own | other
  · exact isBareCode_of_fieldCode? (Option.mem_toList.mp own)
  · split at other
    · exact isBareCode_of_fieldCode? (Option.mem_toList.mp other)
    · cases other

mutual

/-- A value mentions bare names only, whether it is a filter or not. By induction on the value. -/
theorem isBareCode_of_mem_mentionedCodes {value : Json.Value} {code : String}
    (member : code ∈ mentionedCodes value)
    : IsBareCode code := by
  cases value with
  | array items =>
      rw [mentionedCodes] at member
      split at member
      · exact isBareCode_of_mem_itemCodes member
      · exact isBareCode_of_mem_mentionedCodesOfItems member
  | _ => simp [mentionedCodes] at member

theorem isBareCode_of_mem_mentionedCodesOfItems {items : List Json.Value} {code : String}
    (member : code ∈ mentionedCodesOfItems items)
    : IsBareCode code := by
  cases items with
  | nil => simp [mentionedCodesOfItems] at member
  | cons item items =>
      rw [mentionedCodesOfItems] at member
      rcases List.mem_append.mp member with own | others
      · exact isBareCode_of_mem_mentionedCodes own
      · exact isBareCode_of_mem_mentionedCodesOfItems others

end

-----------------------------------------------------------------------------------------
-- The codes of a filter
-----------------------------------------------------------------------------------------

/-- The codes of a filter are exactly those that its expression refers to, in the order of their
first mentions from left to right. Whether a value is a filter or not, its codes are different, and
each is a bare name.
-/
theorem fieldCodes_are_first_mentions (filter : Json.Value)
    : (∀ e,
          FilterExpr.ofFilter filter = .ok (some e)
          → fieldCodes filter = e.references.eraseDups)
      ∧ (fieldCodes filter).Nodup
      ∧ ∀ code ∈ fieldCodes filter, code ≠ "" ∧ '.' ∉ code.toList := by
  refine ⟨fun e read => ?_, nodup_foldl_insertNew List.nodup_nil, fun code member => ?_⟩
  · have mentioned := FilterExpr.mentionedCodes_of_ofJson (FilterExpr.ofFilter_eq_ok_some_iff.mp read)
    rw [fieldCodes, mentioned]
    exact foldl_insertNew_eraseDups e.references []
  · exact isBareCode_of_mem_mentionedCodes (mem_fieldCodes.mp member)

/-- The seat is chosen and the row is among some, which look like a condition, or the seat is that of
another field.
-/
def seatFilter : Json.Value :=
  .array
    [ .array [.string "r.seat", .string "=", .string "aisle"], .string "and",
      .array
        [ .array
            [ .string "row", .string "listinclude",
              .array [.string "gate", .string "=", .number (.integer 1)] ],
          .string "or", .array [.string "seat", .string "same", .string "guests.r.row"] ] ]

def seatExpression : FilterExpr :=
  .group (.condition (.literal "seat" .equal (.string "aisle")))
    [ (.and,
        .group
          (.condition
            (.literal "row" .listInclude
              (.array [.string "gate", .string "=", .number (.integer 1)])))
          [(.or, .condition (.fields "seat" .same "row"))]) ]

/-- Neither the texts in an operand nor the second mentions are collected. -/
theorem fieldCodes_are_first_mentions_seatFilter
    : FilterExpr.ofFilter seatFilter = .ok (some seatExpression)
      ∧ seatExpression.references = ["seat", "row", "seat", "row"]
      ∧ fieldCodes seatFilter = ["seat", "row"] := by
  have read : FilterExpr.ofFilter seatFilter = .ok (some seatExpression) := by rfl
  have collected := (fieldCodes_are_first_mentions seatFilter).1 seatExpression read
  exact ⟨read, rfl, collected.trans (by decide)⟩

end FieldFilter
