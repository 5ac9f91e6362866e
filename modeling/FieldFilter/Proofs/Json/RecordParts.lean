import FieldFilter.Json.Record
import Mathlib.Data.List.Nodup

/-! What a record holds under a key. Reading a record takes it apart into one place for each of its
keys, and what stands in the place of a key is what the record holds under it.
-/

namespace FieldFilter.Json.Tree

/-- What stands under a key in an object, by the first member with that key. -/
def member? (key : String) (members : List (List StringUnit × Tree)) : Option Tree :=
  (members.find? fun member => StringUnit.text? member.1 == some key).map Prod.snd

/-- What a record holds under one of its keys: by name in an object, by place in an array. -/
def part? (keys : List String) (key : String) : Tree → Option Tree
  | .object members => member? key members
  | .array items => items[keys.idxOf key]?
  | _ => none

theorem member?_cons (key : String) (member : List StringUnit × Tree)
    (members : List (List StringUnit × Tree))
    : member? key (member :: members)
      = if StringUnit.text? member.1 = some key then some member.2 else member? key members := by
  by_cases named : StringUnit.text? member.1 = some key <;>
    simp [member?, named]

/-- One more member of an object is the part under its key, unless there is one already. By cases on
whether the key of the member is known.
-/
theorem lookup_insertPart {names : List String} {parts more : List (String × Tree)}
    {member : List StringUnit × Tree} (h : insertPart names parts member = some more) {key : String}
    (known : key ∈ names)
    : more.lookup key = (parts.lookup key).or (member? key [member]) := by
  unfold insertPart at h
  cases text : StringUnit.text? member.1 with
  | none => simp [text] at h
  | some name =>
      have own : member? key [member] = if name = key then some member.2 else none := by
        by_cases same : name = key <;>
          simp [member?, text, same]
      simp only [text, Option.bind_eq_bind, Option.bind_some] at h
      split at h
      · next foreign =>
          obtain rfl := Option.some.inj h
          have other : name ≠ key := by
            rintro rfl
            simp [known] at foreign
          simp [own, other]
      · split at h
        · cases h
        · next fresh =>
            obtain rfl := Option.some.inj h
            rw [own, List.lookup_cons]
            by_cases same : name = key
            · subst same
              simp [Option.not_isSome_iff_eq_none.mp fresh]
            · simp [same, beq_eq_false_iff_ne.mpr (Ne.symm same)]

/-- The parts that the members of an object come to are what the object holds under their keys, by
induction on the members.
-/
theorem lookup_foldlM_insertPart {names : List String} {members : List (List StringUnit × Tree)}
    {parts all : List (String × Tree)} (h : members.foldlM (insertPart names) parts = some all)
    {key : String} (known : key ∈ names)
    : all.lookup key = (parts.lookup key).or (member? key members) := by
  induction members generalizing parts with
  | nil =>
      obtain rfl := Option.some.inj h
      simp [member?]
  | cons member members ih =>
      rw [List.foldlM_cons] at h
      obtain ⟨more, inserted, h⟩ := Option.bind_eq_some_iff.mp h
      rw [ih h, lookup_insertPart inserted known, Option.or_assoc, member?_cons, member?_cons]
      split <;>
        simp [member?]

/-- The places of an array, one for each of some keys, hold what the array has under them. -/
theorem map_part?_array {names : List String} (distinct : names.Nodup) {items : List Tree}
    (short : items.length ≤ names.length)
    : names.map (fun name => (array items).part? names name)
      = items.map some ++ List.replicate (names.length - items.length) none := by
  refine List.ext_getElem (by simp; omega) fun i hi hj => ?_
  simp only [List.length_map] at hi
  simp only [List.getElem_map, part?, distinct.idxOf_getElem]
  by_cases within : i < items.length
  · simp [List.getElem_append_left, within]
  · simp [List.getElem_append_right, within, Nat.le_of_not_lt within]

/-- A record is taken apart into what it holds under its keys, by cases on how it is written. -/
theorem parts?_eq_some {names : List String} (distinct : names.Nodup) {positional : Nat}
    {tree : Tree} {parts : List (Option Tree)} (h : tree.parts? names positional = some parts)
    : parts = names.map fun name => tree.part? names name := by
  cases tree with
  | object members =>
      obtain ⟨all, inserted, rfl⟩ := Option.map_eq_some_iff.mp h
      refine List.map_congr_left fun name known => ?_
      exact lookup_foldlM_insertPart inserted known
  | array items =>
      simp only [parts?] at h
      split at h
      · next fits =>
          obtain rfl := Option.some.inj h
          exact (map_part?_array distinct fits.2).symm
      · cases h
  | _ => cases h

end FieldFilter.Json.Tree
