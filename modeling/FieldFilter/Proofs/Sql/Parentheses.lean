/-! Parentheses in SQL text, read from left to right with the depth as the only state. A text in
one pair of parentheses ends where the depth first returns to zero, so it can be cut off unseen.
-/

namespace FieldFilter

-----------------------------------------------------------------------------------------
-- Depth
-----------------------------------------------------------------------------------------

/-- The depth after a text that starts at depth `d`; nothing if the depth goes below zero. -/
def depthAfter (d : Nat) : List Char → Option Nat
  | [] => some d
  | c :: w =>
    if c = '(' then depthAfter (d + 1) w
    else if c = ')' then
      match d with
      | 0 => none
      | d + 1 => depthAfter d w
    else depthAfter d w

/-- A text after another one starts at the depth that the first one leaves, by induction on
the first.
-/
theorem depthAfter_append (d : Nat) (u v : List Char)
    : depthAfter d (u ++ v) = (depthAfter d u).bind fun m => depthAfter m v := by
  induction u generalizing d with
  | nil => rfl
  | cons c u ih =>
      simp only [List.cons_append, depthAfter]
      split
      · exact ih (d + 1)
      · split
        · cases d with
          | zero => rfl
          | succ d => exact ih d
        · exact ih d

/-- A text that can be read can be read up to any place in it. -/
theorem depthAfter_append_eq_some {d k : Nat} {u v : List Char}
    (h : depthAfter d (u ++ v) = some k)
    : ∃ m, depthAfter d u = some m ∧ depthAfter m v = some k := by
  rw [depthAfter_append] at h
  exact Option.bind_eq_some_iff.mp h

/-- One more open parenthesis before a text is open after it, by induction on the text. -/
theorem depthAfter_succ {d k : Nat} {w : List Char} (h : depthAfter d w = some k)
    : depthAfter (d + 1) w = some (k + 1) := by
  induction w generalizing d with
  | nil =>
      obtain rfl := Option.some.inj h
      rfl
  | cons c w ih =>
      simp only [depthAfter] at h ⊢
      split
      · next opens =>
          rw [if_pos opens] at h
          exact ih h
      · next opens =>
          rw [if_neg opens] at h
          split
          · next closes =>
              rw [if_pos closes] at h
              cases d with
              | zero => cases h
              | succ d => exact ih h
          · next closes =>
              rw [if_neg closes] at h
              exact ih h

-----------------------------------------------------------------------------------------
-- Balanced texts
-----------------------------------------------------------------------------------------

/-- The parentheses of a text close each other. -/
def Balanced (w : List Char) : Prop :=
  depthAfter 0 w = some 0

instance (w : List Char) : Decidable (Balanced w) :=
  inferInstanceAs (Decidable (depthAfter 0 w = some 0))

namespace Balanced

/-- A balanced text keeps any depth, by induction on the depth. -/
theorem keepsDepth {w : List Char} (h : Balanced w) (d : Nat)
    : depthAfter d w = some d := by
  induction d with
  | zero => exact h
  | succ d ih => exact depthAfter_succ ih

theorem append {u v : List Char} (hu : Balanced u) (hv : Balanced v) : Balanced (u ++ v) := by
  unfold Balanced
  rw [depthAfter_append, hu, Option.bind_some, hv]

/-- A balanced text between an opening and a closing text is balanced when the closing one ends
what the opening one leaves open.
-/
theorem within {opening text closing : String} {d : Nat}
    (opens : depthAfter 0 opening.toList = some d) (h : Balanced text.toList)
    (closes : depthAfter d closing.toList = some 0)
    : Balanced (opening ++ text ++ closing).toList := by
  unfold Balanced
  rw [String.toList_append, String.toList_append, depthAfter_append, depthAfter_append, opens]
  simp only [Option.bind_some, h.keepsDepth d, closes]

/-- A text of characters of one kind is balanced when no parenthesis is of that kind, by
induction on the text.
-/
theorem of_all {kind : Char → Bool} {w : List Char} (opens : kind '(' = false)
    (closes : kind ')' = false) (h : w.all kind = true)
    : Balanced w := by
  induction w with
  | nil => rfl
  | cons c w ih =>
      obtain ⟨head, tail⟩ : kind c = true ∧ w.all kind = true := by simpa using h
      have noOpening : c ≠ '(' := by
        rintro rfl
        exact absurd (opens.symm.trans head) Bool.false_ne_true
      have noClosing : c ≠ ')' := by
        rintro rfl
        exact absurd (closes.symm.trans head) Bool.false_ne_true
      unfold Balanced
      rw [depthAfter, if_neg noOpening, if_neg noClosing, ih tail]

/-- Balanced texts with a balanced separator between neighbours are balanced, by induction on
the texts.
-/
theorem intercalate {separator : String} {texts : List String}
    (hs : Balanced separator.toList) (h : ∀ text ∈ texts, Balanced text.toList)
    : Balanced (String.intercalate separator texts).toList := by
  rw [String.toList_intercalate]
  induction texts with
  | nil => rfl
  | cons text rest ih =>
      have head : Balanced text.toList := h text List.mem_cons_self
      have tail := ih fun t ht => h t (List.mem_cons_of_mem text ht)
      cases rest with
      | nil => simpa using head
      | cons next rest =>
          rw [List.map_cons, List.map_cons, List.intercalate_cons_cons]
          exact (head.append hs).append tail

end Balanced

-----------------------------------------------------------------------------------------
-- Texts in one pair of parentheses
-----------------------------------------------------------------------------------------

theorem Balanced.parenthesized {w : List Char} (h : Balanced w)
    : Balanced ('(' :: (w ++ [')'])) := by
  have inside : depthAfter 1 (w ++ [')']) = some 0 := by
    rw [depthAfter_append, h.keepsDepth 1]
    rfl
  exact inside

/-- The depth never goes below zero, and after the start it is zero at the end and only there. -/
def Enclosed (w : List Char) : Prop :=
  w ≠ [] ∧ ∀ u, u <+: w → u ≠ [] → ∃ d, depthAfter 0 u = some d ∧ (d = 0 ↔ u = w)

/-- A balanced text in parentheses is enclosed: inside, the outer pair stays open. -/
theorem Balanced.enclosed {w : List Char} (h : Balanced w) : Enclosed ('(' :: (w ++ [')'])) := by
  refine ⟨List.cons_ne_nil _ _, fun u hu nonempty => ?_⟩
  rcases List.prefix_cons_iff.mp hu with rfl | ⟨inside, rfl, hi⟩
  · exact absurd rfl nonempty
  · rcases List.prefix_concat_iff.mp hi with rfl | ⟨rest, rfl⟩
    · exact ⟨0, h.parenthesized, by simp⟩
    · obtain ⟨m, hm, _⟩ := depthAfter_append_eq_some h
      have deeper : depthAfter 0 ('(' :: inside) = some (m + 1) := depthAfter_succ hm
      exact ⟨m + 1, deeper, by simp⟩

/-- An enclosed text has no enclosed text as a longer start. -/
theorem Enclosed.eq_of_isPrefix {u w : List Char} (hu : Enclosed u) (hw : Enclosed w)
    (h : u <+: w)
    : u = w := by
  obtain ⟨d, atEnd, zero⟩ := hu.2 u List.prefix_rfl hu.1
  obtain ⟨e, inside, final⟩ := hw.2 u h hu.1
  have same : d = e := Option.some.inj (atEnd.symm.trans inside)
  exact final.mp (same ▸ zero.mpr rfl)

/-- Where an enclosed text ends is known without what follows. -/
theorem Enclosed.append_inj {u w r s : List Char} (hu : Enclosed u) (hw : Enclosed w)
    (h : u ++ r = w ++ s)
    : u = w ∧ r = s := by
  have same : u = w := by
    rcases List.prefix_or_prefix_of_prefix (List.prefix_append u r)
        (h ▸ List.prefix_append w s) with shorter | longer
    · exact hu.eq_of_isPrefix hw shorter
    · exact (hw.eq_of_isPrefix hu longer).symm
  subst same
  exact ⟨rfl, List.append_cancel_left h⟩

end FieldFilter
