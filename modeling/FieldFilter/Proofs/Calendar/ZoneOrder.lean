import FieldFilter.Calendar.Zone
import FieldFilter.Proofs.Calendar.EarliestInstant

/-! The zones of the carried database have their changes in order. The order of a long history is checked
from each change to the next one.
-/

namespace FieldFilter.Calendar

/-- No change is before the one ahead of it, nor the first one before `start`. -/
def ascendsFrom (start : Int) : List Change → Bool
  | [] => true
  | c :: changes => decide (start ≤ c.instant) && ascendsFrom c.instant changes

/-- Changes that ascend one by one are in order, by induction on the changes. -/
theorem pairwise_of_ascendsFrom {start : Int} {changes : List Change}
    (ascends : ascendsFrom start changes = true)
    : (∀ c ∈ changes, start ≤ c.instant)
      ∧ changes.Pairwise fun c d => c.instant ≤ d.instant := by
  induction changes generalizing start with
  | nil => exact ⟨by simp, .nil⟩
  | cons c changes ih =>
      simp only [ascendsFrom, Bool.and_eq_true, decide_eq_true_iff] at ascends
      obtain ⟨least, ordered⟩ := ih ascends.2
      refine ⟨fun d member => ?_, .cons least ordered⟩
      rcases List.mem_cons.mp member with rfl | later
      · exact ascends.1
      · exact Int.le_trans ascends.1 (least d later)

namespace ZoneDatabase

/-- The clocks that are carried change after the year 1800 only. -/
theorem clocks_ascend
    : clocks.all (fun entry => ascendsFrom (-5000000000) entry.2.changes) = true := by
  decide +kernel

/-- A zone of the carried database has one of the carried clocks. -/
theorem exists_mem_clocks {name : String} {zone : Zone} (found : carried.find? name = some zone)
    : ∃ names, (names, zone.history) ∈ clocks := by
  obtain ⟨history, known, rfl⟩ := Option.map_eq_some_iff.mp found
  obtain ⟨entry, listed, rfl⟩ := Option.map_eq_some_iff.mp known
  exact ⟨entry.1, List.mem_of_find?_eq_some listed⟩

/-- Every zone of the carried database has its changes in order. -/
theorem ordered_of_find? {name : String} {zone : Zone} (found : carried.find? name = some zone)
    : zone.history.Ordered := by
  obtain ⟨names, listed⟩ := exists_mem_clocks found
  exact (pairwise_of_ascendsFrom (List.all_eq_true.mp clocks_ascend _ listed)).2

end ZoneDatabase

end FieldFilter.Calendar
