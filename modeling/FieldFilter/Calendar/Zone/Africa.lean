import FieldFilter.Calendar.History

/-! Clock histories: Monrovia.
-/

namespace FieldFilter.Calendar.History

def monrovia : History :=
  { initial := -2588,
    changes :=
      [
        ⟨-1604359012, -2670⟩, ⟨63593070, 0⟩
      ] }

end FieldFilter.Calendar.History
