import FieldFilter.Proofs.Sql.Rendering

/-! Predicates without the values of their parameters. A value never stands in the text, so the
skeleton of a predicate has its text, and as many parameters.
-/

namespace FieldFilter

/-- A term with zero for every value that it binds. -/
def Term.skeleton : Term → Term
  | column c => column c
  | bound _ => bound (.int 0)
  | literal n => literal n
  | emptyText => emptyText
  | locate _ c => locate (.int 0) c
  | length c => length c
  | bytes c => bytes c
  | date c offset => date c offset

def Atom.skeleton : Atom → Atom
  | compare relation left right => compare relation left.skeleton right.skeleton
  | isNull c => isNull c
  | isNotNull c => isNotNull c
  | like c _ => like c (.int 0)
  | regexp c _ => regexp c (.int 0)
  | between c _ _ => between c (.int 0) (.int 0)
  | contains negated c documents => contains negated c (documents.map fun _ => .int 0)

def Test.skeleton : Test → Test
  | any atoms => any (atoms.map Atom.skeleton)
  | all atoms => all (atoms.map Atom.skeleton)

theorem Term.text_skeleton (t : ValueTable) (term : Term) : term.skeleton.text t = term.text t := by
  cases term <;> rfl

theorem Term.length_params_skeleton (term : Term)
    : term.skeleton.params.length = term.params.length := by
  cases term <;> rfl

theorem Atom.text_skeleton (t : ValueTable) (atom : Atom) : atom.skeleton.text t = atom.text t := by
  cases atom with
  | compare relation left right => simp [skeleton, Term.text_skeleton]
  | contains negated c documents =>
      rw [skeleton, text, text, List.map_map]
      rfl
  | _ => rfl

theorem Atom.length_params_skeleton (atom : Atom)
    : atom.skeleton.params.length = atom.params.length := by
  cases atom with
  | compare relation left right => simp [skeleton, params, Term.length_params_skeleton]
  | contains negated c documents => simp [skeleton, params]
  | _ => rfl

theorem Test.text_skeleton (t : ValueTable) (test : Test) : test.skeleton.text t = test.text t := by
  have same : Atom.text t ∘ Atom.skeleton = Atom.text t := funext (Atom.text_skeleton t)
  cases test with
  | any atoms => simp [skeleton, same]
  | all atoms => simp [skeleton, same]

theorem Test.length_params_skeleton (test : Test)
    : test.skeleton.params.length = test.params.length := by
  have same (atoms : List Atom)
      : (atoms.map Atom.skeleton).map (fun atom => atom.params.length)
        = atoms.map fun atom => atom.params.length := by
    rw [List.map_map]
    exact List.map_congr_left fun atom _ => Atom.length_params_skeleton atom
  cases test with
  | any atoms => simp only [skeleton, params, Test.atoms, List.length_flatMap, same]
  | all atoms => simp only [skeleton, params, Test.atoms, List.length_flatMap, same]

namespace Predicate

mutual

/-- A predicate with zero for every value that it binds. -/
def skeleton : Predicate → Predicate
  | test t => test t.skeleton
  | group first rest => group first.skeleton (restSkeleton rest)

def restSkeleton : List (Conjunction × Predicate) → List (Conjunction × Predicate)
  | [] => []
  | (conjunction, p) :: rest => (conjunction, p.skeleton) :: restSkeleton rest

end

mutual

/-- Values do not occur in the text of a predicate, by induction on the predicate. -/
theorem text_skeleton (t : ValueTable) (p : Predicate) : p.skeleton.text t = p.text t := by
  cases p with
  | test test => simp [skeleton, Test.text_skeleton]
  | group first rest => simp [skeleton, text_skeleton t first, restText_skeleton t rest]

theorem restText_skeleton (t : ValueTable) (rest : List (Conjunction × Predicate))
    : restText t (restSkeleton rest) = restText t rest := by
  cases rest with
  | nil => simp [restSkeleton]
  | cons child rest =>
      obtain ⟨conjunction, p⟩ := child
      simp [restSkeleton, text_skeleton t p, restText_skeleton t rest]

end

/-- Predicates with one skeleton have one text. -/
theorem text_eq_of_skeleton_eq {p q : Predicate} (same : p.skeleton = q.skeleton) (t : ValueTable)
    : p.text t = q.text t := by
  rw [← text_skeleton t p, same, text_skeleton]

mutual

/-- A predicate keeps the number of its parameters, by induction on the predicate. -/
theorem length_params_skeleton (p : Predicate) : p.skeleton.params.length = p.params.length := by
  cases p with
  | test test => simp [skeleton, params, Test.length_params_skeleton]
  | group first rest =>
      simp [skeleton, params, length_params_skeleton first, length_restParams_skeleton rest]

theorem length_restParams_skeleton (rest : List (Conjunction × Predicate))
    : (restParams (restSkeleton rest)).length = (restParams rest).length := by
  cases rest with
  | nil => simp [restSkeleton]
  | cons child rest =>
      simp [restSkeleton, restParams, length_params_skeleton child.2,
        length_restParams_skeleton rest]

end

end Predicate

end FieldFilter
