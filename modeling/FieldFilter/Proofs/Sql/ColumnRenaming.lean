import FieldFilter.Sql.Query

/-! Predicates whose columns are renamed. The values that a predicate binds do not depend on the
names of its columns, and numbering the aliases on is a renaming that leaves fixed columns alone.
-/

namespace FieldFilter

/-- A term with its column renamed. -/
def Term.mapColumns (g : Column → Column) : Term → Term
  | column c => column (g c)
  | bound p => bound p
  | literal n => literal n
  | emptyText => emptyText
  | locate p c => locate p (g c)
  | length c => length (g c)
  | bytes c => bytes (g c)
  | date c offset => date (g c) offset

def Atom.mapColumns (g : Column → Column) : Atom → Atom
  | compare relation left right => compare relation (left.mapColumns g) (right.mapColumns g)
  | isNull c => isNull (g c)
  | isNotNull c => isNotNull (g c)
  | like c pattern => like (g c) pattern
  | regexp c pattern => regexp (g c) pattern
  | between c least greatest => between (g c) least greatest
  | contains negated c documents => contains negated (g c) documents

def Test.mapColumns (g : Column → Column) : Test → Test
  | any atoms => any (atoms.map (Atom.mapColumns g))
  | all atoms => all (atoms.map (Atom.mapColumns g))

theorem Term.params_mapColumns (g : Column → Column) (term : Term)
    : (term.mapColumns g).params = term.params := by
  cases term <;> rfl

theorem Atom.params_mapColumns (g : Column → Column) (atom : Atom)
    : (atom.mapColumns g).params = atom.params := by
  cases atom with
  | compare relation left right => simp [mapColumns, params, Term.params_mapColumns]
  | _ => rfl

theorem Test.params_mapColumns (g : Column → Column) (test : Test)
    : (test.mapColumns g).params = test.params := by
  cases test <;> simp [mapColumns, params, atoms, List.flatMap_map, Atom.params_mapColumns]

namespace Predicate

mutual

/-- A predicate with its columns renamed. -/
def mapColumns (g : Column → Column) : Predicate → Predicate
  | test t => test (t.mapColumns g)
  | group first rest => group (first.mapColumns g) (restMapColumns g rest)

def restMapColumns (g : Column → Column)
    : List (Conjunction × Predicate) → List (Conjunction × Predicate)
  | [] => []
  | (conjunction, p) :: rest => (conjunction, p.mapColumns g) :: restMapColumns g rest

end

mutual

/-- A predicate binds the same values whatever its columns are, by induction on the predicate. -/
theorem params_mapColumns (g : Column → Column) (p : Predicate)
    : (p.mapColumns g).params = p.params := by
  cases p with
  | test t => simp [mapColumns, params, Test.params_mapColumns]
  | group first rest =>
      simp [mapColumns, params, params_mapColumns g first, restParams_restMapColumns g rest]

theorem restParams_restMapColumns (g : Column → Column) (rest : List (Conjunction × Predicate))
    : restParams (restMapColumns g rest) = restParams rest := by
  cases rest with
  | nil => simp [restMapColumns]
  | cons child rest =>
      obtain ⟨conjunction, p⟩ := child
      simp [restMapColumns, restParams, params_mapColumns g p, restParams_restMapColumns g rest]

end

end Predicate

/-- The column after `more` other joins: an alias is numbered on, a fixed column stays. -/
def Column.shift (more : Nat) : Column → Column
  | fixed name => fixed name
  | joined n storage => joined (n + more) storage

/-- The join after `more` other joins. -/
def Join.shift (more : Nat) (j : Join) : Join :=
  { j with number := j.number + more }

/-- The plan after `more` other joins: all its aliases are numbered on. -/
def Plan.shift (more : Nat) (p : Plan) : Plan :=
  { predicate := p.predicate.mapColumns (Column.shift more)
    joins := p.joins.map (Join.shift more) }

@[simp]
theorem Plan.length_joins_shift (more : Nat) (p : Plan)
    : (p.shift more).joins.length = p.joins.length := by
  simp [shift]

@[simp]
theorem Plan.params_shift (more : Nat) (p : Plan)
    : (p.shift more).predicate.params = p.predicate.params :=
  p.predicate.params_mapColumns (Column.shift more)

end FieldFilter
