/-! The tokens that stand between the children of a group.
-/

namespace FieldFilter

/-- The token between two children of a group. -/
inductive Conjunction
  | and | or
  deriving DecidableEq, Repr

namespace Conjunction

def token : Conjunction → String
  | and => "and"
  | or => "or"

/-- The token with a blank at either side, as it stands in SQL. -/
def text : Conjunction → String
  | and => " and "
  | or => " or "

def ofToken? (token : String) : Option Conjunction :=
  if token = "and" then some and else if token = "or" then some or else none

theorem ofToken?_token (c : Conjunction) : ofToken? c.token = some c := by
  cases c <;> decide

end Conjunction

end FieldFilter
