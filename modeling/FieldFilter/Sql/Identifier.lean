/-! Names that may be spliced into SQL. A plain identifier has one to three parts with a point
between them; a part is made of ASCII letters, digits and underscores and starts with no digit.
-/

namespace FieldFilter.Identifier

def isStart (c : Char) : Bool :=
  ('a' ≤ c && c ≤ 'z') || ('A' ≤ c && c ≤ 'Z') || c == '_'

/-- A character that may follow in a part of an identifier. -/
def isRest (c : Char) : Bool :=
  isStart c || ('0' ≤ c && c ≤ '9')

def isPart : List Char → Bool
  | [] => false
  | c :: cs => isStart c && cs.all isRest

/-- The pieces of a text between its points. -/
def pieces : List Char → List (List Char)
  | [] => [[]]
  | c :: cs =>
    if c = '.' then [] :: pieces cs
    else match pieces cs with
      | [] => [[c]]
      | piece :: rest => (c :: piece) :: rest

/-- A name of one, two or three parts. -/
def isPlain (name : String) : Bool :=
  let pieces := pieces name.toList
  pieces.length ≤ 3 && pieces.all isPart

/-- What follows a table name and a point at the start of a column name. -/
def unqualified? (table column : String) : Option (List Char) :=
  (table.toList ++ ['.']).isPrefixOf? column.toList

/-- The column with the qualifier `source` replaced by `target`. A column without that qualifier
stays as it is. -/
def requalify (column source target : String) : String :=
  match unqualified? source column with
  | some rest => target ++ "." ++ String.ofList rest
  | none => column

end FieldFilter.Identifier
