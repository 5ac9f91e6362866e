/-! The types of catalog fields, and which kind of storage holds the values of each.
-/

namespace FieldFilter

/-- The declared type of a field. -/
inductive FieldType
  | text | textArea | combinedText | list | boolean | date | time | number
  deriving DecidableEq, Repr

/-- The kind of column that holds a value. -/
inductive Storage
  | text | list | boolean | numeric
  deriving DecidableEq, Repr

namespace Storage

def name : Storage → String
  | text => "text"
  | list => "list"
  | boolean => "boolean"
  | numeric => "numeric"

/-- Kinds in which an empty text can be stored beside nothing at all. -/
def holdsText : Storage → Bool
  | text | list => true
  | boolean | numeric => false

end Storage

namespace FieldType

/-- Every type, in the order of the codes that stand for them in a database. -/
def all : List FieldType :=
  [text, textArea, combinedText, list, boolean, date, time, number]

def name : FieldType → String
  | text => "text"
  | textArea => "text_area"
  | combinedText => "combined_text"
  | list => "list"
  | boolean => "boolean"
  | date => "date"
  | time => "time"
  | number => "number"

def code : FieldType → Int
  | text => 0
  | textArea => 1
  | combinedText => 2
  | list => 3
  | boolean => 4
  | date => 5
  | time => 6
  | number => 7

def ofName? (name : String) : Option FieldType :=
  all.find? (·.name == name)

def ofCode? (code : Int) : Option FieldType :=
  all.find? (·.code == code)

/-- Where values of the type are stored. Dates and times are seconds, and so numbers. -/
def storage : FieldType → Storage
  | text | textArea | combinedText => .text
  | list => .list
  | boolean => .boolean
  | date | time | number => .numeric

theorem ofCode?_code (t : FieldType) : ofCode? t.code = some t := by
  cases t <;> rfl

theorem ofName?_name (t : FieldType) : ofName? t.name = some t := by
  cases t <;> decide

end FieldType

end FieldFilter
