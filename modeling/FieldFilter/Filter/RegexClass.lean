import FieldFilter.Json.Value
import FieldFilter.Text.Blank
import FieldFilter.Text.Digits

/-! The classes of texts that a filter can ask for. A filter names a class by its number and never
brings a pattern of its own.
-/

namespace FieldFilter

/-- A class of texts. -/
inductive RegexClass
  | digits | alpha | alphanumeric | ascii | halfWidthKana | halfWidth | fullWidthKatakana
  | fullWidth | phone | postalCode | email
  deriving DecidableEq, Repr

namespace RegexClass

/-- Every class, in the order of their numbers. -/
def all : List RegexClass :=
  [digits, alpha, alphanumeric, ascii, halfWidthKana, halfWidth, fullWidthKatakana, fullWidth,
    phone, postalCode, email]

def code : RegexClass → Int
  | digits => 1
  | alpha => 2
  | alphanumeric => 3
  | ascii => 4
  | halfWidthKana => 5
  | halfWidth => 6
  | fullWidthKatakana => 7
  | fullWidth => 8
  | phone => 9
  | postalCode => 10
  | email => 11

/-- The regular expression that the texts of a class match. -/
def pattern : RegexClass → String
  | digits => "^[0-9]+$"
  | alpha => "^[A-Za-z]+$"
  | alphanumeric => "^[A-Za-z0-9]+$"
  | ascii => "^[!-~]+$"
  | halfWidthKana => "^[ｦ-ﾟ]+$"
  | halfWidth => "^[ -~｡-ﾟ]+$"
  | fullWidthKatakana => "^[ァ-ヶー　]+$"
  | fullWidth => "^[^ -~｡-ﾟ]+$"
  | phone => "^[0-9]\x7b2,5\x7d-?[0-9]\x7b1,4\x7d-?[0-9]\x7b3,4\x7d$"
  | postalCode => "^[0-9]\x7b3\x7d-?[0-9]\x7b4\x7d$"
  | email => "^[A-Za-z0-9._%+-]+@[A-Za-z0-9.-]+\\.[A-Za-z]\x7b2,\x7d$"

def ofCode? (code : Int) : Option RegexClass :=
  all.find? (·.code == code)

/-- The class that an operand names, by a number or by its digits. -/
def ofOperand? : Json.Value → Option RegexClass
  | .number n => n.word?.bind ofCode?
  | .string s => (Text.readWord? (Text.trim s.toList)).bind ofCode?
  | _ => none

/-- The classes from the fourth on hold the empty text too. -/
def acceptsBlank (c : RegexClass) : Bool :=
  ascii.code ≤ c.code

theorem ofCode?_code (c : RegexClass) : ofCode? c.code = some c := by
  cases c <;> rfl

end RegexClass

end FieldFilter
