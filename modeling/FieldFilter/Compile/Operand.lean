import FieldFilter.Calendar.Literal
import FieldFilter.Compile.Clock
import FieldFilter.Ending
import FieldFilter.Filter.Error
import FieldFilter.Filter.RegexClass
import FieldFilter.Sql.Like

/-! What the operands of conditions stand for. Each kind of operand has one reader, which gives a
value or the fault that keeps the operand from being of that kind. Those that calculate with dates
may also stop.
-/

namespace FieldFilter.Operand

open Json (Value)

/-- The empty operand of an equality: nothing, or the empty text. -/
def isEmpty : Value → Bool
  | .null => true
  | .string s => s == ""
  | _ => false

def scalar (operand : Value) : Except OperandFault Parameter :=
  match Parameter.ofJson? operand with
  | some p => .ok p
  | none => .error (.notAScalar operand)

/-- A text to look for; a number stands for its own text. -/
def text : Value → Except OperandFault String
  | .string s => .ok s
  | .number n => .ok n.text
  | operand => .error (.notText operand)

/-- The signed 64-bit integer that a number is or a text spells. -/
def word? : Value → Option Int
  | .number n => n.word?
  | .string s => Text.readWord? (Text.trim s.toList)
  | _ => none

def length (operand : Value) : Except OperandFault Int :=
  match word? operand with
  | none => .error (.notAnInteger operand)
  | some n => if n < 0 then .error .negativeLength else .ok n

/-- A number is true unless it is zero. -/
def isNonzero : Json.Number → Bool
  | .integer n => n != 0
  | .double x => !x.isZero

/-- A truth value, also as a number or spelt out. -/
def truth (operand : Value) : Except OperandFault Bool :=
  match operand with
  | .bool b => .ok b
  | .number n => .ok (isNonzero n)
  | .string s =>
    let word := Text.trimmed s
    if word = "1" ∨ word = "true" then .ok true
    else if word = "0" ∨ word = "false" then .ok false
    else .error (.notABoolean operand)
  | operand => .error (.notABoolean operand)

/-- The instant that a text names as a date literal. -/
def instant (history : Calendar.History) (s : String) : Calendar.Reckoning Int :=
  match Calendar.Literal.read? s with
  | some l => l.instantOn history
  | none => .ok none

/-- A bound of a range. On a date field, a text is a date literal for an instant. -/
def bound (type : FieldType) (clock : Clock) (operand : Value)
    : Except (Ending OperandFault) Parameter :=
  match type, operand with
  | .date, .string s =>
    (Ending.requiring (.dateText s) (instant clock.zone.history s)).map .int
  | _, operand => Ending.reporting (scalar operand)

def bounds (type : FieldType) (clock : Clock) (operand : Value)
    : Except (Ending OperandFault) (Parameter × Parameter) :=
  match operand with
  | .array [least, greatest] => do
    let least ← bound type clock least
    return (least, ← bound type clock greatest)
  | .array items => .error (.reported (.boundCount items.length))
  | operand => .error (.reported (.notBounds operand))

def regexClass (operand : Value) : Except OperandFault RegexClass :=
  match RegexClass.ofOperand? operand with
  | some c => .ok c
  | none => .error (.regexClass operand)

def isHexId (cs : List Char) : Bool :=
  cs.length == 8 && cs.all fun c => (Text.hexDigit? c).isSome

/-- The id of a list entry: a text of eight hexadecimal digits, or else an integer. -/
def listId? (value : Value) : Option Value :=
  match value with
  | .string s =>
    let cs := Text.trim s.toList
    if isHexId cs then some (.string (String.ofList cs))
    else (Text.readWord? cs).map fun n => .number (.integer n)
  | value => (word? value).map fun n => .number (.integer n)

/-- The documents that a list contains when it contains an id, as itself or in an object. -/
def idDocuments (id : Value) : List Parameter :=
  [.text id.compact, .text (Value.object [("id", id)]).compact]

/-- The documents of one entry of a list operand. -/
def entryDocuments (value : Value) : Except OperandFault (List Parameter) :=
  match listId? value with
  | some id => .ok (idDocuments id)
  | none => .error (.listId value)

/-- The entries of a list operand; a value alone is a list of one. -/
def entries : Value → List Value
  | .array items => items
  | value => [value]

/-- The documents of a list operand, of which there is at least one. -/
def documents (operand : Value) : Except OperandFault (List Parameter) :=
  match entries operand with
  | [] => .error .noListIds
  | entries => (entries.mapM entryDocuments).map List.flatten

/-- What a relative range counts from, and in which direction. -/
inductive Anchor
  | beforeNow | beforeToday | afterNow | afterToday
  deriving DecidableEq

def Anchor.ofChar? : Char → Option Anchor
  | 'a' => some .beforeNow
  | 'b' => some .beforeToday
  | 'c' => some .afterNow
  | 'd' => some .afterToday
  | _ => none

/-- The instant that is `seconds` away from an anchor. -/
def Anchor.target (clock : Clock) (seconds : Int) : Anchor → Int
  | beforeNow => clock.now - seconds
  | beforeToday => clock.today - seconds
  | afterNow => clock.now + seconds
  | afterToday => clock.today + seconds

/-- The seconds of a relative offset, which follow an anchor letter as a number of days. -/
def offsetSeconds (raw : List Char) : Except OperandFault Int :=
  match Text.readWord? (Text.trim (raw.drop 1)) with
  | none => .error (.dayOffset (String.ofList raw))
  | some days =>
    match Word.check? (days * Calendar.secondsPerDay) with
    | none => .error (.offsetOutOfRange (String.ofList raw))
    | some seconds => .ok seconds

def relativeInstant (clock : Clock) (operand : Value) : Except OperandFault Int :=
  match operand with
  | .string s => do
    let raw := Text.trim s.toList
    let seconds ← offsetSeconds raw
    match raw.head?.bind Anchor.ofChar? with
    | none => .error (.anchor (String.ofList raw))
    | some anchor =>
      match Word.check? (anchor.target clock seconds) with
      | none => .error (.offsetOutOfRange (String.ofList raw))
      | some t => .ok t
  | operand => .error (.notAnOffset operand)

/-- The date that an operand names: a literal, or the seconds of an instant. -/
def date (history : Calendar.History) : Value → Calendar.Reckoning Calendar.Date
  | .string s =>
    match Calendar.Literal.read? s with
    | some l => l.dateOn history
    | none => .ok none
  | .number n =>
    match n.word? with
    | some t => history.dateAt t
    | none => .ok none
  | _ => .ok none

def date? (history : Calendar.History) (operand : Value) : Option Calendar.Date :=
  (date history operand).found?

/-- The instants at which the date of an operand and the following one start. -/
def dayBounds (clock : Clock) (operand : Value) : Except (Ending OperandFault) (Int × Int) := do
  let d ← Ending.requiring (.date operand) (date clock.zone.history operand)
  match clock.zone.history.dayBounds? d with
  | none => throw (.reported (.dateOutOfRange d))
  | some bounds => return bounds

/-- A relative offset is read far enough to ask for the start of the present day. -/
def asksForToday : Value → Bool
  | .string s =>
    match offsetSeconds (Text.trim s.toList) with
    | .ok _ => true
    | .error _ => false
  | _ => false

end FieldFilter.Operand
