import FieldFilter.Text.Digits

/-! The tokens of a JSON text. Reading is a walk over the characters with one state per place
inside a token; a text is refused at the first character that no token allows.
-/

namespace FieldFilter.Json

/-- A number as it is written. The digits stand most significant first, and a part that is
missing has none. -/
structure NumberLiteral where
  negative : Bool
  whole : List Nat
  fraction : List Nat
  exponentNegative : Bool
  exponent : List Nat
  deriving DecidableEq

/-- One place of a string literal: a character, or a UTF-16 code unit given by its number. -/
inductive StringUnit
  | char (c : Char)
  | code (n : Nat)
  deriving DecidableEq

/-- A token. -/
inductive Token
  | openArray | closeArray | openObject | closeObject | comma | colon
  | null | bool (b : Bool)
  | number (n : NumberLiteral)
  | string (units : List StringUnit)
  deriving DecidableEq

/-- How far a number literal has been read. -/
inductive NumberPlace
  | sign | zero | whole | point | fraction | mark | markSign | exponent
  deriving DecidableEq

/-- Where the walk stands. Digits and string units read so far are kept in reverse. -/
inductive Place
  | between
  | word (readSoFar : List Char)
  | number (place : NumberPlace) (literal : NumberLiteral)
  | string (units : List StringUnit)
  | escape (units : List StringUnit)
  | code (units : List StringUnit) (missing : Nat) (value : Nat)

/-- The walk: the tokens completed so far, in reverse, and the place. -/
structure Scan where
  done : List Token
  place : Place

namespace Scan

def isSpace (c : Char) : Bool :=
  c == ' ' || c == '\t' || c == '\n' || c == '\r'

def push (done : List Token) (t : Token) : Scan :=
  ⟨t :: done, .between⟩

def emptyLiteral (negative : Bool) : NumberLiteral :=
  { negative, whole := [], fraction := [], exponentNegative := false, exponent := [] }

def finish (n : NumberLiteral) : NumberLiteral :=
  { n with
    whole := n.whole.reverse
    fraction := n.fraction.reverse
    exponent := n.exponent.reverse }

/-- A number literal may end after a whole part, a fraction digit or an exponent digit. -/
def NumberPlace.final : NumberPlace → Bool
  | .zero | .whole | .fraction | .exponent => true
  | .sign | .point | .mark | .markSign => false

def stepBetween (done : List Token) (c : Char) : Option Scan :=
  if isSpace c then some ⟨done, .between⟩
  else match c with
    | '[' => some (push done .openArray)
    | ']' => some (push done .closeArray)
    | '\x7b' => some (push done .openObject)
    | '\x7d' => some (push done .closeObject)
    | ',' => some (push done .comma)
    | ':' => some (push done .colon)
    | '"' => some ⟨done, .string []⟩
    | '-' => some ⟨done, .number .sign (emptyLiteral true)⟩
    | '0' => some ⟨done, .number .zero { emptyLiteral false with whole := [0] }⟩
    | 'n' | 't' | 'f' => some ⟨done, .word [c]⟩
    | c => (Text.digit? c).map fun d =>
        ⟨done, .number .whole { emptyLiteral false with whole := [d] }⟩

def word? : List Char → Option Token
  | ['n', 'u', 'l', 'l'] => some .null
  | ['t', 'r', 'u', 'e'] => some (.bool true)
  | ['f', 'a', 'l', 's', 'e'] => some (.bool false)
  | _ => none

/-- A character inside a word, which ends with its last letter. -/
def stepWord (done : List Token) (readSoFar : List Char) (c : Char) : Option Scan :=
  let letters := c :: readSoFar
  match word? letters.reverse with
  | some t => some (push done t)
  | none => if letters.length < 5 then some ⟨done, .word letters⟩ else none

/-- A digit inside a number. A whole part that starts with zero has no further digit. -/
def stepDigit (place : NumberPlace) (n : NumberLiteral) (d : Nat) : Option Place :=
  match place with
  | .sign =>
    some (.number (if d = 0 then .zero else .whole) { n with whole := [d] })
  | .zero => none
  | .whole => some (.number .whole { n with whole := d :: n.whole })
  | .point | .fraction => some (.number .fraction { n with fraction := d :: n.fraction })
  | .mark | .markSign | .exponent =>
    some (.number .exponent { n with exponent := d :: n.exponent })

/-- A point, an exponent mark or a sign inside a number. -/
def stepMark (place : NumberPlace) (n : NumberLiteral) (c : Char) : Option Place :=
  match c, place with
  | '.', .zero | '.', .whole => some (.number .point n)
  | 'e', .zero | 'e', .whole | 'e', .fraction => some (.number .mark n)
  | 'E', .zero | 'E', .whole | 'E', .fraction => some (.number .mark n)
  | '+', .mark => some (.number .markSign n)
  | '-', .mark => some (.number .markSign { n with exponentNegative := true })
  | _, _ => none

/-- A character inside a number. One that cannot continue it belongs to what follows. -/
def stepNumber (done : List Token) (place : NumberPlace) (n : NumberLiteral) (c : Char)
    : Option Scan :=
  match Text.digit? c with
  | some d => (stepDigit place n d).map fun p => ⟨done, p⟩
  | none =>
    match stepMark place n c with
    | some p => some ⟨done, p⟩
    | none =>
      if NumberPlace.final place then stepBetween (.number (finish n) :: done) c else none

/-- A character inside a string. Control characters have to be escaped. -/
def stepString (done : List Token) (units : List StringUnit) (c : Char) : Option Scan :=
  if c = '"' then some (push done (.string units.reverse))
  else if c = '\\' then some ⟨done, .escape units⟩
  else if c.toNat < 0x20 then none
  else some ⟨done, .string (.char c :: units)⟩

def escaped? : Char → Option Char
  | '"' => some '"'
  | '\\' => some '\\'
  | '/' => some '/'
  | 'b' => some '\x08'
  | 'f' => some '\x0c'
  | 'n' => some '\n'
  | 'r' => some '\r'
  | 't' => some '\t'
  | _ => none

def stepEscape (done : List Token) (units : List StringUnit) (c : Char) : Option Scan :=
  if c = 'u' then some ⟨done, .code units 4 0⟩
  else (escaped? c).map fun e => ⟨done, .string (.char e :: units)⟩

def stepCode (done : List Token) (units : List StringUnit) (missing value : Nat) (c : Char)
    : Option Scan :=
  (Text.hexDigit? c).map fun d =>
    let value := value * 16 + d
    if missing ≤ 1 then ⟨done, .string (.code value :: units)⟩
    else ⟨done, .code units (missing - 1) value⟩

def step (s : Scan) (c : Char) : Option Scan :=
  match s.place with
  | .between => stepBetween s.done c
  | .word letters => stepWord s.done letters c
  | .number place n => stepNumber s.done place n c
  | .string units => stepString s.done units c
  | .escape units => stepEscape s.done units c
  | .code units missing value => stepCode s.done units missing value c

/-- The tokens at the end of the text, which may end between tokens or after a number. -/
def tokens? (s : Scan) : Option (List Token) :=
  match s.place with
  | .between => some s.done.reverse
  | .number place n =>
    if NumberPlace.final place then some (Token.number (finish n) :: s.done).reverse else none
  | _ => none

end Scan

/-- The tokens of a text, or nothing when it is not a sequence of tokens. -/
def tokens? (text : List Char) : Option (List Token) :=
  (text.foldlM Scan.step ⟨[], .between⟩).bind Scan.tokens?

end FieldFilter.Json
