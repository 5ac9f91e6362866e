import FieldFilter.Json.Token

/-! The syntax tree of a JSON text: its structure, with strings and numbers as they are written
and an object's members as they are listed. Reading it checks the grammar alone; what a string
or a number stands for is decided where it is used.
-/

namespace FieldFilter.Json

/-- A JSON text as written. -/
inductive Tree
  | null
  | bool (b : Bool)
  | number (n : NumberLiteral)
  | string (units : List StringUnit)
  | array (items : List Tree)
  | object (members : List (List StringUnit × Tree))
  deriving Inhabited

namespace Tree

/-- A container that is still open, with what it holds so far in reverse. -/
inductive Frame
  | array (items : List Tree)
  | object (members : List (List StringUnit × Tree))
  | member (members : List (List StringUnit × Tree)) (key : List StringUnit)

/-- What the grammar allows next. -/
inductive Expectation
  | value | valueOrClose | key | keyOrClose | colon (key : List StringUnit) | separator
  | nothing (tree : Tree)

/-- The open containers, innermost first, and what may follow. -/
structure Reading where
  stack : List Frame
  next : Expectation

namespace Reading

/-- A complete value goes into the innermost open container. -/
def complete (stack : List Frame) (value : Tree) : Option Reading :=
  match stack with
  | [] => some ⟨[], .nothing value⟩
  | .array items :: stack => some ⟨.array (value :: items) :: stack, .separator⟩
  | .member members key :: stack =>
    some ⟨.object ((key, value) :: members) :: stack, .separator⟩
  | .object _ :: _ => none

def startValue (stack : List Frame) : Token → Option Reading
  | .openArray => some ⟨.array [] :: stack, .valueOrClose⟩
  | .openObject => some ⟨.object [] :: stack, .keyOrClose⟩
  | .null => complete stack .null
  | .bool b => complete stack (.bool b)
  | .number n => complete stack (.number n)
  | .string units => complete stack (.string units)
  | _ => none

def close (stack : List Frame) : Token → Option Reading
  | .closeArray =>
    match stack with
    | .array items :: stack => complete stack (.array items.reverse)
    | _ => none
  | .closeObject =>
    match stack with
    | .object members :: stack => complete stack (.object members.reverse)
    | _ => none
  | _ => none

/-- A comma, after which an array goes on with a value and an object with a key. -/
def separate (stack : List Frame) : Option Reading :=
  match stack with
  | .array _ :: _ => some ⟨stack, .value⟩
  | .object _ :: _ => some ⟨stack, .key⟩
  | _ => none

def step (r : Reading) (t : Token) : Option Reading :=
  match r.next with
  | .value => startValue r.stack t
  | .valueOrClose => if t = .closeArray then close r.stack t else startValue r.stack t
  | .key =>
    match t with
    | .string units => some ⟨r.stack, .colon units⟩
    | _ => none
  | .keyOrClose =>
    match t with
    | .string units => some ⟨r.stack, .colon units⟩
    | t => close r.stack t
  | .colon key =>
    match t, r.stack with
    | .colon, .object members :: stack => some ⟨.member members key :: stack, .value⟩
    | _, _ => none
  | .separator => if t = .comma then separate r.stack else close r.stack t
  | .nothing _ => none

/-- The tree, once it is complete. -/
def tree? (r : Reading) : Option Tree :=
  match r.next with
  | .nothing tree => some tree
  | _ => none

end Reading

def ofTokens? (tokens : List Token) : Option Tree :=
  (tokens.foldlM Reading.step ⟨[], .value⟩).bind Reading.tree?

def read? (text : String) : Option Tree :=
  (tokens? text.toList).bind ofTokens?

end Tree

end FieldFilter.Json
