import FieldFilter.Text.Alphanumeric
import FieldFilter.Text.Blank
import FieldFilter.Text.Digits

/-! Files that set environment variables, one on each line. A quotation mark or a backslash at the
end of a line joins it to the next one. The first line that makes no sense ends the file, and a
variable that is already set keeps its value.
-/

namespace FieldFilter.EnvironmentFile

/-- Where a walk over the characters of a line stands. -/
inductive Quoting
  | plain | escape | blank | strong | strongEscape | weak | weakEscape
  deriving DecidableEq

namespace Quoting

/-- A character outside of quotation marks. -/
def stepOpen (c : Char) : Quoting :=
  if c = '\\' then escape else if c = '"' then weak else if c = '\'' then strong else plain

/-- One step of the walk, or nothing where a comment starts. -/
def step (c : Char) : Quoting → Option Quoting
  | plain =>
    if Text.isBlank c && c != '\n' && c != '\r' then some blank else some (stepOpen c)
  | escape => some plain
  | blank => if c = '#' then none else some (stepOpen c)
  | strong => some (if c = '\\' then strongEscape else if c = '\'' then plain else strong)
  | strongEscape => some strong
  | weak => some (if c = '\\' then weakEscape else if c = '"' then plain else weak)
  | weakEscape => some weak

end Quoting

/-- The characters of a line before a comment, in reverse after `done`, and where the walk ends
unless there is a comment. -/
def walk (done : List Char) (q : Quoting) : List Char → List Char × Option Quoting
  | [] => (done, some q)
  | c :: cs =>
    match q.step c with
    | none => (done, none)
    | some q => walk (c :: done) q cs

/-- The lines of a text, each with its line break. -/
def linesOf : List Char → List (List Char)
  | [] => []
  | c :: cs =>
    if c = '\n' then ['\n'] :: linesOf cs
    else match linesOf cs with
      | [] => [[c]]
      | line :: lines => (c :: line) :: lines

def withoutBreak (line : List Char) : List Char :=
  match line.reverse with
  | '\n' :: '\r' :: rest => rest.reverse
  | '\n' :: rest => rest.reverse
  | _ => line

/-- The lines joined across quotation marks, after the characters of an unfinished one. A line
that never ends is nothing. -/
def joined (unfinished : List Char) (q : Quoting) : List (List Char) → List (Option (List Char))
  | [] => if q = .plain then [] else [none]
  | line :: lines =>
    if (Text.trimStart (unfinished ++ line)).head? == some '#' then
      some [] :: joined [] .plain lines
    else match walk unfinished.reverse q line with
      | (done, none) => some done.reverse :: joined [] .plain lines
      | (done, some .plain) => some (withoutBreak done.reverse) :: joined [] .plain lines
      | (done, some q) => joined done.reverse q lines

/-- Where the reading of a value stands. -/
inductive Place
  | plain
  | weak
  | strong
  /-- After a backslash. -/
  | escape (inWeak : Bool)
  /-- After a dollar sign, with the letters and digits of the name so far in reverse. -/
  | reference (inWeak : Bool) (name : List Char)
  /-- After a dollar sign and a brace. -/
  | braced (inWeak : Bool) (name : List Char)
  /-- After a blank, where only a comment may follow. -/
  | finished
  | comment
  deriving DecidableEq

/-- The value so far, in reverse, and the place. -/
structure Reading where
  done : List Char
  place : Place

namespace Reading

/-- The place outside of everything but perhaps quotation marks. -/
def outside (inWeak : Bool) : Place :=
  if inWeak then .weak else .plain

/-- The value of a variable that is referred to, which is empty when it is not set. -/
def refer (lookup : String → Option String) (name done : List Char) : List Char :=
  ((lookup (String.ofList name.reverse)).getD "").toList.reverse ++ done

def escaped? (c : Char) : Option Char :=
  if c = 'n' then some '\n' else if ("\\'\"$ ").contains c then some c else none

def step (lookup : String → Option String) (r : Reading) (c : Char) : Option Reading :=
  match r.place with
  | .plain =>
    if c = '$' then some ⟨r.done, .reference false []⟩
    else if c = '\'' then some ⟨r.done, .strong⟩
    else if c = '"' then some ⟨r.done, .weak⟩
    else if c = '\\' then some ⟨r.done, .escape false⟩
    else if c = ' ' ∨ c = '\t' then some ⟨r.done, .finished⟩
    else some ⟨c :: r.done, .plain⟩
  | .weak =>
    if c = '$' then some ⟨r.done, .reference true []⟩
    else if c = '"' then some ⟨r.done, .plain⟩
    else if c = '\\' then some ⟨r.done, .escape true⟩
    else some ⟨c :: r.done, .weak⟩
  | .strong => if c = '\'' then some ⟨r.done, .plain⟩ else some ⟨c :: r.done, .strong⟩
  | .escape inWeak => (escaped? c).map fun e => ⟨e :: r.done, outside inWeak⟩
  | .reference inWeak name =>
    if Text.isAlphanumeric c then some ⟨r.done, .reference inWeak (c :: name)⟩
    else if c = '\x7b' ∧ name.isEmpty then some ⟨r.done, .braced inWeak []⟩
    else
      let done := refer lookup name r.done
      if c = '$' then some ⟨done, .reference inWeak []⟩ else some ⟨c :: done, outside inWeak⟩
  | .braced inWeak name =>
    if c = '\x7d' then some ⟨refer lookup name r.done, outside inWeak⟩
    else some ⟨r.done, .braced inWeak (c :: name)⟩
  | .finished =>
    if c = ' ' ∨ c = '\t' then some r else if c = '#' then some ⟨r.done, .comment⟩ else none
  | .comment => some r

/-- The value at the end of its text, unless something is still open. -/
def value? (lookup : String → Option String) (r : Reading) : Option String :=
  match r.place with
  | .plain | .finished | .comment | .escape false => some (String.ofList r.done.reverse)
  | .reference false name => some (String.ofList (refer lookup name r.done).reverse)
  | .weak | .strong | .escape true | .reference true _ | .braced _ _ => none

end Reading

def value? (lookup : String → Option String) (cs : List Char) : Option String :=
  (cs.foldlM (Reading.step lookup) ⟨[], .plain⟩).bind (Reading.value? lookup)

/-- A character that may start the name of a variable that is set. -/
def startsKey (c : Char) : Bool :=
  ('a' ≤ c && c ≤ 'z') || ('A' ≤ c && c ≤ 'Z') || c == '_'

/-- The name of a variable that is set, and the text after it. -/
def key? (cs : List Char) : Option (String × List Char) :=
  if cs.head?.any startsKey then
    let (key, rest) := cs.span fun c => startsKey c || Text.isDigit c || c == '.'
    some (String.ofList key, Text.trimStart rest)
  else none

def afterEquals? : List Char → Option (List Char)
  | '=' :: cs => some (Text.trimStart cs)
  | _ => none

/-- The name and the text of the value on a line, where the word `export` may come first. -/
def assignment? (cs : List Char) : Option (String × List Char) := do
  let (key, rest) ← key? cs
  match afterEquals? rest with
  | some value => return (key, value)
  | none =>
    if key = "export" then
      let (key, rest) ← key? rest
      return (key, ← afterEquals? rest)
    else none

/-- The variable that a line sets, if it sets one; nothing when it makes no sense. -/
def binding? (lookup : String → Option String) (line : List Char)
    : Option (Option (String × String)) :=
  let cs := Text.trim line
  if cs.isEmpty || cs.head? == some '#' then some none
  else do
    let (key, text) ← assignment? cs
    if text.isEmpty || text.head? == some '#' then return some (key, "")
    return some (key, ← value? lookup text)

/-- The variables that some lines set, after those that are `bound`. -/
def bindings (environment : String → Option String) (bound : List (String × String))
    : List (Option (List Char)) → List (String × String)
  | [] | none :: _ => bound
  | some line :: lines =>
    let lookup (name : String) := (environment name).or (bound.lookup name)
    match binding? lookup line with
    | none => bound
    | some none => bindings environment bound lines
    | some (some (key, value)) =>
      bindings environment (if (lookup key).isSome then bound else (key, value) :: bound) lines

/-- The environment after a file: variables that were set before keep their values. -/
def extend (environment : String → Option String) (text : String) : String → Option String :=
  let cs := match text.toList with
    | '\ufeff' :: cs => cs
    | cs => cs
  let bound := bindings environment [] (joined [] .plain (linesOf cs))
  fun name => (environment name).or (bound.lookup name)

end FieldFilter.EnvironmentFile
