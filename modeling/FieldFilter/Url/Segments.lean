import FieldFilter.Text.Digits
import FieldFilter.Text.Pieces

/-! The segments of a path. A segment of one point stays where it is and one of two points goes
back over the segment before it, where a point may be written as a percent escape. Nothing goes
back over the letter of a drive.
-/

namespace FieldFilter.Url.Segments

/-- A segment with the escapes of points resolved. -/
def plainPoints : List Char → List Char
  | '%' :: '2' :: e :: cs =>
    if e = 'e' ∨ e = 'E' then '.' :: plainPoints cs else '%' :: '2' :: plainPoints (e :: cs)
  | c :: cs => c :: plainPoints cs
  | [] => []

/-- The segment that stays where it is. -/
def isHere (segment : List Char) : Bool :=
  plainPoints segment == ['.']

/-- The segment that goes back. -/
def isBack (segment : List Char) : Bool :=
  plainPoints segment == ['.', '.']

def isLetter (c : Char) : Bool :=
  ('a' ≤ c && c ≤ 'z') || ('A' ≤ c && c ≤ 'Z')

def isDriveMark (c : Char) : Bool :=
  c == ':' || c == '|'

/-- A segment is the letter of a drive, by itself or before a backslash. -/
def isDrive : List Char → Bool
  | [letter, mark] => isLetter letter && isDriveMark mark
  | letter :: mark :: '\\' :: _ => isLetter letter && isDriveMark mark
  | _ => false

/-- The segments, in reverse, without the last of them. -/
def back : List (List Char) → List (List Char)
  | [] => []
  | segment :: before => if isDrive segment then segment :: before else before

/-- The segments that are left after those in `done`, which are in reverse. A way that ends in
points leads to a directory, which an empty segment says. -/
def resolved (done : List (List Char)) : List (List Char) → List (List Char)
  | [] => done.reverse
  | segment :: rest =>
    let ending := if rest.isEmpty then [[]] else []
    if isBack segment then resolved (ending ++ back done) rest
    else if isHere segment then resolved (ending ++ done) rest
    else resolved (segment :: done) rest

/-- The path of some segments, each after a slash. -/
def path (segments : List (List Char)) : List Char :=
  segments.flatMap ('/' :: ·)

/-- A path with its points resolved. Some characters separate segments, and the first segment may
stand after such a character or without it. -/
def resolvePath (separates : Char → Bool) (cs : List Char) : List Char :=
  let segments :=
    match Text.pieces separates cs with
    | [] :: first :: rest => first :: rest
    | segments => segments
  path (resolved [] segments)

end FieldFilter.Url.Segments
