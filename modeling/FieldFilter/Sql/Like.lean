/-! Patterns for `LIKE`. A backslash takes the meaning away from the wildcards and from itself,
so that an escaped text matches itself alone.
-/

namespace FieldFilter.Like

/-- A character that stands for itself in a pattern. -/
def escapeChar (c : Char) : List Char :=
  if c = '\\' ∨ c = '%' ∨ c = '_' then ['\\', c] else [c]

/-- The pattern that matches a text alone. -/
def escape (text : String) : String :=
  String.ofList (text.toList.flatMap escapeChar)

/-- The pattern of the texts that start with `text`. -/
def startingWith (text : String) : String :=
  escape text ++ "%"

/-- The pattern of the texts that end with `text`. -/
def endingWith (text : String) : String :=
  "%" ++ escape text

end FieldFilter.Like
