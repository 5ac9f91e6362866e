import FieldFilter.Text.Blank

/-! Paths of files. A path that starts with a tilde alone is taken from the home directory.
-/

namespace FieldFilter.Path

/-- A path below a directory; an absolute path stands alone. -/
def join (directory path : String) : String :=
  if path.startsWith "/" || directory = "" then path
  else if directory.endsWith "/" then directory ++ path
  else directory ++ "/" ++ path

/-- The path that a text names, without blanks around it. -/
def expand (home : Option String) (text : String) : String :=
  let path := Text.trimmed text
  match home with
  | none => path
  | some home =>
    if path = "~" then home
    else if path.startsWith "~/" then join home (String.ofList (path.toList.drop 2))
    else path

end FieldFilter.Path
