import FieldFilter.Text.Percent
import FieldFilter.Url.Bracketed
import FieldFilter.Url.HostName
import FieldFilter.Url.Segments

/-! Uniform resource locators. What stands between the scheme and the query depends on the scheme:
web addresses have a server, whose name is mapped and checked; files may have one; and under any
other scheme there is a server only after two slashes, and its name is taken as it stands.
-/

namespace FieldFilter

/-- The host of a server. -/
inductive Url.Host
  | name (labels : List Url.Label)
  | address (number : Nat)
  | bracketed (text : String)
  /-- A name that is taken as it stands. -/
  | verbatim (text : String)
  deriving DecidableEq, Repr

/-- The parts of a locator. Escapes in them are not resolved. -/
structure Url where
  scheme : String
  user : List Char
  password : List Char
  host : Option Url.Host
  port : Option Nat
  path : List Char
  query : List Char
  deriving DecidableEq, Repr

namespace Url

/-- What follows a scheme. -/
inductive Kind
  | web | file | other
  deriving DecidableEq, Repr

def webSchemes : List String :=
  ["http", "https", "ws", "wss", "ftp"]

def Kind.ofScheme (scheme : String) : Kind :=
  if webSchemes.contains scheme then .web else if scheme = "file" then .file else .other

/-- Slashes separate segments, and under some schemes backslashes do too. -/
def Kind.separates (kind : Kind) (c : Char) : Bool :=
  c == '/' || (kind != .other && c == '\\')

/-- The text of a scheme: a letter, then letters, digits, and a few signs. -/
def isScheme : List Char → Bool
  | [] => false
  | c :: cs =>
    Segments.isLetter c && cs.all fun c => Segments.isLetter c || Text.isDigit c || "+-.".contains c

/-- The characters of a locator: without control characters and blanks at either end, and without
tabs and line breaks anywhere. -/
def significant (text : String) : List Char :=
  let outer (c : Char) : Bool := c.toNat ≤ 0x20
  let inner := ((text.toList.dropWhile outer).reverse.dropWhile outer).reverse
  inner.filter fun c => c != '\t' && c != '\n' && c != '\r'

/-- The host that a text names after a percent escape is resolved, if it is not in brackets: an
address of four bytes if the last label is a number, and else the name. -/
def namedHost? (cs : List Char) : Option Host := do
  let text ← Text.percentDecoded? cs
  let labels ← labelsOf? (text.toList.map Char.toNat)
  if labels = [[]] then none
  if Numeric.endsInNumber labels then (Numeric.read? labels).map .address else some (.name labels)

def bracketedHost? (cs : List Char) : Option Host :=
  if cs.getLast? = some ']' ∧ Bracketed.isAddress cs.dropLast then
    some (.bracketed (String.ofList cs.dropLast))
  else none

def host? (kind : Kind) (cs : List Char) : Option Host :=
  match cs with
  | '[' :: cs => bracketedHost? cs
  | cs =>
    if kind != .other then namedHost? cs
    else if cs.any fun c => ("\x00 #/:<>?@[\\]^|").contains c then none
    else some (.verbatim (String.ofList cs))

/-- The texts before and after the last at sign, or nothing and the whole text. -/
def splitUser (cs : List Char) : Option (List Char) × List Char :=
  let (host, rest) := Text.splitBefore (· == '@') cs.reverse
  match rest with
  | [] => (none, cs)
  | _ :: user => (some user.reverse, host.reverse)

/-- The texts before and after the first colon outside of brackets. -/
def splitPort (inBrackets : Bool) : List Char → List Char × Option (List Char)
  | [] => ([], none)
  | c :: cs =>
    if c = ':' ∧ !inBrackets then ([], some cs)
    else
      let (host, port) := splitPort (c == '[' || (inBrackets && c != ']')) cs
      (c :: host, port)

/-- The port at the start of a text, unless its digits are missing, and what follows it: nothing,
or a path after a backslash. -/
def readPort? (cs : List Char) : Option (Option Nat × List Char) :=
  let digits := cs.takeWhile Text.isDigit
  let rest := cs.drop digits.length
  if !(rest.isEmpty || rest.head? == some '\\') then none
  else if digits.isEmpty then some (none, rest)
  else
    (Text.readNat? digits).bind fun n => if n ≤ 65535 then some (some n, rest) else none

/-- The server of a locator, which `isFollowed` by something or not, and what belongs to the path
after it already. A port or a user needs a host, and so does the web. -/
def readServer? (kind : Kind) (isFollowed : Bool) (cs : List Char)
    : Option (Url × List Char) := do
  let (login, server) := splitUser cs
  if login = some [] ∧ server.isEmpty ∧ isFollowed then none
  let (user, password) := Text.splitBefore (· == ':') (login.getD [])
  let password := password.drop 1
  let (name, portText) := splitPort false server
  if name.isEmpty then
    if portText.isSome ∨ !user.isEmpty ∨ !password.isEmpty ∨ kind = .web then none
    return ({ scheme := "", user, password, host := none, port := none, path := [], query := [] }, [])
  let host ← host? kind name
  let (port, rest) ← readPort? (portText.getD [])
  return ({ scheme := "", user, password, host, port, path := [], query := [] }, rest)

def withoutServer : Url :=
  { scheme := "", user := [], password := [], host := none, port := none, path := [], query := [] }

/-- The locator of a file, by the text after the scheme. Its host is what stands after two slashes,
unless that is the letter of a drive. -/
def readFile? (cs : List Char) : Option Url :=
  let located (host : Option Host) (path : List Char) : Url :=
    { withoutServer with host, path := Segments.resolvePath Kind.file.separates path }
  match cs with
  | c :: d :: rest =>
    if Kind.file.separates c ∧ Kind.file.separates d then
      let (name, path) := Text.splitBefore Kind.file.separates rest
      if name.isEmpty ∨ Segments.isDrive name then some (located none rest)
      else (host? .file name).map fun host => located (some host) path
    else some (located none cs)
  | cs => some (located none cs)

/-- The path of a locator after a server. Only under a scheme of the web it is never empty. -/
def serverPath (kind : Kind) (cs : List Char) : List Char :=
  if cs.isEmpty ∧ kind ≠ .web then [] else Segments.resolvePath kind.separates cs

/-- The locator of a server, by the text after the slashes. -/
def readRemote? (kind : Kind) (hasMore : Bool) (cs : List Char) : Option Url := do
  let (server, path) := Text.splitBefore kind.separates cs
  let (url, rest) ← readServer? kind (hasMore || !path.isEmpty) server
  return { url with path := serverPath kind (rest ++ path) }

/-- A locator, by the text between the scheme and the query. -/
def readBody? (kind : Kind) (hasMore : Bool) (cs : List Char) : Option Url :=
  match kind, cs with
  | .web, cs => readRemote? .web hasMore (cs.dropWhile Kind.web.separates)
  | .file, cs => readFile? cs
  | .other, '/' :: '/' :: cs => readRemote? .other hasMore cs
  | .other, '/' :: cs =>
    some { withoutServer with path := Segments.resolvePath Kind.other.separates ('/' :: cs) }
  | .other, cs => some { withoutServer with path := cs }

def read? (text : String) : Option Url := do
  let (scheme, rest) := Text.splitBefore (· == ':') (significant text)
  if !isScheme scheme ∨ rest.isEmpty then none
  let scheme := (String.ofList scheme).toLower
  let (rest, fragment) := Text.splitBefore (· == '#') (rest.drop 1)
  let (rest, query) := Text.splitBefore (· == '?') rest
  let hasMore := !query.isEmpty || !fragment.isEmpty
  let url ← readBody? (.ofScheme scheme) hasMore rest
  return { url with scheme, query := query.drop 1 }

end Url

end FieldFilter
