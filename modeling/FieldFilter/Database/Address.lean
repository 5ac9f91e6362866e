import FieldFilter.Text.Percent
import FieldFilter.Url

/-! Addresses of database servers. An address is a locator of any scheme: the server, then the name
of the database and options. The names in it have to be text once their percent escapes are
resolved.
-/

namespace FieldFilter

/-- The parts of an address. -/
structure Address where
  user : String
  password : String
  host : Option Url.Host
  port : Option Nat
  database : String
  options : List (String × String)
  deriving DecidableEq, Repr

namespace Address

/-- A text with its percent escapes and plus signs resolved, as in options. Bytes that are no text
give a replacement character. -/
def formDecoded (cs : List Char) : String :=
  (Text.percentDecoded? (cs.map fun c => if c = '+' then ' ' else c)).getD "\ufffd"

def optionsOf (query : List Char) : List (String × String) :=
  ((Text.pieces (· == '&') query).filter fun piece => !piece.isEmpty).map fun piece =>
    let (name, value) := Text.splitBefore (· == '=') piece
    (formDecoded name, formDecoded (value.drop 1))

/-- An option whose value matters has one that makes sense. -/
def isOption (option : String × String) : Bool :=
  let (name, value) := option
  if name = "ssl-mode" ∨ name = "sslmode" then
    ["disabled", "preferred", "required", "verify_ca", "verify_identity"].contains value.toLower
  else if name = "statement-cache-capacity" then
    match value.toList with
    | '+' :: cs | cs => (Text.readNat? cs).any fun n => n < Word.count
  else true

def ofUrl? (url : Url) : Option Address := do
  let user ← Text.percentDecoded? url.user
  let password ← Text.percentDecoded? url.password
  let database ← Text.percentDecoded? (url.path.dropWhile (· == '/'))
  let options := optionsOf url.query
  if options.all isOption then
    some { user, password, host := url.host, port := url.port, database, options }
  else none

def read? (text : String) : Option Address :=
  (Url.read? text).bind ofUrl?

end Address

end FieldFilter
