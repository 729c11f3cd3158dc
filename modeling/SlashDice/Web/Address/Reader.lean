import SlashDice.Web.Address.Basic
import SlashDice.Web.Address.Path

/-!
# Reading addresses

Reading takes a text with blanks around it and line ends in it and gives the
address in normal form: letters of the scheme and names of hosts in lower case, no
standard port, no steps in the path, and escapes for the characters that may not
stand in a part.
-/

namespace SlashDice
namespace Web
namespace Address

open Text

/-- A text without surrounding control characters and blanks, and without tabs and
line ends. -/
def clean (text : List Char) : List Char :=
  let isOuter := fun c : Char => c.toNat ≤ 0x20
  let inner := ((text.dropWhile isOuter).reverse.dropWhile isOuter).reverse
  inner.filter fun c => c ≠ '\t' ∧ c ≠ '\n' ∧ c ≠ '\r'

/-- Whether a text may be a scheme: a letter, then letters, digits and three
marks. -/
def isScheme : List Char → Bool
  | [] => false
  | c :: rest =>
    c.isAlpha && rest.all fun c => c.isAlphanum || c == '+' || c == '-' || c == '.'

def escapedInUser : List Char := escapedInPath ++ "/:;=@[\\]^|".toList

/-- The characters of a query that are written as escapes; an apostrophe only where
a backslash stands for a slash. -/
def escapedInQuery (kind : SchemeKind) : List Char :=
  " \"#<>".toList ++ (if kind.takesBackslash then ['\x27'] else [])

def escapedInFragment : List Char := " \"<>`".toList

def isSlash (kind : SchemeKind) (c : Char) : Bool :=
  c == '/' || (kind.takesBackslash && c == '\\')

def endsAuthority (kind : SchemeKind) (c : Char) : Bool :=
  isSlash kind c || c == '?' || c == '#'

structure Tail where
  path : List Char
  query : Option (List Char)
  fragment : Option (List Char)
  deriving DecidableEq, Repr

def Tail.ofText (text : List Char) : Tail :=
  let shown := beforeFirst '#' text
  { path := beforeFirst '?' shown
    query := (cutFirst? '?' shown).map Prod.snd
    fragment := (cutFirst? '#' text).map Prod.snd }

def assemble (kind : SchemeKind) (scheme : List Char) (authority : Option Authority)
    (path : List Char) (tail : Tail) : Address where
  scheme := scheme
  authority := authority
  path := path
  query := tail.query.map fun query => Percent.encode (escapedInQuery kind) query
  fragment := tail.fragment.map fun fragment => Percent.encode escapedInFragment fragment

def dropSlash (kind : SchemeKind) : List Char → List Char
  | [] => []
  | c :: rest => if isSlash kind c then rest else c :: rest

/-! ## Whoever calls the host -/

/-- Reads a name and a password; an empty password is none. -/
def readUser (text : List Char) : List Char × Option (List Char) :=
  let escape := Percent.encode escapedInUser
  match cutFirst? ':' text with
  | some (username, []) => (escape username, none)
  | some (username, password) => (escape username, some (escape password))
  | none => (escape text, none)

/-! ## The host and its port -/

/-- The host at the beginning of a text, and what follows it: it ends at a colon
outside brackets. -/
def splitHost (inBrackets : Bool) : List Char → List Char × List Char
  | [] => ([], [])
  | c :: rest =>
    if c = ':' ∧ inBrackets = false then
      ([], c :: rest)
    else
      let inside := if c = '[' then true else if c = ']' then false else inBrackets
      let (host, after) := splitHost inside rest
      (c :: host, after)

/-- Reads a port and what follows it: nothing, or a backslash that stands for
itself.  No digits are no port. -/
def readPort (kind : SchemeKind) (text : List Char) :
    Except AddressFault (Option Nat × List Char) :=
  let digits := text.takeWhile Char.isDigit
  let after := text.drop digits.length
  let number := Nat.ofDigitChars 10 digits 0
  if UInt16.size ≤ number ∨ after.head?.any (· != '\\') = true then .error .badPort
  else .ok (if digits = [] ∨ kind.standsFor number = true then none else some number, after)

def readHost (kind : SchemeKind) (host after : List Char) : Except AddressFault Host :=
  if host = [] then
    if kind = .other ∧ after = [] then .ok (.name []) else .error .emptyHost
  else if kind = .other then
    Host.ofPlainText host
  else
    Host.ofText host

/-- Reads an authority, and gives what does not belong to it.  Nobody calls a host
without a name. -/
def readAuthority (kind : SchemeKind) (text rest : List Char) :
    Except AddressFault (Authority × List Char) := do
  let (user, place) := (cutLast? '@' text).getD ([], text)
  if user = [] ∧ place = [] ∧ text ≠ [] ∧ rest ≠ [] then
    throw .emptyHost
  let (username, password) := readUser user
  let (hostText, after) := splitHost false place
  let host ← readHost kind hostText after
  let (port, left) ← match after with
    | ':' :: digits => readPort kind digits
    | _ => pure (none, after)
  let authority : Authority := { username, password, host, port }
  if host = .name [] ∧ authority.userText ≠ [] then
    throw .emptyHost
  return (authority, left ++ rest)

/-! ## Addresses of each kind -/

/-- The path after an authority.  Only where a backslash stands for itself it may be
missing. -/
def pathAfter (kind : SchemeKind) (path : List Char) : List Char :=
  if path = [] ∧ kind = .other then []
  else (readFolders false kind.takesBackslash (dropSlash kind path)).text

def readWithAuthority (kind : SchemeKind) (scheme text : List Char) :
    Except AddressFault Address := do
  let authorityText := text.takeWhile fun c => !endsAuthority kind c
  let (authority, left) ← readAuthority kind authorityText (text.drop authorityText.length)
  let tail := Tail.ofText left
  return assemble kind scheme (some authority) (pathAfter kind tail.path) tail

def readOther (scheme text : List Char) : Except AddressFault Address :=
  match text with
  | '/' :: '/' :: rest => readWithAuthority .other scheme rest
  | '/' :: rest =>
    let tail := Tail.ofText rest
    .ok (assemble .other scheme none (readFolders false false tail.path).text tail)
  | _ =>
    let tail := Tail.ofText text
    .ok (assemble .other scheme none (Percent.encode [] tail.path) tail)

/-- The address of a file at a host.  Empty folders at the beginning of the path are
left out, and a path on a drive has no host. -/
def fileAddress (host : Host) (path : List Char) (tail : Tail) : Address :=
  let folders := readFolders true true path
  let host := if folders.hasDrive then .name [] else host
  assemble .file "file".toList (some { host }) ('/' :: folders.text.dropWhile (· == '/')) tail

/-- Reads the host of a file; the machine itself needs no name. -/
def readFileHost (text : List Char) : Except AddressFault Host :=
  if text = [] then
    .ok (.name [])
  else
    (Host.ofText text).map fun host =>
      if host = .name "localhost".toList then .name [] else host

def readFile (text : List Char) : Except AddressFault Address :=
  let startsPath := fun text =>
    let tail := Tail.ofText text
    fileAddress (.name []) (dropSlash .file tail.path) tail
  match text with
  | first :: second :: rest =>
    if isSlash .file first && isSlash .file second then
      let hostText := rest.takeWhile fun c => !endsAuthority .file c
      if Folder.isDrive hostText then
        .ok (startsPath rest)
      else
        (readFileHost hostText).map fun host =>
          let tail := Tail.ofText (rest.drop hostText.length)
          fileAddress host (dropSlash .file tail.path) tail
    else
      .ok (startsPath text)
  | _ => .ok (startsPath text)

def ofText (text : String) : Except AddressFault Address :=
  match cutFirst? ':' (clean text.toList) with
  | none => .error .noScheme
  | some (opening, rest) =>
    if isScheme opening then
      let scheme := opening.map Char.toLower
      match SchemeKind.ofName scheme with
      | .file => readFile rest
      | .network port =>
        readWithAuthority (.network port) scheme (rest.dropWhile (isSlash (.network port)))
      | .other => readOther scheme rest
    else
      .error .noScheme

end Address
end Web
end SlashDice
