import SlashDice.Text.Pieces
import SlashDice.Text.Utf8

/-!
# Targets of requests

A target is a path with or without a query, the same after a scheme and the name
of a host, the name of a host alone, or an asterisk.  Only the path and the query
are kept; what follows a number sign belongs to neither.
-/

namespace SlashDice
namespace Web

open Text

/-- What a request is for. -/
structure Target where
  path : List Char
  query : Option (List Char)
  deriving DecidableEq, Repr

namespace Target

def maxBytes : Nat := 65534

def maxSchemeLength : Nat := 64

def isPathChar (c : Char) : Bool :=
  0x20 < c.toNat && c != '<' && c != '>' && c != '`'

def isQueryChar (c : Char) : Bool :=
  0x20 < c.toNat && c != '<' && c != '>' && c != '"'

def isSchemeChar (c : Char) : Bool :=
  c.isAlphanum || c == '+' || c == '-' || c == '.'

def endsHost (c : Char) : Bool :=
  c == '/' || c == '?' || c == '#'

/-- Whether a character may stand in the name of a host or beside it. -/
def isHostChar (c : Char) : Bool :=
  c.isAlphanum || "!$&'()*+,-.:;=@[]_~%".toList.contains c

/-- What has been seen of a host: colons that may begin a port, brackets, whether
an escape stands outside brackets and the name of a user, and whether the last
character ended the name of a user. -/
structure HostState where
  colons : Nat := 0
  opened : Bool := false
  closed : Bool := false
  escaped : Bool := false
  afterUser : Bool := false
  deriving DecidableEq, Repr

namespace HostState

def next? (state : HostState) (c : Char) : Option HostState :=
  let state := { state with afterUser := false }
  if c = ':' then
    if 8 ≤ state.colons then none else some { state with colons := state.colons + 1 }
  else if c = '[' then
    if state.escaped || state.opened then none else some { state with opened := true }
  else if c = ']' then
    if !state.opened || state.closed then none
    else some { state with closed := true, colons := 0, escaped := false }
  else if c = '@' then
    some { state with afterUser := true, colons := 0, escaped := false }
  else if c = '%' then
    some { state with escaped := true }
  else if isHostChar c then
    some state
  else
    none

def mayEnd (state : HostState) : Bool :=
  state.opened == state.closed && state.colons ≤ 1 && !state.afterUser && !state.escaped

end HostState

/-- Whether a text is a host, perhaps with a user before it and a port after it. -/
def isHost (text : List Char) : Bool :=
  match text.foldlM HostState.next? {} with
  | some state => state.mayEnd
  | none => false

/-- Reads a path and a query.  A missing path is the root. -/
def ofPathAndQuery? (text : List Char) : Option Target :=
  let shown := beforeFirst '#' text
  let path := beforeFirst '?' shown
  let query := (cutFirst? '?' shown).map Prod.snd
  if path.all isPathChar && (query.getD []).all isQueryChar then
    some ⟨if path = [] then ['/'] else path, query⟩
  else
    none

/-- Reads what follows the scheme: a host, a path and a query. -/
def afterScheme? (text : List Char) : Option Target :=
  let host := text.takeWhile fun c => !endsHost c
  if host ≠ [] ∧ isHost host = true then ofPathAndQuery? (text.drop host.length) else none

/-- Reads a target that does not begin with a slash.  A host alone has no path. -/
def ofHost? (text : List Char) : Option Target :=
  match text.dropWhile isSchemeChar with
  | ':' :: '/' :: '/' :: rest =>
    if maxSchemeLength < (text.takeWhile isSchemeChar).length then none else afterScheme? rest
  | _ => if text ≠ [] ∧ isHost text = true then some ⟨[], none⟩ else none

def ofText? (text : List Char) : Option Target :=
  if maxBytes < (Utf8.encode text).length then
    none
  else
    match text with
    | ['*'] => some ⟨['*'], none⟩
    | '/' :: _ => ofPathAndQuery? text
    | _ => ofHost? text

end Target
end Web
end SlashDice
