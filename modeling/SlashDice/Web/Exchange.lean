import SlashDice.Json.Value
import SlashDice.Text.Numeral
import SlashDice.Text.Utf8
import SlashDice.Web.Target

/-!
# Requests and responses

The parts of HTTP messages that the service looks at and sets.
-/

namespace SlashDice
namespace Web

open Text

/-- A request.  The value of a header is a list of bytes. -/
structure Request where
  method : String
  target : Target
  headers : List (String × List UInt8)
  body : List UInt8
  deriving Repr

/-- Whether a byte is a visible ASCII character, a space or a tab. -/
def isVisible (byte : UInt8) : Bool :=
  byte == 9 || (0x20 ≤ byte && byte ≤ 0x7E)

/-- Whether a byte may stand in the value of a header. -/
def isLegalInHeader (byte : UInt8) : Bool :=
  byte == 9 || (0x20 ≤ byte && byte != 0x7F)

def isLegalHeader (text : String) : Bool :=
  (Utf8.encode text.toList).all isLegalInHeader

/-- Whether a character may stand in a method or in the name of a header. -/
def isTokenChar (c : Char) : Bool :=
  c.isAlphanum || "!#$%&'*+-.^_\x60|~".toList.contains c

def isToken (text : String) : Bool :=
  !text.isEmpty && text.toList.all isTokenChar

namespace Request

/-- The request with a target that is given as a text, if there can be such a
request. -/
def ofParts? (method target : String) (headers : List (String × List UInt8))
    (body : List UInt8) : Option Request := do
  let target ← Target.ofText? target.toList
  if isToken method && headers.all (fun header =>
      isToken header.1 && header.2.all isLegalInHeader) then
    some { method, target, headers, body }
  else
    none

/-- The bytes of the first header with a name in lower case, in any letter case
of the request. -/
def headerBytes? (request : Request) (name : String) : Option (List UInt8) :=
  (request.headers.find? fun header => header.1.toLower == name).map Prod.snd

/-- The text of a header, if it is there and all of it is visible. -/
def header? (request : Request) (name : String) : Option String :=
  match request.headerBytes? name with
  | some bytes =>
    if bytes.all isVisible then
      some (String.ofList (bytes.map fun byte => Char.ofNat byte.toNat))
    else
      none
  | none => none

def path (request : Request) : String :=
  String.ofList request.target.path

def query (request : Request) : List UInt8 :=
  Utf8.encode (request.target.query.getD [])

/-- The announced length of the body, if it is a number. -/
def contentLength? (request : Request) : Option Nat :=
  (request.header? "content-length").bind fun text =>
    Numeral.naturalBelow? UInt64.size text.toList

end Request

inductive Body
  | text (content : String)
  | json (document : Json.Value)
  deriving Repr

/-- A response.  A header that is not set is not sent. -/
structure Response where
  status : Nat
  contentType : Option String := none
  location : Option String := none
  allow : Option String := none
  body : Body := .text ""
  deriving Repr

namespace Response

def plainType : String := "text/plain; charset=utf-8"

def htmlType : String := "text/html; charset=utf-8"

def jsonType : String := "application/json"

def bare (status : Nat) : Response :=
  { status }

def plain (status : Nat) (content : String) : Response :=
  { status, contentType := some plainType, body := .text content }

def html (content : String) : Response :=
  { status := 200, contentType := some htmlType, body := .text content }

def json (status : Nat) (document : Json.Value) : Response :=
  { status, contentType := some jsonType, body := .json document }

/-- A redirect; one to a place that no header can name says so instead. -/
def redirect (place : String) : Response :=
  if isLegalHeader place then
    { status := 302, location := some place }
  else
    plain 302 "failed to parse header value"

def withoutBody (response : Response) : Response :=
  { response with body := .text "" }

@[simp]
theorem status_bare (status : Nat) : (bare status).status = status :=
  rfl

@[simp]
theorem body_bare (status : Nat) : (bare status).body = .text "" :=
  rfl

@[simp]
theorem status_plain (status : Nat) (content : String) : (plain status content).status = status :=
  rfl

@[simp]
theorem body_plain (status : Nat) (content : String) :
    (plain status content).body = .text content :=
  rfl

@[simp]
theorem body_html (content : String) : (html content).body = .text content :=
  rfl

@[simp]
theorem status_json (status : Nat) (document : Json.Value) :
    (json status document).status = status :=
  rfl

@[simp]
theorem body_withoutBody (response : Response) : response.withoutBody.body = .text "" :=
  rfl

theorem redirect_of_legal {place : String} (legal : isLegalHeader place = true) :
    redirect place = { status := 302, location := some place } :=
  if_pos legal

end Response
end Web
end SlashDice
