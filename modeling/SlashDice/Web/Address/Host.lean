import SlashDice.Text.Percent
import SlashDice.Web.Address.Fault
import SlashDice.Web.Address.Ipv6
import SlashDice.Web.Domain.Basic

/-!
# Hosts of addresses

A host is a name or an address of 32 or 128 bits, the latter in brackets.  The
schemes of the web look names up, so their hosts may have escapes and characters
of any script; the hosts of other schemes are taken as they are.
-/

namespace SlashDice
namespace Web

open Text

inductive Host
  | name (text : List Char)
  | ipv4 (value : Nat)
  | ipv6 (groups : List Nat)
  deriving DecidableEq, Repr

namespace Host

def text : Host → List Char
  | name text => text
  | ipv4 value => Ipv4.text value
  | ipv6 groups => '[' :: (Ipv6.text groups ++ [']'])

def ofBracketed (rest : List Char) : Except AddressFault Host :=
  match rest.reverse with
  | ']' :: inner =>
    match Ipv6.ofText? inner.reverse with
    | some groups => .ok (ipv6 groups)
    | none => .error .badIpv6
  | _ => .error .badIpv6

/-- The host behind a name in the form in which it is looked up. -/
def ofLookup (found : List Char) : Except AddressFault Host :=
  if found = [] then .error .emptyHost
  else if Ipv4.endsInNumber found then
    match Ipv4.ofText? found with
    | some value => .ok (ipv4 value)
    | none => .error .badIpv4
  else .ok (name found)

def ofText : List Char → Except AddressFault Host
  | '[' :: rest => ofBracketed rest
  | text =>
    match Domain.lookup? (Utf8.decode (Percent.bytes text)) with
    | some found => ofLookup found
    | none => .error .badName

/-- Whether a character may not stand in a host that is taken as it is. -/
def isForbidden (c : Char) : Bool :=
  c == '\x00' || "\t\n\r #/:<>?@[\\]^|".toList.contains c

def ofPlainText : List Char → Except AddressFault Host
  | '[' :: rest => ofBracketed rest
  | text =>
    if text.any isForbidden then .error .badCharacter
    else .ok (name (Percent.encode [] text))

end Host
end Web
end SlashDice
