import FluentSql.Text.Blank
import FluentSql.Text.Percent
import FluentSql.Url.Address

/-! The host of a URL. Under most schemes a host is any text without certain marks, kept as it is
but for percent-encoding, or an address of 128 bits in brackets. The schemes of the web decode it,
take its letters in lower case and read addresses of 32 bits as such. -/

namespace FluentSql

inductive UrlError where
  | noScheme
  | emptyHost
  | port
  | hostCharacter
  | domain
  | ipv4
  | ipv6
  deriving DecidableEq, Repr

def UrlError.message : UrlError → String
  | .noScheme => "relative URL without a base"
  | .emptyHost => "empty host"
  | .port => "invalid port number"
  | .hostCharacter => "invalid domain character"
  | .domain => "invalid international domain name"
  | .ipv4 => "invalid IPv4 address"
  | .ipv6 => "invalid IPv6 address"

namespace Url.Host

open Text

/-- The marks that no host contains. -/
def marks : List Char :=
  ['\x00', '\t', '\n', '\r', ' ', '#', '/', ':', '<', '>', '?', '@', '[', '\\', ']', '^', '|']

/-- The address between brackets. -/
def bracketed (s : List Char) : Except UrlError String :=
  if s.getLast? = some ']' then
    match Ipv6.read? s.dropLast with
    | some ns => .ok ("[" ++ Ipv6.text ns ++ "]")
    | none => .error .ipv6
  else .error .ipv6

/-- A host as it is, octets that are no visible ASCII percent-encoded. -/
def ofText : List Char → Except UrlError String
  | '[' :: s => bracketed s
  | s =>
    if s.any marks.contains then .error .hostCharacter
    else .ok (Percent.encode (fun c => 0x20 ≤ c.toNat && c.toNat < 0x7F) (String.ofList s))

/-- A character that no domain name contains. -/
def isForbidden (c : Char) : Bool :=
  marks.contains c || c.toNat < 0x20 || c == '%' || c == '\x7F'

/-- A host of the web: a domain name in lower case, or an address. -/
def ofDomain : List Char → Except UrlError String
  | '[' :: s => bracketed s
  | s => do
    let name ← (Percent.decode (String.ofList s)).mapError fun _ => .domain
    if name.toList.any isForbidden then throw .domain
    let name := lower name
    if name.isEmpty then throw .emptyHost
    if Ipv4.isMeant name.toList then
      match Ipv4.read? name.toList with
      | some octets => return Ipv4.text octets
      | none => throw .ipv4
    return name

end Url.Host

end FluentSql
