import QueryDesk.Url.Domain
import QueryDesk.Url.Ipv4
import QueryDesk.Url.Ipv6
import QueryDesk.Url.Percent

/-!
# Hosts

A host in brackets is an address of eight pieces. With a scheme of the known ones any
other host is a domain, or an address of four bytes if it ends in a number; with an
unknown scheme it is any text without certain signs.
-/
namespace QueryDesk.Url

/-- What is wrong with a base address. -/
inductive UrlError where
  | noScheme
  | emptyHost
  | badDomain
  | badDomainCharacter
  | badPort
  | badIpv4
  | badIpv6
  deriving DecidableEq, Repr

def UrlError.message : UrlError → String
  | .noScheme => "relative URL without a base"
  | .emptyHost => "empty host"
  | .badDomain => "invalid international domain name"
  | .badDomainCharacter => "invalid domain character"
  | .badPort => "invalid port number"
  | .badIpv4 => "invalid IPv4 address"
  | .badIpv6 => "invalid IPv6 address"

/-- The address in brackets that makes up a text. -/
def readBracketed (text : List Char) : Except UrlError (List Char) :=
  if text.getLast? = some ']' then
    match readIpv6? (text.drop 1).dropLast with
    | some pieces => .ok ('[' :: ipv6Text pieces ++ [']'])
    | none => .error .badIpv6
  else .error .badIpv6

/-- The written form of a host after a known scheme. -/
def readDomainHost (text : List Char) : Except UrlError (List Char) :=
  if text.head? = some '[' then readBracketed text
  else
    match Text.readUtf8 (percentDecode (Text.utf8 text)) with
    | .error _ => .error .badDomain
    | .ok decoded =>
        match domainToAscii? decoded with
        | none => .error .badDomain
        | some domain =>
            if domain.isEmpty then .error .emptyHost
            else if endsInNumber domain then
              match readIpv4? domain with
              | some address => .ok (ipv4Text address)
              | none => .error .badIpv4
            else .ok domain

/-- The signs that may not stand in a host after an unknown scheme. -/
def isForbiddenInHost (c : Char) : Bool :=
  ['\x00', '\t', '\n', '\r', ' ', '#', '/', ':', '<', '>', '?', '@', '[', '\\', ']', '^', '|'].contains c

/-- A printable character of ASCII. -/
def isPrintable (c : Char) : Bool := 0x20 ≤ c.toNat && c.toNat < 0x7F

/-- The written form of a host after an unknown scheme. -/
def readOpaqueHost (text : List Char) : Except UrlError (List Char) :=
  if text.head? = some '[' then readBracketed text
  else if text.any isForbiddenInHost then .error .badDomainCharacter
  else .ok (percentEncode isPrintable text)

end QueryDesk.Url
