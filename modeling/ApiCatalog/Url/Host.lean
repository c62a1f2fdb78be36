import ApiCatalog.Url.Domain
import ApiCatalog.Url.Encoded

/-! # Hosts of URLs

When the host of a URL is valid: domains, IPv4 and IPv6 addresses, and opaque hosts.
-/

namespace ApiCatalog

inductive UrlFault where
  | noBase
  | emptyHost
  | invalidPort
  | invalidIpv4
  | invalidIpv6
  | invalidDomain
  | invalidDomainCharacter
  deriving DecidableEq, Repr

def UrlFault.message : UrlFault → String
  | noBase => "relative URL without a base"
  | emptyHost => "empty host"
  | invalidPort => "invalid port number"
  | invalidIpv4 => "invalid IPv4 address"
  | invalidIpv6 => "invalid IPv6 address"
  | invalidDomain => "invalid international domain name"
  | invalidDomainCharacter => "invalid domain character"

namespace Url

def isHexDigit (c : Char) : Bool := (digitsValue? 16 [c]).isSome

/-- A part of an IPv4 address in base 8, 10 or 16; `some none` if it is beyond 32 bits. -/
def ipv4Number? (cs : List Char) : Option (Option Nat) :=
  let (base, digits) := match cs with
    | '0' :: 'x' :: rest => (16, rest)
    | '0' :: 'X' :: rest => (16, rest)
    | '0' :: c :: rest => (8, c :: rest)
    | _ => (10, cs)
  if cs.isEmpty then none
  else if digits.isEmpty then some (some 0)
  else (digitsValue? base digits).map fun n => if n < wordSize 32 then some n else none

def withoutRoot (labels : List (List Char)) : List (List Char) :=
  if labels.getLast? == some [] then labels.dropLast else labels

def endsInNumber (labels : List (List Char)) : Bool :=
  match (withoutRoot labels).getLast? with
  | some last =>
    (!last.isEmpty && last.all Char.isDigit) || (ipv4Number? last).isSome
  | none => false

def isIpv4 (labels : List (List Char)) : Bool :=
  let parts := withoutRoot labels
  match parts.mapM fun part => (ipv4Number? part).join with
  | some numbers =>
    parts.length ≤ 4 && numbers.dropLast.all (· < 256) &&
      numbers.getLast?.any (· < wordSize (8 * (5 - numbers.length)))
  | none => false

/-- The decimal parts at the end of an IPv6 address: four numbers below 256 without padding. -/
def isIpv4Tail (cs : List Char) : Bool :=
  let parts := cs.splitOn '.'
  parts.length == 4 && parts.all fun part =>
    !part.isEmpty && part.length ≤ 3 && part.all Char.isDigit &&
      (part.length == 1 || part.head? != some '0') &&
      (digitsValue? 10 part).any (· < 256)

/-- The number of 16-bit pieces in one half of an IPv6 address, whose last part may be decimal. -/
def ipv6Pieces? (cs : List Char) : Option Nat :=
  if cs.isEmpty then some 0
  else
    let parts := cs.splitOn ':'
    let isPiece (part : List Char) : Bool :=
      !part.isEmpty && part.length ≤ 4 && part.all isHexDigit
    match parts.getLast? with
    | some last =>
      if !parts.dropLast.all isPiece then none
      else if isPiece last then some parts.length
      else if isIpv4Tail last then some (parts.length + 1)
      else none
    | none => none

/-- The halves of an address around its first double colon. -/
def splitCompressed : List Char → List Char × Option (List Char)
  | ':' :: ':' :: rest => ([], some rest)
  | c :: rest =>
    let (before, after) := splitCompressed rest
    (c :: before, after)
  | [] => ([], none)

def isIpv6 (cs : List Char) : Bool :=
  match splitCompressed cs with
  | (whole, none) => ipv6Pieces? whole == some 8
  | (before, some after) =>
    match ipv6Pieces? before, ipv6Pieces? after with
    | some m, some n => m + n < 8 && !before.contains '.'
    | _, _ => false

/-- The fault of a domain, which may turn out to be an IPv4 address. -/
def checkDomain (cs : List Char) : Option UrlFault :=
  match Text.decodeUtf8 (percentDecode cs) with
  | .error _ => some .invalidDomain
  | .ok decoded =>
    match Domain.parse? decoded with
    | none => some .invalidDomain
    | some labels =>
      if labels == [[]] then some .emptyHost
      else if endsInNumber labels && !isIpv4 labels then some .invalidIpv4
      else none

def isForbiddenOpaque (c : Char) : Bool :=
  ['\x00', '\t', '\n', '\r', ' ', '#', '/', ':', '<', '>', '?', '@', '[', '\\', ']', '^',
    '|'].contains c

/-- The fault of a host, if it has one. Opaque hosts are those of schemes that are not special. -/
def checkHost (special : Bool) (cs : List Char) : Option UrlFault :=
  match cs with
  | '[' :: rest =>
    if rest.getLast? == some ']' && isIpv6 rest.dropLast then none else some .invalidIpv6
  | _ =>
    if special then checkDomain cs
    else if cs.any isForbiddenOpaque then some .invalidDomainCharacter
    else none

end Url

end ApiCatalog
