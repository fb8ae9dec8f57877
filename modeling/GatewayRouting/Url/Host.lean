import GatewayRouting.Url.Address
import GatewayRouting.Url.Domain
import GatewayRouting.Url.Error

/-!
# Hosts

Which texts may name the host of a URL. Hosts in brackets are IPv6 addresses. The schemes that the
web knows resolve percent signs and take host names and IPv4 addresses; any other scheme has opaque
hosts, of which only some characters are refused.

* `checkHost` is the rule for the former, `checkOpaqueHost` for the latter.
-/

namespace GatewayRouting.Url

/-! ## Percent signs -/

/-- The bytes of a text in which a percent sign and two hexadecimal digits write a byte. -/
def percentBytes : List Char → List UInt8
  | [] => []
  | '%' :: a :: b :: rest =>
    match Text.hexDigit? a, Text.hexDigit? b with
    | some x, some y => UInt8.ofNat (16 * x + y) :: percentBytes rest
    | _, _ => 0x25 :: percentBytes (a :: b :: rest)
  | c :: rest => String.utf8EncodeChar c ++ percentBytes rest

/-- The text with its percent signs resolved; nothing if that gives no text. -/
def percentDecode? (cs : List Char) : Option (List Char) :=
  if '%' ∈ cs then
    (String.fromUTF8? (ByteArray.mk (percentBytes cs).toArray)).map String.toList
  else some cs

/-! ## Hosts -/

/-- The text between brackets that form the whole of a host. -/
def betweenBrackets? (cs : List Char) : Option (List Char) :=
  match cs.reverse with
  | ']' :: inside => some (inside.reverse.drop 1)
  | _ => none

/-- A host in brackets is an IPv6 address. -/
def checkBracketed (cs : List Char) : Except Error Unit :=
  match betweenBrackets? cs with
  | some inside => if isIpv6 inside then .ok () else .error .invalidIpv6Address
  | none => .error .invalidIpv6Address

/-- A host name that ends in a number has to be an IPv4 address. -/
def checkDomain (cs : List Char) : Except Error Unit :=
  match (percentDecode? cs).bind hostLabels? with
  | none => .error .invalidDomainName
  | some labels =>
    if labels = [[]] then .error .emptyHost
    else if endsInNumber labels && !isIpv4 labels then .error .invalidIpv4Address
    else .ok ()

/-- Checks a host of a scheme that the web knows. -/
def checkHost (cs : List Char) : Except Error Unit :=
  match cs with
  | '[' :: _ => checkBracketed cs
  | _ => checkDomain cs

/-- A character that no opaque host may hold. -/
def isForbiddenInOpaqueHost (c : Char) : Bool :=
  c ∈ ['\x00', '\t', '\n', '\r', ' ', '#', '/', ':', '<', '>', '?', '@', '[', '\\', ']', '^', '|']

/-- Checks a host of any other scheme. -/
def checkOpaqueHost (cs : List Char) : Except Error Unit :=
  match cs with
  | '[' :: _ => checkBracketed cs
  | _ => if cs.any isForbiddenInOpaqueHost then .error .invalidHostCharacter else .ok ()

end GatewayRouting.Url
