import GatewayRouting.Text.Digits

/-!
# Numeric addresses

The numeric forms of hosts: IPv4 addresses, of one to four numbers in base 8, 10 or 16, and IPv6
addresses, of eight groups of hexadecimal digits with at most one gap.

* `endsInNumber` tells which host names have to be IPv4 addresses, and `isIpv4` which of them are.
* `isIpv6` tells what may stand between the brackets of an IPv6 address.
-/

namespace GatewayRouting.Url

/-! ## IPv4 -/

/-- A number of an IPv4 address: hexadecimal behind `0x`, octal behind another leading zero, and
decimal otherwise. -/
def ipv4Number? : List Char → Option Nat
  | [] => none
  | '0' :: 'x' :: cs => Text.numberIn? 16 cs
  | '0' :: 'X' :: cs => Text.numberIn? 16 cs
  | '0' :: c :: cs => Text.numberIn? 8 (c :: cs)
  | cs => Text.numberIn? 10 cs

/-- A label is a number, or would be one but for a digit that its base does not have. -/
def looksNumeric (label : List Char) : Bool :=
  (!label.isEmpty && label.all Char.isDigit) || (ipv4Number? label).isSome

/-- The last label of a host name is a number. An empty last label is skipped. -/
def endsInNumber (labels : List (List Char)) : Bool :=
  match labels.reverse with
  | [] => false
  | [] :: last :: _ => looksNumeric last
  | last :: _ => looksNumeric last

/-- The labels of a host name without an empty last one. -/
def dropEmptyLast (labels : List (List Char)) : List (List Char) :=
  match labels.reverse with
  | [] :: rest => rest.reverse
  | _ => labels

/-- The labels form an IPv4 address: up to four numbers, of which the last one fills the bytes that
the others leave, each of them being one byte. -/
def isIpv4 (labels : List (List Char)) : Bool :=
  match (dropEmptyLast labels).mapM ipv4Number? with
  | none => false
  | some numbers =>
    match numbers.reverse with
    | [] => false
    | last :: others =>
      others.length < 4 && others.all (· ≤ 255) && last < Nat.pow 256 (4 - others.length)

/-! ## IPv6 -/

/-- A byte of the IPv4 address at the end of an IPv6 address: decimal, without leading zeros. -/
def isPlainByte (cs : List Char) : Bool :=
  match cs with
  | [] => false
  | ['0'] => true
  | '0' :: _ => false
  | cs =>
    match Text.numberIn? 10 cs with
    | some n => n ≤ 255
    | none => false

/-- Four bytes with dots between them. -/
def isDottedQuad (cs : List Char) : Bool :=
  let bytes := cs.splitOn '.'
  bytes.length == 4 && bytes.all isPlainByte

/-- The number of groups is right: eight, or fewer where a gap stands for the missing ones. -/
def groupsComplete (count : Nat) (gap : Bool) : Bool :=
  gap || count == 8

/-- Checks the rest of an IPv6 address. `count` groups have been read, the gap being one of them if
`gap` holds; no more than `rounds` groups and gaps follow. -/
def ipv6Groups : (rounds count : Nat) → (gap : Bool) → List Char → Bool
  | 0, _, _, _ => false
  | rounds + 1, count, gap, cs =>
    match cs with
    | [] => groupsComplete count gap
    | ':' :: rest => count < 8 && !gap && ipv6Groups rounds (count + 1) true rest
    | cs =>
      let ds := (cs.take 4).takeWhile fun c => (Text.hexDigit? c).isSome
      match cs.drop ds.length with
      | [] => count < 8 && groupsComplete (count + 1) gap
      | ':' :: rest => count < 8 && !rest.isEmpty && ipv6Groups rounds (count + 1) gap rest
      | '.' :: _ =>
        !ds.isEmpty && count ≤ 6 && isDottedQuad cs && groupsComplete (count + 2) gap
      | _ => false

/-- The text between the brackets of an IPv6 address is one. -/
def isIpv6 (cs : List Char) : Bool :=
  match cs with
  | ':' :: ':' :: rest => ipv6Groups 10 1 true rest
  | ':' :: _ => false
  | cs => ipv6Groups 10 0 false cs

end GatewayRouting.Url
