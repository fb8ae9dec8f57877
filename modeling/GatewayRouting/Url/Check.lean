import GatewayRouting.Url.Host

/-!
# Absolute URLs

Which texts are absolute URLs, by the rules that web browsers share. A scheme comes first. The
schemes that the web knows need a host, before which any number of slashes of either kind may stand;
a file has a host or none; any other scheme has a host only behind two slashes. What follows the host
is never refused but for the port.

* `check` accepts a URL, or tells what is wrong with it.
-/

namespace GatewayRouting.Url

/-! ## The text of a URL -/

/-- A blank or control character, which is dropped at both ends of a URL. -/
def isEdgeChar (c : Char) : Bool := c ≤ ' '

/-- A tab or line end, which is dropped anywhere in a URL. -/
def isDropped (c : Char) : Bool := c == '\t' || c == '\n' || c == '\r'

/-- The characters of a text that count. -/
def significant (cs : List Char) : List Char :=
  ((cs.dropWhile isEdgeChar).reverse.dropWhile isEdgeChar).reverse.filter (!isDropped ·)

/-! ## Schemes -/

/-- A character of a scheme behind its first letter. -/
def isSchemeChar (c : Char) : Bool :=
  c.isAlphanum || c == '+' || c == '-' || c == '.'

/-- The scheme of a URL and the characters behind its colon. -/
def splitScheme? (cs : List Char) : Option (List Char × List Char) :=
  match cs with
  | [] => none
  | c :: _ =>
    if c.isAlpha then
      match cs.dropWhile isSchemeChar with
      | ':' :: rest => some ((cs.takeWhile isSchemeChar).map Char.toLower, rest)
      | _ => none
    else none

/-- The schemes that the web knows, but for that of files. -/
def webSchemes : List String := ["http", "https", "ws", "wss", "ftp"]

/-! ## Authority -/

/-- A slash of either kind. -/
def isSlash (c : Char) : Bool := c == '/' || c == '\\'

/-- A character that ends the authority; backslashes count with the schemes that the web knows. -/
def endsAuthority (web : Bool) (c : Char) : Bool :=
  c == '/' || c == '?' || c == '#' || (web && c == '\\')

/-- The text before the last at sign of the authority, and everything behind it. -/
def splitUser? (web : Bool) (cs : List Char) : Option (List Char × List Char) :=
  let authority := cs.takeWhile (!endsAuthority web ·)
  if '@' ∈ authority then
    let behind := (authority.reverse.takeWhile (· != '@')).reverse
    some (authority.take (authority.length - behind.length - 1),
      behind ++ cs.dropWhile (!endsAuthority web ·))
  else none

/-- The host and everything behind it. A colon ends the host, except between brackets. -/
def splitHost (web inBrackets : Bool) : List Char → List Char × List Char
  | [] => ([], [])
  | c :: cs =>
    if (c == ':' && !inBrackets) || endsAuthority web c then ([], c :: cs)
    else
      let split := splitHost web (c == '[' || (inBrackets && c != ']')) cs
      (c :: split.1, split.2)

/-- Checks what follows the host: a port, if there is one, is a number of 16 bits. -/
def checkPort (cs : List Char) : Except Error Unit :=
  match cs with
  | ':' :: rest =>
    if Text.decimalNumber (rest.takeWhile Char.isDigit) > 65535 then .error .invalidPort
    else
      match rest.dropWhile Char.isDigit with
      | [] => .ok ()
      | c :: _ => if endsAuthority true c then .ok () else .error .invalidPort
  | _ => .ok ()

/-- Checks a host and the port behind it. Only a scheme that the web does not know may leave the
host out, and then neither a port nor, as `hasUser` tells, a user may be given. -/
def checkHostAndPort (web hasUser : Bool) (cs : List Char) : Except Error Unit := do
  let (host, rest) := splitHost web false cs
  if host.isEmpty && (web || rest.head? == some ':') then
    throw .emptyHost
  if web then checkHost host else checkOpaqueHost host
  checkPort rest
  if host.isEmpty && hasUser then
    throw .emptyHost

/-- Checks a user, a host and a port. An at sign without a user has to be followed by a host, and a
user that is a mere colon does not count. -/
def checkAuthority (web : Bool) (cs : List Char) : Except Error Unit :=
  match splitUser? web cs with
  | none => checkHostAndPort web false cs
  | some ([], rest) =>
    if rest.head?.any (endsAuthority web) then .error .emptyHost
    else checkHostAndPort web false rest
  | some (user, rest) => checkHostAndPort web (user != [':']) rest

/-! ## Files -/

/-- The name of a drive: a letter and a colon or bar. -/
def isDrive (cs : List Char) : Bool :=
  match cs with
  | [c, d] => c.isAlpha && (d == ':' || d == '|')
  | _ => false

/-- Checks the URL of a file behind its scheme. A host stands behind two slashes, unless it is left
out or the name of a drive stands in its place. -/
def checkFile (cs : List Char) : Except Error Unit :=
  match cs with
  | a :: b :: rest =>
    if isSlash a && isSlash b then
      let host := rest.takeWhile (!endsAuthority true ·)
      if host.isEmpty || isDrive host then .ok () else checkHost host
    else .ok ()
  | _ => .ok ()

/-! ## URLs -/

/-- Accepts an absolute URL. -/
def check (text : String) : Except Error Unit :=
  match splitScheme? (significant text.toList) with
  | none => .error .missingScheme
  | some (scheme, rest) =>
    if String.ofList scheme = "file" then checkFile rest
    else if String.ofList scheme ∈ webSchemes then checkAuthority true (rest.dropWhile isSlash)
    else
      match rest with
      | '/' :: '/' :: authority => checkAuthority false authority
      | _ => .ok ()

end GatewayRouting.Url
