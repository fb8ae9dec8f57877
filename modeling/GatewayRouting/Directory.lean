import GatewayRouting.Config.Basic
import GatewayRouting.Route
import GatewayRouting.Url.Check

/-!
# The directory of deployed functions

Declared functions become routes once their addresses are known. An address without a scheme is
reached over HTTPS.

* `targetUrl` is the URL at which an address is reached.
* `resolve` turns declared functions into routes, skipping those without a path.
* `ResolveError.message` is the wording of each failure.
-/

namespace GatewayRouting

/-- Why a function has no address. -/
inductive LookupError where
  | notDeployed (name : String)
deriving DecidableEq, Repr

/-- The wording of a failed look-up. -/
def LookupError.message : LookupError → String
  | .notDeployed name => s!"function '{name}' is not deployed"

/-- Why declared functions do not become routes. -/
inductive ResolveError where
  | lookup (fault : LookupError)
  | invalidAddress (name address : String) (fault : Url.Error)
  | invalidRoute (name : String) (fault : InvalidRoute)
deriving DecidableEq, Repr

/-- The wording of a failure. -/
def ResolveError.message : ResolveError → String
  | .lookup fault => fault.message
  | .invalidAddress name address fault =>
    s!"function '{name}' has an invalid address '{address}': {fault.message}"
  | .invalidRoute name fault => s!"function '{name}': {fault.message}"

/-! ## Directories -/

/-- The addresses of deployed functions, by the names of the functions. -/
structure Directory where
  addresses : NameTable String
deriving DecidableEq, Repr

namespace Directory

/-- The directory with the address of a function set. -/
def insert (d : Directory) (name address : String) : Directory :=
  ⟨d.addresses.insert name address⟩

/-- The address of a function. -/
def lookup (d : Directory) (name : String) : Except LookupError String :=
  match d.addresses.get? name with
  | some address => .ok address
  | none => .error (.notDeployed name)

end Directory

/-! ## Targets -/

/-- A colon and two slashes occur in a text. -/
def hasSchemeMark : List Char → Bool
  | [] => false
  | c :: cs => [':', '/', '/'].isPrefixOf (c :: cs) || hasSchemeMark cs

/-- The text that has to be a URL: the address without surrounding blanks, with HTTPS as its scheme
if it has none. -/
def targetCandidate (address : String) : String :=
  let address := Text.trim address
  if hasSchemeMark address.toList then address else "https://" ++ address

/-- The URL at which an address is reached. -/
def targetUrl (address : String) : Except Url.Error String :=
  match Url.check (targetCandidate address) with
  | .ok () => .ok (targetCandidate address)
  | .error e => .error e

/-! ## Routes -/

/-- The route of a function that is bound to a path. -/
def resolveAt (d : Directory) (f : FunctionDecl) (path : String) : Except ResolveError Route :=
  match d.lookup f.name with
  | .error fault => .error (.lookup fault)
  | .ok address =>
    match targetUrl address with
    | .error fault => .error (.invalidAddress f.name address fault)
    | .ok target =>
      match Route.ofNames path f.methods target with
      | .error fault => .error (.invalidRoute f.name fault)
      | .ok route => .ok route

/-- The routes of declared functions, in their order; functions without a path have none. The first
failure ends it. -/
def resolve (d : Directory) : List FunctionDecl → Except ResolveError (List Route)
  | [] => .ok []
  | f :: rest =>
    match f.path with
    | none => resolve d rest
    | some path =>
      match resolveAt d f path with
      | .error e => .error e
      | .ok route => (resolve d rest).map (route :: ·)

end GatewayRouting
