import GatewayRouting.Entries
import GatewayRouting.Settings

/-!
# The configuration of a gateway

What an operator declares: the settings of the server, the level of logging, the functions with
their routes, and the addresses at which functions are deployed.
-/

namespace GatewayRouting

/-- A declared function. Without a path it has no route; without methods it accepts all. -/
structure FunctionDecl where
  name : String
  path : Option String := none
  methods : Option (List String) := none
deriving DecidableEq, Repr

/-- The configuration of a gateway. Deployed addresses are listed by the names of their
functions. -/
structure Config where
  server : Settings := {}
  logLevel : String := "info"
  functions : List FunctionDecl := []
  deployed : NameTable String := .empty
deriving DecidableEq, Repr

end GatewayRouting
