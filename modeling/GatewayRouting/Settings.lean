/-!
# Server settings

What the operator chooses about the generated proxy server.
-/

namespace GatewayRouting

/-- The settings of the proxy server. The resolver looks up the targets that method maps select. -/
structure Settings where
  listenPort : UInt16 := 8080
  serverName : Option String := none
  resolver : Option String := none
deriving DecidableEq, Repr

end GatewayRouting
