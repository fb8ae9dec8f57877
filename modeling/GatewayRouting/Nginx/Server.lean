import GatewayRouting.Location
import GatewayRouting.Nginx.Directive
import GatewayRouting.Settings

/-!
# The nginx configuration of a gateway

A compiled configuration as an nginx file: an empty `events` block and an `http` block with one
`map` for each method map and one `server`. Locations are nested like the compiled ones, so that
nginx picks the longest matching path inside its parent. A location that leaves methods out answers
them with status 405 before it proxies, so the empty default of a map is never proxied to.

* `Nginx.items` is the syntax tree of the file.
* `Nginx.render` is its text.
-/

namespace GatewayRouting.Nginx

/-- The words of a directive that are written as they are. -/
def bareWords (texts : List String) : List Word :=
  texts.map .bare

/-- The block of a method map: an entry for each of its methods, and an empty default. -/
def mapBlock (m : MethodMap) : Item :=
  .block (bareWords ["map", "$request_method", "$" ++ m.name])
    (m.table.entries.map (fun e => .simple [.bare e.1.name, .quoted e.2]) ++
      [.simple [.bare "default", .quoted ""]])

/-- The guard of a location that leaves methods out. -/
def guardBlock (methods : List Method) : Item :=
  .block
    (bareWords ["if", "($request_method", "~",
      "^(" ++ "|".intercalate (methods.map Method.name) ++ ")$)"])
    [.simple (bareWords ["return", "405"])]

/-- The guard of a location, if it needs one. -/
def guardItems (methods : List Method) : List Item :=
  if methods.isEmpty then [] else [guardBlock methods]

mutual

/-- The block of a location: its guard, its target, and the locations inside. -/
def locationBlock : Location → Item
  | ⟨path, target, unallowed, children⟩ =>
    .block (bareWords ["location", path])
      (guardItems unallowed ++ .simple (bareWords ["proxy_pass", target]) :: locationItems children)

/-- The blocks of some locations, each after an empty line. -/
def locationItems : List Location → List Item
  | [] => []
  | l :: rest => .gap :: locationBlock l :: locationItems rest

end

/-- A directive with one argument, if there is an argument. -/
def optionItem (name : String) (value : Option String) : List Item :=
  value.toList.map fun v => .simple (bareWords [name, v])

/-- The block of the server. -/
def serverBlock (s : Settings) (locations : List Location) : Item :=
  .block (bareWords ["server"])
    (.simple (bareWords ["listen", toString s.listenPort.toNat]) ::
      (optionItem "server_name" s.serverName ++ optionItem "resolver" s.resolver ++
        .simple (bareWords ["proxy_ssl_server_name", "on"]) :: locationItems locations))

/-- The syntax tree of the configuration file. -/
def items (s : Settings) (c : ProxyConfig) : List Item :=
  [.comment "Generated by faas-gateway. Do not edit.",
    .block (bareWords ["events"]) [],
    .gap,
    .block (bareWords ["http"])
      (c.maps.flatMap (fun m => [mapBlock m, .gap]) ++ [serverBlock s c.locations])]

/-- The text of the configuration file. -/
def render (s : Settings) (c : ProxyConfig) : String :=
  fileText (items s c)

end GatewayRouting.Nginx
