import GatewayRouting.Json.Value
import GatewayRouting.Location

/-!
# The JSON form of a compiled configuration

A compiled configuration as a JSON document: its locations, nested like the compiled ones, and its
method maps, with methods in canonical order.
-/

namespace GatewayRouting.Json

/-- The names of some methods. -/
def ofMethods (methods : List Method) : Value :=
  .arr (methods.map fun m => .str m.name)

mutual

/-- The form of a location. -/
def ofLocation : Location → Value
  | ⟨path, target, unallowed, children⟩ =>
    .obj [("path", .str path), ("target", .str target), ("unallowed_methods", ofMethods unallowed),
      ("children", .arr (ofLocations children))]

/-- The forms of some locations. -/
def ofLocations : List Location → List Value
  | [] => []
  | l :: rest => ofLocation l :: ofLocations rest

end

/-- The form of a table by method. -/
def ofTable (t : MethodTable) : Value :=
  .obj (t.entries.map fun e => (e.1.name, .str e.2))

/-- The form of a method map. -/
def ofMethodMap (m : MethodMap) : Value :=
  .obj [("var_name", .str m.name), ("method_to_target", ofTable m.table)]

/-- The form of a compiled configuration. -/
def ofProxyConfig (c : ProxyConfig) : Value :=
  .obj [("locations", .arr (ofLocations c.locations)),
    ("method_maps", .arr (c.maps.map ofMethodMap))]

/-- The document of a compiled configuration. -/
def render (c : ProxyConfig) : String :=
  (ofProxyConfig c).document

end GatewayRouting.Json
