import GatewayRouting.Gateway
import GatewayRouting.Log.Event

/-!
# The events of a compilation

What the parts of a compilation report, in the order in which they do: every function that is
resolved, every route that enters the trie, every location, and a summary. A failure ends the list;
the route that is refused has still been reported when it entered.

* `compileEvents` lists the events of compiling a configuration.
* `renderEvents` lists those of writing the result.
-/

namespace GatewayRouting.Log

/-! ## Resolving functions -/

/-- The component that resolves functions. -/
def directoryComponent : String := "faas_gateway::directory"

/-- The events of resolving declared functions. -/
def resolveEvents (d : Directory) : List FunctionDecl → List Event
  | [] => []
  | f :: rest =>
    match f.path with
    | none =>
      ⟨.debug, directoryComponent, "Function has no gateway route", [("function", f.name)]⟩ ::
        resolveEvents d rest
    | some path =>
      match resolveAt d f path with
      | .error _ => []
      | .ok route =>
        ⟨.debug, directoryComponent, "Resolved route",
          [("function", f.name), ("route", route.display)]⟩ :: resolveEvents d rest

/-! ## Compiling routes -/

/-- How a route enters a trie. -/
def entranceMessage (t : Trie) (r : Route) : String :=
  match Path.segments r.path with
  | [] => "Binding route at root"
  | segments =>
    if (t.descend? segments).isSome then "Merging into existing node" else "Inserting leaf"

/-- The event of a route that enters a trie. -/
def entranceEvent (t : Trie) (r : Route) : Event :=
  ⟨.debug, "faas_gateway::routing::trie", entranceMessage t r, [("route", r.display)]⟩

/-- The events of routes that enter a trie one after the other, up to the first conflict. -/
def insertEvents (t : Trie) : List Route → List Event
  | [] => []
  | r :: rest =>
    let attempt := t.insert r
    entranceEvent t r ::
      (match attempt.conflict with
      | some _ => []
      | none => insertEvents attempt.trie rest)

/-- The event of a location that has been made. -/
def locationEvent (l : Location) : Event :=
  ⟨.debug, "faas_gateway::routing::synth", "Synthesized location",
    [("path", l.path), ("target", l.target), ("children", toString l.children.length)]⟩

/-- The event of a finished compilation. -/
def compiledEvent (routes : List Route) (c : ProxyConfig) : Event :=
  ⟨.info, "faas_gateway::routing::compiler", "Routes compiled",
    [("routes", toString routes.length), ("locations", toString c.locationCount),
      ("method_maps", toString c.maps.length)]⟩

/-- The events of compiling routes. -/
def routeEvents (routes : List Route) : List Event :=
  match validateAll routes with
  | .error _ => []
  | .ok () =>
    insertEvents .empty routes ++
      match Trie.ofRoutes routes with
      | .error _ => []
      | .ok trie =>
        (Location.postorderAll trie.locations).map locationEvent ++
          match compile routes with
          | .error _ => []
          | .ok c => [compiledEvent routes c]

/-- The warning about a configuration without routes. -/
def noRoutesEvent : Event :=
  ⟨.warn, "faas_gateway::gateway", "No function declares a gateway route", []⟩

/-- The events of compiling a configuration. -/
def compileEvents (c : Config) : List Event :=
  resolveEvents c.directory c.functions ++
    match resolve c.directory c.functions with
    | .error _ => []
    | .ok routes => (if routes.isEmpty then [noRoutesEvent] else []) ++ routeEvents routes

/-! ## Writing the result -/

/-- The warning about method maps that nginx cannot resolve. -/
def noResolverEvent : Event :=
  ⟨.warn, "faas_gateway::render::nginx",
    "Method maps are rendered without a resolver; nginx needs one to resolve variable upstreams",
    []⟩

/-- The events of writing a compiled configuration. -/
def renderEvents (c : ProxyConfig) (format : Format) (settings : Settings) : List Event :=
  if format = .nginx ∧ c.maps ≠ [] ∧ settings.resolver = none then [noResolverEvent] else []

/-! ## The command line -/

/-- The component of the command line. -/
def programComponent : String := "faas_gateway"

/-- The event of a configuration that has been read. -/
def loadedEvent (path : String) (c : Config) : Event :=
  ⟨.info, programComponent, "Configuration loaded",
    [("config", path), ("functions", toString c.functions.length)]⟩

/-- The event of a file that has been written. -/
def writtenEvent (path : String) : Event :=
  ⟨.info, programComponent, "Gateway configuration written", [("path", path)]⟩

end GatewayRouting.Log
