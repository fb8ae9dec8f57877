import GatewayRouting.Proofs.FileItems

/-!
# The directives of a configuration

`fileDirectives` spells out the directives that the file of a compiled configuration has to hold. The
items that are written say the same, token by token (`tokens_mapBlock`, `tokens_locationBlock`).
-/

namespace GatewayRouting

namespace Nginx

/-! ## The directives of a file -/

/-- The block of a method map: its methods with their targets, and an empty default. -/
def mapDirective (M : MethodMap) : Directive :=
  .block "map" ["$request_method", "$" ++ M.name]
    (M.table.entries.map (fun e => .simple e.1.name [e.2]) ++ [.simple "default" [""]])

/-- The guard of a location that leaves methods out. -/
def guardDirectives (methods : List Method) : List Directive :=
  if methods = [] then []
  else
    [.block "if" ["($request_method", "~",
        "^(" ++ "|".intercalate (methods.map Method.name) ++ ")$)"]
      [.simple "return" ["405"]]]

mutual

/-- The block of a location: its guard, its target and the locations inside. -/
def locationDirective : Location → Directive
  | ⟨path, target, unallowed, children⟩ =>
    .block "location" [path]
      (guardDirectives unallowed ++ .simple "proxy_pass" [target] :: locationDirectives children)

/-- The blocks of some locations. -/
def locationDirectives : List Location → List Directive
  | [] => []
  | l :: rest => locationDirective l :: locationDirectives rest

end

/-- The directives of a file: an empty block for events, and one for requests, with the method maps and
the server. The settings of the server stand behind its port. -/
def fileDirectives (port : UInt16) (settings : List Directive) (c : ProxyConfig) : List Directive :=
  [.block "events" [] [],
    .block "http" []
      (c.maps.map mapDirective ++
        [.block "server" []
          (.simple "listen" [toString port.toNat] ::
            (settings ++
              .simple "proxy_ssl_server_name" ["on"] :: locationDirectives c.locations))])]

/-- A directive for each setting of the server that is set. -/
def settingDirectives (s : Settings) : List Directive :=
  (s.serverName.toList.map fun v => .simple "server_name" [v]) ++
    s.resolver.toList.map fun v => .simple "resolver" [v]

/-! ## What the items say -/

theorem Item.tokensOfList_append (items items' : List Item) :
    tokensOfList (items ++ items') = tokensOfList items ++ tokensOfList items' := by
  simp only [tokensOfList_eq_flatMap, List.flatMap_append]

theorem tokensOfList_entryItems (es : List (Method × String)) :
    Item.tokensOfList (es.map entryItem) =
      Directive.tokensOfList (es.map fun e => .simple e.1.name [e.2]) := by
  induction es with
  | nil => rfl
  | cons e rest ih =>
    rw [List.map_cons, List.map_cons, Item.tokensOfList, Directive.tokensOfList, ih]
    rfl

theorem tokens_mapBlock (M : MethodMap) : (mapBlock M).tokens = (mapDirective M).tokens := by
  have hentries := tokensOfList_entryItems M.table.entries
  have hblock : mapBlock M = .block (bareWords ["map", "$request_method", "$" ++ M.name])
      (M.table.entries.map entryItem ++ [.simple [.bare "default", .quoted ""]]) := rfl
  rw [hblock, mapDirective, Item.tokens, Directive.tokens, Item.tokensOfList_append,
    Directive.tokensOfList_append, hentries]
  rfl

theorem tokensOfList_maps (maps : List MethodMap) :
    Item.tokensOfList (maps.flatMap fun M => [mapBlock M, .gap]) =
      Directive.tokensOfList (maps.map mapDirective) := by
  induction maps with
  | nil => rfl
  | cons M rest ih =>
    rw [List.flatMap_cons, List.map_cons, Directive.tokensOfList, ← ih, ← tokens_mapBlock]
    rfl

theorem tokensOfList_guardItems (methods : List Method) :
    Item.tokensOfList (guardItems methods) = Directive.tokensOfList (guardDirectives methods) := by
  cases methods with
  | nil => rfl
  | cons m rest => rfl

mutual

theorem tokens_locationBlock : ∀ l : Location,
    (locationBlock l).tokens = (locationDirective l).tokens
  | ⟨path, target, unallowed, children⟩ => by
    have hchildren := tokensOfList_locationItems children
    rw [locationBlock, locationDirective, Item.tokens, Directive.tokens, Item.tokensOfList_append,
      Directive.tokensOfList_append, tokensOfList_guardItems, Item.tokensOfList,
      Directive.tokensOfList, hchildren]
    rfl

theorem tokensOfList_locationItems : ∀ ls : List Location,
    Item.tokensOfList (locationItems ls) = Directive.tokensOfList (locationDirectives ls)
  | [] => rfl
  | l :: rest => by
    rw [locationItems, locationDirectives, Item.tokensOfList, Item.tokensOfList,
      Directive.tokensOfList, tokens_locationBlock l, tokensOfList_locationItems rest]
    rfl

end

end Nginx

end GatewayRouting
