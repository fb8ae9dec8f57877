/-!
# TOML values

What a TOML document says. A configuration has no use for floating-point numbers, dates and times
beyond knowing that they are none of the other values, so those are kept as written.
-/

namespace GatewayRouting.Toml

/-- A TOML value. The entries of a table are in the order of the document. -/
inductive Value where
  | string (text : String)
  | integer (n : Int)
  | float (text : String)
  | boolean (b : Bool)
  | moment (text : String)
  | array (items : List Value)
  | table (entries : List (String × Value))
deriving Repr

end GatewayRouting.Toml
