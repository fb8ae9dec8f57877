import GatewayRouting.Text.Blank
import GatewayRouting.Text.Split

/-!
# Route paths

A path addresses a node of the routing trie by its *segments*: the pieces between slashes, without
those that are empty or blank. Doubled and trailing slashes therefore do not matter.

* `Path.segments` lists the segments; none of them is blank or holds a slash
  (`not_isBlankText_of_mem_segments`, `slash_notMem_of_mem_segments`).
* `Path.mapVariable` names the variable of the method map that belongs to a path.
-/

namespace GatewayRouting.Path

/-- The pieces of a path between slashes, without those that are empty or blank. -/
def segments (path : String) : List String :=
  ((path.toList.splitOn '/').map String.ofList).filter (!Text.isBlankText ·)

/-- No segment is empty or blank. -/
theorem not_isBlankText_of_mem_segments {path s : String} (h : s ∈ segments path) :
    Text.isBlankText s = false := by
  simpa using (List.mem_filter.1 h).2

/-- No segment holds a slash. -/
theorem slash_notMem_of_mem_segments {path s : String} (h : s ∈ segments path) :
    '/' ∉ s.toList := by
  obtain ⟨piece, hpiece, rfl⟩ := List.mem_map.1 (List.mem_filter.1 h).1
  rw [String.toList_ofList]
  exact Text.not_mem_of_mem_splitOn hpiece

/-- A character of a path as it stands in a variable name. -/
def variableChar (c : Char) : Char :=
  if c = '/' then '_' else c

/-- The characters of a list without one underscore in front. -/
def dropUnderscore : List Char → List Char
  | '_' :: cs => cs
  | cs => cs

/-- The variable of the method map of a path: slashes become underscores, one underscore in front
is dropped, and `_target` is added, so `/a/b` gives `a_b_target`. -/
def mapVariable (path : String) : String :=
  String.ofList (dropUnderscore (path.toList.map variableChar)) ++ "_target"

end GatewayRouting.Path
