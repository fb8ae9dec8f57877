import GatewayRouting.Nginx.Server
import Mathlib.Data.List.Infix

/-!
# Where blocks stand in the text of a file

The characters of an item are a stretch of those of the block around it, and so are the blocks of all
locations, however deeply nested, stretches of the text of the file (`exists_infix_render`).
-/

namespace GatewayRouting.Nginx

/-! ## Items -/

theorem Item.charsOfList_append (depth : Nat) (body body' : List Item) :
    Item.charsOfList depth (body ++ body') =
      Item.charsOfList depth body ++ Item.charsOfList depth body' := by
  induction body with
  | nil => rfl
  | cons item rest ih =>
    simp only [List.cons_append, Item.charsOfList, ih, List.append_assoc]

/-- The characters of a stretch of some items are a stretch of their characters. -/
theorem Item.charsOfList_mono {part body : List Item} (h : part <:+: body) (depth : Nat) :
    Item.charsOfList depth part <:+: Item.charsOfList depth body := by
  obtain ⟨before, after, rfl⟩ := h
  rw [charsOfList_append, charsOfList_append]
  exact ⟨_, _, rfl⟩

theorem Item.chars_infix_of_mem {item : Item} {body : List Item} (h : item ∈ body)
    (depth : Nat) : Item.chars depth item <:+: Item.charsOfList depth body := by
  obtain ⟨before, after, rfl⟩ := List.append_of_mem h
  rw [charsOfList_append, charsOfList]
  exact ⟨Item.charsOfList depth before, Item.charsOfList depth after, List.append_assoc _ _ _⟩

/-- The characters of the items in a block, one level deeper, stand in those of the block. -/
theorem Item.charsOfList_infix_block (depth : Nat) (words : List Word) (body : List Item) :
    Item.charsOfList (depth + 1) body <:+: Item.chars depth (.block words body) := by
  cases body with
  | nil => exact List.nil_infix
  | cons item rest =>
    rw [Item.chars, Item.charsOfList]
    exact ⟨indent depth ++ Word.charsOfList words ++ [' ', '{', '\n'],
      indent depth ++ ['}', '\n'], (List.append_assoc _ _ _).symm⟩

/-! ## Locations -/

mutual

/-- The block of a location stands in the block of every location around it. -/
theorem exists_infix_locationBlock (depth : Nat) :
    ∀ top l : Location, l ∈ Location.preorder top →
      ∃ depth', Item.chars depth' (locationBlock l) <:+: Item.chars depth (locationBlock top)
  | ⟨path, target, unallowed, children⟩ => by
    intro l hl
    rw [Location.preorder] at hl
    rcases List.mem_cons.1 hl with rfl | hl
    · exact ⟨depth, List.infix_rfl⟩
    · obtain ⟨depth', hstands⟩ := exists_infix_locationItems (depth + 1) children l hl
      refine ⟨depth', hstands.trans ?_⟩
      have hbody : locationItems children <:+: guardItems unallowed ++
          .simple (bareWords ["proxy_pass", target]) :: locationItems children :=
        ⟨guardItems unallowed ++ [.simple (bareWords ["proxy_pass", target])], [], by simp⟩
      rw [locationBlock]
      exact (Item.charsOfList_mono hbody (depth + 1)).trans
        (Item.charsOfList_infix_block depth _ _)

/-- The block of every location stands where the locations around it are written. -/
theorem exists_infix_locationItems (depth : Nat) :
    ∀ (ls : List Location) (l : Location), l ∈ Location.preorderAll ls →
      ∃ depth', Item.chars depth' (locationBlock l) <:+: Item.charsOfList depth (locationItems ls)
  | [] => fun l hl => absurd hl List.not_mem_nil
  | top :: rest => by
    intro l hl
    rw [Location.preorderAll] at hl
    rcases List.mem_append.1 hl with hl | hl
    · obtain ⟨depth', hstands⟩ := exists_infix_locationBlock depth top l hl
      have hmem : locationBlock top ∈ locationItems (top :: rest) := by
        rw [locationItems]
        exact .tail _ (.head _)
      exact ⟨depth', hstands.trans (Item.chars_infix_of_mem hmem depth)⟩
    · obtain ⟨depth', hstands⟩ := exists_infix_locationItems depth rest l hl
      have hrest : locationItems rest <:+: locationItems (top :: rest) :=
        ⟨[.gap, locationBlock top], [], by simp [locationItems]⟩
      exact ⟨depth', hstands.trans (Item.charsOfList_mono hrest depth)⟩

end

/-- The block of every location of a configuration stands in the text of its file. -/
theorem exists_infix_render (s : Settings) {c : ProxyConfig} {l : Location}
    (hl : l ∈ Location.preorderAll c.locations) :
    ∃ depth, Item.chars depth (locationBlock l) <:+: (render s c).toList := by
  obtain ⟨depth, hstands⟩ := exists_infix_locationItems 2 c.locations l hl
  have hserver : Item.charsOfList 2 (locationItems c.locations) <:+:
      Item.chars 1 (serverBlock s c.locations) := by
    rw [serverBlock]
    refine (Item.charsOfList_mono ?_ 2).trans (Item.charsOfList_infix_block 1 _ _)
    have hlast : locationItems c.locations <:+
        .simple (bareWords ["proxy_ssl_server_name", "on"]) :: locationItems c.locations :=
      List.suffix_cons _ _
    exact ((hlast.trans (List.suffix_append _ _)).trans (List.suffix_cons _ _)).isInfix
  have hhttp : Item.chars 1 (serverBlock s c.locations) <:+: Item.charsOfList 0 (items s c) := by
    have hmem : serverBlock s c.locations ∈
        c.maps.flatMap (fun m => [mapBlock m, .gap]) ++ [serverBlock s c.locations] :=
      List.mem_append_right _ (.head _)
    have hblock := (Item.chars_infix_of_mem hmem 1).trans
      (Item.charsOfList_infix_block 0 (bareWords ["http"]) _)
    exact hblock.trans (Item.chars_infix_of_mem (.tail _ (.tail _ (.tail _ (.head _)))) 0)
  rw [render, fileText, String.toList_ofList]
  exact ⟨depth, hstands.trans (hserver.trans hhttp)⟩

end GatewayRouting.Nginx
