import GatewayRouting.Nginx.Server
import GatewayRouting.Proofs.ItemTokens

/-!
# The items of a configuration can be read

A location is written without quotes throughout, a method map with its targets in quotes. The first is
legible when the paths and targets inside are words (`isBare_locationItems`), the second when its name
is plain (`legible_mapBlock`). What is written without quotes puts none into the text
(`quote_notMem_charsOfItems`).
-/

namespace GatewayRouting

namespace Nginx

/-! ## Items without quotes -/

/-- A word that is written without quotes, and can be. -/
def Word.IsBare : Word → Prop
  | .bare text => IsWord text
  | .quoted _ => False

theorem Word.IsBare.legible {w : Word} (h : w.IsBare) : w.Legible := by
  cases w with
  | bare text => exact h
  | quoted text => exact h.elim

/-- Items without quotes and comments. -/
def Item.IsBare (items : List Item) : Prop :=
  Item.ForallIn Word.IsBare (fun _ => False) items

mutual

theorem Item.forall_imp {p p' : Word → Prop} {q q' : String → Prop} (hp : ∀ w, p w → p' w)
    (hq : ∀ text, q text → q' text) : ∀ item : Item, item.Forall p q → item.Forall p' q'
  | .gap => fun _ => trivial
  | .comment text => hq text
  | .simple _ => fun h w hw => hp w (h w hw)
  | .block _ body => fun h => ⟨fun w hw => hp w (h.1 w hw), Item.forallIn_imp hp hq body h.2⟩

theorem Item.forallIn_imp {p p' : Word → Prop} {q q' : String → Prop} (hp : ∀ w, p w → p' w)
    (hq : ∀ text, q text → q' text) :
    ∀ items : List Item, Item.ForallIn p q items → Item.ForallIn p' q' items
  | [] => fun _ => trivial
  | item :: rest => fun h => ⟨Item.forall_imp hp hq item h.1, Item.forallIn_imp hp hq rest h.2⟩

end

theorem Item.IsBare.legible {items : List Item} (h : Item.IsBare items) : Item.Legible items :=
  Item.forallIn_imp (fun _ hw => hw.legible) (fun _ hno => hno.elim) items h

theorem quote_notMem_charsOfList {ws : List Word} (h : ∀ w ∈ ws, w.IsBare) :
    '"' ∉ Word.charsOfList ws := by
  have hchars : ∀ w ∈ ws, '"' ∉ w.chars := by
    intro w hw hmem
    have hbare := h w hw
    cases w with
    | bare text => exact absurd (by decide) (hbare.2 _ hmem).2
    | quoted text => exact hbare.elim
  clear h
  induction ws with
  | nil => exact List.not_mem_nil
  | cons w rest ih =>
    obtain ⟨hw, hrest⟩ := List.forall_mem_cons.1 hchars
    cases rest with
    | nil => exact hw
    | cons w' rest => simp [Word.charsOfList, hw, ih hrest]

theorem quote_notMem_indent (depth : Nat) : '"' ∉ indent depth := by
  simp [indent]

mutual

/-- Items without quotes are written without quotes. -/
theorem quote_notMem_chars (depth : Nat) :
    ∀ item : Item, item.Forall Word.IsBare (fun _ => False) → '"' ∉ item.chars depth
  | .gap => fun _ => by simp [Item.chars]
  | .comment _ => fun h => h.elim
  | .simple words => fun h => by
    simp [Item.chars, quote_notMem_indent, quote_notMem_charsOfList h]
  | .block words [] => fun h => by
    simp [Item.chars, quote_notMem_indent, quote_notMem_charsOfList h.1]
  | .block words (item :: rest) => fun h => by
    have hitem := quote_notMem_chars (depth + 1) item h.2.1
    have hrest := quote_notMem_charsOfItems (depth + 1) rest h.2.2
    simp [Item.chars, quote_notMem_indent, quote_notMem_charsOfList h.1, hitem, hrest]

theorem quote_notMem_charsOfItems (depth : Nat) :
    ∀ items : List Item, Item.IsBare items → '"' ∉ Item.charsOfList depth items
  | [] => fun _ => List.not_mem_nil
  | item :: rest => fun h => by
    have hitem := quote_notMem_chars depth item h.1
    have hrest := quote_notMem_charsOfItems depth rest h.2
    simp [Item.charsOfList, hitem, hrest]

end

theorem isBare_bareWords {texts : List String} (h : ∀ text ∈ texts, IsWord text) :
    ∀ w ∈ bareWords texts, w.IsBare := by
  intro w hw
  obtain ⟨text, htext, rfl⟩ := List.mem_map.1 hw
  exact h text htext

theorem legible_bareWords {texts : List String} (h : ∀ text ∈ texts, IsWord text) :
    ∀ w ∈ bareWords texts, w.Legible := by
  intro w hw
  exact (isBare_bareWords h w hw).legible

/-! ## Items of a configuration -/

theorem isBare_guardItems (methods : List Method) : Item.IsBare (guardItems methods) := by
  cases methods with
  | nil => trivial
  | cons m rest =>
    have hwords : ∀ text ∈ ["if", "($request_method", "~",
        "^(" ++ "|".intercalate ((m :: rest).map Method.name) ++ ")$)"], IsWord text := by
      simp only [List.forall_mem_cons]
      exact ⟨by decide, by decide, by decide, isWord_pattern (m :: rest), fun _ h => by cases h⟩
    have hreturn : ∀ text ∈ ["return", "405"], IsWord text := by decide
    exact ⟨⟨isBare_bareWords hwords, isBare_bareWords hreturn, trivial⟩, trivial⟩

mutual

/-- The block of a location is written without quotes when the paths and targets in it are words. -/
theorem isBare_locationBlock :
    ∀ l : Location, (∀ l' ∈ Location.preorder l, IsWord l'.path ∧ IsWord l'.target) →
      (locationBlock l).Forall Word.IsBare (fun _ => False)
  | ⟨path, target, unallowed, children⟩ => fun h => by
    rw [Location.preorder, List.forall_mem_cons] at h
    obtain ⟨⟨hpath, htarget⟩, hbelow⟩ := h
    have hwords : ∀ text ∈ ["location", path], IsWord text := by
      simpa [hpath] using (by decide : IsWord "location")
    have hproxy : ∀ text ∈ ["proxy_pass", target], IsWord text := by
      simpa [htarget] using (by decide : IsWord "proxy_pass")
    have hchildren := isBare_locationItems children hbelow
    rw [locationBlock]
    refine ⟨isBare_bareWords hwords, ?_⟩
    rw [Item.forallIn_iff, List.forall_mem_append, ← Item.forallIn_iff, ← Item.forallIn_iff]
    exact ⟨isBare_guardItems unallowed, isBare_bareWords hproxy, hchildren⟩

theorem isBare_locationItems :
    ∀ ls : List Location, (∀ l ∈ Location.preorderAll ls, IsWord l.path ∧ IsWord l.target) →
      Item.IsBare (locationItems ls)
  | [] => fun _ => trivial
  | l :: rest => fun h => by
    rw [Location.preorderAll, List.forall_mem_append] at h
    rw [locationItems]
    exact ⟨trivial, isBare_locationBlock l h.1, isBare_locationItems rest h.2⟩

end

/-- The line of an entry of a method map: the method as it is, and the target in quotes. -/
def entryItem (e : Method × String) : Item :=
  .simple [.bare e.1.name, .quoted e.2]

theorem legible_entryItem (e : Method × String) :
    ∀ w ∈ [Word.bare e.1.name, .quoted e.2], w.Legible := by
  rw [List.forall_mem_cons, List.forall_mem_singleton]
  exact ⟨isWord_name e.1, trivial⟩

theorem legible_entryItems (es : List (Method × String)) : Item.Legible (es.map entryItem) := by
  rw [Item.Legible, Item.forallIn_iff, List.forall_mem_map]
  exact fun e _ => legible_entryItem e

theorem legible_openingOfMap {M : MethodMap} (h : IsPlain M.name) :
    ∀ w ∈ bareWords ["map", "$request_method", "$" ++ M.name], w.Legible := by
  refine legible_bareWords ?_
  simp only [List.forall_mem_cons]
  exact ⟨by decide, by decide, IsWord.append (by decide) h, fun _ h => by cases h⟩

theorem legible_mapBlock {M : MethodMap} (h : IsPlain M.name) :
    (mapBlock M).Forall Word.Legible IsLine := by
  have hdefault : ∀ w ∈ [Word.bare "default", .quoted ""], w.Legible := by
    rw [List.forall_mem_cons, List.forall_mem_singleton]
    exact ⟨show IsWord "default" by decide, trivial⟩
  have hentries := legible_entryItems M.table.entries
  rw [Item.Legible, Item.forallIn_iff] at hentries
  refine ⟨legible_openingOfMap h, ?_⟩
  rw [Item.forallIn_iff, List.forall_mem_append, List.forall_mem_singleton]
  exact ⟨hentries, hdefault⟩

end Nginx

end GatewayRouting
