import GatewayRouting.Location
import Mathlib.Data.List.Perm.Basic

/-!
# Walks through locations

The recursive walks of `Location` as operations on lists, and what they have in common: each visits
every location once (`lastFirstAll_perm`). `lastFirstAll` is the order in which a stack is worked
off (`lastFirstAll_concat`).
-/

namespace GatewayRouting

/-! ## The recursions as flattened lists -/

namespace Trie

theorem locationsBelow_eq_flatMap (cs : List (String × Trie)) :
    locationsBelow cs = cs.flatMap fun c => c.2.locations := by
  induction cs with
  | nil => rfl
  | cons c rest ih => rw [locationsBelow, ih, List.flatMap_cons]

theorem methodMapsBelow_eq_flatMap (cs : List (String × Trie)) :
    methodMapsBelow cs = cs.flatMap fun c => c.2.methodMaps := by
  induction cs with
  | nil => rfl
  | cons c rest ih => rw [methodMapsBelow, ih, List.flatMap_cons]

end Trie

namespace Location

theorem preorder_eq (l : Location) : l.preorder = l :: preorderAll l.children := by
  cases l
  rw [preorder]

theorem preorderAll_eq_flatMap (ls : List Location) : preorderAll ls = ls.flatMap preorder := by
  induction ls with
  | nil => rfl
  | cons l rest ih => rw [preorderAll, ih, List.flatMap_cons]

theorem preorderAll_singleton (l : Location) :
    preorderAll [l] = l :: preorderAll l.children := by
  rw [preorderAll_eq_flatMap, List.flatMap_singleton, preorder_eq]

theorem preorderAll_flatMap {α : Type} (xs : List α) (f : α → List Location) :
    preorderAll (xs.flatMap f) = xs.flatMap fun x => preorderAll (f x) := by
  simp only [preorderAll_eq_flatMap, List.flatMap_assoc]

/-! ## Parents last -/

theorem postorder_eq (l : Location) : l.postorder = postorderAll l.children ++ [l] := by
  cases l
  rw [postorder]

theorem postorderAll_eq_flatMap (ls : List Location) :
    postorderAll ls = ls.flatMap postorder := by
  induction ls with
  | nil => rfl
  | cons l rest ih => rw [postorderAll, ih, List.flatMap_cons]

theorem postorderAll_singleton (l : Location) :
    postorderAll [l] = postorderAll l.children ++ [l] := by
  rw [postorderAll_eq_flatMap, List.flatMap_singleton, postorder_eq]

theorem postorderAll_flatMap {α : Type} (xs : List α) (f : α → List Location) :
    postorderAll (xs.flatMap f) = xs.flatMap fun x => postorderAll (f x) := by
  simp only [postorderAll_eq_flatMap, List.flatMap_assoc]

/-! ## Last sibling first -/

theorem lastFirst_eq (l : Location) : l.lastFirst = l :: lastFirstAll l.children := by
  cases l
  rw [lastFirst]

theorem lastFirstAll_append (ls ls' : List Location) :
    lastFirstAll (ls ++ ls') = lastFirstAll ls' ++ lastFirstAll ls := by
  induction ls with
  | nil => simp [lastFirstAll]
  | cons l rest ih => simp only [List.cons_append, lastFirstAll, ih, List.append_assoc]

/-- Taking the last pending location off the stack and pushing its children leaves the rest of the
walk to be done. -/
theorem lastFirstAll_concat (pending : List Location) (l : Location) :
    lastFirstAll (pending ++ [l]) = l :: lastFirstAll (pending ++ l.children) := by
  rw [lastFirstAll_append, lastFirstAll_append]
  simp [lastFirstAll, lastFirst_eq]

mutual

/-- Both walks of a location visit the same locations. -/
theorem lastFirst_perm : ∀ l : Location, (lastFirst l).Perm (preorder l)
  | ⟨_, _, _, children⟩ => by
    rw [lastFirst, preorder]
    exact (lastFirstAll_perm children).cons _

/-- Both walks of a list visit the same locations. -/
theorem lastFirstAll_perm : ∀ ls : List Location, (lastFirstAll ls).Perm (preorderAll ls)
  | [] => .refl _
  | l :: rest => by
    rw [lastFirstAll, preorderAll]
    exact List.perm_append_comm.trans ((lastFirst_perm l).append (lastFirstAll_perm rest))

end

end Location

end GatewayRouting
