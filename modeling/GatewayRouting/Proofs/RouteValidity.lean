import GatewayRouting.Compile

/-!
# Valid routes

`Route.Valid` lists the conditions on a single route, and validation checks exactly these
(`validate_ok_iff`, `validateAll_ok_iff`).
-/

namespace GatewayRouting

/-- A text that can stand unquoted in a directive: it holds no blank and none of the characters that
end, open, quote, escape or comment. -/
def IsPlain (s : String) : Prop :=
  ∀ c ∈ s.toList, Text.isBlank c = false ∧ c ∉ [';', '{', '}', '"', '\'', '\\', '#']

instance (s : String) : Decidable (IsPlain s) :=
  List.decidableBAll (fun c => Text.isBlank c = false ∧ c ∉ [';', '{', '}', '"', '\'', '\\', '#'])
    s.toList

theorem IsPlain.append {s s' : String} (h : IsPlain s) (h' : IsPlain s') : IsPlain (s ++ s') := by
  intro c hc
  rw [String.toList_append, List.mem_append] at hc
  rcases hc with hc | hc
  · exact h c hc
  · exact h' c hc

theorem firstForbidden_eq_none_iff_isPlain {s : String} :
    firstForbidden s = none ↔ IsPlain s := by
  simp only [firstForbidden_eq_none_iff, isForbidden, IsPlain, Bool.or_eq_false_iff,
    decide_eq_false_iff_not]

namespace Route

/-- What a route has to fulfil on its own. -/
structure Valid (r : Route) : Prop where
  path_slash : r.path.toList.head? = some '/'
  path_plain : IsPlain r.path
  methods_nodup : r.declared.Nodup
  target_ne : r.target ≠ ""
  target_plain : IsPlain r.target

/-- No method is met again when the list is without duplicates and none was seen before. -/
theorem firstRepeated_eq_none_iff {seen ms : List Method} :
    firstRepeated seen ms = none ↔ ms.Nodup ∧ ∀ m ∈ ms, m ∉ seen := by
  induction ms generalizing seen with
  | nil => simp [firstRepeated]
  | cons m ms ih =>
    unfold firstRepeated
    split
    · next hseen => simp [hseen]
    · next hseen =>
      rw [ih, List.nodup_cons]
      constructor
      · rintro ⟨hnodup, hfresh⟩
        refine ⟨⟨fun hm => hfresh m hm List.mem_cons_self, hnodup⟩, fun m' hm' => ?_⟩
        rcases List.mem_cons.1 hm' with rfl | hm'
        · exact hseen
        · exact fun h => hfresh m' hm' (List.mem_cons_of_mem _ h)
      · rintro ⟨⟨hm, hnodup⟩, hfresh⟩
        refine ⟨hnodup, fun m' hm' h => ?_⟩
        rcases List.mem_cons.1 h with rfl | h
        · exact hm hm'
        · exact hfresh m' (List.mem_cons_of_mem _ hm') h

theorem validate_ok_iff {r : Route} : r.validate = .ok () ↔ r.Valid := by
  have hempty : r.path = "" → r.path.toList.head? ≠ some '/' := by
    intro h
    simp [h]
  unfold validate
  constructor
  · intro h
    -- the check for an empty path leaves no condition, as a path with a slash is not empty
    split at h
    · cases h
    split at h
    · cases h
    next hslash =>
    split at h
    · cases h
    next hpath =>
    split at h
    · cases h
    next hmethods =>
    split at h
    · cases h
    next htarget =>
    split at h
    · cases h
    next hplain =>
    exact ⟨Decidable.not_not.1 hslash, firstForbidden_eq_none_iff_isPlain.1 hpath,
      (firstRepeated_eq_none_iff.1 hmethods).1, htarget,
      firstForbidden_eq_none_iff_isPlain.1 hplain⟩
  · intro h
    have hrepeated : firstRepeated [] r.declared = none :=
      firstRepeated_eq_none_iff.2 ⟨h.methods_nodup, fun _ _ => List.not_mem_nil⟩
    rw [if_neg fun hp => hempty hp h.path_slash, if_neg (not_not_intro h.path_slash),
      firstForbidden_eq_none_iff_isPlain.2 h.path_plain, hrepeated]
    simp only [if_neg h.target_ne, firstForbidden_eq_none_iff_isPlain.2 h.target_plain]

end Route

theorem validateAll_ok_iff {routes : List Route} :
    validateAll routes = .ok () ↔ ∀ r ∈ routes, r.Valid := by
  induction routes with
  | nil => simp [validateAll]
  | cons r rest ih =>
    have hcons : validateAll (r :: rest) = .ok () ↔
        r.validate = .ok () ∧ validateAll rest = .ok () := by
      rw [validateAll]
      cases r.validate <;> simp
    rw [hcons, ih, Route.validate_ok_iff, List.forall_mem_cons]

end GatewayRouting
