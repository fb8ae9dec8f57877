import GatewayRouting.Proofs.Acceptance
import GatewayRouting.Proofs.PathText
import GatewayRouting.Proofs.RouteOrder

/-!
# The first spelling decides the variable

A node of the trie keeps the path of the route that came first, and the variable of its method map is
derived from that spelling. Of all the conditions under which routes compile, only those that compare
variables depend on the order of the routes:

* `compile_succeeds_of_perm` : where the routes that come first keep their paths, the order does not
  decide whether routes compile, and wherever it does, some order fails to keep the variables apart;
* `order_decides_doubledRoutes` : it does decide where a node is spelled in two ways.
-/

namespace GatewayRouting

/-- The path that the node at an address keeps: that of the first route that ends there. -/
def firstPath? (routes : List Route) (s : List String) : Option String :=
  (routesAt routes s).head?.map Route.path

variable {routes routes' : List Route} {s : List String} {v : String}

theorem firstPath?_eq_some_iff {path : String} :
    firstPath? routes s = some path ↔
      ∃ r, (routesAt routes s).head? = some r ∧ r.path = path :=
  Option.map_eq_some_iff

/-- In every order the same number of methods is declared at an address. -/
theorem length_methodsAt_of_perm (hperm : routes.Perm routes') (s : List String) :
    (methodsAt routes s).length = (methodsAt routes' s).length :=
  ((hperm.filter _).flatMap_right Route.declared).length_eq

/-- An address derives its variable from the path that comes first. -/
theorem derivesVariable_iff_firstPath? :
    DerivesVariable routes s v ↔ 2 ≤ (methodsAt routes s).length ∧
      ∃ path, firstPath? routes s = some path ∧ v = Path.mapVariable path := by
  constructor
  · rintro ⟨hmany, r, hhead, hv⟩
    exact ⟨hmany, r.path, firstPath?_eq_some_iff.2 ⟨r, hhead, rfl⟩, hv⟩
  · rintro ⟨hmany, path, hpath, hv⟩
    obtain ⟨r, hhead, rfl⟩ := firstPath?_eq_some_iff.1 hpath
    exact ⟨hmany, r, hhead, hv⟩

/-- Something comes first at an address where methods are declared. -/
theorem exists_firstPath?_of_many (h : 2 ≤ (methodsAt routes s).length) :
    ∃ r ∈ routes, r.address = s ∧ firstPath? routes s = some r.path := by
  cases hgroup : routesAt routes s with
  | nil => simp [methodsAt, hgroup] at h
  | cons r rest =>
    have hmem : r ∈ routesAt routes s := by
      rw [hgroup]
      exact List.mem_cons_self
    obtain ⟨hr, haddress⟩ := mem_routesAt.1 hmem
    exact ⟨r, hr, haddress, by rw [firstPath?, hgroup]; rfl⟩

/-! ## Variables in another order -/

theorem Acceptable.valid_of_perm (h : Acceptable routes) (hperm : routes.Perm routes') :
    ∀ r ∈ routes', r.Valid := by
  intro r hr
  exact h.valid r (hperm.mem_iff.2 hr)

/-- In another order the variables are well named all the same: their letters are those of the
segments. -/
theorem Acceptable.variable_chars_of_perm (h : Acceptable routes) (hperm : routes.Perm routes')
    (hv : DerivesVariable routes' s v) : ∀ c ∈ v.toList, c.isAlphanum = true ∨ c = '_' := by
  have hvalid' := h.valid_of_perm hperm
  obtain ⟨hmany, path, hpath, rfl⟩ := derivesVariable_iff_firstPath?.1 hv
  obtain ⟨r', hr', haddress', hfirst'⟩ := exists_firstPath?_of_many hmany
  rw [hpath, Option.some.injEq] at hfirst'
  -- the address derives a variable in the original order as well, from another spelling perhaps
  have hmany₀ : 2 ≤ (methodsAt routes s).length := by
    rw [length_methodsAt_of_perm hperm]
    exact hmany
  obtain ⟨r, hr, haddress, hfirst⟩ := exists_firstPath?_of_many hmany₀
  have hchars := h.variable_chars s _ (derivesVariable_iff_firstPath?.2 ⟨hmany₀, _, hfirst, rfl⟩)
  have hsegments : Path.segments r.path = Path.segments r'.path := haddress.trans haddress'.symm
  rw [hfirst', Path.forall_mem_mapVariable_iff (hvalid' r' hr').path_plain, ← hsegments]
  exact (Path.forall_mem_mapVariable_iff (h.valid r hr).path_plain).1 hchars

/-- No variable is derived at two addresses, and no target that is written out as it stands is one. -/
structure VariablesApart (routes : List Route) : Prop where
  distinct : ∀ s s' v, DerivesVariable routes s v → DerivesVariable routes s' v → s = s'
  literal : ∀ r ∈ routes, (methodsAt routes r.address).length ≤ 1 →
    ∀ s v, DerivesVariable routes s v → r.target ≠ "$" ++ v

theorem Acceptable.variablesApart (h : Acceptable routes) : VariablesApart routes :=
  ⟨h.variables_distinct, h.targets_literal⟩

/-- Acceptable routes are acceptable in every other order that keeps the variables apart. -/
theorem Acceptable.perm (h : Acceptable routes) (hperm : routes.Perm routes')
    (hapart : VariablesApart routes') : Acceptable routes' := by
  have hchars : ∀ s v, DerivesVariable routes' s v →
      ∀ c ∈ v.toList, c.isAlphanum = true ∨ c = '_' := by
    intro s v hv
    exact h.variable_chars_of_perm hperm hv
  exact ⟨h.valid_of_perm hperm, h.conflictFree.perm hperm, hchars, hapart.distinct,
    hapart.literal⟩

/-- Variables stay apart in another order in which no address derives a new one. -/
theorem VariablesApart.perm (h : VariablesApart routes) (hperm : routes.Perm routes')
    (hsame : ∀ s v, DerivesVariable routes' s v → DerivesVariable routes s v) :
    VariablesApart routes' := by
  constructor
  · intro s s' v hv hv'
    exact h.distinct s s' v (hsame s v hv) (hsame s' v hv')
  · intro r hr hfew s v hv
    rw [← length_methodsAt_of_perm hperm] at hfew
    exact h.literal r (hperm.mem_iff.2 hr) hfew s v (hsame s v hv)

/-- Addresses derive the same variables where the routes that come first keep their paths. -/
theorem DerivesVariable.perm (hv : DerivesVariable routes s v) (hperm : routes.Perm routes')
    (hfirst : ∀ r ∈ routes, 2 ≤ (methodsAt routes r.address).length →
      firstPath? routes r.address = firstPath? routes' r.address) :
    DerivesVariable routes' s v := by
  obtain ⟨hmany, path, hpath, hname⟩ := derivesVariable_iff_firstPath?.1 hv
  obtain ⟨r, hr, rfl, -⟩ := exists_firstPath?_of_many hmany
  have hmany' := hmany
  rw [length_methodsAt_of_perm hperm] at hmany'
  exact derivesVariable_iff_firstPath?.2 ⟨hmany', path, (hfirst r hr hmany).symm.trans hpath, hname⟩

/-! ## Compilation -/

/-- Routes that compile can only fail with a collision of variables in another order. -/
theorem Acceptable.collision_of_perm {fault : CompileError} (h : Acceptable routes)
    (hperm : routes.Perm routes') (hfault : compile routes' = .error fault) :
    ∃ v path path', fault = .variableCollision v path path' := by
  have hvalid' := h.valid_of_perm hperm
  obtain ⟨t, ht⟩ := ofRoutes_ok_iff.2 (h.conflictFree.perm hperm)
  have hgathered := gathered_of_ofRoutes hvalid' ht
  have hcheck := (compile_eq_error_iff hvalid' ht).1 hfault
  rcases ProxyConfig.checkVariables_eq_error hcheck with ⟨l, -, v, hv, hname, -⟩ | hcollision
  · -- a variable in use is derived somewhere, so it is well named
    obtain ⟨s, hs⟩ := hgathered.mem_mapNames_iff.1 (variableOf?_eq_some_iff.1 hv).2
    obtain ⟨r, -, rfl⟩ := hs.name
    rw [isVariableName_mapVariable_iff.2 (h.variable_chars_of_perm hperm hs)] at hname
    cases hname
  · exact hcollision

/-- Acceptable routes are acceptable in another order in which the routes that come first keep their
paths. -/
theorem Acceptable.perm_of_firstPath? (h : Acceptable routes) (hperm : routes.Perm routes')
    (hfirst : ∀ r ∈ routes', 2 ≤ (methodsAt routes' r.address).length →
      firstPath? routes' r.address = firstPath? routes r.address) : Acceptable routes' := by
  refine h.perm hperm (h.variablesApart.perm hperm fun s v hv => ?_)
  exact hv.perm hperm.symm hfirst

/-- Where every node at which two or more methods are declared keeps the same path in two orders of
some routes, the routes compile in both orders or in neither. Whatever the paths, routes that compile
in one order compile in another one exactly when it keeps the variables apart, and otherwise fail with
a collision. -/
theorem compile_succeeds_of_perm (hperm : routes.Perm routes') :
    ((∀ r ∈ routes, 2 ≤ (methodsAt routes r.address).length →
        firstPath? routes r.address = firstPath? routes' r.address) →
      ((∃ c, compile routes = .ok c) ↔ ∃ c, compile routes' = .ok c)) ∧
    ((∃ c, compile routes = .ok c) →
      ((∃ c, compile routes' = .ok c) ↔ VariablesApart routes') ∧
      ∀ fault, compile routes' = .error fault →
        ∃ v path path', fault = .variableCollision v path path') := by
  rw [compile_succeeds_iff, compile_succeeds_iff]
  refine ⟨fun hfirst => ⟨fun h => ?_, fun h => ?_⟩, fun h => ⟨⟨fun h' => ?_, fun hapart => ?_⟩, ?_⟩⟩
  · refine h.perm_of_firstPath? hperm fun r hr hmany => ?_
    rw [← length_methodsAt_of_perm hperm] at hmany
    exact (hfirst r (hperm.mem_iff.2 hr) hmany).symm
  · exact h.perm_of_firstPath? hperm.symm hfirst
  · exact h'.variablesApart
  · exact h.perm hperm hapart
  · intro fault hfault
    exact h.collision_of_perm hperm hfault

/-- The sample routes in an order in which every node keeps its path. -/
def reorderedRoutes : List Route :=
  [⟨"/", none, "R"⟩, ⟨"/a/b", some [.get], "X"⟩, ⟨"/a", some [.put], "P"⟩,
    ⟨"/a//b/", some [.post], "$up"⟩, ⟨"/c/d", none, "$a_target"⟩]

theorem compile_succeeds_reorderedRoutes : ∃ c, compile reorderedRoutes = .ok c := by
  have hperm : sampleRoutes.Perm reorderedRoutes := by decide
  have hiff := (compile_succeeds_of_perm hperm).1 (by decide)
  exact hiff.1 compile_sampleRoutes

/-- Routes of which the first two spell one node, and only the first spelling leads to the variable of
the others. -/
def doubledRoutes : List Route :=
  [⟨"/a/b", some [.get], "1"⟩, ⟨"/a//b", some [.post], "2"⟩, ⟨"/a_b", some [.get], "3"⟩,
    ⟨"/a_b", some [.post], "4"⟩]

/-- When the first two of these routes change places, the collision is gone. -/
theorem order_decides_doubledRoutes :
    compile doubledRoutes = .error (.variableCollision "a_b_target" "/a/b" "/a_b") ∧
      ∃ routes, doubledRoutes.Perm routes ∧ ∃ c, compile routes = .ok c := by
  constructor
  · have hfault : (compile doubledRoutes).map (fun _ => ()) =
        .error (.variableCollision "a_b_target" "/a/b" "/a_b") := by decide +kernel
    cases hcompile : compile doubledRoutes with
    | error fault =>
      rw [hcompile] at hfault
      cases hfault
      rfl
    | ok c =>
      rw [hcompile] at hfault
      cases hfault
  · refine ⟨[⟨"/a//b", some [.post], "2"⟩, ⟨"/a/b", some [.get], "1"⟩,
      ⟨"/a_b", some [.get], "3"⟩, ⟨"/a_b", some [.post], "4"⟩], ?_, ?_⟩
    · exact .swap _ _ _
    · exact ⟨_, rfl⟩

end GatewayRouting
