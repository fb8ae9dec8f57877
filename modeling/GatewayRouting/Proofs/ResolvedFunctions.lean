import GatewayRouting.Gateway
import Mathlib.Data.List.DropRight
import Mathlib.Data.List.Forall2

/-!
# From functions to routes

What becomes of the functions of a configuration. Functions without a path play no part, and neither do
the addresses of other functions than those with a path.

* `Resolves` and `Refuses` : when a function has a route, and what is wrong with it otherwise;
* `resolve_eq_ok_iff`, `resolve_eq_error_iff` : functions resolve to their routes one by one, or the
  first that has none is refused;
* `Config.compile_of_routed` : what both mean for the compilation of a configuration.
-/

namespace GatewayRouting

/-! ## Blanks around a text -/

namespace Text

/-- What is trimmed at one end of a text that does not begin with a blank does not begin with one. -/
theorem dropWhile_rdropWhile_of_dropWhile {p : Char → Bool} {cs : List Char}
    (h : cs.dropWhile p = cs) : (cs.rdropWhile p).dropWhile p = cs.rdropWhile p := by
  rw [List.dropWhile_eq_self_iff] at h ⊢
  intro hpos
  have hfront := List.rdropWhile_prefix p cs
  rw [hfront.getElem hpos]
  exact h (hpos.trans_le hfront.length_le)

theorem trimChars_trimChars (cs : List Char) : trimChars (trimChars cs) = trimChars cs := by
  show ((((cs.dropWhile isBlank).rdropWhile isBlank).dropWhile isBlank).rdropWhile isBlank) = _
  rw [dropWhile_rdropWhile_of_dropWhile (List.dropWhile_idempotent isBlank cs),
    List.rdropWhile_idempotent]
  rfl

theorem trim_trim (s : String) : trim (trim s) = trim s := by
  simp only [trim, String.toList_ofList, trimChars_trimChars]

end Text

/-- Blanks around an address do not matter. -/
theorem targetUrl_trim (address : String) : targetUrl (Text.trim address) = targetUrl address := by
  have hcandidate : targetCandidate (Text.trim address) = targetCandidate address := by
    simp only [targetCandidate, Text.trim_trim]
  delta targetUrl
  rw [hcandidate]

/-! ## The first failure -/

section FirstFailure

variable {α ε : Type} {passes : α → Prop} {fails : α → ε → Prop} {x : α} {xs : List α} {e : ε}

/-- The first elements of a list pass, and the next one fails with this error. -/
def FirstFailure (passes : α → Prop) (fails : α → ε → Prop) (xs : List α) (e : ε) : Prop :=
  ∃ before x after, xs = before ++ x :: after ∧ (∀ b ∈ before, passes b) ∧ fails x e

theorem not_firstFailure_nil : ¬ FirstFailure passes fails [] e := by
  rintro ⟨before, x, after, hsplit, -⟩
  exact List.append_ne_nil_of_right_ne_nil before (List.cons_ne_nil x after) hsplit.symm

/-- The first failure is at the head of a list, or behind it if the head passes. -/
theorem firstFailure_cons_iff :
    FirstFailure passes fails (x :: xs) e ↔
      fails x e ∨ passes x ∧ FirstFailure passes fails xs e := by
  constructor
  · rintro ⟨before, y, after, hsplit, hbefore, hy⟩
    cases before with
    | nil =>
      cases hsplit
      exact .inl hy
    | cons b before =>
      cases hsplit
      rcases List.forall_mem_cons.1 hbefore with ⟨hb, hbefore⟩
      exact .inr ⟨hb, before, y, after, rfl, hbefore, hy⟩
  · rintro (hx | ⟨hx, before, y, after, rfl, hbefore, hy⟩)
    · exact ⟨[], x, xs, rfl, List.forall_mem_nil _, hx⟩
    · exact ⟨x :: before, y, after, rfl, List.forall_mem_cons.2 ⟨hx, hbefore⟩, hy⟩

end FirstFailure

/-! ## Names of methods -/

namespace Method

/-- A name spells a method if it is its canonical spelling but for blanks around it and the case of ASCII
letters. -/
def Spells (name : String) (m : Method) : Prop :=
  (Text.trim name).toUpper = m.name

theorem sameSpelling_iff {m : Method} {name : String} :
    sameSpelling m.name.toList (Text.trimChars name.toList) = true ↔ Spells name m := by
  have hname : m.name.toList.map Char.toUpper = m.name.toList := by cases m <;> decide
  unfold Spells sameSpelling
  rw [hname, beq_iff_eq, ← String.toList_inj, String.toUpper, String.toList_map, Text.trim,
    String.toList_ofList, eq_comm]

instance (name : String) (m : Method) : Decidable (Spells name m) :=
  decidable_of_iff _ sameSpelling_iff

theorem spells_of_ofName? {name : String} {m : Method} (h : ofName? name = some m) :
    Spells name m := by
  unfold ofName? at h
  have hspelling := List.find?_some h
  exact sameSpelling_iff.1 hspelling

theorem ofName?_eq_some_iff {name : String} {m : Method} :
    ofName? name = some m ↔ Spells name m := by
  constructor
  · exact spells_of_ofName?
  · intro h
    cases hname : ofName? name with
    | none => exact absurd (sameSpelling_iff.2 h) (List.find?_eq_none.1 hname m (mem_all m))
    | some m' =>
      -- no two methods have one canonical spelling
      rw [name_injective ((spells_of_ofName? hname).symm.trans h)]

theorem ofName?_eq_none_iff {name : String} : ofName? name = none ↔ ∀ m, ¬ Spells name m := by
  simp only [Option.eq_none_iff_forall_ne_some, ne_eq, ofName?_eq_some_iff]

end Method

/-- The first of some names that spells no method is refused with this fault. -/
def RefusesNames (path : String) (names : List String) (fault : InvalidRoute) : Prop :=
  FirstFailure (fun name => ∃ m, Method.Spells name m)
    (fun name fault => (∀ m, ¬ Method.Spells name m) ∧ fault = .unknownMethod path name) names fault

/-- Names are read as the methods that they spell, in their order. -/
theorem Route.methodsOfNames_eq_ok_iff {path : String} {names : List String} {ms : List Method} :
    methodsOfNames path names = .ok ms ↔ List.Forall₂ Method.Spells names ms := by
  induction names generalizing ms with
  | nil => simp [methodsOfNames, eq_comm]
  | cons name rest ih =>
    rw [methodsOfNames, List.forall₂_cons_left_iff]
    cases hname : Method.ofName? name with
    | none => simp [Method.ofName?_eq_none_iff.1 hname]
    | some m =>
      simp only [← ih, ← Method.ofName?_eq_some_iff, hname]
      cases methodsOfNames path rest <;> simp [Except.map, eq_comm]

theorem Route.methodsOfNames_eq_error_iff {path : String} {names : List String}
    {fault : InvalidRoute} :
    methodsOfNames path names = .error fault ↔ RefusesNames path names fault := by
  unfold RefusesNames
  induction names with
  | nil => simp [methodsOfNames, not_firstFailure_nil]
  | cons name rest ih =>
    rw [methodsOfNames, firstFailure_cons_iff]
    cases hname : Method.ofName? name with
    | none =>
      have hnone := Method.ofName?_eq_none_iff.1 hname
      simp [hnone, eq_comm]
    | some m =>
      have hspells : ∃ m, Method.Spells name m := ⟨m, Method.ofName?_eq_some_iff.1 hname⟩
      have hknown : ¬ ∀ m, ¬ Method.Spells name m := not_forall_not.2 hspells
      simp only [hspells, hknown, false_and, false_or, true_and, ← ih]
      cases methodsOfNames path rest <;> simp [Except.map]

/-- A route has the methods that the names spell, and none if there are no names. -/
theorem Route.ofNames_eq_ok_iff {path target : String} {names : Option (List String)} {r : Route} :
    ofNames path names target = .ok r ↔
      path = r.path ∧ Option.Rel (List.Forall₂ Method.Spells) names r.methods ∧
        target = r.target := by
  rcases r with ⟨path', methods, target'⟩
  cases names with
  | none => cases methods <;> simp [ofNames]
  | some names =>
    cases methods with
    | none =>
      simp only [ofNames]
      cases methodsOfNames path names <;> simp [Except.map]
    | some ms =>
      simp only [ofNames, Option.rel_some_some, ← @methodsOfNames_eq_ok_iff path]
      cases methodsOfNames path names <;> simp [Except.map]

theorem Route.ofNames_eq_error_iff {path target : String} {names : Option (List String)}
    {fault : InvalidRoute} :
    ofNames path names target = .error fault ↔
      ∃ spellings, names = some spellings ∧ RefusesNames path spellings fault := by
  cases names with
  | none => simp [ofNames]
  | some names =>
    simp only [ofNames, Option.some.injEq, exists_eq_left', ← methodsOfNames_eq_error_iff]
    cases methodsOfNames path names <;> simp [Except.map]

/-! ## One function -/

variable {d d' : Directory} {f : FunctionDecl} {fs : List FunctionDecl} {r : Route} {path : String}
  {e : ResolveError}

/-- A route is that of a function: it keeps the path, has the methods that the names spell, and leads to
the URL of the address. -/
structure Resolves (d : Directory) (f : FunctionDecl) (r : Route) : Prop where
  path : f.path = some r.path
  methods : Option.Rel (List.Forall₂ Method.Spells) f.methods r.methods
  target : ∃ address, d.addresses.get? f.name = some address ∧
    targetUrl (Text.trim address) = .ok r.target

/-- What is wrong with a function that has a path but no route. Its name is looked up first, then its
address is checked, and then the names of its methods. -/
inductive Refuses (d : Directory) (f : FunctionDecl) : ResolveError → Prop
  | notDeployed (hname : d.addresses.get? f.name = none) :
    Refuses d f (.lookup (.notDeployed f.name))
  | invalidAddress {address : String} {fault : Url.Error}
    (hname : d.addresses.get? f.name = some address)
    (haddress : targetUrl (Text.trim address) = .error fault) :
    Refuses d f (.invalidAddress f.name address fault)
  | invalidRoute {address target path : String} {names : List String} {fault : InvalidRoute}
    (hname : d.addresses.get? f.name = some address)
    (haddress : targetUrl (Text.trim address) = .ok target)
    (hpath : f.path = some path) (hmethods : f.methods = some names)
    (hfault : RefusesNames path names fault) :
    Refuses d f (.invalidRoute f.name fault)

theorem Directory.lookup_eq_ok_iff {name address : String} :
    d.lookup name = .ok address ↔ d.addresses.get? name = some address := by
  unfold lookup
  cases d.addresses.get? name <;> simp

theorem Directory.lookup_eq_error_iff {name : String} {fault : LookupError} :
    d.lookup name = .error fault ↔ d.addresses.get? name = none ∧ fault = .notDeployed name := by
  unfold lookup
  cases d.addresses.get? name <;> simp [eq_comm]

theorem resolveAt_eq_ok_iff (hpath : f.path = some path) :
    resolveAt d f path = .ok r ↔ Resolves d f r := by
  constructor
  · intro h
    unfold resolveAt at h
    split at h
    · cases h
    next address hname =>
    split at h
    · cases h
    next target htarget =>
    split at h
    · cases h
    next route hroute =>
    cases h
    rcases Route.ofNames_eq_ok_iff.1 hroute with ⟨rfl, hmethods, rfl⟩
    exact ⟨hpath, hmethods, address, Directory.lookup_eq_ok_iff.1 hname,
      (targetUrl_trim address).trans htarget⟩
  · intro h
    rcases h.target with ⟨address, hname, htarget⟩
    have hkept : path = r.path := Option.some.inj (hpath.symm.trans h.path)
    rw [targetUrl_trim] at htarget
    simp only [resolveAt, Directory.lookup_eq_ok_iff.2 hname, htarget,
      Route.ofNames_eq_ok_iff.2 ⟨hkept, h.methods, rfl⟩]

theorem resolveAt_eq_error_iff (hpath : f.path = some path) :
    resolveAt d f path = .error e ↔ Refuses d f e := by
  constructor
  · intro h
    unfold resolveAt at h
    split at h
    · next fault hname =>
      cases h
      rcases Directory.lookup_eq_error_iff.1 hname with ⟨hnone, rfl⟩
      exact .notDeployed hnone
    next address hname =>
    rw [Directory.lookup_eq_ok_iff] at hname
    split at h
    · next fault htarget =>
      cases h
      exact .invalidAddress hname ((targetUrl_trim address).trans htarget)
    next target htarget =>
    split at h
    · next fault hroute =>
      cases h
      rcases Route.ofNames_eq_error_iff.1 hroute with ⟨names, hmethods, hfault⟩
      exact .invalidRoute hname ((targetUrl_trim address).trans htarget) hpath hmethods hfault
    · cases h
  · intro h
    cases h with
    | notDeployed hname =>
      simp only [resolveAt, Directory.lookup_eq_error_iff.2 ⟨hname, rfl⟩]
    | invalidAddress hname haddress =>
      rw [targetUrl_trim] at haddress
      simp only [resolveAt, Directory.lookup_eq_ok_iff.2 hname, haddress]
    | invalidRoute hname haddress hpath' hmethods hfault =>
      cases hpath.symm.trans hpath'
      rw [targetUrl_trim] at haddress
      simp only [resolveAt, Directory.lookup_eq_ok_iff.2 hname, haddress,
        Route.ofNames_eq_error_iff.2 ⟨_, hmethods, hfault⟩]

/-! ## All functions -/

/-- The functions with a path, in the order in which they are declared. -/
def routed (fs : List FunctionDecl) : List FunctionDecl :=
  fs.filter fun f => f.path.isSome

theorem routed_cons_of_none (hpath : f.path = none) : routed (f :: fs) = routed fs := by
  simp [routed, hpath]

theorem routed_cons_of_some (hpath : f.path = some path) :
    routed (f :: fs) = f :: routed fs := by
  simp [routed, hpath]

theorem resolve_cons_of_none (hpath : f.path = none) : resolve d (f :: fs) = resolve d fs := by
  rw [resolve, hpath]

theorem resolve_cons_of_some (hpath : f.path = some path) :
    resolve d (f :: fs) =
      (resolveAt d f path).bind fun r => (resolve d fs).map (r :: ·) := by
  simp only [resolve, hpath]
  cases resolveAt d f path <;> simp [Except.bind]

/-- Functions without a path play no part. -/
theorem resolve_routed (d : Directory) (fs : List FunctionDecl) :
    resolve d (routed fs) = resolve d fs := by
  induction fs with
  | nil => rfl
  | cons f fs ih =>
    cases hpath : f.path with
    | none => rw [routed_cons_of_none hpath, resolve_cons_of_none hpath, ih]
    | some path =>
      rw [routed_cons_of_some hpath, resolve_cons_of_some hpath, resolve_cons_of_some hpath, ih]

/-- Nothing of a directory matters but the addresses of the functions. -/
theorem resolve_congr (h : ∀ f ∈ fs, d'.addresses.get? f.name = d.addresses.get? f.name) :
    resolve d' fs = resolve d fs := by
  induction fs with
  | nil => rfl
  | cons f fs ih =>
    rcases List.forall_mem_cons.1 h with ⟨hf, hfs⟩
    unfold resolve resolveAt Directory.lookup
    rw [hf, ih hfs]

/-- Functions resolve one by one, in their order. -/
theorem resolve_eq_ok_iff {routes : List Route} :
    resolve d fs = .ok routes ↔ List.Forall₂ (Resolves d) (routed fs) routes := by
  induction fs generalizing routes with
  | nil => simp [resolve, routed, eq_comm]
  | cons f fs ih =>
    cases hpath : f.path with
    | none => rw [routed_cons_of_none hpath, resolve_cons_of_none hpath, ih]
    | some path =>
      simp only [routed_cons_of_some hpath, List.forall₂_cons_left_iff, ← ih,
        ← resolveAt_eq_ok_iff hpath]
      rw [resolve_cons_of_some hpath]
      cases resolveAt d f path with
      | error e => simp [Except.bind]
      | ok r => cases resolve d fs <;> simp [Except.bind, Except.map, eq_comm]

theorem exists_resolves_of_mem {routes : List Route} (h : List.Forall₂ (Resolves d) fs routes)
    (hf : f ∈ fs) : ∃ r, Resolves d f r := by
  have hboth : List.Forall₂ (fun f r => (∃ r, Resolves d f r) ∧ Resolves d f r) fs routes := by
    refine h.imp ?_
    intro f r hr
    exact ⟨⟨r, hr⟩, hr⟩
  exact ((List.forall₂_and_left fs routes).1 hboth).1 f hf

/-- The first function that has no route is reported. -/
theorem resolve_eq_error_iff :
    resolve d fs = .error e ↔
      FirstFailure (fun f => ∃ r, Resolves d f r) (Refuses d) (routed fs) e := by
  induction fs with
  | nil => simp [resolve, routed, not_firstFailure_nil]
  | cons f fs ih =>
    cases hpath : f.path with
    | none => rw [routed_cons_of_none hpath, resolve_cons_of_none hpath, ih]
    | some path =>
      simp only [routed_cons_of_some hpath, firstFailure_cons_iff, ← ih,
        ← resolveAt_eq_ok_iff hpath, ← resolveAt_eq_error_iff hpath]
      rw [resolve_cons_of_some hpath]
      cases resolveAt d f path with
      | error e' => simp [Except.bind]
      | ok r => cases resolve d fs <;> simp [Except.bind, Except.map]

/-! ## Configurations -/

namespace Config

variable {c c' : Config}

theorem compile_eq_ok_iff {g : Gateway} :
    c.compile = .ok g ↔
      resolve c.directory c.functions = .ok g.routes ∧
        GatewayRouting.compile g.routes = .ok g.proxy := by
  rcases g with ⟨routes, proxy⟩
  unfold Config.compile compileWith
  cases resolve c.directory c.functions with
  | error fault => simp
  | ok routes' =>
    simp only [Except.ok.injEq]
    constructor
    · intro h
      split at h
      · cases h
      next proxy' hcompile =>
      cases h
      exact ⟨rfl, hcompile⟩
    · rintro ⟨rfl, hcompile⟩
      rw [hcompile]

theorem compile_eq_resolve_iff {e : ResolveError} :
    c.compile = .error (.resolve e) ↔ resolve c.directory c.functions = .error e := by
  unfold Config.compile compileWith
  cases resolve c.directory c.functions with
  | error fault => simp
  | ok routes => cases hcompile : GatewayRouting.compile routes <;> simp [hcompile]

/-- Of two configurations that agree on the functions with a path and on their addresses, the functions
resolve alike. -/
theorem resolve_eq_of_routed (hrouted : routed c'.functions = routed c.functions)
    (hdeployed : ∀ f ∈ routed c.functions, c'.deployed.get? f.name = c.deployed.get? f.name) :
    resolve c'.directory c'.functions = resolve c.directory c.functions := by
  rw [← resolve_routed, hrouted, ← resolve_routed c.directory]
  exact resolve_congr hdeployed

/-- Only the functions with a path and their addresses matter to a compilation. It resolves the functions
one by one and compiles the routes; or the first function that has no route is reported, and nothing is
compiled. -/
theorem compile_of_routed (c : Config) :
    (∀ c' : Config, routed c'.functions = routed c.functions →
      (∀ f ∈ routed c.functions, c'.deployed.get? f.name = c.deployed.get? f.name) →
      c'.compile = c.compile) ∧
    (∀ g, c.compile = .ok g ↔
      List.Forall₂ (Resolves c.directory) (routed c.functions) g.routes ∧
        GatewayRouting.compile g.routes = .ok g.proxy) ∧
    (∀ e, c.compile = .error (.resolve e) ↔
      FirstFailure (fun f => ∃ r, Resolves c.directory f r) (Refuses c.directory)
        (routed c.functions) e) ∧
    ((∃ f ∈ routed c.functions, ∀ r, ¬ Resolves c.directory f r) →
      ∃ e, c.compile = .error (.resolve e)) := by
  refine ⟨?_, ?_, ?_, ?_⟩
  · intro c' hrouted hdeployed
    unfold Config.compile compileWith
    rw [resolve_eq_of_routed hrouted hdeployed]
  · intro g
    rw [compile_eq_ok_iff, resolve_eq_ok_iff]
  · intro e
    rw [compile_eq_resolve_iff, resolve_eq_error_iff]
  · rintro ⟨f, hf, hnone⟩
    cases hresolve : resolve c.directory c.functions with
    | error e => exact ⟨e, compile_eq_resolve_iff.2 hresolve⟩
    | ok routes =>
      -- otherwise every function with a path would have a route
      rcases exists_resolves_of_mem (resolve_eq_ok_iff.1 hresolve) hf with ⟨r, hr⟩
      exact absurd hr (hnone r)

/-- Two functions with a path, of which one has blanks around a method and around its address. -/
def plainConfig : Config where
  functions := [⟨"hello", some "/hello", some ["get "]⟩, ⟨"local", some "/local", none⟩]
  deployed := (NameTable.empty.insert "hello" " hello.example").insert "local" "http://127.0.0.1:3000"

/-- The same functions between others without a path, one of which has an address that is no URL. -/
def paddedConfig : Config where
  functions := [⟨"cron", none, some ["OPTIONS"]⟩, ⟨"hello", some "/hello", some ["get "]⟩,
    ⟨"hello", none, none⟩, ⟨"local", some "/local", none⟩]
  deployed := plainConfig.deployed.insert "cron" "bad host"

/-- A function that is not deployed, in front of one with an address that is no URL. -/
def brokenConfig : Config where
  functions := [⟨"hello", some "/hello", none⟩, ⟨"missing", some "/missing", some ["OPTIONS"]⟩,
    ⟨"cron", some "/cron", none⟩]
  deployed := paddedConfig.deployed

theorem compile_of_routed_paddedConfig :
    (∃ g, plainConfig.compile = .ok g ∧ paddedConfig.compile = .ok g ∧
      g.routes = [⟨"/hello", some [.get], "https://hello.example"⟩,
        ⟨"/local", none, "http://127.0.0.1:3000"⟩]) ∧
      brokenConfig.compile = .error (.resolve (.lookup (.notDeployed "missing"))) := by
  constructor
  · rcases compile_of_routed plainConfig with ⟨hsame, hok, -⟩
    have hhello : Resolves plainConfig.directory ⟨"hello", some "/hello", some ["get "]⟩
        ⟨"/hello", some [.get], "https://hello.example"⟩ :=
      ⟨rfl, .some (.cons (by decide) .nil), " hello.example", by decide, by decide +kernel⟩
    have hlocal : Resolves plainConfig.directory ⟨"local", some "/local", none⟩
        ⟨"/local", none, "http://127.0.0.1:3000"⟩ :=
      ⟨rfl, .none, "http://127.0.0.1:3000", by decide, by decide +kernel⟩
    have hcompile : GatewayRouting.compile [⟨"/hello", some [.get], "https://hello.example"⟩,
        ⟨"/local", none, "http://127.0.0.1:3000"⟩] = .ok _ := rfl
    have hplain := (hok ⟨_, _⟩).2 ⟨.cons hhello (.cons hlocal .nil), hcompile⟩
    exact ⟨_, hplain, (hsame paddedConfig (by decide) (by decide)).trans hplain, rfl⟩
  · rcases compile_of_routed brokenConfig with ⟨-, -, hfirst, -⟩
    have hhello : Resolves brokenConfig.directory ⟨"hello", some "/hello", none⟩
        ⟨"/hello", none, "https://hello.example"⟩ :=
      ⟨rfl, .none, " hello.example", by decide, by decide +kernel⟩
    have hmissing : Refuses brokenConfig.directory ⟨"missing", some "/missing", some ["OPTIONS"]⟩
        (.lookup (.notDeployed "missing")) := .notDeployed (by decide)
    refine (hfirst _).2 ⟨[⟨"hello", some "/hello", none⟩], _, _, rfl, ?_, hmissing⟩
    intro f hf
    rw [List.mem_singleton.1 hf]
    exact ⟨_, hhello⟩

end Config

end GatewayRouting
