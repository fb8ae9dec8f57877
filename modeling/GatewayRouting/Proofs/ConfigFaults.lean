import GatewayRouting.Config.Parse
import GatewayRouting.Proofs.NamedEntries

/-!
# The faults of a configuration

Every breach of a rule is reported, at its place and once. The names of the functions are read in one
pass, which remembers the names that it has met.

* `Config.breaches` : what there is to report, each function being compared with those before it;
* `nameFaults_eq` : the names that were met stand for the functions that were read;
* `faults_of_config` : what is reported, and which configurations are accepted.
-/

namespace GatewayRouting

/-- A text holds nothing but blanks, if anything. -/
def Text.OnlyBlanks (s : String) : Prop :=
  ∀ c ∈ s.toList, isBlank c = true

instance (s : String) : Decidable (Text.OnlyBlanks s) :=
  List.decidableBAll (fun c => Text.isBlank c = true) s.toList

theorem Text.isBlankText_iff {s : String} : isBlankText s = true ↔ OnlyBlanks s :=
  List.all_eq_true

open Text (OnlyBlanks)

/-! ## What there is to report -/

/-- What is wrong with the name of the function at a place: it is blank, or else some earlier function has
the same name. -/
def nameBreach? (fs : List FunctionDecl) (i : Nat) : Option ConfigFault :=
  match fs[i]? with
  | none => none
  | some f =>
    if OnlyBlanks f.name then some (.unnamedFunction i)
    else if ∃ g ∈ fs.take i, g.name = f.name then some (.duplicateFunction f.name)
    else none

/-- What is wrong with a deployed address: it is blank. -/
def addressBreach? (e : String × String) : Option ConfigFault :=
  if OnlyBlanks e.2 then some (.emptyAddress e.1) else none

/-- The breaches of rules: the port, the level of logging, the functions by their places, and the deployed
addresses by their names. -/
def Config.breaches (c : Config) : List ConfigFault :=
  (if c.server.listenPort = 0 then [.invalidPort] else []) ++
    (if Text.lowercase c.logLevel ∈ ["trace", "debug", "info", "warn", "error"] then []
      else [.unknownLogLevel c.logLevel]) ++
    (List.range c.functions.length).filterMap (nameBreach? c.functions) ++
    c.deployed.entries.filterMap addressBreach?

/-! ## One pass over the names -/

section Names

variable {seen : List String} {before fs : List FunctionDecl} {f : FunctionDecl} {name : String}

/-- The names that were met are those of the functions before, blank ones apart. -/
def Met (seen : List String) (before : List FunctionDecl) : Prop :=
  ∀ name, ¬ OnlyBlanks name → (name ∈ seen ↔ ∃ g ∈ before, g.name = name)

theorem met_nil : Met [] [] := by
  intro name _
  simp

theorem exists_mem_concat_iff :
    (∃ g ∈ before ++ [f], g.name = name) ↔ (∃ g ∈ before, g.name = name) ∨ f.name = name := by
  simp only [List.mem_append, List.mem_singleton, or_and_right, exists_or, exists_eq_left]

/-- A blank name need not be remembered. -/
theorem Met.concat_of_onlyBlanks (h : Met seen before) (hf : OnlyBlanks f.name) :
    Met seen (before ++ [f]) := by
  intro name hname
  have hne : f.name ≠ name := by
    rintro rfl
    exact hname hf
  rw [h name hname, exists_mem_concat_iff, or_iff_left hne]

/-- A name that was met need not be remembered again. -/
theorem Met.concat_of_mem (h : Met seen before) (hf : f.name ∈ seen) : Met seen (before ++ [f]) := by
  intro name hname
  have hself : f.name = name → name ∈ seen := by
    rintro rfl
    exact hf
  rw [exists_mem_concat_iff, ← h name hname, or_iff_left_of_imp hself]

/-- A new name is remembered. -/
theorem Met.concat (h : Met seen before) (f : FunctionDecl) :
    Met (f.name :: seen) (before ++ [f]) := by
  intro name hname
  rw [exists_mem_concat_iff, ← h name hname, List.mem_cons, or_comm, eq_comm]

/-- The pass reports every function as it compares with those before it. -/
theorem nameFaults_eq (h : Met seen before) :
    nameFaults seen before.length fs =
      (List.range' before.length fs.length).filterMap (nameBreach? (before ++ fs)) := by
  induction fs generalizing seen before with
  | nil => rfl
  | cons f fs ih =>
    have hget : (before ++ f :: fs)[before.length]? = some f := by simp
    have htake : (before ++ f :: fs).take before.length = before := List.take_left
    have hrest {seen' : List String} (h' : Met seen' (before ++ [f])) :
        nameFaults seen' (before.length + 1) fs =
          (List.range' (before.length + 1) fs.length).filterMap
            (nameBreach? (before ++ f :: fs)) := by
      have := ih h'
      rwa [List.length_append, List.length_singleton, List.append_assoc] at this
    rw [List.length_cons, List.range'_succ, List.filterMap_cons, nameFaults, nameBreach?, hget, htake]
    -- the names that were met say whether a function before has this name, unless it is blank
    by_cases hblank : OnlyBlanks f.name
    · simp only [hblank, Text.isBlankText_iff, if_true, hrest (h.concat_of_onlyBlanks hblank)]
    by_cases hmem : f.name ∈ seen
    · have hearlier := (h f.name hblank).1 hmem
      simp only [hblank, Text.isBlankText_iff, hmem, hearlier, if_true, if_false,
        hrest (h.concat_of_mem hmem)]
    · have hearlier := mt (h f.name hblank).2 hmem
      simp only [hblank, Text.isBlankText_iff, hmem, hearlier, if_false, hrest (h.concat f)]

/-- A name that is not blank is reported as often as it occurs, but for the first time. -/
theorem count_duplicateFunction_nameFaults (hname : ¬ OnlyBlanks name) (index : Nat) :
    (nameFaults seen index fs).count (.duplicateFunction name) =
      (fs.map (·.name)).count name - (if name ∈ seen then 0 else 1) := by
  induction fs generalizing seen index with
  | nil => simp [nameFaults]
  | cons f fs ih =>
    rw [nameFaults, List.map_cons, List.count_cons]
    by_cases hblank : OnlyBlanks f.name
    · have hne : f.name ≠ name := by
        rintro rfl
        exact hname hblank
      simp [hblank, Text.isBlankText_iff, ih, hne]
    by_cases hmem : f.name ∈ seen
    · by_cases heq : f.name = name
      · subst heq
        simp [hblank, Text.isBlankText_iff, hmem, ih]
      · simp [hblank, Text.isBlankText_iff, hmem, ih, heq]
    · by_cases heq : f.name = name
      · subst heq
        simp [hblank, Text.isBlankText_iff, hmem, ih]
      · simp [hblank, Text.isBlankText_iff, hmem, ih, heq, Ne.symm heq]

/-- Nothing is reported of names that are neither blank nor met before nor repeated. -/
theorem nameFaults_eq_nil_iff {index : Nat} :
    nameFaults seen index fs = [] ↔
      (∀ f ∈ fs, ¬ OnlyBlanks f.name) ∧ (fs.map (·.name)).Nodup ∧ ∀ f ∈ fs, f.name ∉ seen := by
  induction fs generalizing seen index with
  | nil => simp [nameFaults]
  | cons f fs ih =>
    rw [nameFaults, List.map_cons, List.nodup_cons, List.forall_mem_cons, List.forall_mem_cons]
    by_cases hblank : OnlyBlanks f.name
    · simp [hblank, Text.isBlankText_iff]
    by_cases hmem : f.name ∈ seen
    · simp [hblank, Text.isBlankText_iff, hmem]
    have hfresh : (∀ g ∈ fs, g.name ∉ f.name :: seen) ↔
        f.name ∉ fs.map (·.name) ∧ ∀ g ∈ fs, g.name ∉ seen := by
      simp only [List.mem_cons, not_or, imp_and, forall_and, List.mem_map, not_exists, not_and]
    simp only [Text.isBlankText_iff, hblank, hmem, if_false, ih, hfresh]
    tauto

end Names

/-! ## Configurations -/

theorem addressFaults_eq (deployed : List (String × String)) :
    addressFaults deployed = deployed.filterMap addressBreach? := by
  unfold addressFaults
  induction deployed with
  | nil => rfl
  | cons e rest ih =>
    by_cases hblank : OnlyBlanks e.2 <;>
      simp [addressBreach?, hblank, Text.isBlankText_iff, ← ih]

namespace Config

variable {c : Config}

theorem faults_eq_breaches (c : Config) : c.faults = c.breaches := by
  have hnames := @nameFaults_eq [] [] c.functions met_nil
  rw [List.length_nil, ← List.range_eq_range', List.nil_append] at hnames
  rw [faults, breaches, hnames, addressFaults_eq]
  rfl

theorem validate_eq_ok_iff : c.validate = .ok () ↔ c.faults = [] := by
  unfold validate
  split
  · next h => simp [h]
  · next h => simp [h]

theorem validate_eq_error_iff {faults : List ConfigFault} :
    c.validate = .error (.invalid faults) ↔ c.faults ≠ [] ∧ faults = c.faults := by
  unfold validate
  split
  · next h => simp [h]
  · next h =>
    rw [Except.error.injEq, ConfigError.invalid.injEq, and_iff_right h]
    exact eq_comm

/-- A configuration that breaks no rule. -/
structure Sound (c : Config) : Prop where
  port : c.server.listenPort ≠ 0
  level : Text.lowercase c.logLevel ∈ ["trace", "debug", "info", "warn", "error"]
  names : ∀ f ∈ c.functions, ¬ OnlyBlanks f.name
  names_nodup : (c.functions.map (·.name)).Nodup
  addresses : ∀ name address, c.deployed.get? name = some address → ¬ OnlyBlanks address

theorem portFaults_eq_nil_iff {port : UInt16} : portFaults port = [] ↔ port ≠ 0 := by
  simp [portFaults]

theorem logLevelFaults_eq_nil_iff {level : String} :
    logLevelFaults level = [] ↔
      Text.lowercase level ∈ ["trace", "debug", "info", "warn", "error"] := by
  simp only [logLevelFaults, ite_eq_left_iff, List.cons_ne_nil, imp_false, Decidable.not_not]
  rfl

theorem addressFaults_eq_nil_iff {deployed : NameTable String} :
    addressFaults deployed.entries = [] ↔
      ∀ name address, deployed.get? name = some address → ¬ OnlyBlanks address := by
  simp only [addressFaults, List.map_eq_nil_iff, List.filter_eq_nil_iff, NameTable.get?,
    Entries.lookup_eq_some_iff deployed.ascending, Text.isBlankText_iff, Prod.forall]

/-- A configuration is accepted exactly when it breaks no rule. -/
theorem faults_eq_nil_iff : c.faults = [] ↔ c.Sound := by
  simp only [faults, List.append_eq_nil_iff, portFaults_eq_nil_iff, logLevelFaults_eq_nil_iff,
    nameFaults_eq_nil_iff, addressFaults_eq_nil_iff]
  constructor
  · rintro ⟨⟨⟨hport, hlevel⟩, hnames, hnodup, -⟩, haddresses⟩
    exact ⟨hport, hlevel, hnames, hnodup, haddresses⟩
  · intro h
    exact ⟨⟨⟨h.port, h.level⟩, h.names, h.names_nodup, fun _ _ => List.not_mem_nil⟩, h.addresses⟩

theorem count_duplicateFunction_faults {name : String} (hname : ¬ OnlyBlanks name) :
    c.faults.count (.duplicateFunction name) = (c.functions.map (·.name)).count name - 1 := by
  have hport : (portFaults c.server.listenPort).count (.duplicateFunction name) = 0 := by
    rw [List.count_eq_zero, portFaults]
    split <;> simp
  have hlevel : (logLevelFaults c.logLevel).count (.duplicateFunction name) = 0 := by
    rw [List.count_eq_zero, logLevelFaults]
    split <;> simp
  have haddress : (addressFaults c.deployed.entries).count (.duplicateFunction name) = 0 := by
    rw [List.count_eq_zero]
    simp [addressFaults]
  rw [faults, List.count_append, List.count_append, List.count_append, hport, hlevel, haddress,
    count_duplicateFunction_nameFaults hname]
  simp

/-- The faults of a configuration are its breaches, in order. It is accepted if there are none, and else
refused with all of them. A name that is not blank is reported once for each time it is declared again,
and the names of an accepted configuration are not blank and differ from each other. -/
theorem faults_of_config (c : Config) :
    c.faults = c.breaches ∧
    (c.validate = .ok () ↔ c.breaches = []) ∧
    (∀ faults, c.validate = .error (.invalid faults) ↔ c.breaches ≠ [] ∧ faults = c.breaches) ∧
    (∀ name, ¬ OnlyBlanks name →
      c.faults.count (.duplicateFunction name) = (c.functions.map (·.name)).count name - 1) ∧
    (c.validate = .ok () ↔ c.Sound) := by
  rw [← faults_eq_breaches]
  refine ⟨rfl, validate_eq_ok_iff, fun _ => validate_eq_error_iff, ?_, ?_⟩
  · intro name hname
    exact count_duplicateFunction_faults hname
  · rw [validate_eq_ok_iff, faults_eq_nil_iff]

/-- Two blank names, a name declared three times around them, and a blank address. -/
def carelessConfig : Config where
  server := { listenPort := 0 }
  logLevel := "LOUD"
  functions := [⟨"a", none, none⟩, ⟨" ", none, none⟩, ⟨"a", none, none⟩, ⟨"", none, none⟩,
    ⟨"A", none, none⟩, ⟨"a", none, none⟩]
  deployed := (NameTable.empty.insert "b" "\u3000").insert "a" ""

theorem faults_of_carelessConfig :
    carelessConfig.validate = .error (.invalid [.invalidPort, .unknownLogLevel "LOUD",
        .unnamedFunction 1, .duplicateFunction "a", .unnamedFunction 3, .duplicateFunction "a",
        .emptyAddress "a", .emptyAddress "b"]) ∧
      ¬ OnlyBlanks "a" ∧ carelessConfig.faults.count (.duplicateFunction "a") = 2 := by
  rcases faults_of_config carelessConfig with ⟨-, -, herror, hcount, -⟩
  refine ⟨(herror _).2 (by decide +kernel), by decide, ?_⟩
  rw [hcount "a" (by decide)]
  decide

end Config

end GatewayRouting
