import GatewayRouting.Proofs.ConflictReports
import GatewayRouting.Proofs.MapVariables
import GatewayRouting.Proofs.ResolvedFunctions

/-!
# The URLs of addresses

An address leads to the URL that it is, or to the one that it becomes behind `https://`. Which of them is
decided by the mark `://` alone, wherever it stands.

* `Url.exists_letter_of_check` : every URL begins with a letter, characters that do not count apart;
* `isTarget_of_targetUrl` : what the URL of an address looks like, and that it is its own URL. A target
  that was resolved is never empty and never the reference to a variable.
-/

namespace GatewayRouting

/-! ## Texts without blanks at their ends -/

namespace Text

/-- No blank stands at either end of a text. -/
def IsTrimmed (s : String) : Prop :=
  (∀ c ∈ s.toList.head?, isBlank c = false) ∧ ∀ c ∈ s.toList.getLast?, isBlank c = false

theorem isTrimmed_iff_dropWhile {s : String} :
    IsTrimmed s ↔
      s.toList.dropWhile isBlank = s.toList ∧ s.toList.rdropWhile isBlank = s.toList := by
  rw [IsTrimmed, List.dropWhile_eq_self_iff, List.rdropWhile_eq_self_iff]
  refine and_congr ?_ ?_
  · cases s.toList <;> simp
  · cases hcs : s.toList using List.reverseRecOn <;> simp

theorem isTrimmed_trim (s : String) : IsTrimmed (trim s) := by
  rw [isTrimmed_iff_dropWhile, trim, String.toList_ofList]
  constructor
  · exact dropWhile_rdropWhile_of_dropWhile (List.dropWhile_idempotent isBlank s.toList)
  · exact List.rdropWhile_idempotent isBlank (s.toList.dropWhile isBlank)

theorem IsTrimmed.trim_eq {s : String} (h : IsTrimmed s) : trim s = s := by
  rcases isTrimmed_iff_dropWhile.1 h with ⟨hfront, hback⟩
  rw [← String.toList_inj, trim, String.toList_ofList]
  show (s.toList.dropWhile isBlank).rdropWhile isBlank = s.toList
  rw [hfront, hback]

end Text

/-! ## What every URL begins with -/

namespace Url

/-- Of the characters that count, the first one is the first that is no edge character. -/
theorem head?_significant (cs : List Char) :
    (significant cs).head? = (cs.dropWhile isEdgeChar).head? := by
  show (((cs.dropWhile isEdgeChar).rdropWhile isEdgeChar).filter (!isDropped ·)).head? = _
  cases hcs : cs.dropWhile isEdgeChar with
  | nil => rfl
  | cons c rest =>
    have hedge : isEdgeChar c = false := by
      have hnot := List.head?_dropWhile_not isEdgeChar cs
      simpa [hcs] using hnot
    have hkept : isDropped c = false := by
      simp only [isEdgeChar, decide_eq_false_iff_not] at hedge
      simp only [isDropped, Bool.or_eq_false_iff, beq_eq_false_iff_ne]
      refine ⟨⟨?_, ?_⟩, ?_⟩ <;> rintro rfl <;> exact hedge (by decide)
    -- the first character is not dropped at the other end either
    cases hback : (c :: rest).rdropWhile isEdgeChar with
    | nil =>
      have hall := List.rdropWhile_eq_nil_iff.1 hback c List.mem_cons_self
      rw [hedge] at hall
      cases hall
    | cons d ds =>
      have hfront := List.rdropWhile_prefix isEdgeChar (c :: rest)
      rw [hback, List.cons_prefix_cons] at hfront
      rw [hfront.1, List.filter_cons_of_pos (by simp [hkept])]
      rfl

theorem isAlpha_of_splitScheme? {cs : List Char} {split : List Char × List Char}
    (h : splitScheme? cs = some split) : ∃ c ∈ cs.head?, c.isAlpha = true := by
  unfold splitScheme? at h
  split at h
  · cases h
  next c rest =>
  split at h
  · next halpha => exact ⟨c, rfl, halpha⟩
  · cases h

/-- A text is a URL only if it begins with a letter, edge characters apart. -/
theorem exists_letter_of_check {text : String} (h : check text = .ok ()) :
    ∃ c ∈ (text.toList.dropWhile isEdgeChar).head?, c.isAlpha = true := by
  rw [← head?_significant]
  unfold check at h
  split at h
  · cases h
  next scheme rest hsplit => exact isAlpha_of_splitScheme? hsplit

end Url

/-! ## Candidates -/

theorem hasSchemeMark_iff {cs : List Char} :
    hasSchemeMark cs = true ↔ "://".toList <:+: cs := by
  induction cs with
  | nil => simp [hasSchemeMark]
  | cons c cs ih =>
    rw [hasSchemeMark, Bool.or_eq_true, List.isPrefixOf_iff_prefix, ih, List.infix_cons_iff]
    rfl

variable {address url : String}

theorem targetCandidate_of_mark (h : "://".toList <:+: (Text.trim address).toList) :
    targetCandidate address = Text.trim address := by
  rw [targetCandidate, if_pos (hasSchemeMark_iff.2 h)]

theorem targetCandidate_of_not_mark (h : ¬ "://".toList <:+: (Text.trim address).toList) :
    targetCandidate address = "https://" ++ Text.trim address := by
  rw [targetCandidate, if_neg (mt hasSchemeMark_iff.1 h)]

theorem mark_infix_https (a : String) : "://".toList <:+: ("https://" ++ a).toList :=
  ⟨"https".toList, a.toList, by rw [String.toList_append]; rfl⟩

theorem mark_infix_targetCandidate (address : String) :
    "://".toList <:+: (targetCandidate address).toList := by
  by_cases h : "://".toList <:+: (Text.trim address).toList
  · rw [targetCandidate_of_mark h]
    exact h
  · rw [targetCandidate_of_not_mark h]
    exact mark_infix_https _

theorem Text.IsTrimmed.https {a : String} (h : IsTrimmed a) : IsTrimmed ("https://" ++ a) := by
  rw [IsTrimmed, String.toList_append, List.getLast?_append]
  constructor
  · intro c hc
    cases hc
    decide
  · cases hlast : a.toList.getLast? with
    | none =>
      intro c hc
      cases hc
      decide
    | some c =>
      intro c' hc'
      cases hc'
      exact h.2 c hlast

theorem isTrimmed_targetCandidate (address : String) :
    Text.IsTrimmed (targetCandidate address) := by
  by_cases h : "://".toList <:+: (Text.trim address).toList
  · rw [targetCandidate_of_mark h]
    exact Text.isTrimmed_trim address
  · rw [targetCandidate_of_not_mark h]
    exact (Text.isTrimmed_trim address).https

/-- A candidate is its own candidate. -/
theorem targetCandidate_targetCandidate (address : String) :
    targetCandidate (targetCandidate address) = targetCandidate address := by
  have htrim := (isTrimmed_targetCandidate address).trim_eq
  rw [targetCandidate_of_mark (htrim.symm ▸ mark_infix_targetCandidate address), htrim]

theorem targetUrl_eq_ok_iff :
    targetUrl address = .ok url ↔
      targetCandidate address = url ∧ Url.check (targetCandidate address) = .ok () := by
  unfold targetUrl
  cases Url.check (targetCandidate address) <;> simp

/-! ## Targets -/

/-- A text that looks like the target of a route: it is written without blanks around it, it has a mark
behind its scheme, it does not begin like a variable, and as an address it leads to itself. -/
structure IsTarget (url : String) : Prop where
  trimmed : Text.IsTrimmed url
  mark : "://".toList <:+: url.toList
  literal : url.toList.head? ≠ some '$'
  stable : targetUrl url = .ok url

theorem IsTarget.of_targetUrl (h : targetUrl address = .ok url) : IsTarget url := by
  rcases targetUrl_eq_ok_iff.1 h with ⟨rfl, hcheck⟩
  refine ⟨isTrimmed_targetCandidate address, mark_infix_targetCandidate address, ?_, ?_⟩
  · intro hdollar
    rcases Url.exists_letter_of_check hcheck with ⟨c, hc, halpha⟩
    rcases List.head?_eq_some_iff.1 hdollar with ⟨rest, hrest⟩
    -- a dollar sign counts in a URL, and is no letter
    rw [hrest] at hc
    cases hc
    cases halpha
  · rw [targetUrl_eq_ok_iff, targetCandidate_targetCandidate]
    exact ⟨rfl, hcheck⟩

theorem IsTarget.ne_empty (h : IsTarget url) : url ≠ "" := by
  rintro rfl
  exact absurd (hasSchemeMark_iff.2 h.mark) (by decide)

/-- A target is never read as a variable, whatever the variables are. -/
theorem IsTarget.variableOf?_eq_none (h : IsTarget url) (names : List String) :
    variableOf? names url = none := by
  rw [Option.eq_none_iff_forall_ne_some]
  intro v hv
  apply h.literal
  rw [(variableOf?_eq_some_iff.1 hv).1, String.toList_append]
  rfl

theorem exists_resolves_of_mem_routes {d : Directory} {fs : List FunctionDecl} {routes : List Route}
    (h : List.Forall₂ (Resolves d) fs routes) {r : Route} (hr : r ∈ routes) :
    ∃ f, Resolves d f r := by
  induction h with
  | nil => cases hr
  | cons hhead _ ih =>
    rcases List.mem_cons.1 hr with rfl | hr
    · exact ⟨_, hhead⟩
    · exact ih hr

theorem isTarget_of_resolve {d : Directory} {fs : List FunctionDecl} {routes : List Route}
    (h : resolve d fs = .ok routes) {r : Route} (hr : r ∈ routes) : IsTarget r.target := by
  rcases exists_resolves_of_mem_routes (resolve_eq_ok_iff.1 h) hr with ⟨f, hf⟩
  rcases hf.target with ⟨address, -, htarget⟩
  exact .of_targetUrl htarget

/-- Functions are refused for the names of their methods, but not for their targets. -/
theorem Refuses.ne_emptyTarget {d : Directory} {f : FunctionDecl} {name path : String} :
    ¬ Refuses d f (.invalidRoute name (.emptyTarget path)) := by
  intro h
  cases h with
  | invalidRoute _ _ _ _ hfault =>
    rcases hfault with ⟨_, _, _, _, _, -, hfault⟩
    cases hfault

theorem Route.target_eq_empty_of_validate {r : Route} {path : String}
    (h : r.validate = .error (.emptyTarget path)) : r.target = "" := by
  unfold validate at h
  split at h
  · cases h
  split at h
  · cases h
  split at h
  · cases h
  split at h
  · cases h
  split at h
  · next htarget => exact htarget
  split at h <;> cases h

/-- Routes with targets never fail to compile for want of one. -/
theorem compile_ne_emptyTarget {routes : List Route} (h : ∀ r ∈ routes, IsTarget r.target)
    (path : String) : compile routes ≠ .error (.invalidRoute (.emptyTarget path)) := by
  rw [Ne, compile_eq_invalidRoute_iff, validateAll_eq_error_iff]
  rintro ⟨before, r, after, rfl, -, hr⟩
  have hmem : r ∈ before ++ r :: after := List.mem_append_right _ List.mem_cons_self
  exact (h r hmem).ne_empty (Route.target_eq_empty_of_validate hr)

/-- How a compilation ends: some function does not resolve, the routes do not compile, or both succeed. -/
theorem Config.compileWith_cases (c : Config) (d : Directory) :
    (∃ e, resolve d c.functions = .error e ∧ c.compileWith d = .error (.resolve e)) ∨
      ∃ routes, resolve d c.functions = .ok routes ∧
        ((∃ fault, GatewayRouting.compile routes = .error fault ∧
            c.compileWith d = .error (.compile fault)) ∨
          ∃ proxy, c.compileWith d = .ok ⟨routes, proxy⟩) := by
  cases hresolve : resolve d c.functions with
  | error e => exact .inl ⟨e, rfl, by simp only [compileWith, hresolve]⟩
  | ok routes =>
    refine .inr ⟨routes, rfl, ?_⟩
    cases hcompile : GatewayRouting.compile routes with
    | error fault => exact .inl ⟨fault, rfl, by simp only [compileWith, hresolve, hcompile]⟩
    | ok proxy => exact .inr ⟨proxy, by simp only [compileWith, hresolve, hcompile]⟩

/-- The URL of an address is a target, and its own URL. So with whatever directory a configuration is
compiled, no target is found to be empty, and none of those that are compiled is read as a variable. -/
theorem isTarget_of_targetUrl :
    (∀ address url, targetUrl address = .ok url → IsTarget url) ∧
    (∀ (c : Config) (d : Directory) (path : String),
      c.compileWith d ≠ .error (.compile (.invalidRoute (.emptyTarget path))) ∧
        ∀ name, c.compileWith d ≠ .error (.resolve (.invalidRoute name (.emptyTarget path)))) ∧
    ∀ (c : Config) (d : Directory) (g : Gateway), c.compileWith d = .ok g →
      ∀ r ∈ g.routes, ∀ names, variableOf? names r.target = none := by
  refine ⟨fun _ _ => .of_targetUrl, ?_, ?_⟩
  · intro c d path
    rcases c.compileWith_cases d with
      ⟨e, he, heq⟩ | ⟨routes, hroutes, ⟨fault, hfault, heq⟩ | ⟨proxy, heq⟩⟩
    · refine ⟨by simp [heq], ?_⟩
      rintro name hname
      rw [heq] at hname
      cases hname
      rcases resolve_eq_error_iff.1 he with ⟨_, f, _, _, _, hf⟩
      exact hf.ne_emptyTarget
    · refine ⟨?_, by simp [heq]⟩
      intro hpath
      rw [heq] at hpath
      cases hpath
      exact compile_ne_emptyTarget (fun r hr => isTarget_of_resolve hroutes hr) path hfault
    · simp [heq]
  · intro c d g hg r hr names
    rcases c.compileWith_cases d with
      ⟨e, -, heq⟩ | ⟨routes, hroutes, ⟨fault, -, heq⟩ | ⟨proxy, heq⟩⟩
    · cases heq.symm.trans hg
    · cases heq.symm.trans hg
    · cases heq.symm.trans hg
      exact (isTarget_of_resolve hroutes hr).variableOf?_eq_none names

/-- A function at an address that looks like a variable, and one at a blank address. -/
def dollarConfig : Config where
  functions := [⟨"dollar", some "/m", none⟩, ⟨"blank", some "/n", none⟩]
  deployed := (NameTable.empty.insert "dollar" "\u2003$m_target\t").insert "blank" " "

theorem isTarget_of_dollarConfig :
    (targetUrl "\u2003$m_target\t" = .ok "https://$m_target" ∧ IsTarget "https://$m_target") ∧
      dollarConfig.compile = .error (.resolve (.invalidAddress "blank" " " .emptyHost)) ∧
      dollarConfig.compile ≠ .error (.compile (.invalidRoute (.emptyTarget "/n"))) := by
  have hurl : targetUrl "\u2003$m_target\t" = .ok "https://$m_target" := by decide +kernel
  refine ⟨⟨hurl, isTarget_of_targetUrl.1 _ _ hurl⟩, ?_, ?_⟩
  · rw [Config.compile_eq_resolve_iff]
    decide +kernel
  · exact (isTarget_of_targetUrl.2.1 dollarConfig dollarConfig.directory "/n").1

end GatewayRouting
