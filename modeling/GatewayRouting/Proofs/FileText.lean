import GatewayRouting.Proofs.Acceptance
import GatewayRouting.Proofs.FileItems
import GatewayRouting.Proofs.FileTree
import GatewayRouting.Proofs.NestedPaths
import GatewayRouting.Proofs.RenderedBlocks

/-!
# The file reads back as the configuration

The text of a file falls into three parts: what stands in front of the settings of the server, the lines
of the settings, and the rest (`toList_render`). In a compiled configuration every text that is written
without quotes is a word (`isWritable_of_compile`), so the first part and the last one are read as they
were meant.

* `directives?_render_iff` : whatever the settings are, the file holds the directives that their lines
  give on their own, in their place;
* `directives?_render` : with settings that are words, the file reads back as the whole configuration.
-/

namespace GatewayRouting

namespace Nginx

/-! ## The parts of the text -/

/-- The text of a file up to some method maps, and these. -/
def textOfMaps (maps : List MethodMap) : List Char :=
  Item.charsOfList 0 [.comment "Generated by faas-gateway. Do not edit.",
      .block (bareWords ["events"]) [], .gap] ++
    openingText 0 (bareWords ["http"]) ++
    Item.charsOfList 1 (maps.flatMap fun M => [mapBlock M, .gap])

/-- The text in front of the settings. -/
def textBefore (port : UInt16) (c : ProxyConfig) : List Char :=
  Item.charsOfList 0 [.comment "Generated by faas-gateway. Do not edit.",
      .block (bareWords ["events"]) [], .gap] ++
    openingText 0 (bareWords ["http"]) ++
    Item.charsOfList 1 (c.maps.flatMap fun M => [mapBlock M, .gap]) ++
    openingText 1 (bareWords ["server"]) ++
    Item.chars 2 (.simple (bareWords ["listen", toString port.toNat]))

/-- The lines of the settings. -/
def settingText (s : Settings) : List Char :=
  Item.charsOfList 2 (optionItem "server_name" s.serverName ++ optionItem "resolver" s.resolver)

/-- The text behind the settings. -/
def textAfter (c : ProxyConfig) : List Char :=
  Item.charsOfList 2
      (.simple (bareWords ["proxy_ssl_server_name", "on"]) :: locationItems c.locations) ++
    closingText 1 ++ closingText 0

/-- The text of a file goes on behind its method maps with the server. -/
theorem toList_render_maps (s : Settings) (c : ProxyConfig) :
    (render s c).toList =
      textOfMaps c.maps ++ Item.chars 1 (serverBlock s c.locations) ++ closingText 0 := by
  have hne : (c.maps.flatMap fun M => [mapBlock M, .gap]) ++ [serverBlock s c.locations] ≠ [] :=
    List.append_ne_nil_of_right_ne_nil _ (List.cons_ne_nil _ _)
  have hhttp := Item.chars_block 0 (bareWords ["http"]) hne
  rw [render, fileText, String.toList_ofList, items, textOfMaps]
  simp only [Item.charsOfList, hhttp, Item.charsOfList_append, List.append_nil, List.append_assoc]

theorem toList_render (s : Settings) (c : ProxyConfig) :
    (render s c).toList = textBefore s.listenPort c ++ settingText s ++ textAfter c := by
  have hserver : Item.chars 1 (serverBlock s c.locations) =
      openingText 1 (bareWords ["server"]) ++
        Item.chars 2 (.simple (bareWords ["listen", toString s.listenPort.toNat])) ++
        settingText s ++
        Item.charsOfList 2
          (.simple (bareWords ["proxy_ssl_server_name", "on"]) :: locationItems c.locations) ++
        closingText 1 := by
    rw [serverBlock, Item.chars_block _ _ (List.cons_ne_nil _ _), Item.charsOfList,
      Item.charsOfList_append, settingText]
    simp only [List.append_assoc]
  rw [toList_render_maps, hserver, textOfMaps, textBefore, textAfter]
  simp only [List.append_assoc]

/-! ## The parts are read -/

/-- The tokens of a file up to some method maps, and of these. -/
def tokensOfMaps (maps : List MethodMap) : List Token :=
  (Directive.block "events" [] []).tokens ++ [.word "http", .opening] ++
    Directive.tokensOfList (maps.map mapDirective)

/-- The tokens in front of the settings. -/
def tokensBefore (port : UInt16) (c : ProxyConfig) : List Token :=
  (Directive.block "events" [] []).tokens ++ [.word "http", .opening] ++
    Directive.tokensOfList (c.maps.map mapDirective) ++ [.word "server", .opening] ++
    (Directive.simple "listen" [toString port.toNat]).tokens

/-- The tokens behind the settings. -/
def tokensAfter (c : ProxyConfig) : List Token :=
  Directive.tokensOfList
      (.simple "proxy_ssl_server_name" ["on"] :: locationDirectives c.locations) ++
    [.closing] ++ [.closing]

theorem tokensOfList_fileDirectives (port : UInt16) (settings : List Directive)
    (c : ProxyConfig) :
    Directive.tokensOfList (fileDirectives port settings c) =
      tokensBefore port c ++ Directive.tokensOfList settings ++ tokensAfter c := by
  simp [fileDirectives, tokensBefore, tokensAfter, Directive.tokensOfList, Directive.tokens,
    Directive.tokensOfList_append]

/-- Every text of a configuration that is written without quotes is a word. -/
structure IsWritable (c : ProxyConfig) : Prop where
  locations : ∀ l ∈ Location.preorderAll c.locations, IsWord l.path ∧ IsWord l.target
  maps : ∀ M ∈ c.maps, IsPlain M.name

/-- The targets of a method map may be any texts; its name has to be plain. -/
theorem reads_textOfMaps {maps : List MethodMap} (h : ∀ M ∈ maps, IsPlain M.name) :
    Reads (textOfMaps maps) (tokensOfMaps maps) := by
  have hevents : Item.Legible [.comment "Generated by faas-gateway. Do not edit.",
      .block (bareWords ["events"]) [], .gap] := by
    refine ⟨?_, ⟨legible_bareWords (by decide), trivial⟩, trivial, trivial⟩
    show IsLine "Generated by faas-gateway. Do not edit."
    rw [IsLine]
    decide
  have hmaps : Item.Legible (maps.flatMap fun M => [mapBlock M, .gap]) := by
    rw [Item.Legible, Item.forallIn_iff]
    intro item hitem
    obtain ⟨M, hM, hitem⟩ := List.mem_flatMap.1 hitem
    rcases hitem with _ | ⟨_, _ | ⟨_, hitem⟩⟩
    · exact legible_mapBlock (h M hM)
    · trivial
    · cases hitem
  have hhttp : ∀ text ∈ ["http"], IsWord text := by decide
  have hopened := (Item.reads_charsOfList 0 _ hevents).append
    (reads_openingText (legible_bareWords hhttp) 0)
  have hall := hopened.append (Item.reads_charsOfList 1 _ hmaps)
  rw [tokensOfList_maps] at hall
  exact hall

theorem reads_textBefore {c : ProxyConfig} (h : IsWritable c) (port : UInt16) :
    Reads (textBefore port c) (tokensBefore port c) := by
  have hlisten : ∀ text ∈ ["listen", toString port.toNat], IsWord text := by
    simp only [List.forall_mem_cons]
    exact ⟨by decide, isWord_toString _, fun _ h => by cases h⟩
  have hserver : ∀ text ∈ ["server"], IsWord text := by decide
  have hopened := (reads_textOfMaps h.maps).append
    (reads_openingText (legible_bareWords hserver) 1)
  exact hopened.append (reads_simple (legible_bareWords hlisten) 2)

theorem isBare_itemsAfter {c : ProxyConfig} (h : IsWritable c) :
    Item.IsBare
      (.simple (bareWords ["proxy_ssl_server_name", "on"]) :: locationItems c.locations) :=
  ⟨isBare_bareWords (by decide), isBare_locationItems c.locations h.locations⟩

theorem reads_textAfter {c : ProxyConfig} (h : IsWritable c) :
    Reads (textAfter c) (tokensAfter c) := by
  have hitems := Item.reads_charsOfList 2 _ (isBare_itemsAfter h).legible
  have hall := (hitems.append (reads_closingText 1)).append (reads_closingText 0)
  rw [Item.tokensOfList, tokensOfList_locationItems] at hall
  exact hall

theorem quote_notMem_textAfter {c : ProxyConfig} (h : IsWritable c) : '"' ∉ textAfter c := by
  have hitems := quote_notMem_charsOfItems 2 _ (isBare_itemsAfter h)
  simp [textAfter, closingText, quote_notMem_indent, hitems]

/-! ## Settings that leave a quote open -/

/-- Only another quote closes a quoted word. -/
theorem Place.finish?_step_eq_none {p : Place} {c : Char} (h : p.finish? = none) (hc : c ≠ '"') :
    (p.step c).2.finish? = none := by
  cases p with
  | between => cases h
  | comment => cases h
  | word read => cases h
  | quoted read =>
    rw [Place.step, if_neg hc]
    split <;> rfl
  | escaped read => rfl

theorem finish?_scan_eq_none {cs : List Char} (hquote : '"' ∉ cs) {p : Place}
    (h : p.finish? = none) : (scan p cs).2.finish? = none := by
  induction cs generalizing p with
  | nil => exact h
  | cons c cs ih =>
    obtain ⟨hc, hcs⟩ := not_or.1 (List.mem_cons.not.1 hquote)
    exact ih hcs (Place.finish?_step_eq_none h (Ne.symm hc))

/-- The end of a line ends everything but a quoted word. -/
theorem Place.step_newline (p : Place) :
    (p.step '\n').2 = .between ∨ (p.step '\n').2.finish? = none := by
  cases p with
  | between => exact .inl rfl
  | comment => exact .inl rfl
  | word read => exact .inl rfl
  | quoted read => exact .inr rfl
  | escaped read => exact .inr rfl

/-- Behind some lines a quoted word is open, or none at all. -/
theorem scan_charsOfList_simple (depth : Nat) (lines : List (List Word)) :
    (scan .between (Item.charsOfList depth (lines.map .simple))).2 = .between ∨
      (scan .between (Item.charsOfList depth (lines.map .simple))).2.finish? = none := by
  induction lines using List.reverseRecOn with
  | nil => exact .inl rfl
  | append_singleton lines words =>
    have hlast : Item.charsOfList depth ((lines ++ [words]).map .simple) =
        Item.charsOfList depth (lines.map .simple) ++
          (indent depth ++ Word.charsOfList words ++ [';']) ++ ['\n'] := by
      simp [Item.charsOfList_append, Item.charsOfList, Item.chars]
    rw [hlast, scan_append, scan_singleton]
    exact Place.step_newline _

theorem scan_settingText (s : Settings) :
    (scan .between (settingText s)).2 = .between ∨
      (scan .between (settingText s)).2.finish? = none := by
  have hlines : settingText s =
      Item.charsOfList 2 ((s.serverName.toList.map (fun v => bareWords ["server_name", v]) ++
        s.resolver.toList.map fun v => bareWords ["resolver", v]).map .simple) := by
    simp [settingText, optionItem, Function.comp_def]
  rw [hlines]
  exact scan_charsOfList_simple 2 _

/-! ## The whole file -/

/-- The file holds the directives that the lines of its settings give on their own, in their place. -/
theorem directives?_render_iff {c : ProxyConfig} (h : IsWritable c) (s : Settings)
    (ds : List Directive) :
    directives? (render s c) = some (fileDirectives s.listenPort ds c) ↔
      directives? (String.ofList (settingText s)) = some ds := by
  have hbefore := reads_textBefore h s.listenPort
  rw [directives?_eq_some_iff, directives?_eq_some_iff, tokensOfList_fileDirectives,
    toList_render, String.toList_ofList, List.append_assoc, tokens?, tokens?, scan_append, hbefore,
    scan_append]
  rcases scan_settingText s with hbetween | hopen
  · -- the settings end between two tokens, so what stands behind them is read as it was meant
    rw [hbetween, reads_textAfter h]
    simp [Place.finish?, ← List.append_assoc]
  · -- they leave a quote open, and no later quote closes it
    have hend := finish?_scan_eq_none (quote_notMem_textAfter h) hopen
    simp [hopen, hend]

/-! ## The texts of a compiled configuration -/

section Compiled

variable {routes : List Route} {t : Trie} {l : Location} {M : MethodMap}

theorem isPlain_name_of_mem (h : Compiled routes t) (hM : M ∈ t.methodMaps) : IsPlain M.name := by
  obtain ⟨s, e, hs, heM⟩ := h.gathers.canonical.mem_methodMaps_iff.1 hM
  have hderives := h.derivesVariable_iff.2 ⟨e, M, hs, heM, rfl⟩
  exact isPlain_of_isAlphanum (h.acceptable.variable_chars s M.name hderives)

theorem isWord_path_of_mem (h : Compiled routes t) (hl : l ∈ Location.preorderAll t.locations) :
    IsWord l.path := by
  obtain ⟨r, hr, hpath⟩ := h.toGathered.exists_route_of_location hl
  have hvalid := h.valid r hr
  rw [← hpath]
  constructor
  · intro hempty
    have hslash := hvalid.path_slash
    rw [hempty] at hslash
    cases hslash
  · exact hvalid.path_plain

/-- A location proxies to the variable of a method map or to the target of a route. -/
theorem isWord_target_of_mem (h : Compiled routes t)
    (hl : l ∈ Location.preorderAll t.locations) : IsWord l.target := by
  obtain ⟨s, hs⟩ := h.gathers.canonical.mem_preorderAll_locations_iff.1 hl
  obtain ⟨e, hat, he⟩ := Trie.exists_at?_of_locationAt? hs
  have htarget : e.proxyTarget = l.target := congrArg (·.2.1) he
  rw [← htarget]
  rcases h.many_or_few hat with ⟨-, hM⟩ | ⟨-, -, r, hgroup, hr⟩
  · have hmem := h.gathers.canonical.mem_methodMaps_iff.2 ⟨s, e, hat, hM⟩
    rw [Endpoint.proxyTarget_of_methodMap? hM]
    exact IsWord.append (by decide) (isPlain_name_of_mem h hmem)
  · have hmem : r ∈ routesAt routes s := by
      rw [hgroup]
      exact List.mem_cons_self
    have hvalid := h.valid r (mem_routesAt.1 hmem).1
    rw [hr]
    exact ⟨hvalid.target_ne, hvalid.target_plain⟩

/-- The configurations that routes compile to can be written. -/
theorem isWritable_of_compile {c : ProxyConfig} (h : compile routes = .ok c) : IsWritable c := by
  obtain ⟨t, ht, rfl⟩ := exists_compiled h
  constructor
  · intro l hl
    exact ⟨isWord_path_of_mem ht hl, isWord_target_of_mem ht hl⟩
  · intro M hM
    exact isPlain_name_of_mem ht hM

end Compiled

/-! ## Settings of several words -/

/-- Words that are written one by one are separated by blanks. -/
theorem Word.charsOfList_bareWords (words : List String) :
    Word.charsOfList (bareWords words) = (" ".intercalate words).toList := by
  rw [String.toList_intercalate]
  induction words with
  | nil => rfl
  | cons word rest ih =>
    cases rest with
    | nil => simp [bareWords, Word.charsOfList, Word.chars, List.intercalate]
    | cons word' rest =>
      have hcons : Word.charsOfList (bareWords (word :: word' :: rest)) =
          word.toList ++ ' ' :: Word.charsOfList (bareWords (word' :: rest)) := rfl
      rw [hcons, ih]
      simp [List.intercalate]

/-- A setting that consists of words is read as one directive with these words. -/
theorem reads_optionItem (name : String) {value : Option (List String)} (hname : IsWord name)
    (hvalue : ∀ words ∈ value, words ≠ [] ∧ ∀ word ∈ words, IsWord word) :
    Reads (Item.charsOfList 2 (optionItem name (value.map " ".intercalate)))
      (Directive.tokensOfList (value.toList.map (.simple name))) := by
  cases value with
  | none => exact Reads.nil
  | some words =>
    obtain ⟨hne, hwords⟩ := hvalue words rfl
    have hall : ∀ text ∈ name :: words, IsWord text := List.forall_mem_cons.2 ⟨hname, hwords⟩
    have hchars : Word.charsOfList (bareWords [name, " ".intercalate words]) =
        Word.charsOfList (bareWords (name :: words)) := by
      obtain ⟨word, rest, rfl⟩ := List.exists_cons_of_ne_nil hne
      rw [Word.charsOfList_bareWords, Word.charsOfList_bareWords, String.toList_intercalate,
        String.toList_intercalate]
      simp [List.intercalate]
    have hread := reads_simple (legible_bareWords hall) 2
    have htokens : Item.tokens (.simple (bareWords (name :: words))) =
        (Directive.simple name words).tokens := by
      simp [Item.tokens, Directive.tokens, bareWords, Word.text, Function.comp_def]
    rw [htokens, Item.chars, ← hchars] at hread
    simpa [optionItem, Item.charsOfList, Item.chars, Directive.tokensOfList] using hread

/-- Settings that consist of words are read as a directive each. -/
theorem directives?_settingText {s : Settings} {names addresses : Option (List String)}
    (hname : s.serverName = names.map " ".intercalate)
    (hresolver : s.resolver = addresses.map " ".intercalate)
    (hnames : ∀ words ∈ names, words ≠ [] ∧ ∀ word ∈ words, IsWord word)
    (haddresses : ∀ words ∈ addresses, words ≠ [] ∧ ∀ word ∈ words, IsWord word) :
    directives? (String.ofList (settingText s)) =
      some (names.toList.map (.simple "server_name") ++
        addresses.toList.map (.simple "resolver")) := by
  have hall := (reads_optionItem "server_name" (by decide) hnames).append
    (reads_optionItem "resolver" (by decide) haddresses)
  rw [directives?_eq_some_iff, String.toList_ofList, Directive.tokensOfList_append, settingText,
    Item.charsOfList_append, hname, hresolver]
  exact hall.tokens?

/-! ## The file of a compiled configuration -/

/-- The file of a compiled configuration reads back as that configuration, with the settings of the
server in their place. -/
theorem directives?_render {routes : List Route} {c : ProxyConfig} (h : compile routes = .ok c)
    {s : Settings} (hname : ∀ v ∈ s.serverName, IsWord v)
    (hresolver : ∀ v ∈ s.resolver, IsWord v) :
    directives? (render s c) = some (fileDirectives s.listenPort (settingDirectives s) c) := by
  have hsingle : ∀ value : Option String, (∀ v ∈ value, IsWord v) →
      ∀ words ∈ value.map ([·]), words ≠ [] ∧ ∀ word ∈ words, IsWord word := by
    intro value hvalue words hwords
    obtain ⟨v, hv, rfl⟩ := Option.map_eq_some_iff.1 hwords
    exact ⟨List.cons_ne_nil _ _, List.forall_mem_singleton.2 (hvalue v hv)⟩
  have hjoin : ∀ value : Option String, value = (value.map ([·])).map " ".intercalate := by
    intro value
    simp [Function.comp_def]
  have hlines := directives?_settingText (hjoin s.serverName) (hjoin s.resolver)
    (hsingle _ hname) (hsingle _ hresolver)
  rw [directives?_render_iff (isWritable_of_compile h), hlines, settingDirectives]
  simp [Option.toList_map, Function.comp_def]

theorem directives?_render_sampleRoutes :
    ∃ c, compile sampleRoutes = .ok c ∧
      directives? (render ⟨8080, some "localhost", some "127.0.0.1"⟩ c) =
        some (fileDirectives 8080
          [.simple "server_name" ["localhost"], .simple "resolver" ["127.0.0.1"]] c) := by
  obtain ⟨c, hc⟩ := compile_sampleRoutes
  have hname : ∀ v ∈ some "localhost", IsWord v := by decide
  have hresolver : ∀ v ∈ some "127.0.0.1", IsWord v := by decide
  refine ⟨c, hc, ?_⟩
  exact directives?_render (s := ⟨8080, some "localhost", some "127.0.0.1"⟩) hc hname hresolver

end Nginx

end GatewayRouting
