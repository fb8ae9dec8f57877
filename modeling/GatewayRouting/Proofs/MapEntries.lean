import GatewayRouting.Proofs.FileText

/-!
# The entries of a method map

In an entry of a method map the target stands between quotes. Nothing screens the targets of a
configuration that was not compiled from routes, yet no target ends its entry early: read from the quote
that opens it, it is read as it is, and what is left begins with the semicolon of the entry
(`read?_target_of_render`).

* `EntryPlace` : an entry with what stands around it;
* `EntryPlace.toList_render` : the text of the file around the target of an entry;
* `EntryPlace.reads_textBefore` : when the maps up to the entry have plain names, the target is where a
  word begins.
-/

namespace GatewayRouting

namespace Nginx

/-- An entry of a method map of a configuration, with the maps and the entries around it. -/
structure EntryPlace (c : ProxyConfig) where
  mapsBefore : List MethodMap
  map : MethodMap
  mapsBehind : List MethodMap
  entriesBefore : List (Method × String)
  method : Method
  target : String
  entriesBehind : List (Method × String)
  maps_eq : c.maps = mapsBefore ++ map :: mapsBehind
  entries_eq : map.table.entries = entriesBefore ++ (method, target) :: entriesBehind

namespace EntryPlace

variable {c : ProxyConfig}

theorem exists_of_get? {M : MethodMap} (hM : M ∈ c.maps) {m : Method} {target : String}
    (htarget : M.table.get? m = some target) :
    ∃ p : EntryPlace c, p.map = M ∧ p.method = m ∧ p.target = target := by
  obtain ⟨mapsBefore, mapsBehind, hmaps⟩ := List.append_of_mem hM
  obtain ⟨before, behind, hentries⟩ := List.append_of_mem (MethodTable.mem_entries_iff.2 htarget)
  exact ⟨⟨mapsBefore, M, mapsBehind, before, m, target, behind, hmaps, hentries⟩, rfl, rfl, rfl⟩

/-! ## The text around a target -/

/-- The text of a file up to the target of an entry. -/
def textBefore (p : EntryPlace c) : List Char :=
  textOfMaps p.mapsBefore ++
    openingText 1 (bareWords ["map", "$request_method", "$" ++ p.map.name]) ++
    Item.charsOfList 2 (p.entriesBefore.map entryItem) ++ indent 2 ++ p.method.name.toList ++ [' ']

/-- The text of a file behind the semicolon of an entry. -/
def textBehind (p : EntryPlace c) (s : Settings) : List Char :=
  '\n' :: Item.charsOfList 2 (p.entriesBehind.map entryItem) ++
    Item.chars 2 (.simple [.bare "default", .quoted ""]) ++ closingText 1 ++
    Item.charsOfList 1 (.gap :: p.mapsBehind.flatMap (fun M => [mapBlock M, .gap])) ++
    Item.chars 1 (serverBlock s c.locations) ++ closingText 0

/-- The block of a map, cut at one of its entries. -/
theorem chars_mapBlock (p : EntryPlace c) :
    Item.chars 1 (mapBlock p.map) =
      openingText 1 (bareWords ["map", "$request_method", "$" ++ p.map.name]) ++
        Item.charsOfList 2 (p.entriesBefore.map entryItem) ++
        Item.chars 2 (entryItem (p.method, p.target)) ++
        Item.charsOfList 2 (p.entriesBehind.map entryItem) ++
        Item.chars 2 (.simple [.bare "default", .quoted ""]) ++ closingText 1 := by
  have hblock : mapBlock p.map =
      .block (bareWords ["map", "$request_method", "$" ++ p.map.name])
        (p.map.table.entries.map entryItem ++ [.simple [.bare "default", .quoted ""]]) := rfl
  have hne : p.map.table.entries.map entryItem ++ [.simple [.bare "default", .quoted ""]] ≠ [] :=
    List.append_ne_nil_of_right_ne_nil _ (List.cons_ne_nil _ _)
  rw [hblock, Item.chars_block 1 _ hne, p.entries_eq]
  simp only [List.map_append, List.map_cons, Item.charsOfList_append, Item.charsOfList,
    List.append_nil, List.append_assoc]

/-- The text of a file is cut by the quotes of a target. -/
theorem toList_render (p : EntryPlace c) (s : Settings) :
    (render s c).toList =
      p.textBefore ++ ((Word.quoted p.target).chars ++ ';' :: p.textBehind s) := by
  have hmaps : textOfMaps c.maps =
      textOfMaps p.mapsBefore ++ Item.chars 1 (mapBlock p.map) ++
        Item.charsOfList 1 (.gap :: p.mapsBehind.flatMap fun M => [mapBlock M, .gap]) := by
    rw [p.maps_eq, textOfMaps, textOfMaps]
    simp only [List.flatMap_append, List.flatMap_cons, Item.charsOfList_append, Item.charsOfList,
      List.append_nil, List.append_assoc]
  have hentry : Item.chars 2 (entryItem (p.method, p.target)) =
      indent 2 ++ p.method.name.toList ++ [' '] ++ (Word.quoted p.target).chars ++ [';', '\n'] := by
    simp [entryItem, Item.chars, Word.charsOfList, Word.chars]
  rw [toList_render_maps, hmaps, p.chars_mapBlock, hentry, textBefore, textBehind]
  simp only [List.append_assoc, List.cons_append, List.nil_append]

/-! ## The tokens around a target -/

/-- The tokens of a file up to the target of an entry. -/
def tokensBefore (p : EntryPlace c) : List Token :=
  tokensOfMaps p.mapsBefore ++
    ["map", "$request_method", "$" ++ p.map.name].map .word ++ [.opening] ++
    Directive.tokensOfList (p.entriesBefore.map fun e => .simple e.1.name [e.2]) ++
    [.word p.method.name]

/-- The targets in front of an entry are read as they are, so its own target begins between two
tokens. -/
theorem reads_textBefore (p : EntryPlace c)
    (h : ∀ M ∈ p.mapsBefore ++ [p.map], IsPlain M.name) : Reads p.textBefore p.tokensBefore := by
  rw [List.forall_mem_append, List.forall_mem_singleton] at h
  obtain ⟨hbefore, hname⟩ := h
  have hopened := (reads_textOfMaps hbefore).append
    (reads_openingText (legible_openingOfMap hname) 1)
  have hentries := hopened.append
    (Item.reads_charsOfList 2 _ (legible_entryItems p.entriesBefore))
  have hlegible : (Word.bare p.method.name).Legible := isWord_name p.method
  have hmethod : Reads (p.method.name.toList ++ [' ']) [.word p.method.name] :=
    Word.reads_chars hlegible (by decide) (reads_of_isBlank (by decide))
  have hall := (hentries.append (reads_indent 2)).append hmethod
  rw [tokensOfList_entryItems] at hall
  simpa [textBefore, tokensBefore, bareWords, Word.text, Function.comp_def] using hall

/-- A target that begins between two tokens is a word, and the entry ends at its semicolon. -/
theorem scan_render (p : EntryPlace c) (s : Settings) {ts : List Token}
    (h : Reads p.textBefore ts) :
    scan .between (render s c).toList =
      (ts ++ .word p.target :: .semicolon :: (scan .between (p.textBehind s)).1,
        (scan .between (p.textBehind s)).2) := by
  have htarget := Quoted.scan_of_read? (Quoted.read?_append p.target (';' :: p.textBehind s))
  rw [p.toList_render s, scan_append, h, htarget, scan_cons]
  rfl

end EntryPlace

/-! ## Targets are kept -/

/-- A quoted word is its text with all backslashes protected, and then all quotes. It is read back
whatever follows it, so different texts are quoted differently. Every entry of a method map has a place
in the file of its configuration, and there its target is read back up to the semicolon that the entry
was given. A reader of the file that comes to the target between two tokens takes it for one word and
this semicolon for the end of the entry; it does so if the maps up to the entry have plain names. -/
theorem read?_target_of_render :
    (∀ (text : String) (rest : List Char),
      (Word.quoted text).chars =
          '"' :: Quoted.protect '"' (Quoted.protect '\\' text.toList) ++ ['"'] ∧
        Quoted.read? ((Word.quoted text).chars ++ rest) = some (text, rest)) ∧
    (Function.Injective fun text => (Word.quoted text).chars) ∧
    ∀ (s : Settings) (c : ProxyConfig),
      (∀ M ∈ c.maps, ∀ m target, M.table.get? m = some target →
        ∃ p : EntryPlace c, p.map = M ∧ p.method = m ∧ p.target = target) ∧
      ∀ p : EntryPlace c,
        (render s c).toList =
            p.textBefore ++ ((Word.quoted p.target).chars ++ ';' :: p.textBehind s) ∧
          Quoted.read? ((render s c).toList.drop p.textBefore.length) =
            some (p.target, ';' :: p.textBehind s) ∧
          (∀ ts, Reads p.textBefore ts →
            scan .between (render s c).toList =
              (ts ++ .word p.target :: .semicolon :: (scan .between (p.textBehind s)).1,
                (scan .between (p.textBehind s)).2)) ∧
          ((∀ M ∈ p.mapsBefore ++ [p.map], IsPlain M.name) →
            Reads p.textBefore p.tokensBefore) := by
  refine ⟨fun text rest => ⟨?_, Quoted.read?_append text rest⟩, Quoted.chars_injective, ?_⟩
  · rw [Word.chars, Quoted.encode_eq_protect]
  · intro s c
    refine ⟨fun M hM m target htarget => EntryPlace.exists_of_get? hM htarget, fun p => ?_⟩
    have htext := p.toList_render s
    refine ⟨htext, ?_, fun ts hts => p.scan_render s hts, p.reads_textBefore⟩
    rw [htext, List.drop_left]
    exact Quoted.read?_append p.target _

/-- A method map that no routes compile to, with targets that look like the end of their entries. -/
def unscreenedMap : MethodMap :=
  ⟨"v", MethodTable.ofEntries [(.get, "a\"; \x7d \\"), (.post, "\\\"; b")]⟩

/-- The second entry of that map, in a configuration of its own. -/
def unscreenedPlace : EntryPlace ⟨[], [unscreenedMap]⟩ where
  mapsBefore := []
  map := unscreenedMap
  mapsBehind := []
  entriesBefore := [(.get, "a\"; \x7d \\")]
  method := .post
  target := "\\\"; b"
  entriesBehind := []
  maps_eq := rfl
  entries_eq := rfl

theorem read?_target_unscreenedPlace :
    (∃ p : EntryPlace ⟨[], [unscreenedMap]⟩,
      p.map = unscreenedMap ∧ p.method = .get ∧ p.target = "a\"; \x7d \\") ∧
    Quoted.read? ((render {} ⟨[], [unscreenedMap]⟩).toList.drop unscreenedPlace.textBefore.length) =
      some ("\\\"; b", ';' :: unscreenedPlace.textBehind {}) ∧
    Reads unscreenedPlace.textBefore unscreenedPlace.tokensBefore ∧
    scan .between (render {} ⟨[], [unscreenedMap]⟩).toList =
      (unscreenedPlace.tokensBefore ++ .word "\\\"; b" :: .semicolon ::
          (scan .between (unscreenedPlace.textBehind {})).1,
        (scan .between (unscreenedPlace.textBehind {})).2) := by
  obtain ⟨-, -, hfile⟩ := read?_target_of_render
  obtain ⟨hplaces, hkept⟩ := hfile {} ⟨[], [unscreenedMap]⟩
  obtain ⟨-, hread, hscan, hreads⟩ := hkept unscreenedPlace
  have hplain : ∀ M ∈ unscreenedPlace.mapsBefore ++ [unscreenedPlace.map], IsPlain M.name := by
    decide
  have hbefore := hreads hplain
  exact ⟨hplaces unscreenedMap (.head _) .get _ rfl, hread, hbefore, hscan _ hbefore⟩

end Nginx

end GatewayRouting
