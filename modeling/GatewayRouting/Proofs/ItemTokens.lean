import GatewayRouting.Proofs.PlainWords
import GatewayRouting.Proofs.QuotedWords

/-!
# Written items are read back

A stretch of text that begins and ends between two tokens can be read on its own (`Reads`), so the
tokens of a file are put together from those of its items. An item is legible when every word that is
not quoted can stand without quotes; its tokens are then its words and what sets them apart
(`Item.reads_chars`). Quoted words may hold anything.
-/

namespace GatewayRouting.Nginx

/-- Read from between two tokens, some characters give some tokens and end between two tokens. -/
def Reads (cs : List Char) (ts : List Token) : Prop :=
  scan .between cs = (ts, .between)

theorem Reads.nil : Reads [] [] := rfl

theorem Reads.append {cs cs' : List Char} {ts ts' : List Token} (h : Reads cs ts)
    (h' : Reads cs' ts') : Reads (cs ++ cs') (ts ++ ts') := by
  rw [Reads, scan_append, h, h']

theorem Reads.cons {c : Char} {cs : List Char} {ts ts' : List Token} (h : Reads [c] ts)
    (h' : Reads cs ts') : Reads (c :: cs) (ts ++ ts') :=
  h.append h'

theorem Reads.tokens? {cs : List Char} {ts : List Token} (h : Reads cs ts) :
    tokens? cs = some ts := by
  rw [Nginx.tokens?, h]
  simp [Place.finish?]

/-! ## Words -/

/-- A word has to be plain unless it is quoted. -/
def Word.Legible : Word → Prop
  | .bare text => IsWord text
  | .quoted _ => True

/-- What a word says. -/
def Word.text : Word → String
  | .bare text => text
  | .quoted text => text

theorem scan_word {cs : List Char} (read : List Char)
    (h : ∀ c ∈ cs, Place.endsWord c = false) : scan (.word read) cs = ([], .word (read ++ cs)) := by
  induction cs generalizing read with
  | nil => simp [scan]
  | cons c cs ih =>
    obtain ⟨hc, hcs⟩ := List.forall_mem_cons.1 h
    simp [scan, Place.step, hc, ih _ hcs]

/-- The first character of a plain text starts a word. -/
theorem start_of_isPlain {s : String} {c : Char} (h : IsPlain s) (hc : c ∈ s.toList) :
    Place.start c = ([], .word [c]) := by
  obtain ⟨hblank, hnot⟩ := h c hc
  simp only [List.mem_cons, List.not_mem_nil, or_false, not_or] at hnot
  simp [Place.start, hblank, hnot]

theorem endsWord_of_isPlain {s : String} {c : Char} (h : IsPlain s) (hc : c ∈ s.toList) :
    Place.endsWord c = false := by
  obtain ⟨hblank, hnot⟩ := h c hc
  simp only [List.mem_cons, List.not_mem_nil, or_false, not_or] at hnot
  simp [Place.endsWord, hblank, hnot]

/-- A word is read up to a character that ends it. -/
theorem Word.reads_chars {w : Word} (h : w.Legible) {c : Char} {ts : List Token}
    (hc : Place.endsWord c = true) (hts : Reads [c] ts) :
    Reads (w.chars ++ [c]) (.word w.text :: ts) := by
  have hstart : Place.start c = (ts, .between) := by
    rw [Reads, scan_singleton] at hts
    exact hts
  cases w with
  | bare text =>
    obtain ⟨hne, hplain⟩ := h
    obtain ⟨d, ds, hd⟩ := List.exists_cons_of_ne_nil fun heq => hne (String.toList_eq_nil_iff.1 heq)
    have hfirst := start_of_isPlain hplain (hd ▸ List.mem_cons_self : d ∈ text.toList)
    have hrest : ∀ d' ∈ ds, Place.endsWord d' = false := by
      intro d' hd'
      exact endsWord_of_isPlain hplain (hd ▸ List.mem_cons_of_mem _ hd')
    have hscan : scan .between text.toList = ([], .word text.toList) := by
      rw [hd, scan_cons, Place.step, hfirst, scan_word [d] hrest]
      rfl
    rw [Reads, Word.chars, scan_append, hscan]
    simp [scan, Place.step, hc, hstart, Word.text]
  | quoted text =>
    rw [Reads, Quoted.scan_of_read? (Quoted.read?_append text [c]), hts]
    rfl

theorem reads_of_isBlank {c : Char} (h : Text.isBlank c = true) : Reads [c] [] := by
  simp [Reads, scan, Place.step, Place.start, h]

/-- Some words are read one after the other, up to a character that ends the last one. -/
theorem Word.reads_charsOfList {ws : List Word} (h : ∀ w ∈ ws, w.Legible) {c : Char}
    {ts : List Token} (hc : Place.endsWord c = true) (hts : Reads [c] ts) :
    Reads (Word.charsOfList ws ++ [c]) (ws.map (.word ·.text) ++ ts) := by
  induction ws with
  | nil => exact hts
  | cons w rest ih =>
    obtain ⟨hw, hrest⟩ := List.forall_mem_cons.1 h
    cases rest with
    | nil => exact Word.reads_chars hw hc hts
    | cons w' rest =>
      have hblank : Reads (w.chars ++ [' ']) [.word w.text] :=
        Word.reads_chars hw (by decide) (reads_of_isBlank (by decide))
      have hall := hblank.append (ih hrest)
      simpa [Word.charsOfList] using hall

/-! ## Items -/

/-- The line that opens a block. -/
def openingText (depth : Nat) (words : List Word) : List Char :=
  indent depth ++ Word.charsOfList words ++ [' ', '{', '\n']

/-- The line that closes a block. -/
def closingText (depth : Nat) : List Char :=
  indent depth ++ ['}', '\n']

theorem Item.chars_block (depth : Nat) (words : List Word) {body : List Item} (h : body ≠ []) :
    Item.chars depth (.block words body) =
      openingText depth words ++ Item.charsOfList (depth + 1) body ++ closingText depth := by
  cases body with
  | nil => exact absurd rfl h
  | cons item rest => simp [Item.chars, Item.charsOfList, openingText, closingText]

theorem reads_indent (depth : Nat) : Reads (indent depth) [] := by
  rw [indent]
  induction 4 * depth with
  | zero => exact Reads.nil
  | succ n ih => exact Reads.cons (reads_of_isBlank (by decide)) ih

mutual

/-- Every word of an item fulfils `p`, and every comment `q`. -/
def Item.Forall (p : Word → Prop) (q : String → Prop) : Item → Prop
  | .gap => True
  | .comment text => q text
  | .simple words => ∀ w ∈ words, p w
  | .block words body => (∀ w ∈ words, p w) ∧ Item.ForallIn p q body

/-- Every word of some items fulfils `p`, and every comment `q`. -/
def Item.ForallIn (p : Word → Prop) (q : String → Prop) : List Item → Prop
  | [] => True
  | item :: rest => Item.Forall p q item ∧ Item.ForallIn p q rest

end

/-- A comment that ends where its line does. -/
def IsLine (text : String) : Prop :=
  '\n' ∉ text.toList

/-- Items that can be read. -/
def Item.Legible (items : List Item) : Prop :=
  Item.ForallIn Word.Legible IsLine items

mutual

/-- What an item says, as tokens; gaps and comments say nothing. -/
def Item.tokens : Item → List Token
  | .gap => []
  | .comment _ => []
  | .simple words => words.map (.word ·.text) ++ [.semicolon]
  | .block words body =>
    words.map (.word ·.text) ++ .opening :: (Item.tokensOfList body ++ [.closing])

/-- What some items say, one after the other. -/
def Item.tokensOfList : List Item → List Token
  | [] => []
  | item :: rest => Item.tokens item ++ Item.tokensOfList rest

end

theorem Item.forallIn_iff {p : Word → Prop} {q : String → Prop} {items : List Item} :
    Item.ForallIn p q items ↔ ∀ item ∈ items, item.Forall p q := by
  induction items with
  | nil => simp [Item.ForallIn]
  | cons item rest ih => rw [Item.ForallIn, ih, List.forall_mem_cons]

theorem Item.tokensOfList_eq_flatMap (items : List Item) :
    Item.tokensOfList items = items.flatMap Item.tokens := by
  induction items with
  | nil => rfl
  | cons item rest ih => rw [Item.tokensOfList, ih, List.flatMap_cons]

theorem scan_comment {cs : List Char} (h : '\n' ∉ cs) : scan .comment cs = ([], .comment) := by
  induction cs with
  | nil => rfl
  | cons c cs ih =>
    obtain ⟨hc, hcs⟩ := not_or.1 (List.mem_cons.not.1 h)
    simp [scan, Place.step, Ne.symm hc, ih hcs]

theorem reads_comment {text : String} (h : IsLine text) (depth : Nat) :
    Reads (Item.chars depth (.comment text)) [] := by
  have hopen : scan .between ('#' :: ' ' :: text.toList) = ([], .comment) := by
    have hhash : Place.step .between '#' = ([], .comment) := rfl
    rw [scan_cons, hhash, scan_comment (by simpa [IsLine] using h)]
    rfl
  have hline : Reads ('#' :: ' ' :: text.toList ++ ['\n']) [] := by
    rw [Reads, scan_append, hopen, scan_singleton]
    rfl
  rw [Item.chars, List.append_assoc]
  exact (reads_indent depth).append hline

/-- The words of a directive, with its semicolon and the end of the line. -/
theorem reads_simple {words : List Word} (h : ∀ w ∈ words, w.Legible) (depth : Nat) :
    Reads (Item.chars depth (.simple words)) (Item.tokens (.simple words)) := by
  have hend : Reads ['\n'] [] := reads_of_isBlank (by decide)
  have hwords : Reads (Word.charsOfList words ++ [';']) (words.map (.word ·.text) ++ [.semicolon]) :=
    Word.reads_charsOfList h (by decide) rfl
  have hall := ((reads_indent depth).append hwords).append hend
  simpa [Item.chars, Item.tokens] using hall

/-- The words of a block, up to the brace that opens it. -/
theorem reads_opening {words : List Word} (h : ∀ w ∈ words, w.Legible) (depth : Nat) :
    Reads (indent depth ++ Word.charsOfList words ++ [' ', '{'])
      (words.map (.word ·.text) ++ [.opening]) := by
  have hwords : Reads (Word.charsOfList words ++ [' ']) (words.map (.word ·.text) ++ []) :=
    Word.reads_charsOfList h (by decide) (reads_of_isBlank (by decide))
  have hbrace : Reads ['{'] [.opening] := rfl
  have hall := ((reads_indent depth).append hwords).append hbrace
  simpa using hall

theorem reads_openingText {words : List Word} (h : ∀ w ∈ words, w.Legible) (depth : Nat) :
    Reads (openingText depth words) (words.map (.word ·.text) ++ [.opening]) := by
  have hline : Reads ['\n'] [] := reads_of_isBlank (by decide)
  have hall := (reads_opening h depth).append hline
  simpa [openingText] using hall

theorem reads_closingText (depth : Nat) : Reads (closingText depth) [.closing] := by
  have hbrace : Reads ['}', '\n'] [.closing] := rfl
  exact (reads_indent depth).append hbrace

mutual

/-- A legible item is read as what it says. -/
theorem Item.reads_chars (depth : Nat) :
    ∀ item : Item, item.Forall Word.Legible IsLine → Reads (item.chars depth) item.tokens
  | .gap => fun _ => reads_of_isBlank (by decide)
  | .comment _ => fun h => reads_comment h depth
  | .simple _ => fun h => reads_simple h depth
  | .block words [] => by
    intro h
    have hopen := reads_opening h.1 depth
    have hclose : Reads ['}', '\n'] [.closing] := rfl
    have hall := hopen.append hclose
    simpa [Item.chars, Item.tokens, Item.tokensOfList] using hall
  | .block words (item :: rest) => by
    intro h
    have hitem := Item.reads_chars (depth + 1) item h.2.1
    have hrest := Item.reads_charsOfList (depth + 1) rest h.2.2
    have hall := ((reads_openingText h.1 depth).append (hitem.append hrest)).append
      (reads_closingText depth)
    rw [Item.chars_block depth words (List.cons_ne_nil item rest)]
    simpa [Item.charsOfList, Item.tokens, Item.tokensOfList] using hall

/-- Legible items are read as what they say. -/
theorem Item.reads_charsOfList (depth : Nat) :
    ∀ items : List Item, Item.Legible items →
      Reads (Item.charsOfList depth items) (Item.tokensOfList items)
  | [] => fun _ => Reads.nil
  | item :: rest => by
    intro h
    rw [Item.charsOfList, Item.tokensOfList]
    exact (Item.reads_chars depth item h.1).append (Item.reads_charsOfList depth rest h.2)

end

end GatewayRouting.Nginx
