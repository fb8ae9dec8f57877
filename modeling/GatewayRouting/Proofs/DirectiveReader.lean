import GatewayRouting.Text.Blank
import Mathlib.Data.List.Basic

/-!
# Reading directives

A reader for configuration files, in two passes. The first one cuts the text into tokens, character by
character: blanks set words apart, `#` in front of a word opens a comment, `"` in front of a word opens
a quoted one, and semicolons and braces are tokens of their own. The second one builds directives from
the tokens and keeps the blocks that are still open on a stack.

* `directives?` is the whole reader.
* `scan_append` : a text that is written in two parts is read in two parts;
* `parse?_eq_some_iff` : tokens make a list of directives exactly when they are the tokens of that
  list, so that nothing is read into a file and nothing is lost.
-/

namespace GatewayRouting.Nginx

/-! ## Tokens -/

/-- A token of a configuration file; quotes and protections are taken off its words. -/
inductive Token where
  | word (text : String)
  | semicolon
  | opening
  | closing
deriving DecidableEq, Repr

/-- Where a reader of characters stands, with what it has read of a word. -/
inductive Place where
  | between
  | comment
  | word (read : List Char)
  | quoted (read : List Char)
  /-- After a backslash in a quoted word. -/
  | escaped (read : List Char)
deriving DecidableEq, Repr

namespace Place

/-- What a character between two tokens gives. -/
def start (c : Char) : List Token × Place :=
  if Text.isBlank c then ([], .between)
  else if c = ';' then ([.semicolon], .between)
  else if c = '{' then ([.opening], .between)
  else if c = '}' then ([.closing], .between)
  else if c = '#' then ([], .comment)
  else if c = '"' then ([], .quoted [])
  else ([], .word [c])

/-- A character ends a word that is not quoted. -/
def endsWord (c : Char) : Bool :=
  Text.isBlank c || c = ';' || c = '{'

/-- What the next character gives. -/
def step : Place → Char → List Token × Place
  | .between, c => start c
  | .comment, c => ([], if c = '\n' then .between else .comment)
  | .word read, c =>
    if endsWord c then (.word (String.ofList read) :: (start c).1, (start c).2)
    else ([], .word (read ++ [c]))
  | .quoted read, c =>
    if c = '"' then ([.word (String.ofList read)], .between)
    else if c = '\\' then ([], .escaped read)
    else ([], .quoted (read ++ [c]))
  | .escaped read, c => ([], .quoted (read ++ [c]))

/-- What the end of the text gives. A quoted word must not be left open. -/
def finish? : Place → Option (List Token)
  | .between => some []
  | .comment => some []
  | .word read => some [.word (String.ofList read)]
  | .quoted _ => none
  | .escaped _ => none

end Place

/-- The tokens that some characters give, read from a place, and the place after them. -/
def scan (p : Place) : List Char → List Token × Place
  | [] => ([], p)
  | c :: cs =>
    let next := p.step c
    let rest := scan next.2 cs
    (next.1 ++ rest.1, rest.2)

/-- The tokens of a text. -/
def tokens? (cs : List Char) : Option (List Token) :=
  (scan .between cs).2.finish?.map ((scan .between cs).1 ++ ·)

theorem scan_append (p : Place) (cs cs' : List Char) :
    scan p (cs ++ cs') =
      ((scan p cs).1 ++ (scan (scan p cs).2 cs').1, (scan (scan p cs).2 cs').2) := by
  induction cs generalizing p with
  | nil => rfl
  | cons c cs ih => simp only [List.cons_append, scan, ih, List.append_assoc]

theorem scan_singleton (p : Place) (c : Char) : scan p [c] = p.step c := by
  simp [scan]

theorem scan_cons (p : Place) (c : Char) (cs : List Char) :
    scan p (c :: cs) = ((p.step c).1 ++ (scan (p.step c).2 cs).1, (scan (p.step c).2 cs).2) := rfl

/-! ## Directives -/

/-- A directive as it is read: its name and arguments, and what stands in its block if it has one. -/
inductive Directive where
  | simple (name : String) (arguments : List String)
  | block (name : String) (arguments : List String) (body : List Directive)
deriving Repr

mutual

/-- The tokens of a directive. -/
def Directive.tokens : Directive → List Token
  | .simple name arguments => (name :: arguments).map .word ++ [.semicolon]
  | .block name arguments body =>
    (name :: arguments).map .word ++ .opening :: (Directive.tokensOfList body ++ [.closing])

/-- The tokens of some directives, one after the other. -/
def Directive.tokensOfList : List Directive → List Token
  | [] => []
  | d :: rest => Directive.tokens d ++ Directive.tokensOfList rest

end

theorem Directive.tokensOfList_append (ds ds' : List Directive) :
    tokensOfList (ds ++ ds') = tokensOfList ds ++ tokensOfList ds' := by
  induction ds with
  | nil => rfl
  | cons d rest ih => rw [List.cons_append, tokensOfList, tokensOfList, ih, List.append_assoc]

theorem Directive.tokensOfList_singleton (d : Directive) : tokensOfList [d] = d.tokens := by
  rw [tokensOfList, tokensOfList, List.append_nil]

/-! ## Blocks -/

/-- A block that is open: its name and arguments, and the directives in front of it. -/
structure OpenBlock where
  name : String
  arguments : List String
  before : List Directive

/-- What a reader of tokens has read: the words of a directive that has not ended, the directives in
front of them, and the blocks around these, the innermost first. -/
structure Progress where
  words : List String
  done : List Directive
  around : List OpenBlock

namespace Progress

/-- What the next token makes of it. A directive has at least a name, and a block ends between two
directives. -/
def step : Progress → Token → Option Progress
  | ⟨words, done, around⟩, .word text => some ⟨words ++ [text], done, around⟩
  | ⟨name :: arguments, done, around⟩, .semicolon =>
    some ⟨[], done ++ [.simple name arguments], around⟩
  | ⟨name :: arguments, done, around⟩, .opening =>
    some ⟨[], [], ⟨name, arguments, done⟩ :: around⟩
  | ⟨[], done, block :: around⟩, .closing =>
    some ⟨[], block.before ++ [.block block.name block.arguments done], around⟩
  | _, _ => none

/-- What some tokens make of it. -/
def run? (p : Progress) : List Token → Option Progress
  | [] => some p
  | t :: ts => (p.step t).bind (run? · ts)

/-- The directives, once nothing is left open. -/
def result? : Progress → Option (List Directive)
  | ⟨[], done, []⟩ => some done
  | _ => none

end Progress

/-- The directives that some tokens make. -/
def parse? (ts : List Token) : Option (List Directive) :=
  (Progress.run? ⟨[], [], []⟩ ts).bind Progress.result?

/-- The directives of a configuration file, if it can be read. -/
def directives? (text : String) : Option (List Directive) :=
  (tokens? text.toList).bind parse?

/-! ## Tokens of directives are read back -/

namespace Progress

theorem run?_append (p : Progress) (ts ts' : List Token) :
    p.run? (ts ++ ts') = (p.run? ts).bind (run? · ts') := by
  induction ts generalizing p with
  | nil => rfl
  | cons t ts ih =>
    rw [List.cons_append, run?, run?]
    cases p.step t with
    | none => rfl
    | some p' => exact ih p'

theorem run?_words (words texts : List String) (done : List Directive) (around : List OpenBlock) :
    run? ⟨words, done, around⟩ (texts.map .word) = some ⟨words ++ texts, done, around⟩ := by
  induction texts generalizing words with
  | nil => simp [run?]
  | cons text texts ih => simp [run?, step, ih]

mutual

/-- The tokens of a directive add it to those that are done. -/
theorem run?_tokens (done : List Directive) (around : List OpenBlock) :
    ∀ d : Directive, run? ⟨[], done, around⟩ d.tokens = some ⟨[], done ++ [d], around⟩
  | .simple name arguments => by
    rw [Directive.tokens, run?_append, run?_words]
    rfl
  | .block name arguments body => by
    have hbody := run?_tokensOfList [] (⟨name, arguments, done⟩ :: around) body
    rw [Directive.tokens, run?_append, run?_words]
    show (run? ⟨[], [], ⟨name, arguments, done⟩ :: around⟩
      (Directive.tokensOfList body ++ [.closing])) = _
    rw [run?_append, hbody]
    rfl

/-- The tokens of some directives add these to those that are done. -/
theorem run?_tokensOfList (done : List Directive) (around : List OpenBlock) :
    ∀ ds : List Directive,
      run? ⟨[], done, around⟩ (Directive.tokensOfList ds) = some ⟨[], done ++ ds, around⟩
  | [] => by simp [Directive.tokensOfList, run?]
  | d :: rest => by
    have hrest := run?_tokensOfList (done ++ [d]) around rest
    rw [Directive.tokensOfList, run?_append, run?_tokens done around d, Option.bind_some, hrest,
      List.append_assoc]
    rfl

end

/-! ## Nothing else is read -/

/-- The tokens up to the opening brace of the innermost of some open blocks. -/
def tokensAround : List OpenBlock → List Token
  | [] => []
  | block :: around =>
    tokensAround around ++ Directive.tokensOfList block.before ++
      (block.name :: block.arguments).map .word ++ [.opening]

/-- The tokens that have been read. -/
def tokens (p : Progress) : List Token :=
  tokensAround p.around ++ Directive.tokensOfList p.done ++ p.words.map .word

/-- Each step takes account of one token. -/
theorem tokens_step {p p' : Progress} {t : Token} (h : p.step t = some p') :
    p'.tokens = p.tokens ++ [t] := by
  unfold step at h
  split at h
  · cases h
    simp [tokens]
  · cases h
    simp [tokens, Directive.tokensOfList_append, Directive.tokensOfList_singleton, Directive.tokens]
  · cases h
    simp [tokens, tokensAround, Directive.tokensOfList]
  · cases h
    simp [tokens, tokensAround, Directive.tokensOfList_append, Directive.tokensOfList_singleton,
      Directive.tokens]
  · cases h

theorem tokens_run? {p p' : Progress} {ts : List Token} (h : p.run? ts = some p') :
    p'.tokens = p.tokens ++ ts := by
  induction ts generalizing p with
  | nil =>
    cases h
    exact (List.append_nil _).symm
  | cons t ts ih =>
    obtain ⟨q, hstep, hrest⟩ := Option.bind_eq_some_iff.1 h
    rw [ih hrest, tokens_step hstep, List.append_assoc]
    rfl

theorem result?_eq_some_iff {p : Progress} {ds : List Directive} :
    p.result? = some ds ↔ p = ⟨[], ds, []⟩ := by
  unfold result?
  split
  · simp
  · next hnot =>
    constructor
    · intro h
      cases h
    · intro h
      exact absurd h (hnot ds)

end Progress

/-- Tokens make a list of directives exactly when they are the tokens of that list. -/
theorem parse?_eq_some_iff {ts : List Token} {ds : List Directive} :
    parse? ts = some ds ↔ Directive.tokensOfList ds = ts := by
  constructor
  · intro h
    obtain ⟨p, hrun, hresult⟩ := Option.bind_eq_some_iff.1 h
    have htokens := Progress.tokens_run? hrun
    rw [Progress.result?_eq_some_iff.1 hresult] at htokens
    simpa [Progress.tokens, Progress.tokensAround, Directive.tokensOfList] using htokens
  · rintro rfl
    rw [parse?, Progress.run?_tokensOfList]
    rfl

theorem directives?_eq_some_iff {text : String} {ds : List Directive} :
    directives? text = some ds ↔ tokens? text.toList = some (Directive.tokensOfList ds) := by
  rw [directives?, Option.bind_eq_some_iff]
  constructor
  · rintro ⟨ts, hts, hparse⟩
    rw [parse?_eq_some_iff.1 hparse]
    exact hts
  · intro h
    exact ⟨_, h, parse?_eq_some_iff.2 rfl⟩

end GatewayRouting.Nginx
