import GatewayRouting.Json.Value
import GatewayRouting.Text.Digits

/-!
# Reading JSON

A reader of the part of JSON that has a form here: strings with all escapes, arrays and objects, with
blanks between the tokens. It takes the layout as it comes. Numbers and the literal names are left out, for
no value holds one.

* `read?` reads a document.
* `value?_chars` : what is written for a value is read as the value, whatever follows it.
* `read?_chars` : so a document that is one value is read as this value.
-/

namespace GatewayRouting.Json

/-! ## Blanks -/

/-- The characters that may stand between tokens. -/
def isBlank (c : Char) : Bool :=
  c = ' ' || c = '\t' || c = '\n' || c = '\r'

/-- The text behind the blanks in front. -/
def skipBlanks (cs : List Char) : List Char :=
  cs.dropWhile isBlank

/-! ## Strings -/

/-- The number that four hexadecimal digits write. -/
def unit? : List Char → Option (Nat × List Char)
  | a :: b :: c :: d :: rest => (Text.numberIn? 16 [a, b, c, d]).map (·, rest)
  | _ => none

/-- The character whose number is escaped. Numbers from U+D800 on are halves of a character and come in
pairs. -/
def numbered? (cs : List Char) : Option (Char × List Char) :=
  match unit? cs with
  | none => none
  | some (n, rest) =>
    if n < 0xD800 ∨ 0xE000 ≤ n then some (Char.ofNat n, rest)
    else
      match rest with
      | '\\' :: 'u' :: rest =>
        match unit? rest with
        | none => none
        | some (m, rest) =>
          if n < 0xDC00 ∧ 0xDC00 ≤ m ∧ m < 0xE000 then
            some (Char.ofNat (0x10000 + 0x400 * (n - 0xD800) + (m - 0xDC00)), rest)
          else none
      | _ => none

/-- The character that is escaped behind a backslash. -/
def escaped? : List Char → Option (Char × List Char)
  | '"' :: rest => some ('"', rest)
  | '\\' :: rest => some ('\\', rest)
  | '/' :: rest => some ('/', rest)
  | 'b' :: rest => some ('\x08', rest)
  | 'f' :: rest => some ('\x0c', rest)
  | 'n' :: rest => some ('\n', rest)
  | 'r' :: rest => some ('\r', rest)
  | 't' :: rest => some ('\t', rest)
  | 'u' :: rest => numbered? rest
  | _ => none

/-- The next character inside a string. Control characters have to be escaped. -/
def character? : List Char → Option (Char × List Char)
  | [] => none
  | '\\' :: rest => escaped? rest
  | c :: rest => if c.toNat < 0x20 then none else some (c, rest)

/-- The characters of a string up to the closing quote; `rounds` bounds their number. -/
def stringEnd? : (rounds : Nat) → List Char → Option (List Char × List Char)
  | 0, _ => none
  | _ + 1, '"' :: rest => some ([], rest)
  | rounds + 1, cs =>
    match character? cs with
    | none => none
    | some (c, rest) => (stringEnd? rounds rest).map fun (text, rest) => (c :: text, rest)

/-- The string behind an opening quote. -/
def string? (cs : List Char) : Option (String × List Char) :=
  (stringEnd? cs.length cs).map fun (text, rest) => (String.ofList text, rest)

/-! ## Arrays and objects -/

section Sequences

variable {α : Type} (item? : List Char → Option (α × List Char)) (close : Char)

/-- One or more items with commas between them, up to a closing bracket; `rounds` bounds their number. -/
def items? : (rounds : Nat) → List Char → Option (List α × List Char)
  | 0, _ => none
  | rounds + 1, cs =>
    match item? cs with
    | none => none
    | some (a, rest) =>
      match skipBlanks rest with
      | [] => none
      | c :: rest =>
        if c = close then some ([a], rest)
        else if c = ',' then (items? rounds rest).map fun (as, rest) => (a :: as, rest)
        else none

/-- The items behind an opening bracket, if any. -/
def sequence? (cs : List Char) : Option (List α × List Char) :=
  match skipBlanks cs with
  | [] => none
  | c :: rest => if c = close then some ([], rest) else items? item? close cs.length cs

end Sequences

/-- A member of an object: a name, a colon and a value. -/
def member? (value? : List Char → Option (Value × List Char)) (cs : List Char) :
    Option ((String × Value) × List Char) :=
  match skipBlanks cs with
  | '"' :: rest =>
    match string? rest with
    | none => none
    | some (k, rest) =>
      match skipBlanks rest with
      | ':' :: rest => (value? rest).map fun (v, rest) => ((k, v), rest)
      | _ => none
  | _ => none

/-- The next value; `rounds` bounds the depth of nesting. -/
def value? : (rounds : Nat) → List Char → Option (Value × List Char)
  | 0, _ => none
  | rounds + 1, cs =>
    match skipBlanks cs with
    | '"' :: rest => (string? rest).map fun (text, rest) => (.str text, rest)
    | '[' :: rest => (sequence? (value? rounds) ']' rest).map fun (vs, rest) => (.arr vs, rest)
    | '{' :: rest =>
      (sequence? (member? (value? rounds)) '}' rest).map fun (ms, rest) => (.obj ms, rest)
    | _ => none

/-- The value that a text writes; there may be blanks in front of it and behind. -/
def read? (cs : List Char) : Option Value :=
  match value? cs.length cs with
  | none => none
  | some (v, rest) => if skipBlanks rest = [] then some v else none

example : read? " [ \"\\u0041\\/\\uD834\\uDD1E\",\r\n\x7b\"k\":[]\x7d , \x7b\x7d ]\t".toList =
    some (.arr [.str "A/𝄞", .obj [("k", .arr [])], .obj []]) := by
  rfl

/-! ## Induction over values -/

namespace Value

/-- What an induction over values has to show: the property passes from all items of an array, and from
the values of all members of an object, to the whole. -/
structure Cases (motive : Value → Prop) : Prop where
  str : ∀ text, motive (.str text)
  arr : ∀ vs, (∀ v ∈ vs, motive v) → motive (.arr vs)
  obj : ∀ ms, (∀ m ∈ ms, motive m.2) → motive (.obj ms)

section Induction

variable {motive : Value → Prop}

mutual

theorem Cases.value (h : Cases motive) : ∀ v : Value, motive v
  | .str text => h.str text
  | .arr vs => h.arr vs (Cases.items h vs)
  | .obj ms => h.obj ms (Cases.members h ms)

theorem Cases.items (h : Cases motive) : ∀ vs : List Value, ∀ v ∈ vs, motive v
  | [] => fun _ hv => absurd hv List.not_mem_nil
  | v :: rest => fun v' hv => by
    rcases List.mem_cons.1 hv with heq | hv
    · rw [heq]
      exact Cases.value h v
    · exact Cases.items h rest v' hv

theorem Cases.members (h : Cases motive) : ∀ ms : List (String × Value), ∀ m ∈ ms, motive m.2
  | [] => fun _ hm => absurd hm List.not_mem_nil
  | (_, v) :: rest => fun m hm => by
    rcases List.mem_cons.1 hm with rfl | hm
    · exact Cases.value h v
    · exact Cases.members h rest m hm

end

@[elab_as_elim, induction_eliminator]
theorem inductionOn (v : Value) (str : ∀ text, motive (.str text))
    (arr : ∀ vs, (∀ v ∈ vs, motive v) → motive (.arr vs))
    (obj : ∀ ms, (∀ m ∈ ms, motive m.2) → motive (.obj ms)) : motive v :=
  Cases.value ⟨str, arr, obj⟩ v

end Induction

end Value

/-! ## Lengths -/

section Lengths

variable {α β : Type} {f : α → List β}

/-- Parts that are not empty are at most as many as what they hold. -/
theorem length_le_length_flatMap {xs : List α} (h : ∀ x ∈ xs, f x ≠ []) :
    xs.length ≤ (xs.flatMap f).length := by
  induction xs with
  | nil => simp
  | cons x xs ih =>
    have hx : 0 < (f x).length := List.length_pos_iff.2 (h x List.mem_cons_self)
    have hxs := ih fun y hy => h y (List.mem_cons_of_mem x hy)
    rw [List.flatMap_cons, List.length_append, List.length_cons]
    omega

/-- A part is at most as long as the whole. -/
theorem length_le_of_mem_flatMap {x : α} {xs : List α} (h : x ∈ xs) :
    (f x).length ≤ (xs.flatMap f).length := by
  rcases List.append_of_mem h with ⟨before, after, rfl⟩
  simp only [List.flatMap_append, List.flatMap_cons, List.length_append]
  omega

end Lengths

/-! ## Reading what is written -/

theorem skipBlanks_newLine (depth : Nat) (cs : List Char) :
    skipBlanks (newLine depth ++ cs) = skipBlanks cs := by
  apply List.dropWhile_append_of_pos
  intro c hc
  rcases List.mem_cons.1 hc with rfl | hc
  · rfl
  · rw [List.eq_of_mem_replicate hc]
    rfl

theorem skipBlanks_cons {c : Char} (h : isBlank c = false) (cs : List Char) :
    skipBlanks (c :: cs) = c :: cs := by
  simp [skipBlanks, h]

/-- The two digits of a control character, behind two zeros, write its number. -/
theorem numberIn?_hexByte : ∀ n < 0x20, Text.numberIn? 16 ('0' :: '0' :: hexByte n) = some n := by
  decide

/-- An escaped character is read back. -/
theorem character?_encodeChar (c : Char) (rest : List Char) :
    character? (encodeChar c ++ rest) = some (c, rest) := by
  unfold encodeChar
  split
  case h_8 =>
    by_cases hcontrol : c.toNat < 0x20
    · -- the remaining control characters are escaped by number
      rw [if_pos hcontrol]
      show numbered? ('0' :: '0' :: hexByte c.toNat ++ rest) = some (c, rest)
      have hnumber : unit? ('0' :: '0' :: hexByte c.toNat ++ rest) = some (c.toNat, rest) := by
        show (Text.numberIn? 16 ('0' :: '0' :: hexByte c.toNat)).map _ = _
        rw [numberIn?_hexByte c.toNat hcontrol]
        rfl
      have hsmall : c.toNat < 0xD800 ∨ 0xE000 ≤ c.toNat := by omega
      simp only [numbered?, hnumber, if_pos hsmall, Char.ofNat_toNat]
    · rw [if_neg hcontrol]
      show character? (c :: rest) = some (c, rest)
      rw [character?, if_neg hcontrol]
      assumption
  all_goals rfl

/-- An escaped character does not begin with a quote. -/
theorem encodeChar_ne_quote (c : Char) (rest cs : List Char) :
    encodeChar c ++ rest ≠ '"' :: cs := by
  unfold encodeChar
  split
  case h_8 hquote _ _ _ _ _ _ =>
    split
    · simp
    · intro h
      exact hquote (List.head_eq_of_cons_eq h)
  all_goals simp

/-- The characters of a string are read back up to the quote behind them. -/
theorem stringEnd?_encode (text rest : List Char) {rounds : Nat} (h : text.length < rounds) :
    stringEnd? rounds (text.flatMap encodeChar ++ '"' :: rest) = some (text, rest) := by
  induction text generalizing rounds with
  | nil =>
    cases rounds with
    | zero => cases h
    | succ rounds => rfl
  | cons c text ih =>
    cases rounds with
    | zero => cases h
    | succ rounds =>
      have ih := ih (Nat.lt_of_succ_lt_succ h)
      rw [List.flatMap_cons, List.append_assoc, stringEnd?, character?_encodeChar]
      · simp only [ih, Option.map_some]
      · exact encodeChar_ne_quote c _

theorem quote_append (s : String) (rest : List Char) :
    quote s ++ rest = '"' :: (s.toList.flatMap encodeChar ++ '"' :: rest) := by
  simp [quote]

theorem encodeChar_ne_nil (c : Char) : encodeChar c ≠ [] := by
  intro h
  have hread := character?_encodeChar c []
  rw [h] at hread
  cases hread

/-- A string is read back behind its opening quote. -/
theorem string?_encode (s : String) (rest : List Char) :
    string? (s.toList.flatMap encodeChar ++ '"' :: rest) = some (s, rest) := by
  have hlength : s.toList.length ≤ (s.toList.flatMap encodeChar).length := by
    apply length_le_length_flatMap
    intro c _
    exact encodeChar_ne_nil c
  rw [string?, stringEnd?_encode]
  · simp
  · rw [List.length_append, List.length_cons]
    omega

section Sequences

variable {α : Type} {item? : List Char → Option (α × List Char)} {close : Char}
  {write : α → List Char} {tail rest : List Char}

/-- Items that are read back one by one are read back in sequence, up to the closing bracket. -/
theorem items?_write (a : α) (as : List α)
    (hread : ∀ x ∈ a :: as, ∀ rest, item? (write x ++ rest) = some (x, rest))
    (hcomma : close ≠ ',') (htail : skipBlanks tail = close :: rest) {rounds : Nat}
    (hrounds : as.length < rounds) :
    items? item? close rounds (write a ++ (as.flatMap (fun x => ',' :: write x) ++ tail)) =
      some (a :: as, rest) := by
  induction as generalizing a rounds with
  | nil =>
    cases rounds with
    | zero => cases hrounds
    | succ rounds =>
      rw [items?, hread a List.mem_cons_self]
      simp [htail]
  | cons b as ih =>
    cases rounds with
    | zero => cases hrounds
    | succ rounds =>
      have ih := ih b (fun x hx => hread x (List.mem_cons_of_mem a hx)) (Nat.lt_of_succ_lt_succ hrounds)
      rw [items?, hread a List.mem_cons_self]
      simp only [List.flatMap_cons, List.cons_append, List.append_assoc,
        skipBlanks_cons (c := ',') rfl, if_neg hcomma.symm, if_true, ih, Option.map_some]

/-- They are read back behind the opening bracket, if the first one does not look like the closing
bracket. -/
theorem sequence?_write (a : α) (as : List α)
    (hread : ∀ x ∈ a :: as, ∀ rest, item? (write x ++ rest) = some (x, rest))
    (hopen : ∀ rest, ∃ c cs, skipBlanks (write a ++ rest) = c :: cs ∧ c ≠ close)
    (hcomma : close ≠ ',') (htail : skipBlanks tail = close :: rest) :
    sequence? item? close (write a ++ (as.flatMap (fun x => ',' :: write x) ++ tail)) =
      some (a :: as, rest) := by
  rcases hopen (as.flatMap (fun x => ',' :: write x) ++ tail) with ⟨c, cs, hskip, hc⟩
  simp only [sequence?, hskip, if_neg hc]
  apply items?_write a as hread hcomma htail
  have has : as.length ≤ (as.flatMap fun x => ',' :: write x).length :=
    length_le_length_flatMap fun x _ => List.cons_ne_nil _ _
  have htail' : 0 < tail.length := by
    apply List.length_pos_iff.2
    rintro rfl
    cases htail
  simp only [List.length_append]
  omega

theorem length_write_le {a x : α} {as : List α} (h : x ∈ a :: as) :
    (write x).length ≤ (write a ++ (as.flatMap (fun x => ',' :: write x) ++ tail)).length := by
  simp only [List.length_append]
  rcases List.mem_cons.1 h with rfl | h
  · omega
  · have hle := length_le_of_mem_flatMap (f := fun x => ',' :: write x) h
    rw [List.length_cons] at hle
    omega

end Sequences

/-! ## Values -/

theorem itemChars_eq_flatMap (depth : Nat) (vs : List Value) :
    itemChars depth vs = vs.flatMap fun v => ',' :: (newLine depth ++ v.chars depth) := by
  induction vs with
  | nil => rfl
  | cons v rest ih => simp [itemChars, ih]

/-- What is written for a member on a line of its own. -/
def memberLine (depth : Nat) (m : String × Value) : List Char :=
  newLine depth ++ (quote m.1 ++ ':' :: ' ' :: m.2.chars depth)

theorem memberChars_eq_flatMap (depth : Nat) (ms : List (String × Value)) :
    memberChars depth ms = ms.flatMap fun m => ',' :: memberLine depth m := by
  induction ms with
  | nil => rfl
  | cons m rest ih => simp [memberChars, memberLine, ih]

/-- A value begins with a quote or an opening bracket. -/
theorem Value.head_chars (v : Value) (depth : Nat) :
    ∃ c cs, v.chars depth = c :: cs ∧ (c = '"' ∨ c = '[' ∨ c = '{') := by
  cases v with
  | str text => exact ⟨_, _, rfl, .inl rfl⟩
  | arr vs =>
    cases vs with
    | nil => exact ⟨_, _, rfl, .inr (.inl rfl)⟩
    | cons v rest =>
      rw [chars]
      exact ⟨_, _, rfl, .inr (.inl rfl)⟩
  | obj ms =>
    cases ms with
    | nil => exact ⟨_, _, rfl, .inr (.inr rfl)⟩
    | cons m rest =>
      rw [chars]
      exact ⟨_, _, rfl, .inr (.inr rfl)⟩

/-- What is written for a value on a line of its own. -/
def valueLine (depth : Nat) (v : Value) : List Char :=
  newLine depth ++ v.chars depth

theorem chars_arr_cons (depth : Nat) (v : Value) (vs : List Value) (rest : List Char) :
    (Value.arr (v :: vs)).chars depth ++ rest =
      '[' :: (valueLine (depth + 1) v ++ ((vs.flatMap fun v => ',' :: valueLine (depth + 1) v) ++
        (newLine depth ++ ']' :: rest))) := by
  simp [Value.chars, itemChars_eq_flatMap, valueLine]

theorem chars_obj_cons (depth : Nat) (m : String × Value) (ms : List (String × Value))
    (rest : List Char) :
    (Value.obj (m :: ms)).chars depth ++ rest =
      '{' :: (memberLine (depth + 1) m ++ ((ms.flatMap fun m => ',' :: memberLine (depth + 1) m) ++
        (newLine depth ++ '}' :: rest))) := by
  simp [Value.chars, memberChars_eq_flatMap, memberLine]

theorem skipBlanks_chars (v : Value) (depth : Nat) (rest : List Char) :
    skipBlanks (v.chars depth ++ rest) = v.chars depth ++ rest := by
  rcases v.head_chars depth with ⟨c, cs, hchars, hc⟩
  rw [hchars]
  apply skipBlanks_cons
  rcases hc with rfl | rfl | rfl <;> rfl

theorem skipBlanks_valueLine (v : Value) (depth : Nat) (rest : List Char) :
    skipBlanks (valueLine depth v ++ rest) = v.chars depth ++ rest := by
  rw [valueLine, List.append_assoc, skipBlanks_newLine, skipBlanks_chars]

theorem skipBlanks_memberLine (m : String × Value) (depth : Nat) (rest : List Char) :
    skipBlanks (memberLine depth m ++ rest) = '"' :: (m.1.toList.flatMap encodeChar ++
      '"' :: ':' :: ' ' :: (m.2.chars depth ++ rest)) := by
  rw [memberLine, List.append_assoc, skipBlanks_newLine, List.append_assoc, quote_append,
    skipBlanks_cons rfl]
  rfl

/-- The line of a value does not begin with a closing bracket. -/
theorem head_valueLine (v : Value) (depth : Nat) (rest : List Char) :
    ∃ c cs, skipBlanks (valueLine depth v ++ rest) = c :: cs ∧ c ≠ ']' := by
  rcases v.head_chars depth with ⟨c, cs, hchars, hc⟩
  rw [skipBlanks_valueLine, hchars]
  refine ⟨c, _, rfl, ?_⟩
  rcases hc with rfl | rfl | rfl <;> decide

/-- The closing bracket of an array or of an object stands on a line of its own. -/
theorem skipBlanks_closing {close : Char} (h : isBlank close = false) (depth : Nat)
    (rest : List Char) : skipBlanks (newLine depth ++ close :: rest) = close :: rest := by
  rw [skipBlanks_newLine, skipBlanks_cons h]

/-- The line of a member is read as the member if its value is read back. -/
theorem member?_memberLine {value? : List Char → Option (Value × List Char)} {m : String × Value}
    {depth : Nat} (hvalue : ∀ cs rest, skipBlanks cs = m.2.chars depth ++ rest →
      value? cs = some (m.2, rest)) (rest : List Char) :
    member? value? (memberLine depth m ++ rest) = some (m, rest) := by
  have hblank : skipBlanks (' ' :: (m.2.chars depth ++ rest)) = m.2.chars depth ++ rest :=
    skipBlanks_chars m.2 depth rest
  simp only [member?, skipBlanks_memberLine, string?_encode, skipBlanks_cons (c := ':') rfl,
    hvalue _ _ hblank, Option.map_some]

/-- What is written for a value is read as the value, with any blanks in front and any text behind. -/
theorem value?_chars (v : Value) {depth rounds : Nat} {cs rest : List Char}
    (hrounds : (v.chars depth).length ≤ rounds) (hcs : skipBlanks cs = v.chars depth ++ rest) :
    value? rounds cs = some (v, rest) := by
  induction v generalizing depth rounds cs rest with
  | str text =>
    cases rounds with
    | zero => simp [Value.chars, quote] at hrounds
    | succ rounds =>
      rw [Value.chars, quote_append] at hcs
      simp only [value?, hcs, string?_encode, Option.map_some]
  | arr vs ih =>
    cases rounds with
    | zero => cases vs <;> simp [Value.chars] at hrounds
    | succ rounds =>
      cases vs with
      | nil =>
        rw [Value.chars] at hcs
        simp [value?, hcs, sequence?, skipBlanks_cons (c := ']') rfl]
      | cons v vs =>
        rw [← List.append_nil (Value.chars _ _), chars_arr_cons, List.length_cons] at hrounds
        rw [chars_arr_cons] at hcs
        -- every item is shorter than the array, so the rounds that are left suffice for it
        have hread : ∀ x ∈ v :: vs, ∀ rest,
            value? rounds (valueLine (depth + 1) x ++ rest) = some (x, rest) := by
          intro x hx rest
          have hline := Nat.le_trans (length_write_le hx) (Nat.le_of_succ_le_succ hrounds)
          rw [valueLine, List.length_append] at hline
          exact ih x hx (by omega) (skipBlanks_valueLine x (depth + 1) rest)
        simp only [value?, hcs, sequence?_write v vs hread (head_valueLine v (depth + 1)) (by decide)
          (skipBlanks_closing rfl depth rest), Option.map_some]
  | obj ms ih =>
    cases rounds with
    | zero => cases ms <;> simp [Value.chars] at hrounds
    | succ rounds =>
      cases ms with
      | nil =>
        rw [Value.chars] at hcs
        simp [value?, hcs, sequence?, skipBlanks_cons (c := '}') rfl]
      | cons m ms =>
        rw [← List.append_nil (Value.chars _ _), chars_obj_cons, List.length_cons] at hrounds
        rw [chars_obj_cons] at hcs
        have hread : ∀ x ∈ m :: ms, ∀ rest,
            member? (value? rounds) (memberLine (depth + 1) x ++ rest) = some (x, rest) := by
          intro x hx rest
          have hline := Nat.le_trans (length_write_le hx) (Nat.le_of_succ_le_succ hrounds)
          simp only [memberLine, List.length_append, List.length_cons] at hline
          apply member?_memberLine
          intro cs rest hcs
          exact ih x hx (by omega) hcs
        have hopen : ∀ rest, ∃ c cs, skipBlanks (memberLine (depth + 1) m ++ rest) = c :: cs ∧
            c ≠ '}' := by
          intro rest
          rw [skipBlanks_memberLine]
          exact ⟨_, _, rfl, by decide⟩
        simp only [value?, hcs, sequence?_write m ms hread hopen (by decide)
          (skipBlanks_closing rfl depth rest), Option.map_some]

/-- A document that is written for a value is read as the value. -/
theorem read?_chars (v : Value) (depth : Nat) : read? (v.chars depth) = some v := by
  have hcs : skipBlanks (v.chars depth) = v.chars depth ++ [] := by
    rw [← skipBlanks_chars, List.append_nil]
  simp [read?, value?_chars v (Nat.le_refl _) hcs, skipBlanks]

end GatewayRouting.Json
