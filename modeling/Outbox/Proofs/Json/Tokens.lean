import Mathlib.Algebra.Group.Int.Defs
import Outbox.Json.Printer
import Outbox.Json.Token
import Outbox.Proofs.Text.Digits
/-!
# `Proofs.Json.Tokens` — the compact text of a value is split into the tokens of that value

The printer's text is followed through the reader of tokens, one character after another: numerals
and literals go on until something comes that cannot stand in them, texts until a quote that is not
escaped. Of the numbers this is shown for the integers that the reader keeps as such.
-/

namespace Outbox.Json

open Text Text.Digits

/-! ## The tokens of a value -/

mutual
/-- The tokens that the text of a value consists of. -/
def tokens : Json → List Token
  | .null => [.null]
  | .bool b => [.bool b]
  | .number n => [.number (some n)]
  | .text s => [.text (some s)]
  | .array [] => [.openArray, .closeArray]
  | .array (j :: rest) => .openArray :: (tokens j ++ (itemTokens rest ++ [.closeArray]))
  | .object [] => [.openObject, .closeObject]
  | .object (m :: rest) => .openObject :: (memberTokens m ++ (membersTokens rest ++ [.closeObject]))

/-- The tokens of the items after the first. -/
def itemTokens : List Json → List Token
  | [] => []
  | j :: rest => .comma :: (tokens j ++ itemTokens rest)

/-- The tokens of the members after the first. -/
def membersTokens : List (String × Json) → List Token
  | [] => []
  | m :: rest => .comma :: (memberTokens m ++ membersTokens rest)

/-- The tokens of a key, a colon and a value. -/
def memberTokens : String × Json → List Token
  | (key, j) => .text (some key) :: .colon :: tokens j
end

mutual
/-- Whether every number of a value is an integer that a text can hold. -/
def isIntegral : Json → Bool
  | .number (.integer n) => -2 ^ 63 ≤ n && n < 2 ^ 64
  | .number (.double _) => false
  | .array items => areIntegral items
  | .object members => membersIntegral members
  | .null | .bool _ | .text _ => true

/-- Whether this holds of all values of a list. -/
def areIntegral : List Json → Bool
  | [] => true
  | j :: rest => isIntegral j && areIntegral rest

/-- Whether this holds of all members of a list. -/
def membersIntegral : List (String × Json) → Bool
  | [] => true
  | m :: rest => memberIntegral m && membersIntegral rest

/-- Whether this holds of the value of a member. -/
def memberIntegral : String × Json → Bool
  | (_, j) => isIntegral j
end

theorem membersIntegral_iff {members : List (String × Json)} :
    membersIntegral members = true ↔ ∀ m ∈ members, m.2.isIntegral = true := by
  induction members with
  | nil => simp [membersIntegral]
  | cons m rest ih =>
    obtain ⟨key, j⟩ := m
    simp [membersIntegral, memberIntegral, ih]

/-! ## Between tokens -/

/-- A text in which a numeral or a literal before it has its end. -/
def Ends (rest : List Char) : Prop :=
  ∀ c ∈ rest.head?, isLetter c = false ∧ isNumeral c = false

theorem ends_nil : Ends [] :=
  nofun

theorem ends_cons {c : Char} {rest : List Char} (hl : isLetter c = false)
    (hn : isNumeral c = false) : Ends (c :: rest) := fun _ h => by
  cases h
  exact ⟨hl, hn⟩

section Splitting

variable {rest : List Char} {more : List Token}

theorem tokens?_mark {c : Char} {t : Token} (hc : begin? c = some (.gap, [t]))
    (hrest : Mode.gap.tokens? rest = some more) :
    Mode.gap.tokens? (c :: rest) = some (t :: more) := by
  simp [Mode.tokens?, Mode.next?, hc, hrest]

/-- A token that goes on until something else begins is completed there, or at the end. -/
theorem tokens?_closing {mode : Mode} {t : Token} (hfinish : mode.finish? = some [t])
    (hnext : ∀ c ∈ rest.head?, mode.next? c = (begin? c).map fun (m, ts) => (m, t :: ts))
    (hrest : Mode.gap.tokens? rest = some more) : mode.tokens? rest = some (t :: more) := by
  cases rest with
  | nil =>
    cases hrest
    exact hfinish
  | cons c rest =>
    rw [Mode.tokens?, Mode.next?] at hrest
    rw [Mode.tokens?, hnext c rfl]
    cases hbegin : begin? c with
    | none => simp [hbegin] at hrest
    | some begun =>
      obtain ⟨next, ts⟩ := begun
      rw [hbegin] at hrest
      simp only [Option.bind_eq_bind, Option.bind_some, Option.pure_def, Option.map_some] at hrest ⊢
      cases hmore : next.tokens? rest with
      | none => simp [hmore] at hrest
      | some tokens =>
        rw [hmore] at hrest
        cases hrest
        rfl

/-! ## Literals and numerals -/

/-- A kind of token that goes on for as long as its characters come. -/
structure Mode.Word (mode : List Char → Mode) (inside : Char → Bool)
    (token? : List Char → Option Token) : Prop where
  go : ∀ {read c}, inside c = true → (mode read).next? c = some (mode (c :: read), [])
  stop : ∀ {read c}, inside c = false → (mode read).next? c = do
    let t ← token? read.reverse
    let (next, ts) ← begin? c
    return (next, t :: ts)
  finish : ∀ {read}, (mode read).finish? = (token? read.reverse).map fun t => [t]

theorem Mode.word_literal : Mode.Word .literal isLetter literalToken? where
  go h := by simp [Mode.next?, h]
  stop h := by simp [Mode.next?, h]
  finish := rfl

theorem Mode.word_numeral : Mode.Word .numeral isNumeral numberToken? where
  go h := by simp [Mode.next?, h]
  stop h := by simp [Mode.next?, h]
  finish := rfl

variable {mode : List Char → Mode} {inside : Char → Bool} {token? : List Char → Option Token}

theorem Mode.Word.tokens? (hw : Mode.Word mode inside token?) {word read : List Char}
    (hword : ∀ c ∈ word, inside c = true) :
    (mode read).tokens? (word ++ rest) = (mode (word.reverse ++ read)).tokens? rest := by
  induction word generalizing read with
  | nil => rfl
  | cons c word ih =>
    have htail := @ih (c :: read) fun d hd => hword d (List.mem_cons_of_mem c hd)
    simp only [List.cons_append, Mode.tokens?, hw.go (hword c List.mem_cons_self),
      Option.bind_eq_bind, Option.bind_some, htail]
    simp

/-- A literal or numeral is split off where something follows that cannot stand in it. -/
theorem Mode.Word.split (hw : Mode.Word mode inside token?) {c : Char} {word : List Char}
    {t : Token} (hbegin : begin? c = some (mode [c], [])) (hword : ∀ d ∈ word, inside d = true)
    (ht : token? (c :: word) = some t) (hends : ∀ d ∈ rest.head?, inside d = false)
    (hrest : Mode.gap.tokens? rest = some more) :
    Mode.gap.tokens? (c :: (word ++ rest)) = some (t :: more) := by
  have hread : (word.reverse ++ [c]).reverse = c :: word := by simp
  have hclosing : (mode (word.reverse ++ [c])).tokens? rest = some (t :: more) := by
    refine tokens?_closing ?_ (fun d hd => ?_) hrest
    · rw [hw.finish, hread, ht, Option.map_some]
    · rw [hw.stop (hends d hd), hread, ht]
      cases begin? d <;> rfl
  simp [Mode.tokens?, Mode.next?, hbegin, hw.tokens? hword, hclosing]

/-! ## Numbers -/

theorem begin?_digit {c : Char} (h : isDigit c = true) : begin? c = some (.numeral [c], []) := by
  obtain ⟨d, hd, rfl⟩ := exists_symbol h
  exact (by decide : ∀ d < 10, begin? (symbol d) = some (.numeral [symbol d], [])) d hd

theorem isNumeral_of_isDigit {c : Char} (h : isDigit c = true) : isNumeral c = true := by
  simp [isNumeral, h]

/-- The digits of a number are the whole part of a numeral and all of it. -/
theorem readWhole?_digits (n : Nat) :
    Numeral.readWhole? (Digits.write n) = some (Digits.write n, []) := by
  have hdigits : ∀ c ∈ Digits.write n, isDigit c = true := fun _ => isDigit_of_mem_write
  have hzero : ((Digits.write n).head? == some '0' && (Digits.write n).length != 1) = false := by
    rw [Bool.and_eq_false_iff, beq_eq_false_iff_ne, bne_eq_false_iff_eq]
    exact (em _).symm.imp_right length_write_of_head?
  rw [Numeral.readWhole?, List.takeWhile_eq_self_iff.mpr hdigits,
    List.dropWhile_eq_nil_iff.mpr hdigits]
  simp [write_ne_nil, hzero]

theorem read?_digits (n : Nat) :
    Numeral.read? (Digits.write n) = some ⟨false, Digits.write n, none, none⟩ := by
  have hsign {cs : List Char} : Digits.write n ≠ '-' :: cs := by
    have h : Digits.write n ++ [] ≠ '-' :: cs :=
      append_ne_cons (write_ne_nil n) (fun _ => isDigit_of_mem_write) rfl
    rwa [List.append_nil] at h
  simp [Numeral.read?, readWhole?_digits, Numeral.readFraction?, Numeral.readExponent?]

theorem read?_minus (n : Nat) :
    Numeral.read? ('-' :: Digits.write n) = some ⟨true, Digits.write n, none, none⟩ := by
  simp [Numeral.read?, readWhole?_digits, Numeral.readFraction?, Numeral.readExponent?]

/-- The token of an integer in its range is that integer. -/
theorem numberToken?_writeInt {n : Int} (hlow : -2 ^ 63 ≤ n) (hhigh : n < 2 ^ 64) :
    numberToken? (writeInt n) = some (.number (some (.integer n))) := by
  cases n with
  | ofNat n =>
    change (n : Int) < 2 ^ 64 at hhigh
    simp [writeInt, numberToken?, read?_digits, Numeral.number?]
    omega
  | negSucc n =>
    have hvalue : -((n : Int) + 1) = Int.negSucc n := rfl
    simp [writeInt, numberToken?, read?_minus, Numeral.number?, hvalue]
    omega

/-- An integer in its range is split off. -/
theorem tokens?_integer {n : Int} (hlow : -2 ^ 63 ≤ n) (hhigh : n < 2 ^ 64) (hends : Ends rest)
    (hrest : Mode.gap.tokens? rest = some more) :
    Mode.gap.tokens? (writeInt n ++ rest) = some (.number (some (.integer n)) :: more) := by
  have htoken := numberToken?_writeInt hlow hhigh
  have hstop : ∀ c ∈ rest.head?, isNumeral c = false := fun c hc => (hends c hc).2
  cases n with
  | ofNat n =>
    have hdigits : ∀ c ∈ Digits.write n, isDigit c = true := fun _ => isDigit_of_mem_write
    rw [writeInt] at htoken ⊢
    cases hds : Digits.write n with
    | nil => exact absurd hds (write_ne_nil n)
    | cons c ds =>
      rw [hds] at htoken hdigits
      have hbegin := begin?_digit (hdigits c List.mem_cons_self)
      have hds : ∀ d ∈ ds, isNumeral d = true := fun d hd =>
        isNumeral_of_isDigit (hdigits d (List.mem_cons_of_mem c hd))
      exact Mode.word_numeral.split hbegin hds htoken hstop hrest
  | negSucc n =>
    exact Mode.word_numeral.split rfl (fun _ hd => isNumeral_of_isDigit (isDigit_of_mem_write hd))
      htoken hstop hrest

/-! ## Texts -/

theorem hexValue?_hexSymbol {d : Nat} (h : d < 16) : hexValue? (hexSymbol d) = some d :=
  (by decide : ∀ d < 16, hexValue? (hexSymbol d) = some d) d h

/-- Whether a character stands for itself inside a text. -/
def isPlain (c : Char) : Bool :=
  c != '"' && c != '\\' && 0x20 ≤ c.toNat

theorem isPlain_hexSymbol {d : Nat} (h : d < 16) : isPlain (hexSymbol d) = true :=
  (by decide : ∀ d < 16, isPlain (hexSymbol d) = true) d h

theorem tokens?_plain {c : Char} {read : List Char} (h : isPlain c = true) :
    (Mode.text read).tokens? (c :: rest) = (Mode.text (c :: read)).tokens? rest := by
  simp only [isPlain, Bool.and_eq_true, bne_iff_ne, decide_eq_true_eq] at h
  obtain ⟨⟨hquote, hbackslash⟩, hspace⟩ := h
  simp [Mode.tokens?, Mode.next?, hquote, hbackslash, Nat.not_lt.mpr hspace]

theorem tokens?_backslash {c : Char} {read : List Char} (h : 0x20 ≤ c.toNat) :
    (Mode.text read).tokens? ('\\' :: c :: rest) =
      (Mode.text (c :: '\\' :: read)).tokens? rest := by
  simp [Mode.tokens?, Mode.next?, Nat.not_lt.mpr h]

/-- A character is written as a backslash and a letter, by its number, or as it is. -/
theorem escape_cases (c : Char) :
    (∃ e, escape c = ['\\', e] ∧ shortEscape? e = some c ∧ e ≠ 'u' ∧ 0x20 ≤ e.toNat) ∨
    (escape c = ['\\', 'u', '0', '0', hexSymbol (c.toNat / 16), hexSymbol (c.toNat % 16)] ∧
      c.toNat < 0x20) ∨
    (escape c = [c] ∧ isPlain c = true) := by
  rw [escape]
  split_ifs with hquote hbackslash h h h h h hcontrol
  · exact .inl ⟨_, rfl, by rw [hquote]; rfl, by decide, by decide⟩
  · exact .inl ⟨_, rfl, by rw [hbackslash]; rfl, by decide, by decide⟩
  iterate 5 exact .inl ⟨_, rfl, h ▸ rfl, by decide, by decide⟩
  · exact .inr (.inl ⟨rfl, hcontrol⟩)
  · exact .inr (.inr ⟨rfl, by simpa [isPlain, hquote, hbackslash] using hcontrol⟩)

/-- A written character is taken into the text that is being read. -/
theorem tokens?_escape (c : Char) (read : List Char) :
    (Mode.text read).tokens? (escape c ++ rest) =
      (Mode.text ((escape c).reverse ++ read)).tokens? rest := by
  obtain ⟨e, he, -, -, hspace⟩ | ⟨hu, hcontrol⟩ | ⟨hc, hplain⟩ := escape_cases c
  · rw [he]
    exact tokens?_backslash hspace
  · have hhigh := isPlain_hexSymbol (show c.toNat / 16 < 16 by omega)
    have hlow := isPlain_hexSymbol (show c.toNat % 16 < 16 by omega)
    have hu' : 0x20 ≤ 'u'.toNat := by decide
    have hzero : isPlain '0' = true := rfl
    rw [hu]
    simp only [List.cons_append, List.nil_append, tokens?_backslash hu', tokens?_plain hzero,
      tokens?_plain hhigh, tokens?_plain hlow]
    rfl
  · rw [hc]
    exact tokens?_plain hplain

theorem tokens?_escapes (cs read : List Char) :
    (Mode.text read).tokens? (cs.flatMap escape ++ rest) =
      (Mode.text ((cs.flatMap escape).reverse ++ read)).tokens? rest := by
  induction cs generalizing read with
  | nil => rfl
  | cons c cs ih =>
    rw [List.flatMap_cons, List.append_assoc, tokens?_escape, ih, List.reverse_append,
      List.append_assoc]

/-- The inside of a text stands for the given characters. -/
def Denotes (inside cs : List Char) : Prop :=
  ∃ ps, pieces? inside = some ps ∧ join? ps = some cs

/-- A unit that is no half of a surrogate pair stands for a character, whatever follows. -/
theorem join?_unit {n : Nat} {ps : List Piece} (h : n < 0xD800) :
    join? (.unit n :: ps) = (join? ps).map (Char.ofNat n :: ·) := by
  have hhigh : ¬(0xD800 ≤ n ∧ n ≤ 0xDBFF) := by omega
  have hlow : ¬(0xDC00 ≤ n ∧ n ≤ 0xDFFF) := by omega
  have hhalf : ¬(0xD800 ≤ n ∧ n ≤ 0xDFFF) := by omega
  cases ps with
  | nil => simp [join?, hhalf]
  | cons p ps =>
    cases p with
    | char c => simp [join?, hhalf]
    | unit m => simp [join?, hhigh, hlow]

theorem Denotes.escape_append {inside cs : List Char} (h : Denotes inside cs) (c : Char) :
    Denotes (escape c ++ inside) (c :: cs) := by
  obtain ⟨ps, hps, hcs⟩ := h
  obtain ⟨e, he, hshort, hne, -⟩ | ⟨hu, hcontrol⟩ | ⟨hc, hplain⟩ := escape_cases c
  · refine ⟨.char c :: ps, ?_, by rw [join?, hcs, Option.map_some]⟩
    rw [he]
    simp [pieces?, hne, hshort, hps]
  · have hnumber : c.toNat / 16 * 16 + c.toNat % 16 = c.toNat := by omega
    refine ⟨.unit c.toNat :: ps, ?_, ?_⟩
    · rw [hu]
      simp [pieces?, hexValue?_hexSymbol (show c.toNat / 16 < 16 by omega),
        hexValue?_hexSymbol (show c.toNat % 16 < 16 by omega), show hexValue? '0' = some 0 from rfl,
        hps, hnumber]
    · rw [join?_unit (by omega), hcs, Option.map_some, Char.ofNat_toNat]
  · refine ⟨.char c :: ps, ?_, by rw [join?, hcs, Option.map_some]⟩
    have hbackslash : c ≠ '\\' := by
      rintro rfl
      cases hplain
    rw [hc]
    simp [pieces?, hbackslash, hps]

/-- The characters of a text are read as they were written. -/
theorem textToken?_escapes (s : String) :
    textToken? (s.toList.flatMap escape) = some (.text (some s)) := by
  have hdenotes (cs : List Char) : Denotes (cs.flatMap escape) cs := by
    induction cs with
    | nil => exact ⟨[], rfl, rfl⟩
    | cons c cs ih => exact ih.escape_append c
  obtain ⟨ps, hps, hs⟩ := hdenotes s.toList
  rw [textToken?, hps, Option.map_some, hs, Option.map_some, String.ofList_toList]

/-- A text is split off. -/
theorem tokens?_text (s : String) (hrest : Mode.gap.tokens? rest = some more) :
    Mode.gap.tokens? (writeText s ++ rest) = some (.text (some s) :: more) := by
  have hclose : (Mode.text (s.toList.flatMap escape).reverse).tokens? ('"' :: rest) =
      some (.text (some s) :: more) := by
    simp [Mode.tokens?, Mode.next?, textToken?_escapes, hrest]
  have hopen (cs : List Char) :
      Mode.gap.tokens? ('"' :: cs) = (Mode.text []).tokens? cs := by
    simp [Mode.tokens?, Mode.next?, begin?, isSpace]
  rw [writeText, List.cons_append, hopen, List.append_assoc, tokens?_escapes, List.append_nil]
  exact hclose

/-! ## Values -/

theorem Ends.writeItems (h : Ends rest) (js : List Json) : Ends (writeItems js ++ rest) := by
  cases js with
  | nil => exact h
  | cons => exact ends_cons rfl rfl

theorem Ends.writeMembers (h : Ends rest) (ms : List (String × Json)) :
    Ends (writeMembers ms ++ rest) := by
  cases ms with
  | nil => exact h
  | cons => exact ends_cons rfl rfl

end Splitting

mutual
/-- The text of a value is split into the tokens of that value. -/
theorem tokens?_write : ∀ (j : Json) {rest : List Char} {more : List Token},
    j.isIntegral = true → Ends rest → Mode.gap.tokens? rest = some more →
    Mode.gap.tokens? (j.write ++ rest) = some (j.tokens ++ more)
  | .null, _, _, _, hends, hrest =>
    Mode.word_literal.split rfl (List.all_eq_true.mp rfl) rfl (fun c hc => (hends c hc).1) hrest
  | .bool true, _, _, _, hends, hrest =>
    Mode.word_literal.split rfl (List.all_eq_true.mp rfl) rfl (fun c hc => (hends c hc).1) hrest
  | .bool false, _, _, _, hends, hrest =>
    Mode.word_literal.split rfl (List.all_eq_true.mp rfl) rfl (fun c hc => (hends c hc).1) hrest
  | .number (.integer n), _, _, h, hends, hrest => by
    simp only [isIntegral, Bool.and_eq_true, decide_eq_true_eq] at h
    exact tokens?_integer h.1 h.2 hends hrest
  | .number (.double _), _, _, h, _, _ => nomatch h
  | .text s, _, _, _, _, hrest => tokens?_text s hrest
  | .array [], _, _, _, _, hrest => tokens?_mark rfl (tokens?_mark rfl hrest)
  | .array (j :: js), rest, more, h, _, hrest => by
    simp only [isIntegral, areIntegral, Bool.and_eq_true] at h
    simp only [write, tokens, List.cons_append, List.append_assoc, List.nil_append]
    have hclose : Ends (']' :: rest) := ends_cons rfl rfl
    exact tokens?_mark rfl (tokens?_write j h.1 (hclose.writeItems js)
      (tokens?_writeItems js h.2 hclose (tokens?_mark rfl hrest)))
  | .object [], _, _, _, _, hrest => tokens?_mark rfl (tokens?_mark rfl hrest)
  | .object (m :: ms), rest, more, h, _, hrest => by
    simp only [isIntegral, membersIntegral, Bool.and_eq_true] at h
    simp only [write, tokens, List.cons_append, List.append_assoc, List.nil_append]
    have hclose : Ends ('\x7d' :: rest) := ends_cons rfl rfl
    exact tokens?_mark rfl (tokens?_writeMember m h.1 (hclose.writeMembers ms)
      (tokens?_writeMembers ms h.2 hclose (tokens?_mark rfl hrest)))

theorem tokens?_writeItems : ∀ (js : List Json) {rest : List Char} {more : List Token},
    areIntegral js = true → Ends rest → Mode.gap.tokens? rest = some more →
    Mode.gap.tokens? (writeItems js ++ rest) = some (itemTokens js ++ more)
  | [], _, _, _, _, hrest => hrest
  | j :: js, rest, more, h, hends, hrest => by
    simp only [areIntegral, Bool.and_eq_true] at h
    have hjs := tokens?_writeItems js h.2 hends hrest
    simp only [writeItems, itemTokens, List.cons_append, List.append_assoc]
    exact tokens?_mark rfl (tokens?_write j h.1 (hends.writeItems js) hjs)

theorem tokens?_writeMembers : ∀ (ms : List (String × Json)) {rest : List Char}
    {more : List Token}, membersIntegral ms = true → Ends rest →
    Mode.gap.tokens? rest = some more →
    Mode.gap.tokens? (writeMembers ms ++ rest) = some (membersTokens ms ++ more)
  | [], _, _, _, _, hrest => hrest
  | m :: ms, rest, more, h, hends, hrest => by
    simp only [membersIntegral, Bool.and_eq_true] at h
    have hms := tokens?_writeMembers ms h.2 hends hrest
    simp only [writeMembers, membersTokens, List.cons_append, List.append_assoc]
    exact tokens?_mark rfl (tokens?_writeMember m h.1 (hends.writeMembers ms) hms)

theorem tokens?_writeMember : ∀ (m : String × Json) {rest : List Char} {more : List Token},
    memberIntegral m = true → Ends rest → Mode.gap.tokens? rest = some more →
    Mode.gap.tokens? (writeMember m ++ rest) = some (memberTokens m ++ more)
  | (key, j), _, _, h, hends, hrest => by
    simp only [writeMember, memberTokens, List.cons_append, List.append_assoc]
    exact tokens?_text key (tokens?_mark rfl (tokens?_write j h hends hrest))
end

end Outbox.Json
