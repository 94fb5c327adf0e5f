import Filterbook.Json.Printer
import Filterbook.Json.Token
import Filterbook.Proofs.Number.Written
import Filterbook.Proofs.Text.Identifiers
import Mathlib.Data.List.TakeWhile

/-!
# The tokens of a written value

The text of a value is read as the tokens of the value, whatever comes before or after it, when every
number in it is an integer of 64 bits. A text between quotes ends at its own closing quote, with each
escape read as the character that it stands for. A word and a number have no end of their own: they
end where the text does, or at a comma or a closing bracket.

## What is proved

* `tokensFrom?_textChars`: a text between quotes is one token that holds the text.
* `readNumber?_intDigits`: an integer of 64 bits is read from its digits.
* `Readable.lexesAs`: a readable value is read as its tokens.
-/

namespace Filterbook.Json

open Filterbook.Number Filterbook.Text

/-! ### Characters one after another -/

section Steps

variable {mode n : Mode} {c : Char} {cs : List Char}

theorem tokensFrom?_cons (mode : Mode) (c : Char) (cs : List Char) :
    tokensFrom? mode (c :: cs) =
      (mode.step? c).bind fun p => (tokensFrom? p.2 cs).map (p.1 ++ ·) := by
  rw [tokensFrom?]
  cases mode.step? c with
  | none => rfl
  | some p =>
    obtain ⟨tokens, next⟩ := p
    show (tokensFrom? next cs).bind (fun ts => some (tokens ++ ts)) =
      (tokensFrom? next cs).map (tokens ++ ·)
    cases tokensFrom? next cs <;> rfl

/-- A character that finishes no token. -/
theorem tokensFrom?_silent (h : mode.step? c = some ([], n)) :
    tokensFrom? mode (c :: cs) = tokensFrom? n cs := by
  rw [tokensFrom?_cons, h]
  exact Option.map_id'

/-- A character that finishes a token. -/
theorem tokensFrom?_token {t : Token} (h : mode.step? c = some ([t], n)) :
    tokensFrom? mode (c :: cs) = (tokensFrom? n cs).map (t :: ·) := by
  rw [tokensFrom?_cons, h]
  rfl

end Steps

/-! ### Texts -/

/-- A number below 256 has two digits after two zeros. -/
theorem hexPadded_four {n : Nat} (h : n < 256) :
    hexPadded 4 n = ['0', '0', hexDigit (n / 16), hexDigit (n % 16)] := by
  by_cases hn : n < 16
  · have hdigits : hexDigits n = [hexDigit n] := by rw [hexDigits, if_pos hn]
    rw [hexPadded, hdigits, Nat.div_eq_of_lt hn, Nat.mod_eq_of_lt hn]
    rfl
  · have hhigh : n / 16 < 16 := by omega
    have hdigits : hexDigits n = [hexDigit (n / 16), hexDigit (n % 16)] := by
      rw [hexDigits, if_neg hn, hexDigits, if_pos hhigh]
      rfl
    rw [hexPadded, hdigits]
    rfl

section Texts

variable {read : List Char} {high : Option Nat} {value count d : Nat} {cs : List Char}

theorem tokensFrom?_digit (hd : d < 16) (hcount : count ≠ 3) :
    tokensFrom? (.digits read high value count) (hexDigit d :: cs) =
      tokensFrom? (.digits read high (16 * value + d) (count + 1)) cs := by
  refine tokensFrom?_silent ?_
  rw [Mode.step?, hexValue?_hexDigit d hd]
  exact if_neg hcount

theorem tokensFrom?_lastDigit (hd : d < 16) (hsmall : 16 * value + d < 0xD800) :
    tokensFrom? (.digits read none value 3) (hexDigit d :: cs) =
      tokensFrom? (.text (Char.ofNat (16 * value + d) :: read)) cs := by
  have hafter : afterDigits? read none (16 * value + d) =
      some (.text (Char.ofNat (16 * value + d) :: read)) := by
    rw [afterDigits?, if_neg (by simp; omega), if_neg (by simp; omega)]
  refine tokensFrom?_silent ?_
  rw [Mode.step?, hexValue?_hexDigit d hd]
  show (afterDigits? read none (16 * value + d)).map _ = _
  rw [hafter]
  rfl

/-- A control is read from its number. -/
theorem tokensFrom?_control {c : Char} (hc : c.toNat < 0x20) :
    tokensFrom? (.text read) ('\\' :: 'u' :: hexPadded 4 c.toNat ++ cs) =
      tokensFrom? (.text (c :: read)) cs := by
  have hzero : '0' = hexDigit 0 := rfl
  have hvalue : 16 * (16 * (16 * (16 * 0 + 0) + 0) + c.toNat / 16) + c.toNat % 16 = c.toNat := by omega
  rw [hexPadded_four (by omega), hzero]
  show tokensFrom? (.text read) ('\\' :: 'u' :: hexDigit 0 :: hexDigit 0 ::
    hexDigit (c.toNat / 16) :: hexDigit (c.toNat % 16) :: cs) = _
  rw [tokensFrom?_silent (n := .escape read) rfl, tokensFrom?_silent (n := .digits read none 0 0) rfl,
    tokensFrom?_digit (by decide) (by decide), tokensFrom?_digit (by decide) (by decide),
    tokensFrom?_digit (by omega) (by decide), tokensFrom?_lastDigit (by omega) (by omega), hvalue,
    Char.ofNat_toNat]

/-- A character between quotes is read as itself. -/
theorem tokensFrom?_textChar (read : List Char) (c : Char) (cs : List Char) :
    tokensFrom? (.text read) (textChar c ++ cs) = tokensFrom? (.text (c :: read)) cs := by
  unfold textChar
  split
  case h_8 hquote hbackslash _ _ _ _ _ =>
    split
    · next hc => exact tokensFrom?_control hc
    · next hc =>
      refine tokensFrom?_silent ?_
      rw [Mode.step?, if_neg hquote, if_neg hbackslash, if_neg hc]
  -- the others have a letter of their own after the backslash
  all_goals exact (tokensFrom?_silent rfl).trans (tokensFrom?_silent rfl)

theorem tokensFrom?_textBody (read body cs : List Char) :
    tokensFrom? (.text read) (body.flatMap textChar ++ '"' :: cs) =
      (tokensFrom? .outside cs).map (.text (String.ofList (read.reverse ++ body)) :: ·) := by
  induction body generalizing read with
  | nil =>
    rw [List.append_nil]
    exact tokensFrom?_token rfl
  | cons c body ih =>
    rw [List.flatMap_cons, List.append_assoc, tokensFrom?_textChar, ih, List.reverse_cons,
      List.append_assoc]
    rfl

/-- **A text between quotes is one token that holds the text.** -/
theorem tokensFrom?_textChars (s : String) (cs : List Char) :
    tokensFrom? .outside (textChars s ++ cs) = (tokensFrom? .outside cs).map (.text s :: ·) := by
  have hbody := tokensFrom?_textBody [] s.toList cs
  rw [List.reverse_nil, List.nil_append, String.ofList_toList] at hbody
  have hchars : textChars s ++ cs = '"' :: (s.toList.flatMap textChar ++ '"' :: cs) := by
    simp [textChars]
  rw [hchars, ← hbody]
  exact tokensFrom?_silent rfl

end Texts

/-! ### Integers -/

/-- The integers that 64 bits hold with a sign or without one. -/
def InWord (n : Int) : Prop := -(twoTo 63 : Int) ≤ n ∧ n < twoTo 64

/-- Digits are taken in to the last one when their number fits. -/
theorem fillWord_eq {n : Nat} {digits : List Char} (h : valueFrom n digits < twoTo 64) :
    fillWord n digits = (valueFrom n digits, []) := by
  induction digits generalizing n with
  | nil => rfl
  | cons c digits ih =>
    have hnext : 10 * n + digitValue c < twoTo 64 := Nat.lt_of_le_of_lt (le_valueFrom _ digits) h
    rw [fillWord, if_pos hnext]
    exact ih h

theorem takeWhile_natDigits (n : Nat) : (natDigits n).takeWhile isDigit = natDigits n :=
  List.takeWhile_eq_self_iff.mpr fun _ => isDigit_of_mem_natDigits

theorem dropWhile_natDigits_self (n : Nat) : (natDigits n).dropWhile isDigit = [] :=
  List.dropWhile_eq_nil_iff.mpr fun _ => isDigit_of_mem_natDigits

/-- An integer is cut into its sign and its digits. -/
theorem splitNumber?_intDigits (n : Int) :
    splitNumber? (intDigits n) = some ⟨decide (n < 0), natDigits n.natAbs, none, none⟩ := by
  have hwhole : ¬ ((natDigits n.natAbs).isEmpty ||
      ((natDigits n.natAbs).head? == some '0' && (natDigits n.natAbs).length ≠ 1)) = true := by
    have hlength : (natDigits n.natAbs).head? = some '0' → (natDigits n.natAbs).length = 1 := by
      intro h
      rw [eq_zero_of_head_natDigits h, natDigits]
      rfl
    simpa [natDigits_ne_nil] using hlength
  by_cases hn : n < 0
  · rw [intDigits, if_pos hn, splitNumber?, takeWhile_natDigits, dropWhile_natDigits_self,
      if_neg hwhole, decide_eq_true hn]
    rfl
  · have hsign : ∀ cs, natDigits n.natAbs = '-' :: cs → False := by
      intro cs h
      have hdigit := isDigit_of_mem_natDigits (h ▸ List.mem_cons_self : '-' ∈ natDigits n.natAbs)
      exact absurd hdigit (by decide)
    rw [intDigits, if_neg hn, splitNumber?, takeWhile_natDigits, dropWhile_natDigits_self,
      if_neg hwhole, decide_eq_false hn]
    · rfl
    · exact hsign

/-- **An integer of 64 bits is read from its digits.** -/
theorem readNumber?_intDigits {n : Int} (h : InWord n) : readNumber? (intDigits n) = some (.int n) := by
  obtain ⟨hleast, hmost⟩ := h
  have hvalue : valueFrom 0 (natDigits n.natAbs) = n.natAbs := digitsValue_natDigits n.natAbs
  have hfits : n.natAbs < twoTo 64 := by
    have h63 : twoTo 63 < twoTo 64 := by decide
    omega
  have hfill : fillWord 0 (natDigits n.natAbs) = (n.natAbs, []) := by
    have hfill := fillWord_eq (hvalue.symm ▸ hfits)
    rwa [hvalue] at hfill
  have hsmall : ¬ (decide (n < 0) &&
      (decide (n.natAbs = 0) || decide (n.natAbs > twoTo 63))) = true := by
    simp only [Bool.and_eq_true, Bool.or_eq_true, decide_eq_true_eq]
    omega
  have hsign : (if decide (n < 0) = true then -(n.natAbs : Int) else n.natAbs) = n := by
    simp only [decide_eq_true_eq]
    omega
  rw [readNumber?, splitNumber?_intDigits]
  show NumberParts.value? _ = _
  simp only [NumberParts.value?, hfill]
  rw [if_neg hsmall, hsign]

/-! ### Words and numbers -/

/-- What may follow a value: nothing, or a comma or a closing bracket first. -/
inductive Follows : List Char → Prop where
  /-- The text ends. -/
  | nothing : Follows []
  /-- Another value comes. -/
  | comma (cs : List Char) : Follows (',' :: cs)
  /-- A list ends. -/
  | bracket (cs : List Char) : Follows (']' :: cs)
  /-- An object ends. -/
  | brace (cs : List Char) : Follows ('\x7d' :: cs)

/-- Characters are read as tokens: these tokens come first, and then what follows is read. -/
def LexesAs (cs : List Char) (ts : List Token) : Prop :=
  ∀ rest, Follows rest →
    tokensFrom? .outside (cs ++ rest) = (tokensFrom? .outside rest).map (ts ++ ·)

/-- A token without an end of its own ends at what follows. -/
theorem tokensFrom?_of_follows {mode : Mode} {t : Token} {rest : List Char}
    (hend : mode.finish? = some [t])
    (hstep : ∀ c, c = ',' ∨ c = ']' ∨ c = '\x7d' →
      mode.step? c = (begin? c).map fun p => (t :: p.1, p.2))
    (h : Follows rest) : tokensFrom? mode rest = (tokensFrom? .outside rest).map (t :: ·) := by
  have hcons : ∀ c, c = ',' ∨ c = ']' ∨ c = '\x7d' → ∀ cs,
      tokensFrom? mode (c :: cs) = (tokensFrom? .outside (c :: cs)).map (t :: ·) := by
    intro c hc cs
    rw [tokensFrom?_cons, tokensFrom?_cons, hstep c hc, Mode.step?]
    cases begin? c with
    | none => rfl
    | some p => cases h : tokensFrom? p.2 cs <;> simp [h]
  cases h with
  | nothing => rw [tokensFrom?, hend]; rfl
  | comma cs => exact hcons ',' (by simp) cs
  | bracket cs => exact hcons ']' (by simp) cs
  | brace cs => exact hcons '\x7d' (by simp) cs

theorem tokensFrom?_word {read : List Char} {v : Json} {rest : List Char}
    (hv : wordValue? read.reverse = some v) (h : Follows rest) :
    tokensFrom? (.word read) rest = (tokensFrom? .outside rest).map (.atom v :: ·) := by
  refine tokensFrom?_of_follows (by simp [Mode.finish?, hv]) (fun c hc => ?_) h
  have hletter : ('a' ≤ c && c ≤ 'z') = false := by
    rcases hc with rfl | rfl | rfl <;> rfl
  simp only [Mode.step?, hv, hletter]
  cases begin? c <;> rfl

theorem tokensFrom?_number {read : List Char} {n : JsonNumber} {rest : List Char}
    (hn : readNumber? read.reverse = some n) (h : Follows rest) :
    tokensFrom? (.number read) rest = (tokensFrom? .outside rest).map (.atom (.num n) :: ·) := by
  refine tokensFrom?_of_follows (by simp [Mode.finish?, hn]) (fun c hc => ?_) h
  have hother : isNumberChar c = false := by
    rcases hc with rfl | rfl | rfl <;> rfl
  simp only [Mode.step?, hn, hother]
  cases begin? c <;> rfl

/-- Characters that go on with what was begun: a word, a number. -/
theorem tokensFrom?_run {mode : List Char → Mode} {body : List Char}
    (h : ∀ c ∈ body, ∀ read, (mode read).step? c = some ([], mode (c :: read)))
    (read rest : List Char) :
    tokensFrom? (mode read) (body ++ rest) = tokensFrom? (mode (body.reverse ++ read)) rest := by
  induction body generalizing read with
  | nil => rfl
  | cons c body ih =>
    have hrest := ih (fun d hd => h d (List.mem_cons_of_mem c hd)) (c :: read)
    rw [List.cons_append, tokensFrom?_silent (h c (List.mem_cons_self ..) read), hrest,
      List.reverse_cons, List.append_assoc]
    rfl

theorem lexesAs_word {v : Json} {c : Char} {cs : List Char}
    (hbegin : Mode.outside.step? c = some ([], .word [c]))
    (hletters : (cs.all fun d => 'a' ≤ d && d ≤ 'z') = true) (hv : wordValue? (c :: cs) = some v) :
    LexesAs (c :: cs) [.atom v] := by
  intro rest h
  have hrun : ∀ d ∈ cs, ∀ read, (Mode.word read).step? d = some ([], .word (d :: read)) := by
    intro d hd read
    have hletter := List.all_eq_true.mp hletters d hd
    rw [Mode.step?, if_pos (by simpa using hletter)]
  have hword : wordValue? (cs.reverse ++ [c]).reverse = some v := by simpa using hv
  rw [List.cons_append, tokensFrom?_silent hbegin, tokensFrom?_run hrun]
  exact tokensFrom?_word hword h

theorem isNumberChar_of_mem_intDigits {n : Int} {c : Char} (hc : c ∈ intDigits n) :
    isNumberChar c = true := by
  have hdigits : ∀ c ∈ natDigits n.natAbs, isNumberChar c = true := by
    intro c hc
    simp [isNumberChar, isDigit_of_mem_natDigits hc]
  rw [intDigits] at hc
  split at hc
  · rcases List.mem_cons.mp hc with rfl | hc
    · rfl
    · exact hdigits c hc
  · exact hdigits c hc

/-- The first character of an integer begins a number. -/
theorem step?_intDigits {n : Int} {c : Char} {cs : List Char} (h : intDigits n = c :: cs) :
    Mode.outside.step? c = some ([], .number [c]) := by
  have hc : isDigit c = true ∨ c = '-' := by
    rw [intDigits] at h
    split at h
    · exact .inr (List.cons.inj h).1.symm
    · exact .inl (isDigit_of_mem_natDigits (h ▸ List.mem_cons_self : c ∈ natDigits n.natAbs))
  rcases hc with hc | rfl
  · rw [Mode.step?]
    unfold begin?
    split
    case h_8 =>
      have hspace : ¬ isSpace c = true := by
        intro hspace
        simp only [isSpace, Bool.or_eq_true, decide_eq_true_eq] at hspace
        rcases hspace with ((rfl | rfl) | rfl) | rfl <;> cases hc
      rw [if_neg hspace, hc, Bool.true_or, if_pos rfl]
    -- no digit is a bracket, a colon, a comma or a quote
    all_goals cases hc
  · rfl

theorem lexesAs_intDigits {n : Int} (hn : InWord n) :
    LexesAs (intDigits n) [.atom (.num (.int n))] := by
  intro rest h
  obtain ⟨c, cs, hdigits⟩ : ∃ c cs, intDigits n = c :: cs := by
    rw [intDigits]
    split
    · exact ⟨_, _, rfl⟩
    · exact List.exists_cons_of_ne_nil (natDigits_ne_nil _)
  have hrun : ∀ d ∈ cs, ∀ read, (Mode.number read).step? d = some ([], .number (d :: read)) := by
    intro d hd read
    have hmem : d ∈ intDigits n := hdigits ▸ List.mem_cons_of_mem c hd
    rw [Mode.step?, if_pos (isNumberChar_of_mem_intDigits hmem)]
  have hnumber : readNumber? (cs.reverse ++ [c]).reverse = some (.int n) := by
    have hread := readNumber?_intDigits hn
    rw [hdigits] at hread
    simpa using hread
  rw [hdigits, List.cons_append, tokensFrom?_silent (step?_intDigits hdigits), tokensFrom?_run hrun]
  exact tokensFrom?_number hnumber h

/-! ### Lists and objects -/

namespace LexesAs

variable {cs ds : List Char} {ts us : List Token}

theorem nil : LexesAs [] [] := fun _ _ => Option.map_id'.symm

/-- One after another, with a comma between them. -/
theorem comma (h : LexesAs cs ts) (h' : LexesAs ds us) :
    LexesAs (cs ++ ',' :: ds) (ts ++ .comma :: us) := by
  intro rest hrest
  rw [List.append_assoc, List.cons_append, h _ (.comma _),
    tokensFrom?_token (t := .comma) (n := .outside) rfl, h' rest hrest]
  simp [Option.map_map, Function.comp_def]

/-- After a name and a colon. -/
theorem member (name : String) (h : LexesAs cs ts) :
    LexesAs (textChars name ++ ':' :: cs) (.text name :: .colon :: ts) := by
  intro rest hrest
  rw [List.append_assoc, tokensFrom?_textChars, List.cons_append,
    tokensFrom?_token (t := .colon) (n := .outside) rfl, h rest hrest]
  simp [Option.map_map, Function.comp_def]

/-- Between an opening and a closing bracket. -/
theorem enclosed {left right : Char} {opening closing : Token}
    (hleft : Mode.outside.step? left = some ([opening], .outside))
    (hright : Mode.outside.step? right = some ([closing], .outside))
    (hends : ∀ rest, Follows (right :: rest)) (h : LexesAs cs ts) :
    LexesAs (left :: cs ++ [right]) (opening :: ts ++ [closing]) := by
  intro rest _
  have hchars : left :: cs ++ [right] ++ rest = left :: (cs ++ right :: rest) := by simp
  rw [hchars, tokensFrom?_token hleft, h _ (hends rest), tokensFrom?_token hright]
  simp [Option.map_map, Function.comp_def]

end LexesAs

/-! ### Values -/

mutual

/-- The tokens of a value. -/
def tokens : Json → List Token
  | str s => [.text s]
  | arr items => .arrayOpen :: itemTokens items ++ [.arrayClose]
  | obj members => .objectOpen :: memberTokens members ++ [.objectClose]
  | v => [.atom v]

/-- The tokens of items with commas between them. -/
def itemTokens : List Json → List Token
  | [] => []
  | [v] => tokens v
  | v :: vs => tokens v ++ .comma :: itemTokens vs

/-- The tokens of members with commas between them. -/
def memberTokens : List (String × Json) → List Token
  | [] => []
  | [(name, v)] => .text name :: .colon :: tokens v
  | (name, v) :: ms => .text name :: .colon :: tokens v ++ .comma :: memberTokens ms

end

/-- Texts, words and integers of 64 bits, with at most so many lists and objects open at once. -/
inductive Readable : Nat → Json → Prop where
  /-- The word `null`. -/
  | null {depth : Nat} : Readable depth .null
  /-- A truth value. -/
  | bool {depth : Nat} (b : Bool) : Readable depth (.bool b)
  /-- An integer of 64 bits. -/
  | int {depth : Nat} {n : Int} (h : InWord n) : Readable depth (.int n)
  /-- A text. -/
  | str {depth : Nat} (s : String) : Readable depth (.str s)
  /-- A list of readable values. -/
  | arr {depth : Nat} {items : List Json} (h : ∀ v ∈ items, Readable depth v) :
    Readable (depth + 1) (.arr items)
  /-- An object with readable values. -/
  | obj {depth : Nat} {members : List (String × Json)} (h : ∀ m ∈ members, Readable depth m.2) :
    Readable (depth + 1) (.obj members)

/-- The items of a list, read one after another. -/
theorem lexesAs_itemChars {items : List Json} (hitems : ∀ v ∈ items, LexesAs v.chars v.tokens) :
    LexesAs (itemChars items) (itemTokens items) := by
  induction items with
  | nil => exact .nil
  | cons v vs ih =>
    have hfirst : LexesAs v.chars v.tokens := hitems v (List.mem_cons_self ..)
    cases vs with
    | nil => exact hfirst
    | cons w vs => exact hfirst.comma (ih fun u hu => hitems u (List.mem_cons_of_mem v hu))

/-- The members of an object, read one after another. -/
theorem lexesAs_memberChars {members : List (String × Json)}
    (hmembers : ∀ m ∈ members, LexesAs m.2.chars m.2.tokens) :
    LexesAs (memberChars members) (memberTokens members) := by
  induction members with
  | nil => exact .nil
  | cons m ms ih =>
    obtain ⟨name, v⟩ := m
    have hfirst : LexesAs (textChars name ++ ':' :: v.chars) (.text name :: .colon :: v.tokens) :=
      (hmembers (name, v) (List.mem_cons_self ..)).member name
    cases ms with
    | nil => exact hfirst
    | cons m ms => exact hfirst.comma (ih fun u hu => hmembers u (List.mem_cons_of_mem _ hu))

/-- **A readable value is read as its tokens.** -/
theorem Readable.lexesAs {depth : Nat} {v : Json} (h : Readable depth v) :
    LexesAs v.chars v.tokens := by
  induction h with
  | null => exact lexesAs_word rfl rfl rfl
  | bool b =>
    cases b with
    | true => exact lexesAs_word rfl rfl rfl
    | false => exact lexesAs_word rfl rfl rfl
  | int hn => exact lexesAs_intDigits hn
  | str s => exact fun rest _ => tokensFrom?_textChars s rest
  | arr _ ih => exact .enclosed rfl rfl .bracket (lexesAs_itemChars ih)
  | obj _ ih => exact .enclosed rfl rfl .brace (lexesAs_memberChars ih)

end Filterbook.Json
