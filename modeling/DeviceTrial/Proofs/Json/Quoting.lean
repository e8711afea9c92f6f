/-
**Quoted texts are read back.**

A text between quotes has its quotes, backslashes and control characters escaped. The grammar reads
every written form of a character back as one piece, which stands for the character again.

* `readText_quoted` — what the grammar reads of a quoted text;
* `Value.read?_quoted` — **a quoted text is read back**, so that
* `quoted_injective` — different texts are quoted differently;
* `Value.quoted_ne_render` — and the compact text of a value that is no text is no quoted text.
-/

import DeviceTrial.Json.Printer
import Mathlib.Tactic.Common

namespace DeviceTrial.Json

/-! ### Reading back -/

/-- The piece that the written form of a character is read as. -/
def pieceOf (c : Char) : Piece :=
  if c.toNat < 32 ∧ c ∉ ['\n', '\r', '\t', '\x08', '\x0c'] then .unit c.toNat else .plain c

/-- The digit of a number is read back. -/
theorem hexDigit?_hexChar {n : Nat} (small : n < 16) : hexDigit? (hexChar n) = some n := by
  revert n
  decide

/-- The four digits of a control character are read as one unit. -/
theorem readText_digits {n : Nat} (small : n < 32) (rest : List Char) :
    readText ('\\' :: 'u' :: '0' :: '0' :: hexChar (n / 16) :: hexChar (n % 16) :: rest) =
      (readText rest).map fun found => (.unit n :: found.1, found.2) := by
  have zero : hexDigit? '0' = some 0 := rfl
  have whole : n / 16 * 16 + n % 16 = n := Nat.div_add_mod' n 16
  simp only [readText, zero, hexDigit?_hexChar (show n / 16 < 16 by omega),
    hexDigit?_hexChar (Nat.mod_lt n (by decide)), Option.bind_eq_bind, Option.bind_some,
    Nat.zero_mul, Nat.zero_add, whole]
  cases readText rest <;> rfl

/-- A short escape is read as its character. -/
theorem readText_short {e c : Char} (short : shortEscape? e = some c) (rest : List Char) :
    readText ('\\' :: e :: rest) =
      (readText rest).map fun found => (.plain c :: found.1, found.2) := by
  have unit : e ≠ 'u' := by
    rintro rfl
    cases short
  rw [readText, short]
  · cases readText rest <;> rfl
  · rintro a b c d rest same
    exact absurd same unit

/-- The written form of a character is read as its piece. -/
theorem readText_escape (c : Char) (rest : List Char) :
    readText (escape c ++ rest) =
      (readText rest).map fun found => (pieceOf c :: found.1, found.2) := by
  unfold escape
  split_ifs with quote back newline carriage tab backspace feed control
  · subst quote
    exact readText_short rfl rest
  · subst back
    exact readText_short rfl rest
  · subst newline
    exact readText_short rfl rest
  · subst carriage
    exact readText_short rfl rest
  · subst tab
    exact readText_short rfl rest
  · subst backspace
    exact readText_short rfl rest
  · subst feed
    exact readText_short rfl rest
  · rw [pieceOf, if_pos ⟨control, by simp [newline, carriage, tab, backspace, feed]⟩]
    exact readText_digits control rest
  · rw [pieceOf, if_neg fun both => control both.1, List.singleton_append, readText]
    all_goals simp [control, back, quote]

/-- **What the grammar reads of a quoted text** behind the opening quote. -/
theorem readText_quoted (cs rest : List Char) :
    readText (cs.flatMap escape ++ '"' :: rest) = some (cs.map pieceOf, rest) := by
  induction cs with
  | nil => simp [readText]
  | cons c cs step =>
    rw [List.flatMap_cons, List.append_assoc, readText_escape, step]
    rfl

theorem charsOf?_unit {code : Nat} (small : code < 32) (rest : List Piece) :
    charsOf? (.unit code :: rest) = (charsOf? rest).map (Char.ofNat code :: ·) := by
  have high : isHighSurrogate code = false := by
    simp only [isHighSurrogate, Bool.and_eq_false_imp, decide_eq_true_eq, decide_eq_false_iff_not]
    omega
  have low : isLowSurrogate code = false := by
    simp only [isLowSurrogate, Bool.and_eq_false_imp, decide_eq_true_eq, decide_eq_false_iff_not]
    omega
  cases rest with
  | nil => simp [charsOf?, high, low]
  | cons piece rest => cases piece <;> simp [charsOf?, high, low]

/-- The pieces of characters stand for them. -/
theorem charsOf?_pieces (cs : List Char) : charsOf? (cs.map pieceOf) = some cs := by
  induction cs with
  | nil => rfl
  | cons c cs step =>
    rw [List.map_cons, pieceOf]
    split
    · rename_i control
      rw [charsOf?_unit control.1, step, Option.map_some, Char.ofNat_toNat]
    · rw [charsOf?, step, Option.map_some]

/-- The grammar reads a quoted text as a text. -/
theorem Syntax.read?_quoted (text : String) :
    Syntax.read? (quoted text) = some (.text (text.toList.map pieceOf)) := by
  have written : (quoted text).toList = '"' :: (text.toList.flatMap escape ++ ['"']) := by
    rw [quoted, String.toList_ofList, quotedChars, List.cons_append]
  unfold Syntax.read?
  rw [written]
  simp [readValue, readText_quoted, skipBlanks, isBlank]

/-- The pieces of a text stand for it. -/
theorem textOf?_pieces (text : String) : textOf? (text.toList.map pieceOf) = some text := by
  rw [textOf?, charsOf?_pieces, Option.map_some, String.ofList_toList]

/-- **A quoted text is read back.** -/
theorem Value.read?_quoted (text : String) : Value.read? (quoted text) = some (.text text) := by
  rw [Value.read?, Syntax.read?_quoted, Option.bind_some, ofSyntax?, textOf?_pieces, Option.map_some]

/-- **Different texts are quoted differently.** -/
theorem quoted_injective : Function.Injective quoted := by
  intro text other same
  have read := congrArg Value.read? same
  rw [Value.read?_quoted, Value.read?_quoted] at read
  exact Value.text.inj (Option.some.inj read)

/-! ### Texts without quotes -/

theorem unquoted_toDigits (n : Nat) : '"' ∉ Nat.toDigits 10 n := fun inside =>
  absurd (Nat.isDigit_of_mem_toDigits (by decide) (by decide) inside) (by decide)

theorem unquoted_toString (n : Nat) : '"' ∉ (toString n).toList := by
  rw [show (toString n : String) = n.repr from rfl, Nat.toList_repr]
  exact unquoted_toDigits n

theorem unquoted_zeros (n : Nat) : '"' ∉ (zeros n).toList := by
  rw [zeros, String.toList_ofList]
  exact fun inside => absurd (List.eq_of_mem_replicate inside) (by decide)

theorem unquoted_splitText {text : String} (unquoted : '"' ∉ text.toList) (n : Nat) :
    '"' ∉ (splitText n text).1.toList ∧ '"' ∉ (splitText n text).2.toList := by
  rw [splitText, String.toList_ofList, String.toList_ofList]
  exact ⟨fun inside => unquoted (List.mem_of_mem_take inside),
    fun inside => unquoted (List.mem_of_mem_drop inside)⟩

/-- No decimal has a quote. -/
theorem unquoted_decimalText (digits : Decimal.Digits) : '"' ∉ (decimalText digits).toList := by
  have whole := unquoted_toString digits.significand
  unfold decimalText
  generalize (toString digits.significand : String) = text at whole
  have parts := unquoted_splitText whole
  dsimp only
  split_ifs <;> simp [whole, parts, unquoted_zeros, unquoted_toDigits]

theorem unquoted_floatText (negative : Bool) (magnitude : Decimal.Binary) :
    '"' ∉ (floatText negative magnitude).toList := by
  unfold floatText
  split_ifs <;> simp [unquoted_decimalText]

theorem unquoted_int (n : Int) : '"' ∉ (toString n).toList := by
  cases n with
  | ofNat n => exact unquoted_toString n
  | negSucc n =>
    rw [show toString (Int.negSucc n) = "-" ++ toString (n + 1) from rfl, String.toList_append,
      List.mem_append]
    exact not_or.mpr ⟨by decide, unquoted_toString (n + 1)⟩

/-- **The compact text of a value that is no text is no quoted text.** -/
theorem Value.quoted_ne_render {value : Value} (other : ∀ text, value ≠ .text text) (text : String) :
    quoted text ≠ value.render := by
  have head : ∀ {written : String}, '"' ∉ written.toList → written.toList.head? ≠ some '"' :=
    fun unquoted same => unquoted (List.mem_of_mem_head? same)
  refine quoted_ne_of_head ?_
  cases value with
  | null => exact head (by decide)
  | bool value => cases value <;> exact head (by decide)
  | whole value => exact head (unquoted_int value)
  | float negative magnitude => exact head (unquoted_floatText negative magnitude)
  | text value => exact absurd rfl (other value)
  | array items | object members => simp [render]

end DeviceTrial.Json
