/-
This file proves that a text between quotes reads back as itself.

A character is written in one of four ways: as itself, with a letter behind a backslash, with four
hexadecimal digits, or as two halves with four hexadecimal digits each. The reader takes each of
them up in one step, and the text follows by induction. The escapes with digits are only read when
a character follows, which the closing quote always does.
-/
import Mathlib
import MarketSignal.Json.Reader
import MarketSignal.Json.Writer

namespace MarketSignal

namespace Json

/-! ### Hexadecimal digits -/

theorem hexValue?_hexDigit (value : Nat) (small : value < 16) :
    hexValue? (Text.hexDigit value) = some value := by
  interval_cases value <;> decide

theorem hexDigits_four (unit : Nat) :
    Text.hexDigits 4 unit =
      [Text.hexDigit (unit / 16 / 16 / 16 % 16), Text.hexDigit (unit / 16 / 16 % 16),
        Text.hexDigit (unit / 16 % 16), Text.hexDigit (unit % 16)] := rfl

theorem hexFour?_hexDigits (unit : Nat) (small : unit < 0x10000) :
    hexFour? (Text.hexDigit (unit / 16 / 16 / 16 % 16)) (Text.hexDigit (unit / 16 / 16 % 16))
      (Text.hexDigit (unit / 16 % 16)) (Text.hexDigit (unit % 16)) = some unit := by
  have digit (value : Nat) := hexValue?_hexDigit (value % 16) (Nat.mod_lt _ (by decide))
  have whole : ((unit / 16 / 16 / 16 % 16 * 16 + unit / 16 / 16 % 16) * 16 + unit / 16 % 16) * 16 +
      unit % 16 = unit := by omega
  simp only [hexFour?, digit, Option.bind_eq_bind, Option.bind_some, whole, Option.pure_def]

/-! ### The escapes with digits -/

/-- The number of a character is no half. -/
theorem notHalf (c : Char) : isHighHalf c.toNat = false ∧ isLowHalf c.toNat = false := by
  have valid : c.toNat < 0xD800 ∨ 0xDFFF < c.toNat ∧ c.toNat < 0x110000 := c.valid
  simp only [isHighHalf, isLowHalf, decide_eq_false_iff_not]
  omega

theorem characterOf_toNat (c : Char) : characterOf c.toNat = c := by
  rw [characterOf, (notHalf c).1, (notHalf c).2, Bool.or_self, if_neg Bool.false_ne_true,
    Char.ofNat_toNat]

theorem joinHalves_toNat (c : Char) (beyond : 0x10000 ≤ c.toNat) :
    joinHalves (0xD800 + (c.toNat - 0x10000) / 0x400)
      (0xDC00 + (c.toNat - 0x10000) % 0x400) = c := by
  have whole : 0x10000 + (0xD800 + (c.toNat - 0x10000) / 0x400 - 0xD800) * 0x400 +
      (0xDC00 + (c.toNat - 0x10000) % 0x400 - 0xDC00) = c.toNat := by omega
  rw [joinHalves, whole, Char.ofNat_toNat]

/-- A character of the basic plane by its number. -/
theorem escape_basic (opening : List Char) (c next : Char) (rest : List Char)
    (basic : c.toNat < 0x10000) :
    escape opening ('u' :: Text.hexDigits 4 c.toNat ++ next :: rest) = .ok (c, next :: rest) := by
  rw [hexDigits_four]
  simp only [List.cons_append, List.nil_append, escape, hexFour?_hexDigits c.toNat basic,
    (notHalf c).1, characterOf_toNat]

/-- A character beyond the basic plane by its two halves. -/
theorem escape_halves (opening : List Char) (high low : Nat) (isHigh : isHighHalf high = true)
    (isLow : isLowHalf low = true) (next : Char) (rest : List Char) :
    escape opening ('u' :: Text.hexDigits 4 high ++ unicodeEscape low ++ next :: rest) =
      .ok (joinHalves high low, next :: rest) := by
  have highBound : high < 0x10000 := by
    simp only [isHighHalf, decide_eq_true_eq] at isHigh
    omega
  have lowBound : low < 0x10000 := by
    simp only [isLowHalf, decide_eq_true_eq] at isLow
    omega
  rw [unicodeEscape, hexDigits_four, hexDigits_four]
  simp only [List.cons_append, List.nil_append, escape, hexFour?_hexDigits high highBound, isHigh,
    hexFour?_hexDigits low lowBound, isLow, if_true]

/-! ### One character -/

/-- What the reader makes of a text whose first character it knows. -/
def andThen (c : Char) (following : Except Refusal (List Char × List Char)) :
    Except Refusal (List Char × List Char) := do
  let (characters, left) ← following
  pure (c :: characters, left)

theorem quotedText_escape (opening : List Char) (bound : Nat) (c : Char)
    (escaped following : List Char) (meant : escape opening escaped = .ok (c, following)) :
    quotedText opening (bound + 1) ('\\' :: escaped) =
      andThen c (quotedText opening bound following) := by
  rw [quotedText, meant]
  rfl

theorem quotedText_plain (opening : List Char) (bound : Nat) (c : Char) (rest : List Char)
    (noQuote : c ≠ '"') (noBackslash : c ≠ '\\') (noControl : 0x20 ≤ c.toNat) :
    quotedText opening (bound + 1) (c :: rest) = andThen c (quotedText opening bound rest) := by
  rw [quotedText]
  · rw [if_neg (not_lt.mpr noControl)]
    rfl
  · exact noQuote
  · exact noBackslash

/-- A written character is read in one step. -/
theorem quotedText_writtenCharacter (opening : List Char) (bound : Nat) (c next : Char)
    (rest : List Char) :
    quotedText opening (bound + 1) (writtenCharacter c ++ next :: rest) =
      andThen c (quotedText opening bound (next :: rest)) := by
  have range : c.toNat < 0x110000 := by
    have valid : c.toNat < 0xD800 ∨ 0xDFFF < c.toNat ∧ c.toNat < 0x110000 := c.valid
    omega
  have isOf (point : Nat) (same : c.toNat = point) : Char.ofNat point = c := by
    rw [← same, Char.ofNat_toNat]
  have letter (meant short : Char) (isMeant : meant = c) (known : escape opening
      (short :: next :: rest) = .ok (meant, next :: rest)) :
      quotedText opening (bound + 1) ('\\' :: short :: next :: rest) =
        andThen c (quotedText opening bound (next :: rest)) :=
    quotedText_escape opening bound c _ _ (isMeant ▸ known)
  unfold writtenCharacter
  dsimp only
  split
  case isTrue isQuote => exact letter '"' '"' isQuote.symm rfl
  case isFalse noQuote =>
  split
  case isTrue isBackslash => exact letter '\\' '\\' isBackslash.symm rfl
  case isFalse noBackslash =>
  split
  case isTrue isLineFeed => exact letter '\n' 'n' isLineFeed.symm rfl
  case isFalse noLineFeed =>
  split
  case isTrue isReturn => exact letter '\r' 'r' isReturn.symm rfl
  case isFalse noReturn =>
  split
  case isTrue isTab => exact letter '\t' 't' isTab.symm rfl
  case isFalse noTab =>
  split
  case isTrue isBackspace => exact letter (Char.ofNat 0x08) 'b' (isOf 0x08 isBackspace) rfl
  case isFalse noBackspace =>
  split
  case isTrue isFormFeed => exact letter (Char.ofNat 0x0C) 'f' (isOf 0x0C isFormFeed) rfl
  case isFalse noFormFeed =>
  split
  case isTrue plain =>
    exact quotedText_plain opening bound c _ noQuote noBackslash plain.1
  case isFalse notPlain =>
  split
  case isTrue basic =>
    exact quotedText_escape opening bound c _ _ (escape_basic opening c next rest basic)
  case isFalse notBasic =>
    have isHigh : isHighHalf (0xD800 + (c.toNat - 0x10000) / 0x400) = true := by
      simp only [isHighHalf, decide_eq_true_eq]
      omega
    have isLow : isLowHalf (0xDC00 + (c.toNat - 0x10000) % 0x400) = true := by
      simp only [isLowHalf, decide_eq_true_eq]
      omega
    have joined := escape_halves opening _ _ isHigh isLow next rest
    rw [joinHalves_toNat c (by omega)] at joined
    exact quotedText_escape opening bound c _ _ joined

/-! ### Whole texts -/

theorem quotedText_written (opening : List Char) (text rest : List Char) (bound : Nat)
    (enough : text.length < bound) :
    quotedText opening bound (text.flatMap writtenCharacter ++ '"' :: rest) = .ok (text, rest) := by
  induction text generalizing bound with
  | nil =>
    obtain ⟨fuel, rfl⟩ := Nat.exists_eq_add_one_of_ne_zero (Nat.ne_of_gt enough)
    rfl
  | cons c others inductionHypothesis =>
    obtain ⟨fuel, rfl⟩ := Nat.exists_eq_add_one_of_ne_zero (Nat.ne_of_gt (Nat.zero_lt_of_lt enough))
    obtain ⟨next, behind, follows⟩ := List.exists_cons_of_ne_nil
      (List.append_ne_nil_of_right_ne_nil (others.flatMap writtenCharacter)
        (List.cons_ne_nil '"' rest))
    rw [List.flatMap_cons, List.append_assoc, follows, quotedText_writtenCharacter, ← follows,
      inductionHypothesis fuel (Nat.lt_of_succ_lt_succ enough)]
    rfl

/-- Writing a character takes at least one. -/
theorem length_le_written (text : List Char) :
    text.length ≤ (text.flatMap writtenCharacter).length := by
  have some (c : Char) : 1 ≤ (writtenCharacter c).length := by
    unfold writtenCharacter unicodeEscape
    dsimp only
    split_ifs <;> simp
  calc text.length = (text.map fun c => (writtenCharacter c).length).length :=
        (List.length_map ..).symm
    _ ≤ (text.map fun c => (writtenCharacter c).length).sum :=
        List.length_le_sum_of_one_le _ (List.forall_mem_map.mpr fun c _ => some c)
    _ = (text.flatMap writtenCharacter).length := List.length_flatMap.symm

end Json

end MarketSignal
