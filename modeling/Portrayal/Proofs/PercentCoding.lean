import Portrayal.Text.Percent

/-!
Percent coding read back. A byte is written as itself or as a percent sign and two hexadecimal
digits, and reading one byte from a written form gives that byte and leaves the rest:

    é  ──►  c3 a9  ──►  %C3%A9  ──►  c3 a9  ──►  é

Main statements: reading undoes writing for every text, and what is written consists of letters,
digits, nine marks and percent signs, so that no character with a meaning in a query is among it.
-/

namespace Portrayal.Text

theorem hexValue?_upperHexDigit : ∀ n < 16, hexValue? (upperHexDigit n) = some n := by decide

theorem isAlphanum_upperHexDigit : ∀ n < 16, (upperHexDigit n).isAlphanum = true := by decide

namespace Percent

/-- Whether a character can occur in a written form. -/
def isWritten (c : Char) : Bool := c.isAlphanum || marks.contains c || c == '%'

/-- The character of a plain byte is that byte alone, and no percent sign. -/
theorem char_of_isPlain {byte : UInt8} (h : isPlain byte = true) :
    Char.ofNat byte.toNat ≠ '%' ∧ String.utf8EncodeChar (Char.ofNat byte.toNat) = [byte] := by
  have hall : ∀ n < 256, isPlain (UInt8.ofNat n) = true →
      Char.ofNat n ≠ '%' ∧ String.utf8EncodeChar (Char.ofNat n) = [UInt8.ofNat n] := by
    decide +kernel
  have hbyte := hall byte.toNat byte.toNat_lt
  rw [UInt8.ofNat_toNat] at hbyte
  exact hbyte h

/-- A character that is no percent sign is read as its own bytes. -/
theorem decodeBytes?_cons_of_ne {c : Char} (h : c ≠ '%') (rest : List Char) :
    decodeBytes? (c :: rest) = (decodeBytes? rest).map (String.utf8EncodeChar c ++ ·) := by
  match rest with
  | [] => exact if_neg h
  | [_] => exact if_neg h
  | _ :: _ :: _ => exact if_neg h

/-- A written byte is read back, and what follows it is read on its own. -/
theorem decodeBytes?_encodeByte_append (byte : UInt8) (rest : List Char) :
    decodeBytes? (encodeByte byte ++ rest) = (decodeBytes? rest).map (byte :: ·) := by
  unfold encodeByte
  split
  · rename_i hplain
    obtain ⟨hpercent, hbytes⟩ := char_of_isPlain hplain
    rw [List.singleton_append, decodeBytes?_cons_of_ne hpercent, hbytes]
    rfl
  · have hbyte : byte.toNat < 256 := byte.toNat_lt
    have hhigh := hexValue?_upperHexDigit (byte.toNat / 16) (by omega)
    have hlow := hexValue?_upperHexDigit (byte.toNat % 16) (by omega)
    simp only [List.cons_append, List.nil_append, decodeBytes?, if_true, hhigh, hlow,
      Option.bind_eq_bind, Option.bind_some, Nat.div_add_mod, UInt8.ofNat_toNat]
    cases decodeBytes? rest <;> rfl

/-- Written bytes are read back. -/
theorem decodeBytes?_encode (bytes : List UInt8) :
    decodeBytes? (bytes.flatMap encodeByte) = some bytes := by
  induction bytes with
  | nil => rfl
  | cons byte bytes ih =>
    rw [List.flatMap_cons, decodeBytes?_encodeByte_append, ih, Option.map_some]

theorem toList_encode (s : String) :
    (encode s).toList = s.toUTF8.data.toList.flatMap encodeByte := String.toList_ofList

theorem fromUTF8?_toUTF8 (s : String) : String.fromUTF8? s.toUTF8 = some s := dif_pos s.isValidUTF8

/-- A written text is read back. -/
theorem decode?_encode (s : String) : decode? (encode s) = some s := by
  rw [decode?, toList_encode, decodeBytes?_encode]
  exact fromUTF8?_toUTF8 s

theorem isWritten_of_mem_encodeByte {byte : UInt8} {c : Char} (h : c ∈ encodeByte byte) :
    isWritten c = true := by
  have hbyte : byte.toNat < 256 := byte.toNat_lt
  have hdigit : ∀ n < 16, c = upperHexDigit n → isWritten c = true := by
    rintro n hn rfl
    simp [isWritten, isAlphanum_upperHexDigit n hn]
  unfold encodeByte at h
  split at h
  · rename_i hplain
    obtain rfl := List.mem_singleton.mp h
    unfold isPlain at hplain
    unfold isWritten
    rw [hplain, Bool.true_or]
  · simp only [List.mem_cons, List.not_mem_nil, or_false] at h
    rcases h with rfl | h | h
    · rfl
    · exact hdigit _ (by omega) h
    · exact hdigit _ (by omega) h

/-- What is written consists of letters, digits, marks and percent signs. -/
theorem isWritten_of_mem_encode {s : String} {c : Char} (h : c ∈ (encode s).toList) :
    isWritten c = true := by
  rw [toList_encode, List.mem_flatMap] at h
  obtain ⟨byte, -, hc⟩ := h
  exact isWritten_of_mem_encodeByte hc

end Percent

end Portrayal.Text
