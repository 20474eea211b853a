import Mathlib.Data.List.DropRight
import Portrayal.Json.Token
import Portrayal.Json.Writer

/-!
Tokens of a text, put together from the tokens of its parts. A part that ends where punctuation
follows is scanned on its own; what the scan has found before does not matter:

    "red"       :             255             ,       ...
    string      colon         literal 255     comma   the tokens of the rest

Main statements: tokens before and behind a punctuation character; a written string is one token and
gives the string back, whatever is in it; a written whole number is one token and gives the number
back, if 64 bits hold it.
-/

namespace Portrayal.Json

/-! ### Parts of a text -/

/-- The tokens that all of a text is. -/
def Token.Scans (cs : List Char) (ts : List Token) : Prop := Token.scan? .between [] cs = some ts

namespace Token

variable {mode next : Mode} {c : Char} {cs : List Char} {t : Token} {ts tokens : List Token}

theorem scan?_cons (h : step mode c = some (tokens, next)) (found : List Token) (rest : List Char) :
    scan? mode found (c :: rest) = scan? next (tokens.reverse ++ found) rest := by
  rw [scan?, h]

theorem scan?_cons_of_none (h : step mode c = none) (found : List Token) (rest : List Char) :
    scan? mode found (c :: rest) = none := by
  rw [scan?, h]

/-- Tokens that were found already stand in front of the others. -/
theorem scan?_found : ∀ (mode : Mode) (found : List Token) (cs : List Char),
    scan? mode found cs = (scan? mode [] cs).map (found.reverse ++ ·)
  | .between, found, [] => by simp [scan?]
  | .word read, found, [] => by
    rw [scan?, scan?, Option.map_map]
    exact Option.map_congr fun t _ => by simp
  | .string _ _, found, [] => rfl
  | mode, found, c :: rest => by
    rcases hstep : step mode c with - | ⟨tokens, next⟩
    · rw [scan?_cons_of_none hstep, scan?_cons_of_none hstep, Option.map_none]
    · rw [scan?_cons hstep, scan?_cons hstep, scan?_found next (tokens.reverse ++ found),
        scan?_found next (tokens.reverse ++ []), Option.map_map]
      exact Option.map_congr fun ts _ => by simp

theorem start_of_punctuation (h : punctuation? c = some t) : start c = ([t], .between) := by
  unfold punctuation? at h
  split at h
  case h_7 => exact nomatch h
  all_goals
    obtain rfl := Option.some.inj h
    rfl

/-- Punctuation ends whatever the scan was in the middle of, as the end of the text would. -/
theorem scan?_append_punctuation (h : punctuation? c = some t) (rest : List Char) :
    ∀ {mode : Mode} {cs : List Char} {ts : List Token}, scan? mode [] cs = some ts →
      scan? mode [] (cs ++ c :: rest) = (scan? .between [] rest).map (ts ++ t :: ·)
  | .between, [], ts, hcs => by
    obtain rfl : [] = ts := Option.some.inj hcs
    have hstep : step .between c = some ([t], .between) := by rw [step, start_of_punctuation h]
    rw [List.nil_append, scan?_cons hstep, scan?_found]
    rfl
  | .word read, [], ts, hcs => by
    obtain ⟨w, hword, rfl⟩ := Option.map_eq_some_iff.mp hcs
    have hstep : step (.word read) c = some ([w, t], .between) := by
      simp only [step, start_of_punctuation h, hword, Option.map_some]
    rw [List.nil_append, scan?_cons hstep, scan?_found]
    rfl
  | .string _ _, [], _, hcs => nomatch hcs
  | mode, d :: cs, ts, hcs => by
    rcases hstep : step mode d with - | ⟨tokens, next⟩
    · rw [scan?_cons_of_none hstep] at hcs
      exact nomatch hcs
    · rw [scan?_cons hstep, scan?_found] at hcs
      obtain ⟨us, hus, rfl⟩ := Option.map_eq_some_iff.mp hcs
      rw [List.cons_append, scan?_cons hstep, scan?_found,
        scan?_append_punctuation h rest hus, Option.map_map]
      exact Option.map_congr fun vs _ => by simp

theorem Scans.nil : Scans [] [] := rfl

/-- Two texts with punctuation between them. -/
theorem Scans.punctuated {rest : List Char} {us : List Token} (hcs : Scans cs ts)
    (h : punctuation? c = some t) (hrest : Scans rest us) :
    Scans (cs ++ c :: rest) (ts ++ t :: us) := by
  rw [Scans, scan?_append_punctuation h rest hcs, hrest, Option.map_some]

/-- A text behind punctuation. -/
theorem Scans.behind {us : List Token} (h : punctuation? c = some t) (hcs : Scans cs us) :
    Scans (c :: cs) (t :: us) := Scans.nil.punctuated h hcs

end Token

/-! ### Strings -/

/-- The written forms of a character: one letter behind a backslash, four digits, or itself. -/
inductive Escape (c : Char) : List Char → Prop where
  | short {letter : Char} (hunit : letter ≠ 'u') (h : shortEscape? letter = some c) :
      Escape c ['\\', letter]
  | digits (h : c.toNat < 0x20) :
      Escape c ['\\', 'u', '0', '0', Nat.digitChar (c.toNat / 16), Nat.digitChar (c.toNat % 16)]
  | plain (hquote : c ≠ '"') (hslash : c ≠ '\\') (hcontrol : ¬ c.toNat < 0x20) : Escape c [c]

theorem escape_escapeChar (c : Char) : Escape c (escapeChar c) := by
  unfold escapeChar
  split_ifs with hquote hslash hback htab hline hpage hreturn hcontrol
  all_goals try (subst c; exact .short (by decide) rfl)
  · exact .digits hcontrol
  · exact .plain hquote hslash hcontrol

section Pieces

variable {c letter : Char} {cs : List Char}

theorem pieces?_plain (hslash : c ≠ '\\') (hcontrol : ¬ c.toNat < 0x20) (rest : List Char) :
    pieces? (c :: rest) = (pieces? rest).map (Piece.char c :: ·) := by
  rw [pieces?.eq_4 c rest (fun _ _ _ _ _ h _ => hslash h) (fun _ _ h _ => hslash h), if_neg]
  rintro (h | h)
  · exact hcontrol h
  · exact hslash h

theorem pieces?_short (hunit : letter ≠ 'u') (h : shortEscape? letter = some c)
    (rest : List Char) :
    pieces? ('\\' :: letter :: rest) = (pieces? rest).map (Piece.char c :: ·) := by
  rw [pieces?.eq_3 letter rest fun _ _ _ _ _ hletter _ => hunit hletter, h]
  cases pieces? rest <;> rfl

theorem hexValue?_digitChar : ∀ n < 16, Text.hexValue? (Nat.digitChar n) = some n := by decide

theorem pieces?_digits (h : c.toNat < 0x20) (rest : List Char) :
    pieces? ('\\' :: 'u' :: '0' :: '0' :: Nat.digitChar (c.toNat / 16) ::
      Nat.digitChar (c.toNat % 16) :: rest) = (pieces? rest).map (Piece.char c :: ·) := by
  have hunit : 4096 * 0 + 256 * 0 + 16 * (c.toNat / 16) + c.toNat % 16 = c.toNat := by omega
  have hpiece : Piece.ofUnit c.toNat = .char c := by
    rw [Piece.ofUnit, if_neg (by omega), Char.ofNat_toNat]
  rw [pieces?, show Text.hexValue? '0' = some 0 from rfl,
    hexValue?_digitChar (c.toNat / 16) (by omega), hexValue?_digitChar (c.toNat % 16) (by omega)]
  simp only [Option.bind_eq_bind, Option.bind_some, hunit, hpiece]
  cases pieces? rest <;> rfl


/-- Reading a written form of one character gives that character and leaves the rest. -/
theorem Escape.pieces?_append (h : Escape c cs) (rest : List Char) :
    pieces? (cs ++ rest) = (pieces? rest).map (Piece.char c :: ·) := by
  cases h with
  | short hunit h => exact pieces?_short hunit h rest
  | digits h => exact pieces?_digits h rest
  | plain _ hslash hcontrol => exact pieces?_plain hslash hcontrol rest

end Pieces

theorem pieces?_escaped : ∀ cs : List Char,
    pieces? (cs.flatMap escapeChar) = some (cs.map Piece.char)
  | [] => rfl
  | c :: cs => by
    rw [List.flatMap_cons, (escape_escapeChar c).pieces?_append, pieces?_escaped cs]
    rfl

theorem joinPieces?_chars : ∀ cs : List Char, joinPieces? (cs.map Piece.char) = some cs
  | [] => rfl
  | c :: cs => by
    rw [List.map_cons, joinPieces?, joinPieces?_chars cs]
    rfl

namespace Token

variable {c : Char} {read : List Char}

/-- A character that is neither quote nor backslash stays inside the string. -/
theorem scan?_inside (hquote : c ≠ '"') (hslash : c ≠ '\\') (found : List Token)
    (rest : List Char) :
    scan? (.string read false) found (c :: rest) =
      scan? (.string (c :: read) false) found rest := by
  have hstep : step (.string read false) c = some ([], .string (c :: read) false) := by
    rw [step, if_neg hquote, beq_false_of_ne hslash]
  rw [scan?_cons hstep, List.reverse_nil, List.nil_append]

/-- A written form of a character leaves the scan inside the string. -/
theorem scan?_append_of_escape {cs : List Char} (h : Escape c cs) (found : List Token)
    (rest : List Char) :
    scan? (.string read false) found (cs ++ rest) =
      scan? (.string (cs.reverse ++ read) false) found rest := by
  have hdigit (n : Nat) : Nat.digitChar n ≠ '"' ∧ Nat.digitChar n ≠ '\\' :=
    ⟨Nat.digitChar_ne _ rfl, Nat.digitChar_ne _ rfl⟩
  cases h with
  | short _ _ => rfl
  | digits _ =>
    show scan? (.string ('0' :: '0' :: 'u' :: '\\' :: read) false) found (_ :: _ :: rest) = _
    rw [scan?_inside (hdigit _).1 (hdigit _).2, scan?_inside (hdigit _).1 (hdigit _).2]
    rfl
  | plain hquote hslash _ => exact scan?_inside hquote hslash found rest

theorem scan?_escaped (found : List Token) (rest : List Char) : ∀ (cs read : List Char),
    scan? (.string read false) found (cs.flatMap escapeChar ++ rest) =
      scan? (.string ((cs.flatMap escapeChar).reverse ++ read) false) found rest
  | [], read => rfl
  | c :: cs, read => by
    rw [List.flatMap_cons, List.append_assoc, scan?_append_of_escape (escape_escapeChar c),
      scan?_escaped found rest cs,
      List.reverse_append, List.append_assoc]

/-- A written string is one token, which holds the string. -/
theorem scans_quoted (s : String) : Scans (quoted s).toList [.string (some s)] := by
  have hinside : ofInside? (s.toList.flatMap escapeChar) = some (.string (some s)) := by
    rw [ofInside?, pieces?_escaped, Option.map_some, joinPieces?_chars, Option.map_some,
      String.ofList_toList]
  have hend : step (.string (s.toList.flatMap escapeChar).reverse false) '"' =
      some ([.string (some s)], .between) := by
    rw [step, if_pos rfl, List.reverse_reverse, hinside, Option.map_some]
  rw [Scans, quoted, String.toList_ofList, List.cons_append]
  show scan? (.string [] false) [] (s.toList.flatMap escapeChar ++ ['"']) = _
  rw [scan?_escaped, List.append_nil, scan?_cons hend]
  rfl

end Token

/-! ### Words -/

namespace Token

variable {c : Char} {cs : List Char} {t : Token}

/-- Characters of words end no token. -/
theorem scan?_word : ∀ {cs : List Char} (read : List Char),
    (∀ c ∈ cs, start c = ([], .word [c])) →
      scan? (.word read) [] cs = (ofWord? (read.reverse ++ cs)).map fun t => [t]
  | [], read, _ => by rw [List.append_nil]; rfl
  | c :: cs, read, h => by
    have hstep : step (.word read) c = some ([], .word (c :: read)) := by
      simp only [step, h c List.mem_cons_self]
    rw [scan?_cons hstep, List.reverse_nil, List.nil_append,
      scan?_word (c :: read) fun d hd => h d (List.mem_cons_of_mem c hd), List.reverse_cons,
      List.append_assoc, List.singleton_append]

theorem Scans.word (hchars : ∀ d ∈ c :: cs, start d = ([], .word [d]))
    (hword : ofWord? (c :: cs) = some t) : Scans (c :: cs) [t] := by
  have hstep : step .between c = some ([], .word [c]) := by
    rw [step, hchars c List.mem_cons_self]
  rw [Scans, scan?_cons hstep, List.reverse_nil, List.nil_append,
    scan?_word [c] fun d hd => hchars d (List.mem_cons_of_mem c hd), List.reverse_singleton,
    List.singleton_append, hword, Option.map_some]

theorem start_of_isDigit (h : c.isDigit = true) : start c = ([], .word [c]) := by
  have hne (d : Char) (hd : d.isDigit = false) : c ≠ d := by
    rintro rfl
    rw [h] at hd
    exact Bool.noConfusion hd
  have hgap : isGap c = false := by
    simp only [isGap, Bool.or_eq_false_iff, beq_eq_false_iff_ne]
    exact ⟨⟨⟨hne _ rfl, hne _ rfl⟩, hne _ rfl⟩, hne _ rfl⟩
  have hpunctuation : punctuation? c = none := by
    unfold punctuation?
    split <;> first | rfl | exact absurd rfl (hne _ rfl)
  rw [start, hgap, if_neg Bool.false_ne_true, if_neg (hne '"' rfl), hpunctuation]

theorem scans_bool (b : Bool) : Scans (scalarText (.bool b)).toList [.literal (.bool b)] := by
  cases b <;> rfl

end Token

/-! ### Whole numbers -/

theorem head?_toDigits_ne_zero {n : Nat} (h : 0 < n) : (Nat.toDigits 10 n).head? ≠ some '0' := by
  induction n using Nat.strong_induction_on with
  | _ n ih =>
    rw [Nat.toDigits_eq_if (by decide)]
    split
    · rw [List.head?_singleton, ne_eq, Option.some.injEq, Nat.digitChar_eq_zero]
      omega
    · rw [List.head?_append_of_ne_nil _ Nat.toDigits_ne_nil]
      exact ih (n / 10) (by omega) (by omega)

theorem le_ofDigitChars : ∀ (ds : List Char) (n : Nat), n ≤ Nat.ofDigitChars 10 ds n
  | [], n => le_of_eq Nat.ofDigitChars_nil.symm
  | d :: ds, n => by
    rw [Nat.ofDigitChars_cons]
    have := le_ofDigitChars ds (10 * n + (d.toNat - '0'.toNat))
    omega

/-- All digits fit if the number that they make does. -/
theorem appendDigits_eq : ∀ (ds : List Char) (n : Nat),
    Nat.ofDigitChars 10 ds n < 0x10000000000000000 →
      appendDigits n ds = (Nat.ofDigitChars 10 ds n, [])
  | [], _, _ => rfl
  | d :: ds, n, h => by
    rw [Nat.ofDigitChars_cons] at h
    have hnext : 10 * n + (d.toNat - 0x30) < 0x10000000000000000 :=
      lt_of_le_of_lt (le_ofDigitChars ds _) h
    rw [appendDigits, if_pos hnext, Nat.ofDigitChars_cons]
    exact appendDigits_eq ds _ h

section Numerals

variable {n : Nat}

theorem all_isDigit_toDigits (n : Nat) : ∀ c ∈ Nat.toDigits 10 n, c.isDigit = true :=
  fun _ hc => Nat.isDigit_of_mem_toDigits (by decide) (by decide) hc

/-- The digits of a number have no superfluous zero in front. -/
theorem no_leading_zero (n : Nat) :
    ((Nat.toDigits 10 n).head? == some '0' && (Nat.toDigits 10 n).length != 1) = false := by
  rcases Nat.eq_zero_or_pos n with rfl | hpos
  · rfl
  · rw [beq_false_of_ne (head?_toDigits_ne_zero hpos), Bool.false_and]

/-- The parts of a numeral that is digits alone, behind a minus sign or not. -/
theorem Numeral.ofChars?_toDigits (n : Nat) :
    Numeral.ofChars? (Nat.toDigits 10 n) = some ⟨false, Nat.toDigits 10 n, none, none⟩ ∧
      Numeral.ofChars? ('-' :: Nat.toDigits 10 n) =
        some ⟨true, Nat.toDigits 10 n, none, none⟩ := by
  have htake := List.takeWhile_eq_self_iff.mpr (all_isDigit_toDigits n)
  have hdrop := List.dropWhile_eq_nil_iff.mpr (all_isDigit_toDigits n)
  have hempty := List.isEmpty_eq_false_iff.mpr (Nat.toDigits_ne_nil (n := n) (b := 10))
  have hrest : readFraction? [] = some (none, none) := rfl
  constructor
  · have hsign : ∀ ds, Nat.toDigits 10 n ≠ '-' :: ds := by
      intro ds hds
      have hminus : ('-' : Char).isDigit = true :=
        all_isDigit_toDigits n '-' (hds ▸ List.mem_cons_self)
      exact nomatch hminus
    unfold ofChars?
    split
    rename_i negative cs hmatch
    split at hmatch
    · exact absurd ‹_› (hsign _)
    · obtain ⟨rfl, rfl⟩ := Prod.mk.inj hmatch
      simp only [htake, hdrop, hempty, no_leading_zero, hrest, Bool.or_false, Option.map_some,
        Bool.false_eq_true, if_false]
  · simp only [ofChars?, htake, hdrop, hempty, no_leading_zero, hrest, Bool.or_false,
      Option.map_some, Bool.false_eq_true, if_false]

/-- A word that starts like a number is none of the literals. -/
theorem Token.ofWord?_of_head {c : Char} {cs : List Char} (h : c.isDigit = true ∨ c = '-') :
    ofWord? (c :: cs) = (Numeral.ofChars? (c :: cs)).map fun n => .literal n.value := by
  have hne (d : Char) (hd : (d.isDigit || d == '-') = false) : c ≠ d := by
    rintro rfl
    simp only [Bool.or_eq_false_iff, beq_eq_false_iff_ne] at hd
    rcases h with h | h
    · exact Bool.noConfusion (h.symm.trans hd.1)
    · exact hd.2 h
  have hliteral (d : Char) (ds : List Char) (hd : (d.isDigit || d == '-') = false) :
      String.ofList (c :: cs) ≠ String.ofList (d :: ds) := by
    intro heq
    exact hne d hd (List.cons.inj (String.ofList_injective heq)).1
  unfold ofWord?
  split
  · exact absurd ‹_› (hliteral 'n' ['u', 'l', 'l'] rfl)
  · exact absurd ‹_› (hliteral 't' ['r', 'u', 'e'] rfl)
  · exact absurd ‹_› (hliteral 'f' ['a', 'l', 's', 'e'] rfl)
  · rfl

theorem appendDigits_toDigits (h : n < 0x10000000000000000) :
    appendDigits 0 (Nat.toDigits 10 n) = (n, []) := by
  have hvalue : Nat.ofDigitChars 10 (Nat.toDigits 10 n) 0 = n := Nat.ofDigitChars_ten_toDigits
  rw [appendDigits_eq _ _ (by rwa [hvalue]), hvalue]

theorem Numeral.value_of_nat (h : n < 0x10000000000000000) :
    (⟨false, Nat.toDigits 10 n, none, none⟩ : Numeral).value = .integer n := by
  simp only [value, appendDigits_toDigits h, Bool.not_false, if_true]

theorem Numeral.value_of_neg (hpos : 0 < n) (h : n ≤ 0x8000000000000000) :
    (⟨true, Nat.toDigits 10 n, none, none⟩ : Numeral).value = .integer (-n) := by
  have hsmall : ¬ (n = 0 ∨ 0x8000000000000000 < n) := by omega
  simp only [value, appendDigits_toDigits (Nat.lt_of_le_of_lt h (by decide)), Bool.not_true,
    Bool.false_eq_true, if_false, if_neg hsmall]

theorem toList_integer_of_nat (n : Nat) :
    (scalarText (.integer n)).toList = Nat.toDigits 10 n := by
  rw [scalarText, Int.toString_eq_repr, Int.repr_eq_if, if_pos (Int.natCast_nonneg n),
    Int.toNat_natCast, Nat.repr_eq_ofList_toDigits, String.toList_ofList]

theorem toList_integer_of_neg (hpos : 0 < n) :
    (scalarText (.integer (-n))).toList = '-' :: Nat.toDigits 10 n := by
  rw [scalarText, Int.toString_eq_repr, Int.repr_eq_if, if_neg (by omega), Int.neg_neg,
    Int.toNat_natCast, Nat.repr_eq_ofList_toDigits, String.toList_append]
  exact congrArg ('-' :: ·) String.toList_ofList

theorem start_of_mem_toDigits (n : Nat) :
    ∀ c ∈ Nat.toDigits 10 n, Token.start c = ([], .word [c]) :=
  fun c hc => Token.start_of_isDigit (all_isDigit_toDigits n c hc)

theorem Token.scans_nat (h : n < 0x10000000000000000) :
    Scans (scalarText (.integer n)).toList [.literal (.integer n)] := by
  obtain ⟨c, cs, hcs⟩ := List.exists_cons_of_ne_nil (Nat.toDigits_ne_nil (n := n) (b := 10))
  have hc : c.isDigit = true := all_isDigit_toDigits n c (hcs ▸ List.mem_cons_self)
  rw [toList_integer_of_nat, hcs]
  refine .word (hcs ▸ start_of_mem_toDigits n) ?_
  rw [ofWord?_of_head (.inl hc), ← hcs, (Numeral.ofChars?_toDigits n).1, Option.map_some,
    Numeral.value_of_nat h]

theorem Token.scans_neg (hpos : 0 < n) (h : n ≤ 0x8000000000000000) :
    Scans (scalarText (.integer (-n))).toList [.literal (.integer (-n))] := by
  rw [toList_integer_of_neg hpos]
  refine .word (List.forall_mem_cons.mpr ⟨rfl, start_of_mem_toDigits n⟩) ?_
  rw [ofWord?_of_head (.inr rfl), (Numeral.ofChars?_toDigits n).2, Option.map_some,
    Numeral.value_of_neg hpos h]

/-- A whole number is one token, which is the number, if 64 bits hold it with a sign. -/
theorem Token.scans_integer {n : Int} (hleast : -0x8000000000000000 ≤ n)
    (hgreatest : n ≤ 0x7fffffffffffffff) :
    Scans (scalarText (.integer n)).toList [.literal (.integer n)] := by
  obtain ⟨m, rfl | rfl⟩ := Int.eq_nat_or_neg n
  · exact scans_nat (by omega)
  · rcases Nat.eq_zero_or_pos m with rfl | hpos
    · exact scans_nat (by decide)
    · exact scans_neg hpos (by omega)

end Numerals

end Portrayal.Json
