import Portrayal.Color

/-!
Hexadecimal colors. A color is written with 3, 4, 6 or 8 hexadecimal digits, and a `#` may stand in
front of them. A channel is a pair of digits, or in the short forms one digit that stands for both:

    f80         ff 88 00 ff        one digit, 17 times its value
    #ff8000     ff 80 00 ff        a pair, 16 times the first and once the second
    #0000ff80   00 00 ff 80        alpha last, and opaque without it
    #+f+8+0     0f 08 00 ff        a plus sign and one digit, where a pair belongs

The last line is no hexadecimal form, but it is read: the channel of a pair is read as a number, and a
number may have a sign. In the short forms one character would be both the sign and the digit behind
it, so there is no sign in them.

Main statement: which texts are read and as which color, and that the hexadecimal forms are those
without a plus sign.
-/

namespace Portrayal

/-! ### Digits -/

namespace Text

/-- A character is the hexadecimal digit of a number, in one of the two cases. -/
def DigitOf (c : Char) (n : Nat) : Prop :=
  "0123456789abcdef".toList[n]? = some c ∨ "0123456789ABCDEF".toList[n]? = some c

variable {c : Char} {n : Nat}

theorem DigitOf.lt (h : DigitOf c n) : n < 16 := by
  rcases h with h | h
  · obtain ⟨hlt, -⟩ := List.getElem?_eq_some_iff.mp h
    exact hlt
  · obtain ⟨hlt, -⟩ := List.getElem?_eq_some_iff.mp h
    exact hlt

theorem DigitOf.hexValue?_eq (h : DigitOf c n) : hexValue? c = some n := by
  have hlower : ∀ n < 16, "0123456789abcdef".toList[n]?.bind hexValue? = some n := by decide
  have hupper : ∀ n < 16, "0123456789ABCDEF".toList[n]?.bind hexValue? = some n := by decide
  have hlt := h.lt
  rcases h with h | h
  · have hvalue := hlower n hlt
    rwa [h] at hvalue
  · have hvalue := hupper n hlt
    rwa [h] at hvalue

/-- Only characters of one byte have a value. -/
theorem toNat_lt_of_hexValue? (h : hexValue? c = some n) : c.toNat < 128 := by
  refine Nat.lt_of_not_le fun hlarge => ?_
  -- Such a character lies behind the last one of each of the three ranges.
  have hbeyond : ∀ last : Char, last.toNat < 128 → ¬ c ≤ last := by
    intro last hlast hle
    have htoNat : c.toNat ≤ last.toNat := UInt32.le_iff_toNat_le.mp (Char.le_def.mp hle)
    omega
  rw [hexValue?, if_neg fun hc => hbeyond '9' (by decide) hc.2,
    if_neg fun hc => hbeyond 'f' (by decide) hc.2,
    if_neg fun hc => hbeyond 'F' (by decide) hc.2] at h
  exact absurd h nofun

theorem digitOf_of_hexValue? (h : hexValue? c = some n) : DigitOf c n := by
  have hall : ∀ k < 128, ∀ n ∈ hexValue? (Char.ofNat k),
      "0123456789abcdef".toList[n]? = some (Char.ofNat k) ∨
        "0123456789ABCDEF".toList[n]? = some (Char.ofNat k) := by decide
  have hc := hall c.toNat (toNat_lt_of_hexValue? h)
  rw [Char.ofNat_toNat] at hc
  exact hc n h

/-- A character has a value exactly if it is the digit of that value. -/
theorem hexValue?_eq_some_iff : hexValue? c = some n ↔ DigitOf c n :=
  ⟨digitOf_of_hexValue?, DigitOf.hexValue?_eq⟩

/-- A character without a value is no digit. -/
theorem not_digitOf (h : hexValue? c = none) : ¬ DigitOf c n := by
  intro hdigit
  rw [hdigit.hexValue?_eq] at h
  exact absurd h nofun

end Text

namespace Color

open Text (DigitOf hexValue?_eq_some_iff not_digitOf)

/-! ### Channels -/

/-- A digit that stands for both digits of a channel. -/
def Doubled (digit : Char) (x : UInt8) : Prop := ∃ n, DigitOf digit n ∧ x.toNat = 17 * n

/-- The two digits of a channel. -/
def Paired (high low : Char) (x : UInt8) : Prop :=
  ∃ m n, DigitOf high m ∧ DigitOf low n ∧ x.toNat = 16 * m + n

/-- A plus sign and one digit where the two digits of a channel belong. -/
def Signed (high low : Char) (x : UInt8) : Prop :=
  high = '+' ∧ ∃ n, DigitOf low n ∧ x.toNat = n

/-- The two characters that a channel is read from. -/
def Readable (high low : Char) (x : UInt8) : Prop := Paired high low x ∨ Signed high low x

section Channels

variable {high low : Char} {x : UInt8}

theorem ofNat_eq_iff {k : Nat} (hk : k < 256) : UInt8.ofNat k = x ↔ x.toNat = k := by
  rw [← UInt8.toNat_inj, UInt8.toNat_ofNat', Nat.mod_eq_of_lt hk, eq_comm]

/-- Behind a plus sign a channel is the number of one digit. -/
theorem channel?_signed_iff : channel? '+' low = some x ↔ Signed '+' low x := by
  simp only [channel?, if_true, Option.bind_eq_bind, Option.bind_eq_some_iff, hexValue?_eq_some_iff,
    Option.some.injEq]
  constructor
  · rintro ⟨n, hlow, hx⟩
    have hn := hlow.lt
    exact ⟨rfl, n, hlow, (ofNat_eq_iff (by omega)).mp hx⟩
  · rintro ⟨-, n, hlow, hx⟩
    have hn := hlow.lt
    exact ⟨n, hlow, (ofNat_eq_iff (by omega)).mpr hx⟩

theorem channel?_paired_iff (hsign : high ≠ '+') : channel? high low = some x ↔ Paired high low x := by
  simp only [channel?, if_neg hsign, Option.bind_eq_bind, Option.bind_eq_some_iff,
    hexValue?_eq_some_iff, Option.some.injEq]
  constructor
  · rintro ⟨n, hlow, m, hhigh, hx⟩
    have hm := hhigh.lt
    have hn := hlow.lt
    exact ⟨m, n, hhigh, hlow, (ofNat_eq_iff (by omega)).mp hx⟩
  · rintro ⟨m, n, hhigh, hlow, hx⟩
    have hm := hhigh.lt
    have hn := hlow.lt
    exact ⟨n, hlow, m, hhigh, (ofNat_eq_iff (by omega)).mpr hx⟩

theorem channel?_eq_some_iff : channel? high low = some x ↔ Readable high low x := by
  unfold Readable
  by_cases hsign : high = '+'
  · have hpaired : ¬ Paired high low x := by
      rintro ⟨m, -, hhigh, -⟩
      rw [hsign] at hhigh
      exact not_digitOf rfl hhigh
    rw [or_iff_right hpaired, hsign]
    exact channel?_signed_iff
  · have hsigned : ¬ Signed high low x := fun h => hsign h.1
    rw [or_iff_left hsigned]
    exact channel?_paired_iff hsign

/-- One character makes a channel only as a digit: no sign is the digit behind it. -/
theorem channel?_self_eq_some_iff {digit : Char} :
    channel? digit digit = some x ↔ Doubled digit x := by
  rw [channel?_eq_some_iff]
  constructor
  · rintro (⟨m, n, hm, hn, hx⟩ | ⟨rfl, n, hn, -⟩)
    · have hmn : m = n := Option.some.inj (hm.hexValue?_eq.symm.trans hn.hexValue?_eq)
      exact ⟨n, hn, by omega⟩
    · exact absurd hn (not_digitOf rfl)
  · rintro ⟨n, hn, hx⟩
    exact .inl ⟨n, n, hn, hn, by omega⟩

end Channels

/-! ### Forms -/

/-- The characters of a color, channel by channel. In the long forms a channel has a pair of
characters, about which a condition is given. -/
inductive Spells (pair : Char → Char → UInt8 → Prop) : List Char → Color → Prop where
  | short {r g b : Char} {x y z : UInt8} (hr : Doubled r x) (hg : Doubled g y) (hb : Doubled b z) :
      Spells pair [r, g, b] ⟨x, y, z, 255⟩
  | shortAlpha {r g b a : Char} {x y z w : UInt8} (hr : Doubled r x) (hg : Doubled g y)
      (hb : Doubled b z) (ha : Doubled a w) : Spells pair [r, g, b, a] ⟨x, y, z, w⟩
  | long {r r' g g' b b' : Char} {x y z : UInt8} (hr : pair r r' x) (hg : pair g g' y)
      (hb : pair b b' z) : Spells pair [r, r', g, g', b, b'] ⟨x, y, z, 255⟩
  | longAlpha {r r' g g' b b' a a' : Char} {x y z w : UInt8} (hr : pair r r' x) (hg : pair g g' y)
      (hb : pair b b' z) (ha : pair a a' w) :
      Spells pair [r, r', g, g', b, b', a, a'] ⟨x, y, z, w⟩

/-- A color in characters, with or without a `#` in front. -/
def Written (pair : Char → Char → UInt8 → Prop) (s : String) (c : Color) : Prop :=
  ∃ digits, (s.toList = digits ∨ s.toList = '#' :: digits) ∧ Spells pair digits c

section Forms

variable {digits : List Char} {c : Color} {s : String} {pair pair' : Char → Char → UInt8 → Prop}

/-- A condition on pairs needs to hold only where one of the characters is the first of a pair. -/
theorem Spells.imp (h : Spells pair digits c)
    (himp : ∀ high ∈ digits, ∀ low x, pair high low x → pair' high low x) :
    Spells pair' digits c := by
  cases h with
  | short hr hg hb => exact .short hr hg hb
  | shortAlpha hr hg hb ha => exact .shortAlpha hr hg hb ha
  | long hr hg hb =>
    exact .long (himp _ (by simp) _ _ hr) (himp _ (by simp) _ _ hg) (himp _ (by simp) _ _ hb)
  | longAlpha hr hg hb ha =>
    exact .longAlpha (himp _ (by simp) _ _ hr) (himp _ (by simp) _ _ hg)
      (himp _ (by simp) _ _ hb) (himp _ (by simp) _ _ ha)

/-- What holds of the characters of a channel holds of all characters of a color. -/
theorem Spells.forall_mem (h : Spells pair digits c) {P : Char → Prop}
    (hdoubled : ∀ d x, Doubled d x → P d) (hpair : ∀ high low x, pair high low x → P high ∧ P low) :
    ∀ d ∈ digits, P d := by
  cases h with
  | short hr hg hb => simp [hdoubled _ _ hr, hdoubled _ _ hg, hdoubled _ _ hb]
  | shortAlpha hr hg hb ha =>
    simp [hdoubled _ _ hr, hdoubled _ _ hg, hdoubled _ _ hb, hdoubled _ _ ha]
  | long hr hg hb => simp [hpair _ _ _ hr, hpair _ _ _ hg, hpair _ _ _ hb]
  | longAlpha hr hg hb ha =>
    simp [hpair _ _ _ hr, hpair _ _ _ hg, hpair _ _ _ hb, hpair _ _ _ ha]

/-- A hexadecimal form consists of digits. -/
theorem Spells.exists_digitOf (h : Spells Paired digits c) : ∀ d ∈ digits, ∃ n, DigitOf d n := by
  refine h.forall_mem ?_ ?_
  · rintro d x ⟨n, hd, -⟩
    exact ⟨n, hd⟩
  · rintro high low x ⟨m, n, hhigh, hlow, -⟩
    exact ⟨⟨m, hhigh⟩, n, hlow⟩

theorem ofDigits?_of_spells (h : Spells Readable digits c) : ofDigits? digits = some c := by
  cases h with
  | short hr hg hb =>
    rw [ofDigits?, channel?_self_eq_some_iff.mpr hr, channel?_self_eq_some_iff.mpr hg,
      channel?_self_eq_some_iff.mpr hb]
    rfl
  | shortAlpha hr hg hb ha =>
    rw [ofDigits?, channel?_self_eq_some_iff.mpr hr, channel?_self_eq_some_iff.mpr hg,
      channel?_self_eq_some_iff.mpr hb, channel?_self_eq_some_iff.mpr ha]
    rfl
  | long hr hg hb =>
    rw [ofDigits?, channel?_eq_some_iff.mpr hr, channel?_eq_some_iff.mpr hg,
      channel?_eq_some_iff.mpr hb]
    rfl
  | longAlpha hr hg hb ha =>
    rw [ofDigits?, channel?_eq_some_iff.mpr hr, channel?_eq_some_iff.mpr hg,
      channel?_eq_some_iff.mpr hb, channel?_eq_some_iff.mpr ha]
    rfl

theorem spells_of_ofDigits? (h : ofDigits? digits = some c) : Spells Readable digits c := by
  unfold ofDigits? at h
  split at h
  all_goals
    simp only [Option.bind_eq_bind, Option.bind_eq_some_iff, channel?_self_eq_some_iff,
      Option.some.injEq, reduceCtorEq] at h
  · obtain ⟨x, hr, y, hg, z, hb, rfl⟩ := h
    exact .short hr hg hb
  · obtain ⟨x, hr, y, hg, z, hb, w, ha, rfl⟩ := h
    exact .shortAlpha hr hg hb ha
  · simp only [channel?_eq_some_iff] at h
    obtain ⟨x, hr, y, hg, z, hb, rfl⟩ := h
    exact .long hr hg hb
  · simp only [channel?_eq_some_iff] at h
    obtain ⟨x, hr, y, hg, z, hb, w, ha, rfl⟩ := h
    exact .longAlpha hr hg hb ha

/-- No digit and no sign is a `#`, so only one of them is taken off. -/
theorem Spells.not_mem_hash (h : Spells Readable digits c) : '#' ∉ digits := by
  have hdigit : ∀ {d n}, DigitOf d n → d ≠ '#' := by
    rintro d n hd rfl
    exact not_digitOf rfl hd
  have hall : ∀ d ∈ digits, d ≠ '#' := by
    refine h.forall_mem ?_ ?_
    · rintro d x ⟨n, hd, -⟩
      exact hdigit hd
    · rintro high low x (⟨m, n, hhigh, hlow, -⟩ | ⟨rfl, n, hlow, -⟩)
      · exact ⟨hdigit hhigh, hdigit hlow⟩
      · exact ⟨by decide, hdigit hlow⟩
  intro hmem
  exact hall '#' hmem rfl

theorem ofHex?_eq_some_iff : ofHex? s = some c ↔ Written Readable s c := by
  unfold ofHex?
  constructor
  · intro h
    split at h
    · exact ⟨_, .inr ‹_›, spells_of_ofDigits? h⟩
    · exact ⟨_, .inl rfl, spells_of_ofDigits? h⟩
  · rintro ⟨digits, hs | hs, h⟩
    · rw [hs]
      split
      · exact absurd List.mem_cons_self h.not_mem_hash
      · exact ofDigits?_of_spells h
    · rw [hs]
      exact ofDigits?_of_spells h

/-- The hexadecimal forms are what is read of the texts without a plus sign. -/
theorem written_paired_iff : Written Paired s c ↔ Written Readable s c ∧ '+' ∉ s.toList := by
  constructor
  · rintro ⟨digits, hs, h⟩
    have hsign : '+' ∉ digits := by
      intro hmem
      obtain ⟨n, hn⟩ := h.exists_digitOf '+' hmem
      exact not_digitOf rfl hn
    refine ⟨⟨digits, hs, h.imp fun _ _ _ _ => .inl⟩, ?_⟩
    rcases hs with hs | hs <;> simpa [hs] using hsign
  · rintro ⟨⟨digits, hs, h⟩, hsign⟩
    refine ⟨digits, hs, h.imp ?_⟩
    rintro high hhigh low x (hpaired | ⟨rfl, -⟩)
    · exact hpaired
    · rcases hs with hs | hs <;> simp [hs, hhigh] at hsign

/-- A text is read as a color exactly if it consists, behind an optional `#`, of the 3 or 4 digits of a
short form, or of 3 or 4 pairs, each of them two digits or a plus sign and a digit; the channels are
those of its digits. Every hexadecimal form is read as what it denotes, and what is read without being
one is what has a plus sign. -/
theorem ofHex?_reads (s : String) (c : Color) :
    (ofHex? s = some c ↔ Written Readable s c) ∧
      (Written Paired s c ↔ ofHex? s = some c ∧ '+' ∉ s.toList) := by
  refine ⟨ofHex?_eq_some_iff, ?_⟩
  rw [ofHex?_eq_some_iff]
  exact written_paired_iff

example : ofHex? "#0000fF80" = some ⟨0, 0, 255, 128⟩ ∧ ofHex? "#+f+8+0" = some (rgb 15 8 0) ∧
    ofHex? "#+ff" = none := by decide

end Forms

end Color

end Portrayal
