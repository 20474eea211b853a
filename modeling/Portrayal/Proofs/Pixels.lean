import Mathlib.Tactic.Linarith
import Portrayal.Bitmap

/-!
Where the pixels of a bitmap are read. The pixel in column `x` of row `y` has its bytes at
`4 * (y * width + x)`, but what is computed are 64-bit words, and the last steps may leave them:

    y * width + x              below 2 ^ 64 for every pixel inside
    4 * (y * width + x) + 4    up to 4 * width * height, at the last pixel

No buffer has bytes that far down, so there is nothing to read for such a pixel; still, looking for it is
a fault. Main statement: every other pixel is read from its own place or found missing, and the bitmaps
that have a pixel so far down are those of `2 ^ 62` pixels and more.
-/

namespace Portrayal

namespace Samples

variable {s : Samples} {i : Nat} {p : Pixel}

theorem isSome_byte? (s : Samples) (i : Nat) : (s.byte? i).isSome ↔ i < s.size := by
  cases s with
  | bytes data => simp [byte?, size]
  | repeated pixel count =>
    have hbyte : i % 4 < pixel.bytes.length := Nat.mod_lt i (by decide)
    by_cases h : i < 4 * count <;> simp [byte?, size, h, hbyte]

theorem lt_size_of_byte? {byte : UInt8} (h : s.byte? i = some byte) : i < s.size :=
  (s.isSome_byte? i).mp (by rw [h, Option.isSome_some])

theorem pixel?_eq_some_iff : s.pixel? i = some p ↔ s.byte? i = some p.r ∧
    s.byte? (i + 1) = some p.g ∧ s.byte? (i + 2) = some p.b ∧ s.byte? (i + 3) = some p.a := by
  simp only [pixel?, Option.bind_eq_bind, Option.bind_eq_some_iff, Option.some.injEq]
  constructor
  · rintro ⟨r, hr, g, hg, b, hb, a, ha, rfl⟩
    exact ⟨hr, hg, hb, ha⟩
  · rintro ⟨hr, hg, hb, ha⟩
    exact ⟨p.r, hr, p.g, hg, p.b, hb, p.a, ha, rfl⟩

/-- Four bytes are a pixel as soon as the last of them is there. -/
theorem exists_pixel?_iff : (∃ p, s.pixel? i = some p) ↔ i + 4 ≤ s.size := by
  constructor
  · rintro ⟨p, hp⟩
    have hlast := lt_size_of_byte? (pixel?_eq_some_iff.mp hp).2.2.2
    omega
  · intro h
    have hbyte : ∀ k < 4, ∃ byte, s.byte? (i + k) = some byte := by
      intro k hk
      exact Option.isSome_iff_exists.mp ((s.isSome_byte? (i + k)).mpr (by omega))
    obtain ⟨r, hr⟩ := hbyte 0 (by decide)
    obtain ⟨g, hg⟩ := hbyte 1 (by decide)
    obtain ⟨b, hb⟩ := hbyte 2 (by decide)
    obtain ⟨a, ha⟩ := hbyte 3 (by decide)
    exact ⟨⟨r, g, b, a⟩, pixel?_eq_some_iff.mpr ⟨hr, hg, hb, ha⟩⟩

end Samples

namespace Bitmap

/-- A bitmap has a pixel if it lies inside and its four bytes are in the buffer at its place. -/
structure Holds (b : Bitmap) (x y : UInt32) (p : Pixel) : Prop where
  column : x < b.width
  row : y < b.height
  red : b.samples.byte? (b.place x y) = some p.r
  green : b.samples.byte? (b.place x y + 1) = some p.g
  blue : b.samples.byte? (b.place x y + 2) = some p.b
  alpha : b.samples.byte? (b.place x y + 3) = some p.a

/-- A pixel inside that is so far down that the end of its bytes is no 64-bit word. -/
structure Beyond (b : Bitmap) (x y : UInt32) : Prop where
  column : x < b.width
  row : y < b.height
  far : 2 ^ 64 ≤ b.place x y + 4

section Places

variable {b : Bitmap} {x y : UInt32} {p : Pixel} {found : Option Pixel}

theorem holds_iff : b.Holds x y p ↔
    x < b.width ∧ y < b.height ∧ b.samples.pixel? (b.place x y) = some p := by
  rw [Samples.pixel?_eq_some_iff]
  constructor
  · rintro ⟨hx, hy, hr, hg, hb, ha⟩
    exact ⟨hx, hy, hr, hg, hb, ha⟩
  · rintro ⟨hx, hy, hr, hg, hb, ha⟩
    exact ⟨hx, hy, hr, hg, hb, ha⟩

theorem exists_holds_iff : (∃ p, b.Holds x y p) ↔
    x < b.width ∧ y < b.height ∧ b.place x y + 4 ≤ b.samples.size := by
  simp only [holds_iff, exists_and_left, Samples.exists_pixel?_iff]

theorem pixel?_eq_overflow_iff : b.pixel? x y = .error .overflow ↔ b.Beyond x y := by
  rw [pixel?_eq_error_iff]
  constructor
  · rintro ⟨hx, hy, hfar⟩
    exact ⟨hx, hy, hfar⟩
  · rintro ⟨hx, hy, hfar⟩
    exact ⟨hx, hy, hfar⟩

/-- Whenever there is an answer, it is the pixel that the bitmap has. -/
theorem holds_iff_of_pixel? (h : b.pixel? x y = .ok found) :
    found = some p ↔ b.Holds x y p := by
  rw [holds_iff]
  rw [pixel?] at h
  by_cases hinside : x < b.width ∧ y < b.height
  · rw [if_pos hinside] at h
    cases hoffset : b.offset x y with
    | error fault =>
      rw [hoffset] at h
      cases h
    | ok start =>
      rw [hoffset] at h
      obtain rfl := Except.ok.inj h
      rw [← (offset_eq_ok_iff.mp hoffset).1]
      exact ⟨fun hp => ⟨hinside.1, hinside.2, hp⟩, fun hp => hp.2.2⟩
  · rw [if_neg hinside] at h
    obtain rfl := Except.ok.inj h
    exact iff_of_false (Option.some_ne_none p).symm fun hp => hinside ⟨hp.1, hp.2.1⟩

theorem exists_pixel?_iff : (∃ found, b.pixel? x y = .ok found) ↔ ¬ b.Beyond x y := by
  rw [← pixel?_eq_overflow_iff]
  cases b.pixel? x y with
  | ok found => simp
  | error fault => cases fault; simp

/-- The last pixel is the one that is farthest down. -/
theorem place_add_le (hx : x < b.width) (hy : y < b.height) :
    b.place x y + 4 ≤ 4 * (b.width.toNat * b.height.toNat) := by
  rw [UInt32.lt_iff_toNat_lt] at hx hy
  have hrows : (y.toNat + 1) * b.width.toNat ≤ b.height.toNat * b.width.toNat :=
    Nat.mul_le_mul_right _ hy
  rw [place]
  linarith

theorem exists_beyond_iff :
    (∃ x y, b.Beyond x y) ↔ 2 ^ 62 ≤ b.width.toNat * b.height.toNat := by
  constructor
  · rintro ⟨x, y, hx, hy, hfar⟩
    have hend := place_add_le hx hy
    omega
  · intro h
    have hpixels : 0 < b.width.toNat * b.height.toNat := Nat.lt_of_lt_of_le (by decide) h
    have hcolumns : 0 < b.width.toNat := Nat.pos_of_mul_pos_right hpixels
    have hrows : 0 < b.height.toNat := Nat.pos_of_mul_pos_left hpixels
    have hx : (UInt32.ofNat (b.width.toNat - 1)).toNat = b.width.toNat - 1 :=
      UInt32.toNat_ofNat_of_lt' (Nat.lt_of_le_of_lt (Nat.sub_le ..) b.width.toNat_lt)
    have hy : (UInt32.ofNat (b.height.toNat - 1)).toNat = b.height.toNat - 1 :=
      UInt32.toNat_ofNat_of_lt' (Nat.lt_of_le_of_lt (Nat.sub_le ..) b.height.toNat_lt)
    refine ⟨.ofNat (b.width.toNat - 1), .ofNat (b.height.toNat - 1), ?_, ?_, ?_⟩
    · rw [UInt32.lt_iff_toNat_lt, hx]
      omega
    · rw [UInt32.lt_iff_toNat_lt, hy]
      omega
    · have hrow : (b.height.toNat - 1) * b.width.toNat + b.width.toNat =
          b.width.toNat * b.height.toNat := by
        rw [← Nat.succ_mul, Nat.succ_eq_add_one, Nat.sub_add_cancel hrows, Nat.mul_comm]
      rw [place, hx, hy]
      omega

/-- A pixel is read exactly if the bitmap has it, and is found missing otherwise, unless it is so far
down that its bytes cannot be numbered by words. The bitmap has no bytes for such a pixel, and yet looking
for it ends in a fault; there are such pixels exactly in the bitmaps of `2 ^ 62` pixels and more. No
buffer comes near the bound on its size. -/
theorem pixel?_faithful_iff (b : Bitmap) (hsize : b.samples.size < 2 ^ 63) (x y : UInt32) :
    ((∃ p, b.Holds x y p) ↔
        x < b.width ∧ y < b.height ∧ b.place x y + 4 ≤ b.samples.size) ∧
      (∀ p, b.pixel? x y = .ok (some p) ↔ b.Holds x y p) ∧
      ((∃ found, b.pixel? x y = .ok found ∧ ∀ p, found = some p ↔ b.Holds x y p) ↔
        ¬ b.Beyond x y) ∧
      (b.Beyond x y → (∀ p, ¬ b.Holds x y p) ∧ b.pixel? x y = .error .overflow) ∧
      ((∃ x y, b.Beyond x y) ↔ 2 ^ 62 ≤ b.width.toNat * b.height.toNat) := by
  have hmissing : b.Beyond x y → ∀ p, ¬ b.Holds x y p := by
    intro hbeyond p hp
    have hend := (exists_holds_iff.mp ⟨p, hp⟩).2.2
    have hfar := hbeyond.far
    omega
  refine ⟨exists_holds_iff, fun p => ⟨fun h => (holds_iff_of_pixel? h).mp rfl, fun hp => ?_⟩, ?_,
    fun h => ⟨hmissing h, pixel?_eq_overflow_iff.mpr h⟩, exists_beyond_iff⟩
  · obtain ⟨found, hfound⟩ := exists_pixel?_iff.mpr fun h => hmissing h p hp
    rw [hfound, (holds_iff_of_pixel? hfound).mpr hp]
  · rw [← exists_pixel?_iff]
    exact exists_congr fun found => and_iff_left_of_imp fun h p => holds_iff_of_pixel? h

/-- A bitmap of `2 ^ 31` columns that has the bytes of one pixel only. -/
def sparse : Bitmap := ⟨2147483648, 2147483649, .bytes #[1, 2, 3, 4], true⟩

/-- Row `2 ^ 31` of it starts at `2 ^ 64`. Nothing is there, but looking for it is a fault; the row
before it is just near enough, except for its last pixel. -/
theorem pixel?_faithful_iff_sparse :
    sparse.samples.size < 2 ^ 63 ∧ sparse.Beyond 0 2147483648 ∧
      (∀ p, ¬ sparse.Holds 0 2147483648 p) ∧
      sparse.pixel? 0 2147483648 = .error .overflow ∧
      sparse.pixel? 2147483646 2147483647 = .ok none := by
  have hsize : sparse.samples.size < 2 ^ 63 := by decide
  have hbeyond : sparse.Beyond 0 2147483648 := ⟨by decide, by decide, by decide⟩
  obtain ⟨-, -, -, hfault, -⟩ := pixel?_faithful_iff sparse hsize 0 2147483648
  exact ⟨hsize, hbeyond, (hfault hbeyond).1, (hfault hbeyond).2, by decide⟩

end Places

end Bitmap

end Portrayal
