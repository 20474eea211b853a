/-!
Symbol bitmaps: rows of pixels, four bytes each. The bytes may be fewer or more than the size asks
for, and a bitmap of one color is kept as that color and a count. A bitmap from a foreign origin can
be drawn but not read back.

Where the bytes of a pixel are is computed in 64-bit words. Looking for a pixel so far down that a word
does not suffice is a fault, whatever the bytes are.
-/

namespace Portrayal

/-- A computation of two steps goes through exactly if both of them do. -/
theorem bind_eq_ok_iff {ε α β : Type} {first : Except ε α} {next : α → Except ε β} {b : β} :
    first >>= next = .ok b ↔ ∃ a, first = .ok a ∧ next a = .ok b := by
  cases first with
  | error e => exact iff_of_false nofun nofun
  | ok a =>
    constructor
    · intro h
      exact ⟨a, rfl, h⟩
    · rintro ⟨_, ⟨⟩, h⟩
      exact h

/-- What a computation on words ends with if it does not go through. -/
inductive WordFault where
  /-- A result is no word. -/
  | overflow
  deriving DecidableEq, Repr

namespace Word

/-- The sum of two words; it has to be one as well. -/
def add (m n : UInt64) : Except WordFault UInt64 :=
  if m.toNat + n.toNat < UInt64.size then .ok (m + n) else .error .overflow

/-- The product of two words; it has to be one as well. -/
def mul (m n : UInt64) : Except WordFault UInt64 :=
  if m.toNat * n.toNat < UInt64.size then .ok (m * n) else .error .overflow

variable {m n k : UInt64}

theorem add_eq_ok_iff : add m n = .ok k ↔ k.toNat = m.toNat + n.toNat := by
  have hk := k.toNat_lt
  unfold add
  by_cases h : m.toNat + n.toNat < UInt64.size
  · rw [if_pos h, Except.ok.injEq, eq_comm, ← UInt64.toNat_inj, UInt64.toNat_add,
      Nat.mod_eq_of_lt h]
  · rw [if_neg h]
    refine iff_of_false nofun fun heq => h ?_
    rwa [← heq]

theorem mul_eq_ok_iff : mul m n = .ok k ↔ k.toNat = m.toNat * n.toNat := by
  have hk := k.toNat_lt
  unfold mul
  by_cases h : m.toNat * n.toNat < UInt64.size
  · rw [if_pos h, Except.ok.injEq, eq_comm, ← UInt64.toNat_inj, UInt64.toNat_mul,
      Nat.mod_eq_of_lt h]
  · rw [if_neg h]
    refine iff_of_false nofun fun heq => h ?_
    rwa [← heq]

end Word

/-- A pixel: red, green, blue and alpha. -/
structure Pixel where
  r : UInt8
  g : UInt8
  b : UInt8
  a : UInt8
  deriving DecidableEq, Repr

namespace Pixel

/-- The pixel that reads as nothing at all. -/
def blank : Pixel := ⟨0, 0, 0, 0⟩

/-- The four bytes of a pixel. -/
def bytes (p : Pixel) : List UInt8 := [p.r, p.g, p.b, p.a]

end Pixel

/-- The bytes of a bitmap. -/
inductive Samples where
  | bytes (data : Array UInt8)
  /-- One pixel, so many times over. -/
  | repeated (pixel : Pixel) (count : Nat)
  deriving Repr

namespace Samples

/-- The number of bytes. -/
def size : Samples → Nat
  | bytes data => data.size
  | repeated _ count => 4 * count

/-- The byte at an offset. -/
def byte? : Samples → Nat → Option UInt8
  | bytes data, i => data[i]?
  | repeated pixel count, i => if i < 4 * count then pixel.bytes[i % 4]? else none

/-- The pixel whose four bytes start at an offset. -/
def pixel? (s : Samples) (offset : Nat) : Option Pixel := do
  let r ← s.byte? offset
  let g ← s.byte? (offset + 1)
  let b ← s.byte? (offset + 2)
  let a ← s.byte? (offset + 3)
  some ⟨r, g, b, a⟩

end Samples

/-- A bitmap of `width` by `height` pixels. -/
structure Bitmap where
  width : UInt32
  height : UInt32
  samples : Samples
  /-- Whether the pixels may be read back. -/
  clean : Bool
  deriving Repr

namespace Bitmap

/-- A bitmap of one color that may be read back. -/
def filled (width height : UInt32) (pixel : Pixel) : Bitmap :=
  ⟨width, height, .repeated pixel (width.toNat * height.toNat), true⟩

/-- Where the bytes of a pixel start. Where they end has to be a word, too. -/
def offset (b : Bitmap) (x y : UInt32) : Except WordFault UInt64 := do
  let row ← Word.mul y.toUInt64 b.width.toUInt64
  let index ← Word.add row x.toUInt64
  let start ← Word.mul index 4
  let _ ← Word.add start 4
  return start

/-- The pixel in column `x` of row `y`, if it lies inside and all its bytes are there. -/
def pixel? (b : Bitmap) (x y : UInt32) : Except WordFault (Option Pixel) :=
  if x < b.width ∧ y < b.height then
    (b.offset x y).map fun start => b.samples.pixel? start.toNat
  else .ok none

/-- Where the bytes of a pixel are. -/
def place (b : Bitmap) (x y : UInt32) : Nat := 4 * (y.toNat * b.width.toNat + x.toNat)

/-- The row of a pixel starts at a number that is a word, and so is the number of the pixel, whatever
the size of the bitmap. -/
theorem exists_index (b : Bitmap) (x y : UInt32) : ∃ row index : UInt64,
    row.toNat = y.toUInt64.toNat * b.width.toUInt64.toNat ∧
      index.toNat = row.toNat + x.toUInt64.toNat := by
  have hsize : UInt64.size = 18446744073709551616 := rfl
  have hx : x.toNat < 4294967296 := x.toNat_lt
  have hrows : y.toNat * b.width.toNat ≤ 4294967295 * 4294967295 :=
    Nat.mul_le_mul (Nat.le_of_lt_succ y.toNat_lt) (Nat.le_of_lt_succ b.width.toNat_lt)
  have hrow : (UInt64.ofNat (y.toNat * b.width.toNat)).toNat = y.toNat * b.width.toNat :=
    UInt64.toNat_ofNat_of_lt' (by omega)
  refine ⟨.ofNat (y.toNat * b.width.toNat), .ofNat (y.toNat * b.width.toNat + x.toNat), hrow, ?_⟩
  rw [hrow]
  exact UInt64.toNat_ofNat_of_lt' (by omega)

/-- The place of a pixel is computed exactly if the end of its bytes is a word. -/
theorem offset_eq_ok_iff {b : Bitmap} {x y : UInt32} {start : UInt64} :
    b.offset x y = .ok start ↔
      start.toNat = b.place x y ∧ b.place x y + 4 < UInt64.size := by
  have hplace : ∀ {row index : UInt64}, row.toNat = y.toUInt64.toNat * b.width.toUInt64.toNat →
      index.toNat = row.toNat + x.toUInt64.toNat → index.toNat * (4 : UInt64).toNat = b.place x y := by
    intro row index hrow hindex
    rw [hindex, hrow]
    exact Nat.mul_comm _ 4
  simp only [offset, bind_eq_ok_iff, Word.mul_eq_ok_iff, Word.add_eq_ok_iff]
  constructor
  · rintro ⟨row, hrow, index, hindex, first, hfirst, last, hlast, ⟨⟩⟩
    rw [hplace hrow hindex] at hfirst
    have hword := last.toNat_lt
    rw [hlast, hfirst] at hword
    exact ⟨hfirst, hword⟩
  · rintro ⟨hstart, hend⟩
    obtain ⟨row, index, hrow, hindex⟩ := b.exists_index x y
    have hlast : (UInt64.ofNat (b.place x y + 4)).toNat = b.place x y + 4 :=
      UInt64.toNat_ofNat_of_lt' hend
    refine ⟨row, hrow, index, hindex, start, hstart.trans (hplace hrow hindex).symm,
      .ofNat (b.place x y + 4), ?_, rfl⟩
    rw [hlast, hstart]
    rfl

theorem offset_eq_error_iff {b : Bitmap} {x y : UInt32} {fault : WordFault} :
    b.offset x y = .error fault ↔ UInt64.size ≤ b.place x y + 4 := by
  cases hoffset : b.offset x y with
  | ok start => exact iff_of_false nofun (Nat.not_le_of_lt (offset_eq_ok_iff.mp hoffset).2)
  | error reason =>
    cases reason
    cases fault
    refine iff_of_true rfl (Nat.le_of_not_lt fun hend => ?_)
    have hplace : b.place x y < UInt64.size := Nat.lt_of_add_right_lt hend
    have hstart := offset_eq_ok_iff.mpr ⟨UInt64.toNat_ofNat_of_lt' hplace, hend⟩
    exact nomatch hoffset.symm.trans hstart

/-- Only a pixel inside can be too far down. -/
theorem pixel?_eq_error_iff {b : Bitmap} {x y : UInt32} {fault : WordFault} :
    b.pixel? x y = .error fault ↔
      x < b.width ∧ y < b.height ∧ UInt64.size ≤ b.place x y + 4 := by
  have hfar : b.offset x y = .error fault ↔ UInt64.size ≤ b.place x y + 4 := offset_eq_error_iff
  rw [← hfar, pixel?]
  by_cases hinside : x < b.width ∧ y < b.height
  · rw [if_pos hinside]
    cases b.offset x y <;> simp [Except.map, hinside]
  · rw [if_neg hinside]
    exact iff_of_false nofun fun h => hinside ⟨h.1, h.2.1⟩

end Bitmap

end Portrayal
