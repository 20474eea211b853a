import Portrayal.Bitmap
import Portrayal.Fault
import Portrayal.Value

/-!
Fill patterns. The top left tile of a symbol bitmap is recolored: pixels that are dark on all three
channels are ink and take the fore color, the others are paper and take the back color if there is
one. Alpha is kept. What the bitmap does not cover reads as transparent black, which is ink.
-/

namespace Portrayal

/-- The edge of a tile in pixels. -/
def tileSize : Nat := 8

/-- The channel value from which on a pixel is no longer ink. -/
def inkThreshold : UInt8 := 225

/-- Whether a pixel is dark on all three channels. -/
def Pixel.isInk (p : Pixel) : Bool := p.r < inkThreshold && p.g < inkThreshold && p.b < inkThreshold

/-- A pixel in another color, with its own alpha. -/
def Pixel.withColor (p : Pixel) (c : ServiceColor) : Pixel := ⟨c.red, c.green, c.blue, p.a⟩

/-- A pixel with ink in one color and paper in another, if that is given. -/
def Pixel.recolor (p : Pixel) (fore : ServiceColor) (back : Option ServiceColor) : Pixel :=
  if p.isInk then p.withColor fore
  else
    match back with
    | some c => p.withColor c
    | none => p

/-! ### The top left tile -/

namespace Bitmap

theorem place_tile (b : Bitmap) (x y : Fin tileSize) :
    b.place (UInt32.ofNat x) (UInt32.ofNat y) = 4 * (y * b.width.toNat + x) := by
  rw [place, UInt32.toNat_ofNat_of_lt' (Nat.lt_trans x.isLt (by decide)),
    UInt32.toNat_ofNat_of_lt' (Nat.lt_trans y.isLt (by decide))]

/-- The places of the first pixels are small, however wide the bitmap is. -/
theorem place_tile_lt (b : Bitmap) (x y : Fin tileSize) :
    b.place (UInt32.ofNat x) (UInt32.ofNat y) + 4 < UInt64.size := by
  have hsize : UInt64.size = 18446744073709551616 := rfl
  have hwidth : b.width.toNat < 4294967296 := b.width.toNat_lt
  have hx : x.val < 8 := x.isLt
  have hy : y.val < 8 := y.isLt
  have hrows : y.val * b.width.toNat ≤ 7 * b.width.toNat := Nat.mul_le_mul_right _ (by omega)
  rw [place_tile]
  omega

/-- So they are looked for without a fault. -/
theorem pixel?_tile_ne_error (b : Bitmap) (x y : Fin tileSize) (fault : WordFault) :
    b.pixel? (UInt32.ofNat x) (UInt32.ofNat y) ≠ .error fault := by
  intro h
  obtain ⟨-, -, hend⟩ := pixel?_eq_error_iff.mp h
  exact Nat.not_le_of_lt (b.place_tile_lt x y) hend

/-- A pixel of the tile; what the bitmap does not cover is blank. -/
def tilePixel (b : Bitmap) (x y : Fin tileSize) : Pixel :=
  match h : b.pixel? (UInt32.ofNat x) (UInt32.ofNat y) with
  | .ok found => found.getD .blank
  | .error fault => (b.pixel?_tile_ne_error x y fault h).elim

/-- The pixels of the tile, row by row. -/
def tile (b : Bitmap) : List Pixel :=
  (List.finRange tileSize).flatMap fun y => (List.finRange tileSize).map fun x => b.tilePixel x y

end Bitmap

/-- The fill pattern of a symbol, from its bitmap. -/
def Pattern.ofBitmap? (symbol : UInt8) (bitmap : Option Bitmap) (fore : ServiceColor)
    (back : Option ServiceColor) : Except FillFault Pattern :=
  match bitmap with
  | none => .error (.missingImage symbol)
  | some b =>
    if b.clean then
      .ok ⟨symbol, UInt32.ofNat tileSize, UInt32.ofNat tileSize,
        b.tile.flatMap fun p => (p.recolor fore back).bytes⟩
    else .error (.crossOrigin symbol)

end Portrayal
