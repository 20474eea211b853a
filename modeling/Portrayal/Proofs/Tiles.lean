import Mathlib.Data.List.Basic
import Mathlib.Tactic.Ring
import Portrayal.FillPattern
import Portrayal.Proofs.Pixels

/-!
What is in the tile of a fill pattern. The tile is written row by row, four bytes to the pixel, so the
pixel in column `x` of row `y` is found at `(y * 8 + x) * 4`:

    pixel    (0, 0)  (1, 0)  …  (7, 0)  (0, 1)  …  (7, 7)
    bytes    0       4          28      32         252

Main statement: every bitmap that can be read back gives a tile of 256 bytes, whatever its size and
however short its buffer, with each of its first pixels recolored in its place; nothing else of the
bitmap is in the tile, and no offset on the way is too large for a word.
-/

namespace Portrayal

/-! ### Blocks of one length -/

section Blocks

variable {α β : Type} {f : α → List β} {n i j : Nat} {l : List α} {a : α}

theorem drop_flatMap (hf : ∀ a, (f a).length = n) : ∀ (l : List α) (i : Nat),
    (l.flatMap f).drop (i * n) = (l.drop i).flatMap f
  | l, 0 => by rw [Nat.zero_mul, List.drop_zero, List.drop_zero]
  | [], i + 1 => by rw [List.drop_nil, List.flatMap_nil, List.drop_nil]
  | a :: l, i + 1 => by
    have hlength : (i + 1) * n = (f a).length + i * n := by
      rw [hf]
      ring
    rw [List.flatMap_cons, hlength, List.drop_length_add_append, List.drop_succ_cons]
    exact drop_flatMap hf l i

/-- The block at a position. -/
theorem take_drop_flatMap (hf : ∀ a, (f a).length = n) (h : l[i]? = some a) :
    ((l.flatMap f).drop (i * n)).take n = f a := by
  rw [drop_flatMap hf, List.drop_eq_getElem?_toList_append, h, Option.toList_some,
    List.singleton_append, List.flatMap_cons]
  exact List.take_left' (hf a)

theorem getElem?_flatMap (hf : ∀ a, (f a).length = n) (h : l[i]? = some a) (hj : j < n) :
    (l.flatMap f)[i * n + j]? = (f a)[j]? := by
  rw [← List.getElem?_drop, ← List.getElem?_take_of_lt hj, take_drop_flatMap hf h]

theorem length_flatMap (hf : ∀ a, (f a).length = n) (l : List α) :
    (l.flatMap f).length = l.length * n := by
  simp only [List.length_flatMap, hf, List.map_const', List.sum_replicate_nat]

end Blocks

/-! ### Pixels in other colors -/

/-- A pixel and what it becomes. It is ink if it is dark on all three channels, and paper otherwise;
its opacity stays. -/
inductive Pixel.Recolored (fore : ServiceColor) (back : Option ServiceColor) (p : Pixel) :
    Pixel → Prop where
  | ink (h : p.r < 225 ∧ p.g < 225 ∧ p.b < 225) :
      Recolored fore back p ⟨fore.red, fore.green, fore.blue, p.a⟩
  | paper {c : ServiceColor} (h : ¬ (p.r < 225 ∧ p.g < 225 ∧ p.b < 225)) (hback : back = some c) :
      Recolored fore back p ⟨c.red, c.green, c.blue, p.a⟩
  | kept (h : ¬ (p.r < 225 ∧ p.g < 225 ∧ p.b < 225)) (hback : back = none) :
      Recolored fore back p ⟨p.r, p.g, p.b, p.a⟩

section Recolor

variable {fore : ServiceColor} {back : Option ServiceColor} {p : Pixel}

theorem Pixel.isInk_iff : p.isInk = true ↔ p.r < 225 ∧ p.g < 225 ∧ p.b < 225 := by
  rw [isInk, Bool.and_eq_true, Bool.and_eq_true, decide_eq_true_iff, decide_eq_true_iff,
    decide_eq_true_iff, and_assoc]
  rfl

theorem Pixel.recolored_recolor : p.Recolored fore back (p.recolor fore back) := by
  unfold recolor
  by_cases h : p.isInk = true
  · rw [if_pos h]
    exact .ink (isInk_iff.mp h)
  · rw [if_neg h]
    rw [isInk_iff] at h
    cases back with
    | none => exact .kept h rfl
    | some c => exact .paper h rfl

end Recolor

/-! ### The tile of a bitmap -/

namespace Bitmap

/-- What stands for a pixel in the tile: the one that the bitmap has there, and transparent black if it
has none. -/
inductive Shows (b : Bitmap) (x y : Nat) : Pixel → Prop where
  | held {p : Pixel} (h : b.Holds (UInt32.ofNat x) (UInt32.ofNat y) p) : Shows b x y p
  | missing (h : ∀ p, ¬ b.Holds (UInt32.ofNat x) (UInt32.ofNat y) p) : Shows b x y ⟨0, 0, 0, 0⟩

/-- The pixels of the tile in a row. -/
def tileRow (b : Bitmap) (y : Fin tileSize) : List Pixel :=
  (List.finRange tileSize).map fun x => b.tilePixel x y

variable {b b' : Bitmap} {x y : Fin tileSize} {found : Option Pixel} {p : Pixel}

/-- Looking for a pixel of the tile goes through. -/
theorem exists_pixel?_tile (b : Bitmap) (x y : Fin tileSize) :
    ∃ found, b.pixel? (UInt32.ofNat x) (UInt32.ofNat y) = .ok found ∧
      b.tilePixel x y = found.getD .blank := by
  unfold tilePixel
  split
  · rename_i found h
    exact ⟨found, h, rfl⟩
  · rename_i fault h
    exact absurd h (b.pixel?_tile_ne_error x y fault)

theorem shows_tilePixel (b : Bitmap) (x y : Fin tileSize) : b.Shows x y (b.tilePixel x y) := by
  obtain ⟨found, hfound, htile⟩ := b.exists_pixel?_tile x y
  rw [htile]
  cases found with
  | none => exact .missing fun p hp => nomatch (holds_iff_of_pixel? hfound).mpr hp
  | some p => exact .held ((holds_iff_of_pixel? hfound).mp rfl)

theorem Shows.eq_tilePixel (h : b.Shows x y p) : p = b.tilePixel x y := by
  obtain ⟨found, hfound, htile⟩ := b.exists_pixel?_tile x y
  rw [htile]
  cases h with
  | held hp => rw [(holds_iff_of_pixel? hfound).mpr hp, Option.getD_some]
  | missing hnone =>
    cases found with
    | none => rfl
    | some q => exact absurd ((holds_iff_of_pixel? hfound).mp rfl) (hnone q)

/-- One pixel stands in each place. -/
theorem shows_iff (b : Bitmap) (x y : Fin tileSize) : b.Shows x y p ↔ p = b.tilePixel x y :=
  ⟨Shows.eq_tilePixel, fun h => h ▸ b.shows_tilePixel x y⟩

theorem tile_eq (b : Bitmap) : b.tile = (List.finRange tileSize).flatMap b.tileRow := rfl

theorem length_tileRow (b : Bitmap) (y : Fin tileSize) : (b.tileRow y).length = 8 := by
  rw [tileRow, List.length_map, List.length_finRange, tileSize]

theorem length_tile (b : Bitmap) : b.tile.length = 64 := by
  rw [tile_eq, length_flatMap b.length_tileRow, List.length_finRange, tileSize]

theorem getElem?_finRange (x : Fin tileSize) : (List.finRange tileSize)[x.val]? = some x := by
  rw [List.getElem?_eq_getElem (by rw [List.length_finRange]; exact x.isLt), List.getElem_finRange]
  rfl

theorem getElem?_tile (b : Bitmap) (x y : Fin tileSize) :
    b.tile[y.val * 8 + x.val]? = some (b.tilePixel x y) := by
  rw [tile_eq, getElem?_flatMap b.length_tileRow (getElem?_finRange y) x.isLt, tileRow,
    List.getElem?_map, getElem?_finRange, Option.map_some]

/-- Two bitmaps with the same pixels in the tile have the same tile. -/
theorem tile_congr (h : ∀ x < 8, ∀ y < 8, ∀ p, b'.Shows x y p ↔ b.Shows x y p) :
    b'.tile = b.tile := by
  rw [tile_eq, tile_eq]
  refine List.flatMap_congr fun y _ => List.map_congr_left fun x _ => ?_
  exact (b.shows_iff x y).mp ((h x x.isLt y y.isLt _).mp (b'.shows_tilePixel x y))

end Bitmap

/-! ### Patterns -/

namespace Pattern

/-- A pattern of eight by eight pixels: what stands in the tile of a bitmap, each recolored in its
place. -/
structure Tiles (symbol : UInt8) (b : Bitmap) (fore : ServiceColor) (back : Option ServiceColor)
    (pattern : Pattern) : Prop where
  symbol_eq : pattern.symbol = symbol
  width_eq : pattern.width = 8
  height_eq : pattern.height = 8
  length_eq : pattern.rgba.length = 256
  pixels : ∀ x < 8, ∀ y < 8, ∃ q p, b.Shows x y q ∧ q.Recolored fore back p ∧
    (pattern.rgba.drop ((y * 8 + x) * 4)).take 4 = [p.r, p.g, p.b, p.a]

variable {symbol : UInt8} {b : Bitmap} {fore : ServiceColor} {back : Option ServiceColor}

/-- The pattern that a bitmap gives if it can be read back. -/
def ofTile (symbol : UInt8) (b : Bitmap) (fore : ServiceColor) (back : Option ServiceColor) :
    Pattern :=
  ⟨symbol, 8, 8, b.tile.flatMap fun p => (p.recolor fore back).bytes⟩

theorem ofBitmap?_of_clean (hclean : b.clean = true) :
    ofBitmap? symbol (some b) fore back = .ok (ofTile symbol b fore back) := by
  simp only [ofBitmap?, hclean, if_true]
  rfl

theorem tiles_ofTile : (ofTile symbol b fore back).Tiles symbol b fore back := by
  have hbytes : ∀ p : Pixel, (p.recolor fore back).bytes.length = 4 := fun _ => rfl
  refine ⟨rfl, rfl, rfl, ?_, ?_⟩
  · rw [ofTile, length_flatMap hbytes, b.length_tile]
  · intro x hx y hy
    refine ⟨_, _, b.shows_tilePixel ⟨x, hx⟩ ⟨y, hy⟩, Pixel.recolored_recolor, ?_⟩
    exact take_drop_flatMap hbytes (b.getElem?_tile ⟨x, hx⟩ ⟨y, hy⟩)

/-- A bitmap that can be read back gives a pattern, whatever its size is and however many bytes it
has: its tile, recolored pixel by pixel. Another bitmap that shows the same there gives the same
pattern. Looking for the pixels of the tile goes through and finds those that the bitmap has, for the
places of their bytes are words, and they are computed exactly. -/
theorem ofBitmap?_tiles (symbol : UInt8) (b : Bitmap) (hclean : b.clean = true)
    (fore : ServiceColor) (back : Option ServiceColor) :
    (∃ pattern, ofBitmap? symbol (some b) fore back = .ok pattern ∧
        pattern.Tiles symbol b fore back) ∧
      (∀ b' : Bitmap, b'.clean = true →
        (∀ x < 8, ∀ y < 8, ∀ p, b'.Shows x y p ↔ b.Shows x y p) →
          ofBitmap? symbol (some b') fore back = ofBitmap? symbol (some b) fore back) ∧
      ∀ x < 8, ∀ y < 8,
        (∃ start, b.offset (UInt32.ofNat x) (UInt32.ofNat y) = .ok start ∧
          start.toNat = 4 * (y * b.width.toNat + x) ∧ start.toNat + 4 < 2 ^ 64) ∧
        ∃ found, b.pixel? (UInt32.ofNat x) (UInt32.ofNat y) = .ok found ∧
          ∀ p, found = some p ↔ b.Holds (UInt32.ofNat x) (UInt32.ofNat y) p := by
  refine ⟨⟨_, ofBitmap?_of_clean hclean, tiles_ofTile⟩, ?_, ?_⟩
  · intro b' hclean' hsame
    rw [ofBitmap?_of_clean hclean, ofBitmap?_of_clean hclean', ofTile, ofTile,
      Bitmap.tile_congr hsame]
  · intro x hx y hy
    have hend := b.place_tile_lt ⟨x, hx⟩ ⟨y, hy⟩
    have hplace := b.place_tile ⟨x, hx⟩ ⟨y, hy⟩
    have hstart := UInt64.toNat_ofNat_of_lt' (Nat.lt_of_add_right_lt hend)
    obtain ⟨found, hfound, -⟩ := b.exists_pixel?_tile ⟨x, hx⟩ ⟨y, hy⟩
    refine ⟨⟨_, Bitmap.offset_eq_ok_iff.mpr ⟨hstart, hend⟩, hstart.trans hplace, ?_⟩,
      found, hfound, fun p => Bitmap.holds_iff_of_pixel? hfound⟩
    rw [hstart]
    exact hend

/-- A bitmap of three columns whose buffer ends inside its second pixel. -/
def torn : Bitmap := ⟨3, 100, .bytes #[230, 9, 9, 7, 9, 9], true⟩

/-- Its tile has one pixel of paper; a bitmap of a single pixel gives the same pattern. -/
theorem ofBitmap?_tiles_torn :
    torn.clean = true ∧
      (∃ pattern, ofBitmap? 2 (some torn) .white (some .black) = .ok pattern ∧
        pattern.Tiles 2 torn .white (some .black) ∧
        pattern.rgba.take 8 = [0, 0, 0, 7, 255, 255, 255, 0]) ∧
      ofBitmap? 2 (some (.filled 1 1 ⟨230, 9, 9, 7⟩)) .white (some .black) =
        ofBitmap? 2 (some torn) .white (some .black) := by
  have hclean : torn.clean = true := rfl
  obtain ⟨⟨pattern, hpattern, htiles⟩, hsame, -⟩ :=
    ofBitmap?_tiles 2 torn hclean .white (some .black)
  have htile : ∀ x y : Fin tileSize,
      (Bitmap.filled 1 1 ⟨230, 9, 9, 7⟩).tilePixel x y = torn.tilePixel x y := by decide
  refine ⟨hclean, ⟨pattern, hpattern, htiles, ?_⟩, hsame _ rfl ?_⟩
  · obtain rfl := Except.ok.inj hpattern
    decide
  · intro x hx y hy p
    rw [Bitmap.shows_iff _ ⟨x, hx⟩ ⟨y, hy⟩, torn.shows_iff ⟨x, hx⟩ ⟨y, hy⟩, htile]

end Pattern

end Portrayal
