import Portrayal.Proofs.Cells
import Portrayal.Proofs.LoadedScene
import Portrayal.Proofs.Tiles

/-!
The bitmaps of fill images. A scene gives a fill image as a symbol, a size and one pixel. Its bitmap has
that pixel in every place, and the limit on the size, far below `2 ^ 62` pixels, is why none of them is
too far down to be looked for. Bitmaps are registered in the order of the scene, so a symbol that is given
twice has the later bitmap:

    fill images     3: 2 x 2 red     5: 0 x 4 red     3: 1 x 1 blue
    symbol 3        2 x 2 red                         1 x 1 blue
    symbol 5                         no pixel

Main statement: in a scene that loads, each symbol has the bitmap of the last fill image that is given
for it, of the right size, with nothing but its pixel, and readable unless it is from a foreign origin.
-/

namespace Portrayal

/-! ### One pixel, many times over -/

namespace Samples

variable {p : Pixel} {count i : Nat}

theorem byte?_repeated (p : Pixel) (count i : Nat) :
    (repeated p count).byte? i = ((List.replicate count p).flatMap Pixel.bytes)[i]? := by
  have hbytes : ∀ p : Pixel, p.bytes.length = 4 := fun _ => rfl
  by_cases h : i < 4 * count
  · have hpixel : (List.replicate count p)[i / 4]? = some p :=
      List.getElem?_replicate_of_lt (Nat.div_lt_of_lt_mul h)
    have hbyte := getElem?_flatMap hbytes hpixel (Nat.mod_lt i (by decide))
    rw [Nat.div_add_mod'] at hbyte
    rw [byte?, if_pos h, hbyte]
  · have hlength : ((List.replicate count p).flatMap Pixel.bytes).length ≤ i := by
      rw [length_flatMap hbytes, List.length_replicate]
      omega
    rw [byte?, if_neg h, List.getElem?_eq_none hlength]

theorem pixel?_repeated (h : i < count) : (repeated p count).pixel? (4 * i) = some p := by
  have hbyte : ∀ k < 4, (repeated p count).byte? (4 * i + k) = p.bytes[k]? := by
    intro k hk
    rw [byte?, if_pos (by omega), Nat.mul_add_mod, Nat.mod_eq_of_lt hk]
  exact pixel?_eq_some_iff.mpr ⟨hbyte 0 (by decide), hbyte 1 (by decide), hbyte 2 (by decide),
    hbyte 3 (by decide)⟩

end Samples

namespace FillImageSpec

variable {spec : FillImageSpec} {b : Bitmap}

/-- The bitmap of a fill image, whatever its size. -/
def bitmap (spec : FillImageSpec) : Bitmap :=
  { Bitmap.filled spec.width spec.height spec.pixel with clean := !spec.crossOrigin }

/-- What is registered for a fill image. -/
def entry (spec : FillImageSpec) : UInt8 × Bitmap := (spec.symbol, spec.bitmap)

/-- Whether a fill image is within the limit. -/
def Fits (spec : FillImageSpec) : Prop := spec.width.toNat * spec.height.toNat ≤ 4096 * 4096

/-- A bitmap is of the size of a fill image and has nothing but its pixel. -/
structure Fills (spec : FillImageSpec) (b : Bitmap) : Prop where
  width : b.width = spec.width
  height : b.height = spec.height
  size : b.samples.size = spec.width.toNat * spec.height.toNat * 4
  bytes : ∀ i, b.samples.byte? i =
    ((List.replicate (spec.width.toNat * spec.height.toNat) spec.pixel).flatMap Pixel.bytes)[i]?
  inside : ∀ x y, x < spec.width → y < spec.height → b.pixel? x y = .ok (some spec.pixel)
  outside : ∀ x y, ¬ (x < spec.width ∧ y < spec.height) → b.pixel? x y = .ok none
  clean : b.clean = true ↔ spec.crossOrigin = false

theorem bitmap?_eq_ok_iff : spec.bitmap? = .ok b ↔ spec.Fits ∧ spec.bitmap = b := by
  rw [bitmap?, maxFillImagePixels, Fits]
  by_cases h : spec.width.toNat * spec.height.toNat ≤ 4096 * 4096
  · rw [if_pos h, Except.ok.injEq]
    exact (and_iff_right h).symm
  · rw [if_neg h]
    simp [h]

/-- The limit keeps the places of all pixels within a word, so each is read from its own bytes. -/
theorem Fits.pixel?_bitmap (h : spec.Fits) {x y : UInt32} (hx : x < spec.width)
    (hy : y < spec.height) : spec.bitmap.pixel? x y = .ok (some spec.pixel) := by
  rw [Fits] at h
  have hend : 4 * (y.toNat * spec.width.toNat + x.toNat) + 4 ≤
      4 * (spec.width.toNat * spec.height.toNat) := Bitmap.place_add_le (b := spec.bitmap) hx hy
  have hnear : ¬ spec.bitmap.Beyond x y := by
    rintro ⟨-, -, hfar⟩
    exact absurd (Nat.le_trans hfar hend) (by omega)
  have hinside : y.toNat * spec.width.toNat + x.toNat < spec.width.toNat * spec.height.toNat := by
    omega
  obtain ⟨found, hfound⟩ := Bitmap.exists_pixel?_iff.mpr hnear
  have hpixel : spec.bitmap.samples.pixel? (spec.bitmap.place x y) = some spec.pixel :=
    Samples.pixel?_repeated hinside
  rw [hfound, (Bitmap.holds_iff_of_pixel? hfound).mpr (Bitmap.holds_iff.mpr ⟨hx, hy, hpixel⟩)]

theorem Fits.fills (h : spec.Fits) : spec.Fills spec.bitmap where
  width := rfl
  height := rfl
  size := Nat.mul_comm ..
  bytes i := Samples.byte?_repeated _ _ i
  inside _ _ hx hy := h.pixel?_bitmap hx hy
  outside _ _ hout := if_neg hout
  clean := by simp [bitmap]

end FillImageSpec

/-! ### Bitmaps by their symbols -/

namespace FillImages

/-- What is registered for a symbol is a cell. -/
theorem cell_symbol (symbol : UInt8) :
    Cell (fun (images : FillImages) (entry : UInt8 × Bitmap) => images.insert entry.1 entry.2)
      (fun images => images.get? symbol) fun entry b => entry = (symbol, b) where
  given images entry b h := by
    rw [h, get?_insert, if_pos rfl]
  kept images entry h := by
    rw [get?_insert, if_neg]
    rintro rfl
    exact h entry.2 rfl

/-- What is registered for a symbol after all is the last bitmap given for it. -/
theorem lastGiven_ofList (entries : List (UInt8 × Bitmap)) (symbol : UInt8) :
    LastGiven (fun entry b => entry = (symbol, b)) entries ((ofList entries).get? symbol) :=
  (cell_symbol symbol).lastGiven_foldl entries rfl

end FillImages

/-! ### Scenes that load -/

/-- Checks that all go through found what they look for in every item. -/
theorem of_mapM_eq_ok {ε α β : Type} {check : α → Except ε β} {p : α → Prop} {g : α → β}
    (hcheck : ∀ a b, check a = .ok b → p a ∧ g a = b) : ∀ {items : List α} {results : List β},
      items.mapM check = .ok results → (∀ a ∈ items, p a) ∧ items.map g = results
  | [], results, h => by
    rw [List.mapM_nil] at h
    exact ⟨by simp, Except.ok.inj h⟩
  | a :: items, results, h => by
    rw [List.mapM_cons] at h
    obtain ⟨b, hfirst, h⟩ := bind_eq_ok_iff.mp h
    obtain ⟨rest, hrest, h⟩ := bind_eq_ok_iff.mp h
    obtain ⟨hp, rfl⟩ := hcheck a b hfirst
    obtain ⟨hall, rfl⟩ := of_mapM_eq_ok hcheck hrest
    exact ⟨List.forall_mem_cons.mpr ⟨hp, hall⟩, Except.ok.inj h⟩

namespace Scene

variable {scene : Scene} {loaded : LoadedScene} {images : FillImages} {notices : List Notice}

/-- Fill images that load are all within the limit, and their bitmaps are registered in order. -/
theorem of_loadFillImages (h : scene.loadFillImages = .ok images) :
    (∀ spec ∈ scene.fillImages, spec.Fits) ∧
      images = .ofList (scene.fillImages.map FillImageSpec.entry) := by
  obtain ⟨entries, hentries, h⟩ := bind_eq_ok_iff.mp h
  have hentry : ∀ (spec : FillImageSpec) (entry : UInt8 × Bitmap),
      (do let bitmap ← spec.bitmap?; return (spec.symbol, bitmap)) = Except.ok entry →
        spec.Fits ∧ spec.entry = entry := by
    intro spec entry hentry
    obtain ⟨b, hbitmap, hentry⟩ := bind_eq_ok_iff.mp hentry
    obtain ⟨hfits, rfl⟩ := FillImageSpec.bitmap?_eq_ok_iff.mp hbitmap
    exact ⟨hfits, Except.ok.inj hentry⟩
  obtain ⟨hfits, rfl⟩ := of_mapM_eq_ok hentry hentries
  exact ⟨hfits, (Except.ok.inj h).symm⟩

/-- In a scene that loads every fill image is within the limit on its size. The last one that is given
for a symbol is registered for it, as a bitmap of its size, with its pixel in every place and nothing in any
other, which can be read back unless it is from a foreign origin. A symbol that none is given for has no
bitmap. -/
theorem load_fills (h : scene.load = ⟨.ok loaded, notices⟩) :
    (∀ spec ∈ scene.fillImages, spec.Fits) ∧
      (∀ early spec late, scene.fillImages = early ++ spec :: late →
        (∀ later ∈ late, later.symbol ≠ spec.symbol) →
          ∃ b, loaded.layer.fillImages.get? spec.symbol = some b ∧ spec.Fills b) ∧
      ∀ symbol, loaded.layer.fillImages.get? symbol = none ↔
        ∀ spec ∈ scene.fillImages, spec.symbol ≠ symbol := by
  obtain ⟨images, sublayers, s, highlight, t, hstages, -, -, rfl⟩ := load_eq_ok_iff.mp h
  obtain ⟨hfits, rfl⟩ := of_loadFillImages hstages.1
  have hlast := FillImages.lastGiven_ofList (scene.fillImages.map FillImageSpec.entry)
  refine ⟨hfits, ?_, fun symbol => ?_⟩
  · intro early spec late hsplit hlate
    have hspec : spec.Fits := hfits spec (by rw [hsplit]; simp)
    refine ⟨spec.bitmap, ?_, hspec.fills⟩
    have hgiven : LastGiven (fun entry b => entry = (spec.symbol, b))
        (scene.fillImages.map FillImageSpec.entry) (some spec.bitmap) := by
      rw [hsplit, List.map_append, List.map_cons]
      refine .last rfl ?_
      simp only [List.mem_map, forall_exists_index, and_imp]
      rintro entry later hlater rfl b hb
      exact hlate later hlater (congrArg Prod.fst hb)
    exact (FillImages.cell_symbol spec.symbol).read_foldl hgiven .empty
  · rw [← Option.not_isSome_iff_eq_none, (hlast symbol).isSome_iff]
    constructor
    · intro hnone spec hspec hsymbol
      exact hnone ⟨spec.entry, List.mem_map_of_mem hspec, spec.bitmap, by rw [← hsymbol]; rfl⟩
    · rintro hnone ⟨entry, hentry, b, hb⟩
      obtain ⟨spec, hspec, rfl⟩ := List.mem_map.mp hentry
      exact hnone spec hspec (congrArg Prod.fst hb)

/-- A scene with two fill images for one symbol, the later one from a foreign origin, and one fill image
without a pixel. -/
def patterned : Scene where
  layerUrl := ""
  zoom := 0
  highlight := none
  fillImages :=
    [⟨3, 2, 2, ⟨255, 0, 0, 255⟩, false⟩, ⟨5, 0, 4, ⟨255, 0, 0, 255⟩, false⟩,
      ⟨3, 1, 1, ⟨0, 0, 255, 255⟩, true⟩]
  sublayers := []

/-- The later one of the two is registered, and the fill image without a pixel is registered too. -/
theorem load_fills_patterned : ∃ loaded, patterned.load = ⟨.ok loaded, []⟩ ∧
    (∃ b, loaded.layer.fillImages.get? 3 = some b ∧
      FillImageSpec.Fills ⟨3, 1, 1, ⟨0, 0, 255, 255⟩, true⟩ b) ∧
    (∃ b, loaded.layer.fillImages.get? 5 = some b ∧
      FillImageSpec.Fills ⟨5, 0, 4, ⟨255, 0, 0, 255⟩, false⟩ b) ∧
    loaded.layer.fillImages.get? 4 = none := by
  have hload : patterned.load = ⟨.ok _, []⟩ := rfl
  obtain ⟨-, hlast, hnone⟩ := load_fills hload
  refine ⟨_, hload, ?_, ?_, ?_⟩
  · exact hlast [⟨3, 2, 2, ⟨255, 0, 0, 255⟩, false⟩, ⟨5, 0, 4, ⟨255, 0, 0, 255⟩, false⟩]
      ⟨3, 1, 1, ⟨0, 0, 255, 255⟩, true⟩ [] rfl (by decide)
  · exact hlast [⟨3, 2, 2, ⟨255, 0, 0, 255⟩, false⟩] ⟨5, 0, 4, ⟨255, 0, 0, 255⟩, false⟩
      [⟨3, 1, 1, ⟨0, 0, 255, 255⟩, true⟩] rfl (by decide)
  · exact (hnone 4).mpr (by decide)

end Scene

end Portrayal
