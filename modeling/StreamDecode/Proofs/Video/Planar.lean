import StreamDecode.Engine.RawVideo
import StreamDecode.Proofs.Renderer.Rendering

/-!
# Packed planar pictures as NV12

A packed picture in planar 4:2:0 has the luma plane first and the two chroma planes behind it, each
with half the width and half the height, rounded up. Its NV12 form (`Nv12.ofPlanar`) has the same
luma plane, and the two chroma planes byte by byte in turn. `VideoRenderer.rendering_planar` says
that the frame that is cut out of such a picture is rendered to just that, for every size.

The rows of packed planes follow each other without gaps, so that the position of a byte in the
picture is all that counts (`Image.byte?_packed`).
-/

namespace StreamDecode

/-! ## Packed planes -/

namespace Image

/-- In a plane without gaps between the rows, the byte at a position is found by row and column. -/
theorem byte?_packed {image : Image} {plane : Nat} {bytes : Bytes} {stride : Nat}
    (hplane : image.planes[plane]? = some bytes) (hstride : image.strides[plane]? = some stride)
    (position : Nat) :
    image.byte? plane (position / stride) (position % stride) = bytes[position]? := by
  unfold byte?
  rw [hplane, hstride]
  show bytes[position / stride * stride + position % stride]? = _
  rw [Nat.div_add_mod']

theorem planeFault?_packed {image : Image} {plane : Nat} {bytes : Bytes} {rowBytes rows : Nat}
    (hplane : image.planes[plane]? = some bytes) (hstride : image.strides[plane]? = some rowBytes)
    (hrow : image.format.rowBytes? plane image.width = some rowBytes)
    (hrows : image.format.rows? plane image.height = some rows)
    (h : rowBytes * rows ≤ bytes.size) : image.planeFault? plane = none := by
  unfold planeFault?
  rw [hplane, hstride, hrow, hrows]
  refine if_pos ?_
  show planeCovers bytes.size rowBytes rowBytes rows = true
  unfold planeCovers
  cases rows with
  | zero => rfl
  | succ rows =>
    rw [Nat.mul_succ] at h
    simp [h]

end Image

namespace Nv12

variable (size : FrameSize)

/-- The bytes of one chroma plane of a planar picture. -/
def chromaPlaneBytes : Nat := halfUp size.width.toNat * halfUp size.height.toNat

theorem chromaBytes_eq : chromaBytes size = 2 * chromaPlaneBytes size := by
  unfold chromaBytes chromaRowBytes chromaPlaneBytes
  rw [Nat.mul_assoc]

variable {size} in
theorem imageBytes?_planar (hl : lumaBytes size + chromaBytes size ≤ maxBufferLength) :
    PixelFormat.yuv420p.imageBytes? size = some (lumaBytes size + chromaBytes size) := by
  have hlength : PixelFormat.yuv420p.imageLength size = lumaBytes size + chromaBytes size := by
    rw [chromaBytes_eq, Nat.two_mul, ← Nat.add_assoc, ← Nat.zero_add (lumaBytes size)]
    rfl
  rw [PixelFormat.imageBytes?_eq PixelFormat.noConfusion, hlength,
    Nat.mod_eq_of_lt (lt_size_of_le hl)]

/-- The NV12 planes of a packed planar picture: the luma plane, and the bytes of the two chroma
planes in turn. -/
def ofPlanar (data : Bytes) : Planes where
  luma := data.extract 0 (lumaBytes size)
  chroma := Array.ofFn fun position : Fin (chromaBytes size) =>
    data.getD (lumaBytes size + position % 2 * chromaPlaneBytes size + position / 2) 0

/-- The NV12 form of a packed planar picture. -/
def packPlanar (data : Bytes) : Bytes := (ofPlanar size data).luma ++ (ofPlanar size data).chroma

/-! ## Cutting a packed picture -/

/-- The image that is cut out of a packed planar picture. -/
def planarImage (data : Bytes) : Image where
  format := .yuv420p
  size := size
  planes := RawVideoEngine.cutPlanes data 0 (PixelFormat.yuv420p.planes size)
  strides := (PixelFormat.yuv420p.planes size).map Prod.fst

theorem planes_planarImage (data : Bytes) :
    (planarImage size data).planes =
      [data.extract 0 (lumaBytes size),
        data.extract (lumaBytes size) (lumaBytes size + chromaPlaneBytes size),
        data.extract (lumaBytes size + chromaPlaneBytes size)
          (lumaBytes size + chromaPlaneBytes size + chromaPlaneBytes size)] := by
  show [data.extract 0 (0 + lumaBytes size),
    data.extract (0 + lumaBytes size) (0 + lumaBytes size + chromaPlaneBytes size),
    data.extract (0 + lumaBytes size + chromaPlaneBytes size)
      (0 + lumaBytes size + chromaPlaneBytes size + chromaPlaneBytes size)] = _
  rw [Nat.zero_add]

variable {size : FrameSize} {data : Bytes}

theorem check_planarImage (hdata : data.size = lumaBytes size + chromaBytes size) :
    (planarImage size data).check = .ok () := by
  rw [chromaBytes_eq] at hdata
  have hplanes := planes_planarImage size data
  have hluma : (planarImage size data).planeFault? 0 = none := by
    refine Image.planeFault?_packed (by rw [hplanes]; rfl) rfl rfl rfl ?_
    show lumaBytes size ≤ Array.size _
    rw [Array.size_extract]
    omega
  have hfirst : (planarImage size data).planeFault? 1 = none := by
    refine Image.planeFault?_packed (by rw [hplanes]; rfl) rfl rfl rfl ?_
    show chromaPlaneBytes size ≤ Array.size _
    rw [Array.size_extract]
    omega
  have hsecond : (planarImage size data).planeFault? 2 = none := by
    refine Image.planeFault?_packed (by rw [hplanes]; rfl) rfl rfl rfl ?_
    show chromaPlaneBytes size ≤ Array.size _
    rw [Array.size_extract]
    omega
  have hfault : (List.range 3).findSome? (planarImage size data).planeFault? = none := by
    simp [List.range_succ, hluma, hfirst, hsecond]
  have hcount : ¬ ((planarImage size data).planes.length < 3 ∨
      (planarImage size data).strides.length < 3) := by
    rw [hplanes]
    exact not_or.mpr ⟨Nat.lt_irrefl 3, Nat.lt_irrefl 3⟩
  unfold Image.check
  rw [show (planarImage size data).format.planeCount = 3 from rfl]
  dsimp only
  rw [if_neg hcount, hfault]

theorem lumaByte?_planarImage {position : Nat} :
    lumaByte? (planarImage size data) position = (ofPlanar size data).luma[position]? :=
  Image.byte?_packed (by rw [planes_planarImage]; rfl) rfl position

theorem getElem?_chromaPlane (hdata : data.size = lumaBytes size + chromaBytes size)
    {position plane : Nat} (hp : position < chromaPlaneBytes size) (hplane : plane < 2) :
    (data.extract (lumaBytes size + plane * chromaPlaneBytes size)
        (lumaBytes size + plane * chromaPlaneBytes size + chromaPlaneBytes size))[position]? =
      some (data.getD (lumaBytes size + plane * chromaPlaneBytes size + position) 0) := by
  rw [chromaBytes_eq] at hdata
  have hbefore : plane * chromaPlaneBytes size ≤ chromaPlaneBytes size :=
    Nat.le_trans (Nat.mul_le_mul_right _ (Nat.le_of_lt_succ hplane)) (Nat.le_of_eq (Nat.one_mul _))
  have hwithin : lumaBytes size + plane * chromaPlaneBytes size + position < data.size := by omega
  rw [Array.getElem?_extract, if_pos (by omega), Array.getElem?_eq_getElem hwithin,
    Array.getD_eq_getD_getElem?, Array.getElem?_eq_getElem hwithin]
  rfl

/-- The chroma pair of a block has the bytes of both planes at the position of the block. -/
theorem chroma?_planarImage (hdata : data.size = lumaBytes size + chromaBytes size) {position : Nat}
    (hp : position < chromaPlaneBytes size) :
    chroma? (planarImage size data) (position / halfUp size.width.toNat)
        (position % halfUp size.width.toNat) =
      some (data.getD (lumaBytes size + position) 0,
        data.getD (lumaBytes size + chromaPlaneBytes size + position) 0) := by
  have hplanes := planes_planarImage size data
  have hfirst := getElem?_chromaPlane hdata hp Nat.two_pos
  have hsecond := getElem?_chromaPlane hdata hp Nat.one_lt_two
  rw [Nat.zero_mul, Nat.add_zero] at hfirst
  rw [Nat.one_mul] at hsecond
  show pair? (Image.byte? _ 1 _ _) (Image.byte? _ 2 _ _) = _
  rw [Image.byte?_packed (by rw [hplanes]; rfl) rfl, hfirst,
    Image.byte?_packed (by rw [hplanes]; rfl) rfl, hsecond]
  rfl

theorem chromaByte?_planarImage (hdata : data.size = lumaBytes size + chromaBytes size)
    {position : Nat} (hp : position < chromaBytes size) :
    chromaByte? (planarImage size data) position = (ofPlanar size data).chroma[position]? := by
  have hblock : position / 2 < chromaPlaneBytes size := by
    rw [chromaBytes_eq] at hp
    omega
  have hchroma := chroma?_planarImage hdata hblock
  -- two bytes a block: row and column of the byte are those of its block
  rw [Nat.div_div_eq_div_mul, ← Nat.mod_mul_right_div_self] at hchroma
  unfold chromaByte?
  show Option.map _ (chroma? (planarImage size data) (position / (2 * halfUp size.width.toNat))
    (position % (2 * halfUp size.width.toNat) / 2)) = _
  rw [hchroma, Option.map_some]
  show some (if position % (2 * halfUp size.width.toNat) % 2 = 0 then _ else _) = _
  rw [Nat.mod_mul_right_mod]
  show _ = (Array.ofFn _)[position]?
  rw [Array.getElem?_ofFn, dif_pos hp]
  rcases Nat.mod_two_eq_zero_or_one position with hparity | hparity
  · rw [if_pos hparity, hparity, Nat.zero_mul, Nat.add_zero]
  · rw [if_neg (by omega), hparity, Nat.one_mul]

theorem planes?_planarImage (hdata : data.size = lumaBytes size + chromaBytes size) :
    planes? (planarImage size data) = some (ofPlanar size data) := by
  have hluma : Bytes.tabulate? (lumaBytes size) (lumaByte? (planarImage size data)) =
      some (ofPlanar size data).luma := by
    refine Bytes.tabulate?_eq_some_iff.mpr ⟨?_, fun _ _ => lumaByte?_planarImage⟩
    show (data.extract 0 (lumaBytes size)).size = _
    rw [Array.size_extract, hdata]
    omega
  have hchroma : Bytes.tabulate? (chromaBytes size) (chromaByte? (planarImage size data)) =
      some (ofPlanar size data).chroma :=
    Bytes.tabulate?_eq_some_iff.mpr ⟨Array.size_ofFn, fun _ hp => chromaByte?_planarImage hdata hp⟩
  unfold planes?
  show (do
    let luma ← Bytes.tabulate? (lumaBytes size) (lumaByte? (planarImage size data))
    let chroma ← Bytes.tabulate? (chromaBytes size) (chromaByte? (planarImage size data))
    some (Planes.mk luma chroma)) = _
  rw [hluma, hchroma]
  rfl

/-! ## What the NV12 form holds -/

theorem size_luma_ofPlanar (hdata : data.size = lumaBytes size + chromaBytes size) :
    (ofPlanar size data).luma.size = lumaBytes size := by
  show (data.extract 0 (lumaBytes size)).size = _
  rw [Array.size_extract]
  omega

theorem size_packPlanar (hdata : data.size = lumaBytes size + chromaBytes size) :
    (packPlanar size data).size = data.size := by
  unfold packPlanar
  rw [Array.size_append, size_luma_ofPlanar hdata, hdata]
  exact congrArg (lumaBytes size + ·) Array.size_ofFn

theorem luma_packPlanar (hdata : data.size = lumaBytes size + chromaBytes size) {position : Nat}
    (hp : position < lumaBytes size) : (packPlanar size data)[position]? = data[position]? := by
  unfold packPlanar
  rw [Array.getElem?_append_left (by rw [size_luma_ofPlanar hdata]; exact hp)]
  show (data.extract 0 (lumaBytes size))[position]? = _
  rw [Array.getElem?_extract, if_pos (by omega), Nat.zero_add]

/-- The byte of the chroma plane at a position comes from one of the two planes of the picture. -/
theorem chroma_packPlanar (hdata : data.size = lumaBytes size + chromaBytes size) {position : Nat}
    (hp : position < chromaBytes size) :
    (packPlanar size data)[lumaBytes size + position]? =
      data[lumaBytes size + position % 2 * chromaPlaneBytes size + position / 2]? := by
  have hluma := size_luma_ofPlanar hdata
  rw [chromaBytes_eq] at hdata
  have hplane : position % 2 * chromaPlaneBytes size ≤ chromaPlaneBytes size :=
    Nat.le_trans (Nat.mul_le_mul_right _ (Nat.le_of_lt_succ (Nat.mod_lt _ Nat.two_pos)))
      (Nat.le_of_eq (Nat.one_mul _))
  have hwithin : lumaBytes size + position % 2 * chromaPlaneBytes size + position / 2 <
      data.size := by
    rw [chromaBytes_eq] at hp
    omega
  unfold packPlanar
  rw [Array.getElem?_append_right (by omega), hluma, Nat.add_sub_cancel_left]
  show (Array.ofFn _)[position]? = _
  rw [Array.getElem?_ofFn, dif_pos hp, Array.getD_eq_getD_getElem?,
    Array.getElem?_eq_getElem hwithin]
  rfl

end Nv12

/-! ## Rendering -/

namespace Nv12Conversion

theorem converted_of_convert {conversion : Nv12Conversion} {planes : List Bytes}
    {strides : List Nat} {made : Nv12.Planes}
    (hlength : Nv12.lumaBytes conversion.size + Nv12.chromaBytes conversion.size < UInt64.size)
    (h : Nv12.convert (conversion.image planes strides) (Nv12.lumaBytes conversion.size)
      (Nv12.chromaBytes conversion.size) = .ok made) :
    conversion.converted planes strides conversion.outputBytes =
      .ok (made.luma ++ made.chroma) := by
  have houtput := outputBytes_of_lt hlength
  have hluma : ((Bytes.zeros conversion.outputBytes).extract 0
      (Nv12.lumaBytes conversion.size)).size = Nv12.lumaBytes conversion.size := by
    rw [Array.size_extract, Bytes.size_zeros]
    omega
  have hchroma : ((Bytes.zeros conversion.outputBytes).extract (Nv12.lumaBytes conversion.size)
      conversion.outputBytes).size = Nv12.chromaBytes conversion.size := by
    rw [Array.size_extract, Bytes.size_zeros]
    omega
  unfold converted convertInto Nv12.convertInto
  rw [Bytes.size_zeros, if_neg (not_not_intro rfl)]
  dsimp only
  rw [hluma, hchroma, h]
  rfl

end Nv12Conversion

namespace VideoRenderer

open Nv12

variable {size : FrameSize} {data : Bytes}

theorem conversionFor_planar (hpixels : size.isEmpty = false)
    (hl : lumaBytes size + chromaBytes size ≤ maxBufferLength) :
    conversionFor size .yuv420p = .ok ⟨size, .yuv420p⟩ := by
  have hcreated : Nv12Conversion.create size .yuv420p .nv12 = .ok ⟨size, .yuv420p⟩ := by
    unfold Nv12Conversion.create
    rw [hpixels]
    rfl
  unfold conversionFor
  rw [hcreated]
  dsimp only [bind, Except.bind]
  rw [Nv12Conversion.outputBytes_of_lt (lt_size_of_le hl), allocate_of_le _ hl]

theorem Sound.prepare_planar {renderer : VideoRenderer} (h : renderer.Sound)
    (hpixels : size.isEmpty = false) (hl : lumaBytes size + chromaBytes size ≤ maxBufferLength)
    {output : MediaType} (hcoding : output.coding = .nv12) (frameRate pixelAspect : Ratio) :
    ∃ next, renderer.prepare (.video ⟨size, .yuv420p, frameRate, pixelAspect⟩) output =
      (.ok (), next) := by
  have hcleared : Sound { renderer with conversion := none } := ⟨nofun, h.buffer⟩
  unfold VideoRenderer.prepare StreamParams.video?
  rw [if_neg (not_not_intro hcoding), Option.filter_some_pos (by simp [hpixels])]
  dsimp only
  rcases hcleared.rebuild_cases size .yuv420p with
    ⟨error, -, hfailed⟩ | ⟨conversion, next, hrebuilt, -⟩
  · rw [conversionFor_planar hpixels hl] at hfailed
    cases hfailed
  · rw [hrebuilt]
    exact ⟨next, rfl⟩

theorem convert_planarImage (hdata : data.size = lumaBytes size + chromaBytes size) :
    convert (planarImage size data) (lumaBytes size) (chromaBytes size) =
      .ok (ofPlanar size data) := by
  have hsizes : ¬ (lumaBytes size ≠ lumaBytes (planarImage size data).size ∨
      chromaBytes size ≠ chromaBytes (planarImage size data).size) :=
    not_or.mpr ⟨not_not_intro rfl, not_not_intro rfl⟩
  unfold convert
  rw [if_neg hsizes, check_planarImage hdata, planes?_planarImage hdata]
  rfl

/-- The frame that is cut out of a packed planar picture is rendered to the NV12 form of the
picture. -/
theorem rendering_planar {engine : RawVideoEngine} (hformat : engine.format = .yuv420p)
    (hplanes : engine.planes = PixelFormat.yuv420p.planes engine.size)
    (hpixels : engine.size.isEmpty = false)
    (hl : lumaBytes engine.size + chromaBytes engine.size ≤ maxBufferLength) {packet : Packet}
    (hdata : packet.data.size = lumaBytes engine.size + chromaBytes engine.size) :
    rendering engine.params (.video (engine.frame packet)) =
      .ok (packPlanar engine.size packet.data) := by
  obtain ⟨size, format, frameRate, imageBytes, planes, output, opened, ended⟩ := engine
  dsimp only at hformat hplanes hpixels hl hdata ⊢
  subst hformat hplanes
  have hsource : ((some size).filter (!·.isEmpty)).getD size = size := by
    rw [Option.filter_some_pos (by simp [hpixels])]
    rfl
  have hconverted := Nv12Conversion.converted_of_convert (lt_size_of_le hl)
    (show convert (Nv12Conversion.image ⟨size, .yuv420p⟩ (planarImage size packet.data).planes
      (planarImage size packet.data).strides) _ _ = _ from convert_planarImage hdata)
  unfold rendering sourceSize
  dsimp only [RawVideoEngine.params, RawVideoEngine.frame, StreamParams.video?, Option.map_some]
  rw [hsource, if_neg (not_not_intro rfl)]
  show (do
    let conversion ← conversionFor size .yuv420p
    conversion.converted (planarImage size packet.data).planes
      (planarImage size packet.data).strides conversion.outputBytes) = _
  rw [conversionFor_planar hpixels hl]
  exact hconverted

end VideoRenderer

end StreamDecode
