import StreamDecode.Renderer.Video

/-!
# The length of rendered pictures

A video renderer hands out tightly packed NV12 in the size of the frame. `render_eq_ok` says so for
every renderer, whatever it keeps from earlier frames: a frame that is rendered has the size that
the engine reports, if the engine reports one, and the bytes are those of an NV12 image of that size.
-/

namespace StreamDecode

/-- The frame size that an engine reports, if it knows one. -/
def StreamParams.frameSize? (params : StreamParams) : Option FrameSize :=
  (params.video?.map VideoParams.size).filter (!·.isEmpty)

/-! ## Planes -/

namespace Nv12

theorem imageBytes?_eq (size : FrameSize) :
    PixelFormat.nv12.imageBytes? size =
      some ((lumaBytes size + chromaBytes size) % UInt64.size) := by
  rw [PixelFormat.imageBytes?_eq PixelFormat.noConfusion, ← Nat.zero_add (lumaBytes size)]
  rfl

theorem size_of_convert {image : Image} {lumaLength chromaLength : Nat} {planes : Planes}
    (h : convert image lumaLength chromaLength = .ok planes) :
    planes.luma.size = lumaLength ∧ planes.chroma.size = chromaLength := by
  unfold convert at h
  split at h
  · cases h
  next hlengths =>
  obtain ⟨rfl, rfl⟩ : lumaLength = lumaBytes image.size ∧ chromaLength = chromaBytes image.size := by
    simpa only [not_or, Decidable.not_not] using hlengths
  split at h
  · cases h
  split at h
  · cases h
  cases hp : planes? image with
  | none => rw [hp] at h; cases h
  | some made =>
    rw [hp] at h
    cases h
    simp only [planes?, Option.bind_eq_bind, Option.bind_eq_some_iff] at hp
    obtain ⟨luma, hluma, chroma, hchroma, hmade⟩ := hp
    cases hmade
    exact ⟨(Bytes.tabulate?_eq_some_iff.mp hluma).1, (Bytes.tabulate?_eq_some_iff.mp hchroma).1⟩

end Nv12

namespace Nv12Conversion

theorem outputBytes_eq (conversion : Nv12Conversion) :
    conversion.outputBytes =
      (Nv12.lumaBytes conversion.size + Nv12.chromaBytes conversion.size) % UInt64.size :=
  congrArg (Option.getD · 0) (Nv12.imageBytes?_eq conversion.size)

theorem outputBytes_of_lt {conversion : Nv12Conversion}
    (h : Nv12.lumaBytes conversion.size + Nv12.chromaBytes conversion.size < UInt64.size) :
    conversion.outputBytes = Nv12.lumaBytes conversion.size + Nv12.chromaBytes conversion.size :=
  conversion.outputBytes_eq.trans (Nat.mod_eq_of_lt h)

/-- A conversion that succeeds fills a buffer that has the length of an image. -/
theorem size_of_convertInto {conversion : Nv12Conversion} {planes : List Bytes}
    {strides : List Nat} {before after : Bytes}
    (h : conversion.convertInto planes strides before = (.ok (), after)) :
    PixelFormat.nv12.imageBytes? conversion.size = some after.size := by
  unfold convertInto at h
  split at h
  · cases h
  next hlength =>
  have hlength : before.size = conversion.outputBytes := Decidable.not_not.mp hlength
  dsimp only at h
  unfold Nv12.convertInto at h
  dsimp only at h
  cases hc : Nv12.convert (conversion.image planes strides)
      (before.extract 0 (Nv12.lumaBytes conversion.size)).size
      (before.extract (Nv12.lumaBytes conversion.size) before.size).size with
  | error error => rw [hc] at h; cases h
  | ok made =>
    rw [hc] at h
    cases h
    obtain ⟨hluma, hchroma⟩ := Nv12.size_of_convert hc
    have hparts : (made.luma ++ made.chroma).size = before.size := by
      rw [Array.size_append, hluma, hchroma, Array.size_extract, Array.size_extract]
      omega
    rw [hparts, hlength]
    rfl

end Nv12Conversion

/-! ## Rendering -/

namespace VideoRenderer

theorem size_of_withConversion {renderer next : VideoRenderer} {size : FrameSize}
    {format : PixelFormat} {conversion : Nv12Conversion}
    (h : renderer.withConversion size format = .ok (conversion, next)) :
    conversion.size = size := by
  unfold withConversion at h
  split at h
  · next kept hk =>
    cases h
    have hfits := (Option.filter_eq_some_iff.mp hk).2
    simp only [Nv12Conversion.fits, Bool.and_eq_true, decide_eq_true_eq] at hfits
    exact hfits.1
  · unfold rebuild Nv12Conversion.create at h
    split at h
    · cases h
    split at h
    · cases h
    cases hb : renderer.bufferOf (Nv12Conversion.outputBytes ⟨size, format⟩) with
    | error error => simp only [hb, bind, Except.bind, reduceCtorEq] at h
    | ok buffer =>
      simp only [hb, bind, Except.bind, Except.ok.injEq, Prod.mk.injEq] at h
      rw [← h.1]

/-- A frame that is rendered is a picture in the size that the engine reports, if it reports one, and
it becomes an NV12 image of its own size. -/
theorem render_eq_ok {renderer next : VideoRenderer} {params : StreamParams} {frame : Frame}
    {data : Bytes} (h : renderer.render params frame = (.ok data, next)) :
    ∃ picture, frame = .video picture ∧
      (∀ size, params.frameSize? = some size → picture.size = size) ∧
      PixelFormat.nv12.imageBytes? picture.size = some data.size := by
  cases frame with
  | audio frame => cases h
  | video picture =>
    unfold render at h
    dsimp only at h
    split at h
    · cases h
    next hsize =>
    have hsize : picture.size = params.frameSize?.getD picture.size :=
      Decidable.not_not.mp hsize
    refine ⟨picture, rfl, ?_, ?_⟩
    · intro size hs
      rw [hs] at hsize
      exact hsize
    · cases hw : renderer.withConversion (sourceSize params picture)
          (sourceFormat params picture) with
      | error error => rw [hw] at h; cases h
      | ok kept =>
        obtain ⟨conversion, kept⟩ := kept
        rw [hw] at h
        dsimp only at h
        cases hc : conversion.convertInto picture.planes picture.strides kept.buffer with
        | mk result buffer =>
          cases result with
          | error error => rw [hc] at h; cases h
          | ok =>
            rw [hc] at h
            cases h
            have hconversion : conversion.size = picture.size :=
              (size_of_withConversion hw).trans hsize.symm
            rw [← hconversion]
            exact Nv12Conversion.size_of_convertInto hc

end VideoRenderer

end StreamDecode
