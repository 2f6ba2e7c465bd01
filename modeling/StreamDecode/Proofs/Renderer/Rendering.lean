import StreamDecode.Proofs.Audio.Length
import StreamDecode.Proofs.Video.Length
import StreamDecode.Renderer.Basic

/-!
# Rendering without a memory

A renderer keeps its conversion and its buffer from one frame to the next. `Renderer.rendering` says
what a frame becomes without them, with everything set up anew for this frame.

What is kept is always something that would be made again: the conversion of a renderer was made for
frames of its kind, and its buffer is not longer than buffers can be (`Sound`). So a renderer that
serves a kind of stream gives what `Renderer.rendering` gives, and it serves the kind afterwards
(`Renderer.Serves.render`), whatever it has rendered before.
-/

namespace StreamDecode

/-! ## Audio -/

namespace AudioConversion

/-- Of the source layout a conversion knows nothing but the number of channels. -/
theorem convert_of_channels (conversion : AudioConversion) {layout : ChannelLayout}
    (h : layout.channels = conversion.sourceLayout.channels) (planes : List Bytes)
    (samples : UInt32) (length : Nat) :
    ({ conversion with sourceLayout := layout } : AudioConversion).convert planes samples length =
      conversion.convert planes samples length := by
  obtain ⟨rate, source, sourceLayout, target, targetLayout⟩ := conversion
  obtain ⟨channels, speakers⟩ := layout
  obtain rfl : channels = sourceLayout.channels := h
  rfl

end AudioConversion

namespace AudioRenderer

/-- The layout of the source of a conversion. -/
def sourceLayoutFor (layout : ChannelLayout) : ChannelLayout :=
  if layout.speakers = 0 then .standard layout.channels else layout

theorem channels_sourceLayoutFor (layout : ChannelLayout) :
    (sourceLayoutFor layout).channels = layout.channels := by
  unfold sourceLayoutFor
  split
  · exact ChannelLayout.channels_standard _
  · rfl

theorem conversionFor_eq_ok_iff {rate : UInt32} {format : SampleFormat} {layout : ChannelLayout}
    {conversion : AudioConversion} :
    conversionFor rate format layout = .ok conversion ↔
      format.encoding? ≠ none ∧ layout.channels ≠ 0 ∧
        conversion = ⟨rate, format, sourceLayoutFor layout, .f32, .standard layout.channels⟩ := by
  have hsource := channels_sourceLayoutFor layout
  unfold sourceLayoutFor at hsource
  unfold conversionFor AudioConversion.create sourceLayoutFor
  dsimp only
  rw [if_neg (not_not_intro rfl)]
  by_cases hf : format.encoding? = none
  · rw [if_pos (Or.inl hf)]
    exact ⟨nofun, fun h => absurd hf h.1⟩
  · rw [if_neg (not_or.mpr ⟨hf, nofun⟩), if_neg (show SampleFormat.f32.isPlanar ≠ true from nofun)]
    simp only [hsource, ChannelLayout.channels_standard, or_self]
    by_cases hc : layout.channels = 0
    · rw [if_pos hc]
      exact ⟨nofun, fun h => absurd hc h.2.1⟩
    · rw [if_neg hc, Except.ok.injEq]
      exact ⟨fun h => ⟨hf, hc, h.symm⟩, fun h => h.2.2.symm⟩

/-- What a frame becomes. -/
def rendering : Frame → Except MediaError Bytes
  | .video _ => .error (.invalidData .videoFrameForAudio)
  | .audio frame => do
    let conversion ← conversionFor frame.rate frame.format frame.layout
    let buffer ← allocate (conversion.outputBytes frame.samples) "音频输出缓冲区"
    conversion.convert frame.planes frame.samples buffer.size

/-- The kept conversion was made for some frames, and the kept buffer was allocated. -/
structure Sound (renderer : AudioRenderer) : Prop where
  conversion : ∀ conversion, renderer.conversion = some conversion →
    ∃ rate format layout, conversionFor rate format layout = .ok conversion
  buffer : renderer.buffer.size ≤ maxBufferLength

theorem sound_new : new.Sound := ⟨nofun, Nat.zero_le _⟩

variable {renderer : AudioRenderer}

/-- The kept conversion is the one that would be made for the frame, but for the speakers. -/
theorem conversionOf_cases (h : renderer.Sound) (frame : AudioFrame) :
    (∃ error, renderer.conversionOf frame = .error error ∧
      conversionFor frame.rate frame.format frame.layout = .error error) ∨
    ∃ conversion layout, conversionFor frame.rate frame.format frame.layout = .ok conversion ∧
      layout.channels = conversion.sourceLayout.channels ∧
      renderer.conversionOf frame = .ok { conversion with sourceLayout := layout } ∧
      ∃ rate format source, conversionFor rate format source =
        .ok { conversion with sourceLayout := layout } := by
  unfold conversionOf
  cases hk : renderer.conversion.filter (fits · frame) with
  | none =>
    cases hn : conversionFor frame.rate frame.format frame.layout with
    | error error => exact Or.inl ⟨error, rfl, rfl⟩
    | ok conversion => exact Or.inr ⟨conversion, _, rfl, rfl, rfl, _, _, _, hn⟩
  | some kept =>
    obtain ⟨hsome, hfits⟩ := Option.filter_eq_some_iff.mp hk
    obtain ⟨rate, format, layout, hmade⟩ := h.conversion kept hsome
    -- a conversion that fits may have been made for other speakers
    obtain ⟨hformat, hchannels, rfl⟩ := conversionFor_eq_ok_iff.mp hmade
    simp only [fits, Bool.and_eq_true, decide_eq_true_eq, channels_sourceLayoutFor] at hfits
    obtain ⟨⟨rfl, rfl⟩, hlayout⟩ := hfits
    rw [hlayout] at hchannels hmade ⊢
    refine Or.inr ⟨_, sourceLayoutFor layout, conversionFor_eq_ok_iff.mpr
      ⟨hformat, hchannels, rfl⟩, ?_, rfl, _, _, _, hmade⟩
    show (sourceLayoutFor layout).channels = (sourceLayoutFor frame.layout).channels
    rw [channels_sourceLayoutFor, channels_sourceLayoutFor, hlayout]

theorem withBuffer_of_le (renderer : AudioRenderer) (shape : UInt32 × UInt32) {length : Nat}
    (hl : length ≤ maxBufferLength) :
    ∃ next, renderer.withBuffer shape length = .ok next ∧
      next.conversion = renderer.conversion ∧ next.buffer.size = length := by
  unfold withBuffer
  split
  · next hkept => exact ⟨renderer, rfl, rfl, hkept.2⟩
  · rw [allocate_of_le _ hl]
    exact ⟨_, rfl, rfl, Bytes.size_zeros length⟩

theorem withBuffer_of_lt (h : renderer.Sound) (shape : UInt32 × UInt32) {length : Nat}
    (hl : maxBufferLength < length) :
    renderer.withBuffer shape length =
      .error (.outOfMemory (.tooLong "音频输出缓冲区" length)) := by
  unfold withBuffer
  rw [if_neg, allocate_of_lt _ hl]
  · rfl
  · rintro ⟨-, hsize⟩
    exact absurd (hsize ▸ h.buffer) (Nat.not_le.mpr hl)

theorem Sound.withConversion (h : renderer.Sound) {conversion : AudioConversion}
    (hmade : ∃ rate format layout, conversionFor rate format layout = .ok conversion) :
    Sound { renderer with conversion := some conversion } := by
  refine ⟨?_, h.buffer⟩
  intro other ho
  cases ho
  exact hmade

/-- Once the conversion is chosen, what a frame becomes does not depend on the kept buffer. -/
theorem Sound.renderWith (h : renderer.Sound) {frame : AudioFrame} {conversion : AudioConversion}
    (hk : renderer.conversionOf frame = .ok conversion)
    (hmade : ∃ rate format layout, conversionFor rate format layout = .ok conversion) :
    (renderer.render (.audio frame)).1 = (do
      let buffer ← allocate (conversion.outputBytes frame.samples) "音频输出缓冲区"
      conversion.convert frame.planes frame.samples buffer.size) ∧
    (renderer.render (.audio frame)).2.Sound := by
  have hkept := h.withConversion hmade
  unfold AudioRenderer.render
  simp only [hk]
  by_cases hl : conversion.outputBytes frame.samples ≤ maxBufferLength
  · obtain ⟨next, hnext, hconversion, hsize⟩ := withBuffer_of_le
      { renderer with conversion := some conversion } (frame.layout.channels, frame.samples) hl
    have hnextKept : ∀ other, next.conversion = some other →
        ∃ rate format layout, conversionFor rate format layout = .ok other :=
      fun other ho => hkept.conversion other (hconversion ▸ ho)
    rw [hnext, allocate_of_le _ hl]
    unfold AudioConversion.convertInto
    simp only [bind, Except.bind, Bytes.size_zeros, hsize]
    cases hc : conversion.convert frame.planes frame.samples
        (conversion.outputBytes frame.samples) with
    | error error => exact ⟨rfl, hnextKept, hsize ▸ hl⟩
    | ok bytes =>
      obtain ⟨_, _, _, hfor⟩ := hmade
      -- the buffer that comes back has the length of the one that went in
      have htarget : conversion.target.isPlanar = false := by
        obtain ⟨-, -, rfl⟩ := conversionFor_eq_ok_iff.mp hfor
        rfl
      exact ⟨rfl, hnextKept, (AudioConversion.size_of_convert htarget hc).1 ▸ hl⟩
  · rw [withBuffer_of_lt hkept _ (Nat.not_le.mp hl), allocate_of_lt _ (Nat.not_le.mp hl)]
    exact ⟨rfl, hkept⟩

/-- A sound renderer renders a frame as if it had never rendered one. -/
theorem Sound.render (h : renderer.Sound) (frame : Frame) :
    (renderer.render frame).1 = rendering frame ∧ (renderer.render frame).2.Sound := by
  cases frame with
  | video frame => exact ⟨rfl, h⟩
  | audio frame =>
    rcases conversionOf_cases h frame with
      ⟨error, hk, hn⟩ | ⟨conversion, layout, hn, hlayout, hk, hmade⟩
    · simp only [AudioRenderer.render, rendering, hk, hn]
      exact ⟨rfl, h⟩
    · refine ⟨(h.renderWith hk hmade).1.trans ?_, (h.renderWith hk hmade).2⟩
      simp only [rendering, hn, bind, Except.bind, conversion.convert_of_channels hlayout]
      rfl

theorem Sound.prepare (h : renderer.Sound) (params : StreamParams) (output : MediaType) :
    (renderer.prepare params output).2.Sound := by
  unfold AudioRenderer.prepare
  split
  · exact h
  · dsimp only
    split
    · exact ⟨nofun, Nat.zero_le _⟩
    · split
      · next conversion hc =>
        refine ⟨?_, Nat.zero_le _⟩
        intro other ho
        cases ho
        exact ⟨_, _, _, hc⟩
      · exact ⟨nofun, Nat.zero_le _⟩

end AudioRenderer

/-! ## Video -/

namespace Nv12Conversion

/-- What a conversion makes of planes, in a buffer of a given length. -/
def converted (conversion : Nv12Conversion) (planes : List Bytes) (strides : List Nat)
    (length : Nat) : Except MediaError Bytes :=
  let (result, buffer) := conversion.convertInto planes strides (Bytes.zeros length)
  result.map fun _ => buffer

/-- A conversion reads nothing from its buffer but the length. -/
theorem map_convertInto (conversion : Nv12Conversion) (planes : List Bytes) (strides : List Nat)
    (buffer : Bytes) :
    ((conversion.convertInto planes strides buffer).1.map fun _ =>
        (conversion.convertInto planes strides buffer).2) =
      conversion.converted planes strides buffer.size := by
  unfold converted convertInto
  rw [Bytes.size_zeros]
  split
  · rfl
  · dsimp only [Nv12.convertInto]
    simp only [Array.size_extract, Bytes.size_zeros]
    generalize Nv12.convert (conversion.image planes strides) _ _ = outcome
    cases outcome with
    | error error => rfl
    | ok planes => rfl

theorem size_convertInto (conversion : Nv12Conversion) (planes : List Bytes) (strides : List Nat)
    (buffer : Bytes) : (conversion.convertInto planes strides buffer).2.size = buffer.size := by
  cases hc : conversion.convertInto planes strides buffer with
  | mk result after =>
    cases result with
    | error error =>
      unfold convertInto at hc
      split at hc
      · cases hc
        rfl
      · dsimp only at hc
        split at hc <;> cases hc
        rfl
    | ok =>
      have hafter := size_of_convertInto hc
      unfold convertInto at hc
      split at hc
      · cases hc
      next hlength =>
      have hlength : buffer.size = conversion.outputBytes := Decidable.not_not.mp hlength
      rw [hlength, outputBytes, hafter]
      rfl

end Nv12Conversion

namespace VideoRenderer

/-- The conversion for a size and a format, for which there must be a buffer. -/
def conversionFor (size : FrameSize) (format : PixelFormat) : Except MediaError Nv12Conversion := do
  let conversion ← Nv12Conversion.create size format .nv12
  let _ ← allocate conversion.outputBytes "NV12 输出缓冲区"
  .ok conversion

theorem eq_of_conversionFor {size : FrameSize} {format : PixelFormat}
    {conversion : Nv12Conversion} (h : conversionFor size format = .ok conversion) :
    conversion = ⟨size, format⟩ := by
  unfold conversionFor Nv12Conversion.create at h
  split at h
  · cases h
  split at h
  · cases h
  simp only [bind, Except.bind] at h
  split at h
  · cases h
  · cases h
    rfl

/-- What a frame becomes when the engine reports the given parameters. -/
def rendering (params : StreamParams) : Frame → Except MediaError Bytes
  | .audio _ => .error (.invalidData .audioFrameForVideo)
  | .video frame =>
    let size := sourceSize params frame
    if frame.size ≠ size then .error (.invalidData (.frameSize frame.size size))
    else do
      let conversion ← conversionFor size (sourceFormat params frame)
      conversion.converted frame.planes frame.strides conversion.outputBytes

/-- The kept conversion was made for some frames and the kept buffer for this conversion, and the
buffer was allocated. -/
structure Sound (renderer : VideoRenderer) : Prop where
  conversion : ∀ conversion, renderer.conversion = some conversion →
    (∃ size format, conversionFor size format = .ok conversion) ∧
      renderer.buffer.size = conversion.outputBytes
  buffer : renderer.buffer.size ≤ maxBufferLength

theorem sound_new : new.Sound := ⟨nofun, Nat.zero_le _⟩

variable {renderer : VideoRenderer}

theorem bufferOf_of_le (renderer : VideoRenderer) {length : Nat} (hl : length ≤ maxBufferLength) :
    ∃ buffer, renderer.bufferOf length = .ok buffer ∧ buffer.size = length := by
  unfold bufferOf
  split
  · next hkept => exact ⟨_, rfl, hkept⟩
  · exact ⟨_, allocate_of_le _ hl, Bytes.size_zeros length⟩

theorem Sound.bufferOf_of_lt (h : renderer.Sound) {length : Nat} (hl : maxBufferLength < length) :
    renderer.bufferOf length = .error (.outOfMemory (.tooLong "NV12 输出缓冲区" length)) := by
  unfold bufferOf
  rw [if_neg, allocate_of_lt _ hl]
  intro hkept
  exact absurd (hkept ▸ h.buffer) (Nat.not_le.mpr hl)

/-- Setting up a conversion fails as it would without a kept buffer, or it brings the conversion and
a renderer that keeps it. -/
theorem Sound.rebuild_cases (h : renderer.Sound) (size : FrameSize) (format : PixelFormat) :
    (∃ error, renderer.rebuild size format = .error error ∧
      conversionFor size format = .error error) ∨
    ∃ conversion next, renderer.rebuild size format = .ok (conversion, next) ∧
      conversionFor size format = .ok conversion ∧
      next.conversion = some conversion ∧ next.Sound := by
  unfold rebuild
  cases hn : Nv12Conversion.create size format .nv12 with
  | error error =>
    refine Or.inl ⟨error, rfl, ?_⟩
    unfold conversionFor
    rw [hn]
    rfl
  | ok conversion =>
    simp only [bind, Except.bind]
    by_cases hl : conversion.outputBytes ≤ maxBufferLength
    · obtain ⟨buffer, hbuffer, hsize⟩ := renderer.bufferOf_of_le hl
      have hfor : conversionFor size format = .ok conversion := by
        simp only [conversionFor, hn, bind, Except.bind, allocate_of_le _ hl]
      rw [hbuffer]
      refine Or.inr ⟨conversion, _, rfl, hfor, rfl, ?_, hsize ▸ hl⟩
      intro other ho
      cases ho
      exact ⟨⟨size, format, hfor⟩, hsize⟩
    · have hl := Nat.not_le.mp hl
      rw [h.bufferOf_of_lt hl]
      refine Or.inl ⟨_, rfl, ?_⟩
      simp only [conversionFor, hn, bind, Except.bind, allocate_of_lt _ hl]

/-- The conversion that a sound renderer uses is the one that would be made, and there is none where
that would fail. -/
theorem Sound.withConversion_cases (h : renderer.Sound) (size : FrameSize)
    (format : PixelFormat) :
    (∃ error, renderer.withConversion size format = .error error ∧
      conversionFor size format = .error error) ∨
    ∃ conversion next, renderer.withConversion size format = .ok (conversion, next) ∧
      conversionFor size format = .ok conversion ∧
      next.conversion = some conversion ∧ next.Sound := by
  unfold withConversion
  cases hk : renderer.conversion.filter (·.fits size format) with
  | none => exact h.rebuild_cases size format
  | some kept =>
    obtain ⟨hsome, hfits⟩ := Option.filter_eq_some_iff.mp hk
    obtain ⟨⟨madeSize, madeFormat, hmade⟩, -⟩ := h.conversion kept hsome
    obtain rfl := eq_of_conversionFor hmade
    simp only [Nv12Conversion.fits, Bool.and_eq_true, decide_eq_true_eq] at hfits
    obtain ⟨rfl, rfl⟩ := hfits
    exact Or.inr ⟨_, renderer, rfl, hmade, hsome, h⟩

theorem Sound.render (h : renderer.Sound) (params : StreamParams) (frame : Frame) :
    (renderer.render params frame).1 = rendering params frame ∧
      (renderer.render params frame).2.Sound := by
  cases frame with
  | audio frame => exact ⟨rfl, h⟩
  | video frame =>
    unfold VideoRenderer.render rendering
    dsimp only
    by_cases hsize : frame.size ≠ sourceSize params frame
    · rw [if_pos hsize, if_pos hsize]
      exact ⟨rfl, h⟩
    · rw [if_neg hsize, if_neg hsize]
      rcases h.withConversion_cases (sourceSize params frame) (sourceFormat params frame) with
        ⟨error, hw, hn⟩ | ⟨conversion, next, hw, hn, hkept, hnext⟩
      · rw [hw, hn]
        exact ⟨rfl, h⟩
      · rw [hw, hn]
        obtain ⟨-, hlength⟩ := hnext.conversion conversion hkept
        refine ⟨?_, ?_, ?_⟩
        · show _ = conversion.converted frame.planes frame.strides conversion.outputBytes
          rw [← hlength]
          exact conversion.map_convertInto ..
        · intro other ho
          rw [conversion.size_convertInto]
          exact hnext.conversion other ho
        · rw [conversion.size_convertInto]
          exact hnext.buffer

theorem Sound.prepare (h : renderer.Sound) (params : StreamParams) (output : MediaType) :
    (renderer.prepare params output).2.Sound := by
  have hcleared : Sound { renderer with conversion := none } := ⟨nofun, h.buffer⟩
  unfold VideoRenderer.prepare
  split
  · exact h
  · dsimp only
    split
    · exact hcleared
    · next video _ =>
      rcases hcleared.rebuild_cases video.size video.format with
        ⟨error, hr, -⟩ | ⟨conversion, next, hr, -, -, hnext⟩
      · rw [hr]
        exact hcleared
      · rw [hr]
        exact hnext

end VideoRenderer

/-! ## Either -/

namespace Renderer

/-- What a frame of an engine that reports the given parameters becomes in a stream of a kind. -/
def rendering : StreamKind → StreamParams → Frame → Except MediaError Bytes
  | .audio, _, frame => AudioRenderer.rendering frame
  | .video, params, frame => VideoRenderer.rendering params frame

/-- A sound renderer for streams of a kind. -/
def Serves (kind : StreamKind) : Renderer → Prop
  | .audio renderer => kind = .audio ∧ renderer.Sound
  | .video renderer => kind = .video ∧ renderer.Sound

theorem serves_forOutput (output : MediaType) : (forOutput output).Serves output.kind := by
  unfold forOutput
  split
  · next h => exact ⟨h, AudioRenderer.sound_new⟩
  · next h => exact ⟨h, VideoRenderer.sound_new⟩

variable {kind : StreamKind} {renderer : Renderer}

/-- What a frame becomes does not depend on what a renderer keeps, and rendering keeps it sound. -/
theorem Serves.render (h : renderer.Serves kind) (params : StreamParams) (frame : Frame) :
    (renderer.render params frame).1 = rendering kind params frame ∧
      (renderer.render params frame).2.Serves kind := by
  cases renderer with
  | audio renderer =>
    obtain ⟨rfl, hsound⟩ := h
    exact ⟨(hsound.render frame).1, rfl, (hsound.render frame).2⟩
  | video renderer =>
    obtain ⟨rfl, hsound⟩ := h
    exact ⟨(hsound.render params frame).1, rfl, (hsound.render params frame).2⟩

theorem Serves.render_eq {other after : Renderer} (h : renderer.Serves kind)
    (ho : other.Serves kind) {params : StreamParams} {frame : Frame}
    {result : Except MediaError Bytes} (hr : renderer.render params frame = (result, after)) :
    after.Serves kind ∧
      ∃ kept, other.render params frame = (result, kept) ∧ kept.Serves kind := by
  obtain ⟨hresult, hafter⟩ := h.render params frame
  obtain ⟨hother, hkept⟩ := ho.render params frame
  rw [hr] at hresult hafter
  refine ⟨hafter, _, ?_, hkept⟩
  rw [← hother] at hresult
  rw [show result = (other.render params frame).1 from hresult]

theorem Serves.prepare (h : renderer.Serves kind) (params : StreamParams) (output : MediaType) :
    (renderer.prepare params output).2.Serves kind := by
  cases renderer with
  | audio renderer => exact ⟨h.1, h.2.prepare params output⟩
  | video renderer => exact ⟨h.1, h.2.prepare params output⟩

end Renderer

end StreamDecode
