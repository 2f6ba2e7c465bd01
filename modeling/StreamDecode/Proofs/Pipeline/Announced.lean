import Mathlib.Algebra.Ring.Parity
import Mathlib.Tactic.Ring
import StreamDecode.Proofs.Pipeline.Lengths

/-!
# The announced length of pictures

A pipeline announces the length of its pictures before there is one: twelve bits for each pixel, in
whole bytes. The pictures have chroma planes of their own, whose width and height are rounded up. The
two lengths differ by `OutputStreamInfo.shortfall`, which is zero for an even width and height and
positive for any other picture (`OutputStreamInfo.shortfall_eq_zero_iff`).

Both are counted in words of 64 bits. The bits of a picture may wrap around up to eleven times
(`OutputStreamInfo.wraps`), and its bytes once. So a buffer of the announced length takes a whole
picture exactly if both sides are even and the bits wrap around no more often than eight times the
bytes do: not at all, or eight times (`Pipeline.announced_length`).
-/

namespace StreamDecode

/-! ## Two lengths -/

namespace OutputStreamInfo

/-- The bytes of an NV12 image beyond its announced length: what the chroma samples of an odd column
or row add. -/
def shortfall (size : FrameSize) : ℕ :=
  let w := size.width.toNat
  let h := size.height.toNat
  (w * (h % 2) + h * (w % 2)) / 2 + (w % 2) * (h % 2)

/-- How often the number of bits of an image wraps around. -/
def wraps (size : FrameSize) : ℕ := size.width.toNat * size.height.toNat * 12 / 2 ^ 64

theorem toNat_bits (size : FrameSize) :
    (size.width.toUInt64 * size.height.toUInt64 * bitsPerPixel / 8).toNat =
      size.width.toNat * size.height.toNat * 12 % 2 ^ 64 / 8 := by
  simp [bitsPerPixel]

theorem wraps_lt (size : FrameSize) : wraps size < 12 := by
  have hpixels : size.width.toNat * size.height.toNat < 2 ^ 32 * 2 ^ 32 :=
    Nat.mul_lt_mul_of_lt_of_lt size.width.toNat_lt size.height.toNat_lt
  unfold wraps
  omega

theorem shortfall_le (size : FrameSize) : shortfall size ≤ 2 ^ 32 := by
  have hw := size.width.toNat_lt
  have hh := size.height.toNat_lt
  unfold shortfall
  rcases Nat.mod_two_eq_zero_or_one size.width.toNat with hodd | hodd
  all_goals
    rcases Nat.mod_two_eq_zero_or_one size.height.toNat with hodd' | hodd'
    all_goals
      simp only [hodd, hodd', Nat.mul_zero, Nat.mul_one]
      omega

/-- Twelve bits for each pixel, against a plane of luma and one of chroma rounded up. -/
theorem twelveBits_add (w h : ℕ) :
    w * h * 12 / 8 + ((w * (h % 2) + h * (w % 2)) / 2 + (w % 2) * (h % 2)) =
      w * h + 2 * halfUp w * halfUp h := by
  have hhalf : ∀ k, halfUp (2 * k) = k ∧ halfUp (2 * k + 1) = k + 1 ∧ 2 * k % 2 = 0 ∧
      (2 * k + 1) % 2 = 1 := by
    intro k
    unfold halfUp
    omega
  obtain ⟨k, rfl | rfl⟩ := w.even_or_odd'
  all_goals
    obtain ⟨m, rfl | rfl⟩ := h.even_or_odd'
    all_goals
      obtain ⟨hkeven, hkodd, hkzero, hkone⟩ := hhalf k
      obtain ⟨hmeven, hmodd, hmzero, hmone⟩ := hhalf m
      simp only [hkeven, hkodd, hkzero, hkone, hmeven, hmodd, hmzero, hmone]
      ring_nf
      omega

/-- The length of an image is announced but for the shortfall and the bits that wrapped around. -/
theorem outputBytes_of_video {size : FrameSize} {info : OutputStreamInfo}
    (h : video size = .ok info) (source : PixelFormat) :
    (Nv12Conversion.mk size source).outputBytes =
      (info.bufferLength.toNat + shortfall size + wraps size * 2 ^ 61) % 2 ^ 64 := by
  unfold video at h
  dsimp only at h
  split at h
  · next hlt =>
    cases h
    have hbits := toNat_bits size
    have hannounced : (size.width.toUInt64 * size.height.toUInt64 * bitsPerPixel /
        8).toUInt32.toNat = size.width.toNat * size.height.toNat * 12 % 2 ^ 64 / 8 := by
      rw [UInt64.toNat_toUInt32, hbits]
      exact Nat.mod_eq_of_lt (hbits ▸ hlt)
    have hwhole : size.width.toNat * size.height.toNat * 12 / 8 =
        size.width.toNat * size.height.toNat * 12 % 2 ^ 64 / 8 + wraps size * 2 ^ 61 := by
      unfold wraps
      omega
    have himage : Nv12.lumaBytes size + Nv12.chromaBytes size =
        size.width.toNat * size.height.toNat * 12 / 8 + shortfall size :=
      (twelveBits_add size.width.toNat size.height.toNat).symm
    rw [Nv12Conversion.outputBytes_eq, himage, hannounced, hwhole, Nat.add_right_comm]
    rfl
  · cases h

-- both sides are even, but the bits wrap around twice
example : video ⟨0x80000000, 1431655766⟩ = .ok ⟨0x7, 0x80000000, 0⟩ ∧
    wraps ⟨0x80000000, 1431655766⟩ = 2 := by
  decide

/-- A buffer of the announced length is as long as an image exactly if nothing is short, and the bits
wrap around eight times as often as the bytes; any other buffer is shorter. -/
theorem outputBytes_le_iff {size : FrameSize} {info : OutputStreamInfo}
    (h : video size = .ok info) (source : PixelFormat) :
    ((Nv12Conversion.mk size source).outputBytes ≤ info.bufferLength.toNat ↔
      shortfall size = 0 ∧ 8 ∣ wraps size) ∧
    (info.bufferLength.toNat = (Nv12Conversion.mk size source).outputBytes ↔
      shortfall size = 0 ∧ 8 ∣ wraps size) := by
  have hannounced := info.bufferLength.toNat_lt
  have hwraps := wraps_lt size
  have hshort := shortfall_le size
  rw [outputBytes_of_video h source]
  generalize shortfall size = short at hshort ⊢
  generalize wraps size = wrapped at hwraps ⊢
  omega

theorem shortfall_eq_zero_iff {size : FrameSize} (h : size.isEmpty = false) :
    shortfall size = 0 ↔ 2 ∣ size.width.toNat ∧ 2 ∣ size.height.toNat := by
  have hpixels : 0 < size.width.toNat ∧ 0 < size.height.toNat := by
    unfold FrameSize.isEmpty at h
    simp only [Bool.or_eq_false_iff, decide_eq_false_iff_not, ← UInt32.toNat_inj,
      UInt32.toNat_zero] at h
    omega
  unfold shortfall
  rcases Nat.mod_two_eq_zero_or_one size.width.toNat with hw | hw
  all_goals
    rcases Nat.mod_two_eq_zero_or_one size.height.toNat with hh | hh
    all_goals
      simp only [hw, hh]
      omega

end OutputStreamInfo

theorem Sample.cutTo_eq_self_iff {sample buffer : Sample} :
    sample.cutTo (some buffer) = sample ↔ sample.data.size ≤ buffer.data.size := by
  refine ⟨fun h => ?_, Sample.cutTo_of_le⟩
  have hsize := congrArg (·.data.size) h
  simp only [Sample.cutTo, Array.take, Array.size_extract] at hsize
  omega

namespace Pipeline

variable {σ : Type} [Engine σ]

omit [Engine σ] in
theorem video_of_outputStreamInfo {pipeline : Pipeline σ} {type : MediaType} {size : FrameSize}
    {info : OutputStreamInfo} (htype : pipeline.negotiation.output = some type)
    (hkind : type.kind = .video) (hsize : type.frameSize? = some size)
    (h : pipeline.outputStreamInfo 0 = .ok info) : OutputStreamInfo.video size = .ok info := by
  unfold outputStreamInfo at h
  cases he : pipeline.enter 0 with
  | error error =>
    rw [he] at h
    cases h
  | ok _ =>
    rw [he, htype] at h
    simpa only [bind, Except.bind, committed, hkind, hsize] using h

/-- The queued samples of a session are those of the frames of its history, and in a video session
these are pictures. -/
theorem frames_of_session (registry : EngineRegistry σ) (config : PipelineConfig)
    (calls : List Call) {session : Session σ}
    (hs : ((new registry config).run calls).2.session = some session) :
    ∃ history, (new registry config).history none calls = some history ∧
      session.queue.map Sample.data = history.frames.map Rendered.data ∧
      (history.output.kind = .video →
        ∀ rendered ∈ history.frames, ∃ picture, rendered.IsPicture picture) := by
  have hnew : (new registry config).Remembers none := fun _ h => by cases h
  obtain ⟨history, hhistory, hlives⟩ := remembers_run calls hnew session hs
  refine ⟨history, hhistory, ?_, fun hv => ?_⟩
  · rw [hlives.session_eq]
    refine Session.data_run history.calls ?_
    rw [Session.queue_of_create hlives.created]
    rfl
  · exact Session.isPicture_run history.calls (Session.rendersVideo_create hlives.created hv)
      fun _ hm => absurd hm List.not_mem_nil

/-- **The announced length.** It is that of an NV12 image less the shortfall of its size, as long as
the bits of the image do not wrap around; and it is just that length exactly if width and height are
even, and the bits wrap around eight times as often as the bytes do. In every run, all queued pictures
of that size have the length of an image, and a pull with a buffer of the announced length that
delivers one of them delivers it whole under the same condition; otherwise it is cut. -/
theorem announced_length (registry : EngineRegistry σ) (config : PipelineConfig)
    (calls : List Call) {pipeline : Pipeline σ} {type : MediaType} {size : FrameSize}
    {info : OutputStreamInfo} (hrun : ((new registry config).run calls).2 = pipeline)
    (htype : pipeline.negotiation.output = some type) (hkind : type.kind = .video)
    (hsize : type.frameSize? = some size) (hpixels : size.isEmpty = false)
    (hinfo : pipeline.outputStreamInfo 0 = .ok info) (source : PixelFormat) :
    let image := (Nv12Conversion.mk size source).outputBytes
    let wraps := OutputStreamInfo.wraps size
    let isExact := (2 ∣ size.width.toNat ∧ 2 ∣ size.height.toNat) ∧ 8 ∣ wraps
    (wraps = 0 → info.bufferLength.toNat + OutputStreamInfo.shortfall size = image) ∧
      (info.bufferLength.toNat = image ↔ isExact) ∧
      ∀ slot buffer, slot.sample = some buffer → buffer.data.size = info.bufferLength.toNat →
        (pipeline.step (.pull [slot])).1.result = .ok (.pulled .delivered) →
          ∃ (history : SessionHistory σ) (queued : Sample),
            (new registry config).history none calls = some history ∧
            (pipeline.step (.pull [slot])).1.slots =
              [{ slot with sample := some (queued.cutTo (some buffer)) }] ∧
            (history.output.kind = .video →
              (∀ rendered ∈ history.frames, ∃ picture, rendered.frame = .video picture ∧
                (picture.size = size → rendered.data.size = image)) ∧
              ∃ rendered picture, history.frames.head? = some rendered ∧
                rendered.frame = .video picture ∧ rendered.data = queued.data ∧
                (picture.size = size → (queued.cutTo (some buffer) = queued ↔ isExact))) := by
  have hvideo := video_of_outputStreamInfo htype hkind hsize hinfo
  intro image wraps isExact
  have hexact : (OutputStreamInfo.shortfall size = 0 ∧ 8 ∣ wraps) ↔ isExact :=
    and_congr_left' (OutputStreamInfo.shortfall_eq_zero_iff hpixels)
  obtain ⟨hle, hequal⟩ := OutputStreamInfo.outputBytes_le_iff hvideo source
  refine ⟨?_, hequal.trans hexact, ?_⟩
  · intro hwraps
    have hannounced := info.bufferLength.toNat_lt
    have hshort := OutputStreamInfo.shortfall_le size
    have himage := OutputStreamInfo.outputBytes_of_video hvideo source
    rw [show OutputStreamInfo.wraps size = 0 from hwraps] at himage
    omega
  intro slot buffer hslot hbuffer hd
  obtain ⟨session, queued, rest, hs, -, hq, hslots⟩ := delivered_cases hd
  rw [← hrun] at hs
  obtain ⟨history, hhistory, hdata, hpictures⟩ := frames_of_session registry config calls hs
  rw [hslot] at hslots
  refine ⟨history, queued, hhistory, hslots, fun hv => ?_⟩
  have himage : ∀ rendered ∈ history.frames, ∃ picture, rendered.frame = .video picture ∧
      (picture.size = size → rendered.data.size = image) := by
    intro rendered hm
    obtain ⟨picture, hframe, -, hbytes⟩ := hpictures hv rendered hm
    refine ⟨picture, hframe, fun hp => ?_⟩
    rw [hp] at hbytes
    exact (congrArg (Option.getD · 0) hbytes).symm
  refine ⟨himage, ?_⟩
  rw [hq, List.map_cons] at hdata
  obtain ⟨rendered, frames, hframes, hrendered, -⟩ := List.map_eq_cons_iff.mp hdata.symm
  obtain ⟨picture, hframe, hbytes⟩ := himage rendered (by rw [hframes]; exact List.mem_cons_self)
  refine ⟨rendered, picture, by rw [hframes]; rfl, hframe, hrendered, fun hp => ?_⟩
  rw [Sample.cutTo_eq_self_iff, hbuffer, ← hrendered, hbytes hp]
  exact hle.trans hexact

/-! ### Pictures of an even and of an odd size -/

/-- The host asks for pictures of a size and pushes one packet. -/
def askAndPush (size : FrameSize) : List Call :=
  [.setInputType 0 (some (.video .h264 size)) false,
    .setOutputType 0 (some (.video .nv12 size)) false,
    .push 0 ⟨#[0], 0, 1⟩ 0]

/-- A new pipeline whose engine brings one gray picture of a size. -/
def onePicture (size : FrameSize) : Pipeline ScriptedEngine :=
  new (Session.grayRegistry size [Session.grayOutput size]) .standard

/-- A slot with a buffer of the host. -/
def bufferOf (length : ℕ) : OutputSlot := { OutputSlot.empty with sample := some (.blank length) }

/-- A picture of two by two arrives whole in a buffer of the announced six bytes. -/
theorem announced_length_even :
    let pipeline := ((onePicture ⟨2, 2⟩).run (askAndPush ⟨2, 2⟩)).2
    pipeline.outputStreamInfo 0 = .ok ⟨0x7, 6, 0⟩ ∧
      (pipeline.step (.pull [bufferOf 6])).1.result = .ok (.pulled .delivered) ∧
      ∃ queued : Sample, queued.data.size = 6 ∧
        (pipeline.step (.pull [bufferOf 6])).1.slots =
          [{ OutputSlot.empty with sample := some queued }] := by
  intro pipeline
  have htype : pipeline.negotiation.output = some (.video .nv12 ⟨2, 2⟩) := by decide +kernel
  have hinfo : pipeline.outputStreamInfo 0 = .ok ⟨0x7, 6, 0⟩ := by decide +kernel
  have hd : (pipeline.step (.pull [bufferOf 6])).1.result = .ok (.pulled .delivered) := by
    decide +kernel
  obtain ⟨-, -, hpulled⟩ := announced_length _ .standard (askAndPush ⟨2, 2⟩) rfl htype rfl
    rfl (by decide) hinfo .gray8
  obtain ⟨history, queued, hhistory, hslots, hvideo⟩ := hpulled (bufferOf 6) _ rfl rfl hd
  have hknown : (some history).map (fun history =>
      (history.output.kind, history.frames.head?.map (·.frame))) =
        some (.video, (Session.grayOutput ⟨2, 2⟩).result.toOption) := by
    rw [← hhistory]
    decide +kernel
  obtain ⟨hkind, hhead⟩ : history.output.kind = .video ∧
      history.frames.head?.map (·.frame) = (Session.grayOutput ⟨2, 2⟩).result.toOption := by
    simpa only [Option.map_some, Option.some.injEq, Prod.mk.injEq] using hknown
  obtain ⟨himages, rendered, picture, hframes, hframe, hdata, hwhole⟩ := hvideo hkind
  obtain ⟨_, hsame, hbytes⟩ := himages rendered (List.mem_of_head? hframes)
  rw [hframe, Frame.video.injEq] at hsame
  rw [hframes, Option.map_some, hframe] at hhead
  cases hhead
  cases hsame
  rw [(hwhole rfl).mpr (by decide)] at hslots
  have hsix : (Nv12Conversion.mk ⟨2, 2⟩ .gray8).outputBytes = 6 := by decide
  exact ⟨hinfo, hd, queued, by rw [← hdata, hbytes rfl, hsix], hslots⟩

/-- A picture of one pixel has three bytes, but one is announced. A buffer of one byte takes the luma
and loses the chroma. -/
theorem announced_length_of_odd :
    let pipeline := ((onePicture ⟨1, 1⟩).run (askAndPush ⟨1, 1⟩)).2
    let pulled := (pipeline.step (.pull [.empty])).1
    let cut := (pipeline.step (.pull [bufferOf 1])).1
    pipeline.outputStreamInfo 0 = .ok ⟨0x7, 1, 0⟩ ∧
      (Nv12Conversion.mk ⟨1, 1⟩ .gray8).outputBytes = 3 ∧
      pulled.result = .ok (.pulled .delivered) ∧
      (pulled.slots.head?.bind OutputSlot.sample).map (·.data.size) = some 3 ∧
      cut.result = .ok (.pulled .delivered) ∧
      (cut.slots.head?.bind OutputSlot.sample).map (·.data.size) = some 1 := by
  intro pipeline pulled cut
  refine ⟨?_, ?_, ?_, ?_, ?_, ?_⟩ <;> decide +kernel

end Pipeline

end StreamDecode
