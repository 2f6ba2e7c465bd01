import StreamDecode.Proofs.Engine.Protocol
import StreamDecode.Proofs.Engine.Repackaging

/-!
# The engines for uncompressed streams keep the protocol

Both engines have a single frame, which holds the data of its packet: one plane of whole blocks for
audio, and the planes of a packed image for video. What opening works out, the length of a block or
the measures of the planes, stays right until the next opening, so that neither a division by zero
nor a slice beyond the data can come up (`conforms_uncompressed`).
-/

namespace StreamDecode

/-- Planes of given sizes that make up data when they are put together. -/
structure CutInto (data : Bytes) (sizes : List Nat) (planes : List Bytes) : Prop where
  sizes : planes.map Array.size = sizes
  joined : planes.flatMap Array.toList = data.toList

/-! ## Uncompressed audio -/

/-- The frame of a packet of uncompressed audio: whole blocks of one sample for every channel. -/
structure AudioFrame.IsPcmOf (frame : AudioFrame) (encoding : PcmEncoding) (params : AudioParams)
    (packet : Packet) : Prop where
  cut : CutInto packet.data
    [frame.samples.toNat * (encoding.sampleFormat.width * params.layout.channels.toNat)] frame.planes
  rate : frame.rate = params.rate
  format : frame.format = encoding.sampleFormat
  layout : frame.layout = params.layout
  time : frame.time = packet.time
  timeBase : frame.timeBase = packet.timeBase
  duration : frame.duration = 0

namespace PcmEngine

/-- The bytes of a block can be counted in 32 bits. -/
def BlockFits (encoding : PcmEncoding) (settings : CodecSettings) : Prop :=
  ∀ params, settings.params.audio? = some params →
    encoding.sampleFormat.width * params.layout.channels.toNat < UInt32.size

/-- The frame that a packet becomes when the engine was opened with given settings. -/
def Carries (encoding : PcmEncoding) (settings : CodecSettings) (packet : Packet) (frame : Frame) :
    Prop :=
  ∃ params block, settings.params.audio? = some params ∧ frame = .audio block ∧
    block.IsPcmOf encoding params packet

/-- An open engine never divides by zero. -/
structure Sound (encoding : PcmEncoding) (engine : PcmEngine) : Prop where
  encoding : engine.encoding = encoding
  blockAlign : engine.opened = true → engine.blockAlign ≠ 0

/-- The frame of the engine as a slot. -/
def slot (engine : PcmEngine) : Slot := ⟨engine.opened, engine.output.map .audio, engine.ended⟩

variable {encoding : PcmEncoding} {engine : PcmEngine} {settings : CodecSettings}

theorem carries_of_frameOf {params : AudioParams} (hparams : settings.params.audio? = some params)
    (hencoding : engine.encoding = encoding) (hrate : engine.rate = params.rate)
    (hlayout : engine.layout = params.layout)
    (hblock : engine.blockAlign.toNat =
      encoding.sampleFormat.width * params.layout.channels.toNat)
    {packet : Packet} {frame : Frame} (h : engine.frameOf packet = .ok frame) :
    Carries encoding settings packet frame := by
  unfold frameOf at h
  cases hcount : blockCount packet.data.size engine.blockAlign with
  | error error =>
    rw [hcount] at h
    cases h
  | ok samples =>
    rw [hcount] at h
    cases h
    refine ⟨params, engine.frame packet samples, hparams, rfl, ?_⟩
    refine ⟨⟨?_, List.append_nil _⟩, hrate, ?_, hlayout, rfl, rfl, rfl⟩
    · rw [← hblock]
      exact congrArg (· :: []) (mul_of_blockCount hcount).symm
    · rw [← hencoding]
      rfl

theorem configure_cases (encoding : PcmEncoding) (engine : PcmEngine) (settings : CodecSettings) :
    (∃ error, engine.configure settings = (.error error, engine)) ∨
    ∃ next, engine.configure settings = (.ok (), next) ∧ next.slot = ⟨true, none, false⟩ ∧
      (engine.Sound encoding → BlockFits encoding settings → next.Sound encoding ∧
        ∀ packet frame, next.frameOf packet = .ok frame →
          Carries encoding settings packet frame) := by
  unfold configure
  cases hparams : settings.params.audio? with
  | none => exact .inl ⟨_, rfl⟩
  | some params =>
    dsimp only
    split_ifs with hrate hchannels
    · exact .inl ⟨_, rfl⟩
    · exact .inl ⟨_, rfl⟩
    · refine .inr ⟨_, rfl, rfl, ?_⟩
      rintro ⟨rfl, -⟩ hfits
      have hblock := toNat_blockAlign engine.encoding.sampleFormat (hfits params hparams)
      refine ⟨⟨rfl, ?_⟩, fun packet frame => carries_of_frameOf hparams rfl rfl rfl hblock⟩
      intro _ hzero
      have hwidth : engine.encoding.sampleFormat.width ≠ 0 := by
        cases engine.encoding <;> decide
      rw [show UInt32.ofNat _ * _ = (0 : UInt32) from hzero] at hblock
      rcases Nat.mul_eq_zero.mp hblock.symm with h | h
      · exact hwidth h
      · exact hchannels (UInt32.toNat_inj.mp h)

/-- What becomes of a packet: only the slot changes, and it stays if the packet is refused. -/
theorem sendPacket_cases (engine : PcmEngine) (packet : Packet) :
    engine.slot.Sends packet (engine.frameOf packet) (engine.sendPacket packet).1
        (engine.sendPacket packet).2.slot ∧
      Engine.flush (engine.sendPacket packet).2 = Engine.flush engine ∧
      ((engine.sendPacket packet).1 = .ok () ∨ (engine.sendPacket packet).2 = engine) := by
  obtain ⟨encoding, rate, layout, blockAlign, output, opened, ended⟩ := engine
  unfold sendPacket
  cases opened with
  | false => exact ⟨.closed rfl, rfl, .inr rfl⟩
  | true =>
    cases output with
    | some held => exact ⟨.busy rfl nofun, rfl, .inr rfl⟩
    | none =>
      cases hpacket : packet.isEmpty with
      | true => exact ⟨.ended rfl rfl hpacket, rfl, .inl rfl⟩
      | false =>
        cases hcount : blockCount packet.data.size blockAlign with
        | error error =>
          have hmade : frameOf ⟨encoding, rate, layout, blockAlign, none, true, ended⟩ packet =
              .error error := congrArg (Except.map _) hcount
          exact ⟨.refused rfl rfl hpacket hmade, rfl, .inr rfl⟩
        | ok samples =>
          have hmade := congrArg (Except.map fun samples => Frame.audio (frame
            ⟨encoding, rate, layout, blockAlign, none, true, ended⟩ packet samples)) hcount
          exact ⟨.taken rfl rfl hpacket hmade, rfl, .inl rfl⟩

theorem receiveFrame_cases (engine : PcmEngine) :
    engine.slot.Receives engine.receiveFrame.1 engine.receiveFrame.2.slot ∧
      Engine.flush engine.receiveFrame.2 = Engine.flush engine := by
  obtain ⟨encoding, rate, layout, blockAlign, output, opened, ended⟩ := engine
  cases output with
  | none => exact ⟨.drained rfl, rfl⟩
  | some held => exact ⟨.loaded rfl, rfl⟩

/-- The engine for uncompressed audio has a single frame. -/
def singleFrame (encoding : PcmEncoding) :
    SingleFrame PcmEngine (BlockFits encoding) (Carries encoding) where
  slot := slot
  frameOf := frameOf
  Sound := Sound encoding
  frameOf_ne engine packet h := by
    unfold frameOf at h
    cases hcount : blockCount packet.data.size engine.blockAlign with
    | error error =>
      rw [hcount] at h
      cases h
      exact blockCount_ne_tryAgain hcount rfl
    | ok samples =>
      rw [hcount] at h
      cases h
  configures := configure_cases encoding
  sends engine packet := (sendPacket_cases engine packet).1
  sendKept engine packet := (sendPacket_cases engine packet).2.2
  receives engine := (receiveFrame_cases engine).1
  slot_flush _ := rfl
  frameOf_flush _ := rfl
  sound_flush _ := ⟨fun ⟨hencoding, hblock⟩ => ⟨hencoding, hblock⟩,
    fun ⟨hencoding, hblock⟩ => ⟨hencoding, hblock⟩⟩
  flush_sendPacket engine packet := (sendPacket_cases engine packet).2.1
  flush_receiveFrame engine := (receiveFrame_cases engine).2

end PcmEngine

/-! ## Uncompressed video -/

/-- The frame of a packet of uncompressed video: one image with its planes, without a gap. An
unspecified format means planar 4:2:0. -/
structure VideoFrame.IsCutOf (frame : VideoFrame) (params : VideoParams) (packet : Packet) : Prop where
  format : frame.format = if params.format = .unspecified then .yuv420p else params.format
  size : frame.size = params.size
  strides : frame.strides = (frame.format.planes frame.size).map Prod.fst
  cut : CutInto packet.data
    ((frame.format.planes frame.size).map fun (rowBytes, rows) => rowBytes * rows) frame.planes
  time : frame.time = packet.time
  timeBase : frame.timeBase = packet.timeBase
  duration : frame.duration = packet.duration

namespace RawVideoEngine

/-- The bytes of an image can be counted in 64 bits. -/
def ImageFits (settings : CodecSettings) : Prop :=
  ∀ params, settings.params.video? = some params →
    (if params.format = .unspecified then PixelFormat.yuv420p else params.format).imageLength
      params.size < UInt64.size

/-- The frame that a packet becomes when the engine was opened with given settings. -/
def Carries (settings : CodecSettings) (packet : Packet) (frame : Frame) : Prop :=
  ∃ params picture, settings.params.video? = some params ∧ frame = .video picture ∧
    picture.IsCutOf params packet

/-! ### Cutting data -/

/-- Where the slice of each plane begins and ends. -/
def slices : (offset : Nat) → List (Nat × Nat) → List (Nat × Nat)
  | _, [] => []
  | offset, (rowBytes, rows) :: rest =>
    (offset, offset + rowBytes * rows) :: slices (offset + rowBytes * rows) rest

/-- Where the last slice ends. -/
def sliceEnd (offset : Nat) (planes : List (Nat × Nat)) : Nat :=
  planes.foldl (fun total (rowBytes, rows) => total + rowBytes * rows) offset

@[simp] theorem sliceEnd_nil (offset : Nat) : sliceEnd offset [] = offset := rfl

@[simp] theorem sliceEnd_cons (offset rowBytes rows : Nat) (rest : List (Nat × Nat)) :
    sliceEnd offset ((rowBytes, rows) :: rest) = sliceEnd (offset + rowBytes * rows) rest := rfl

theorem cutPlanes_eq (data : Bytes) (offset : Nat) (planes : List (Nat × Nat)) :
    cutPlanes data offset planes =
      (slices offset planes).map fun (start, stop) => data.extract start stop := by
  induction planes generalizing offset with
  | nil => rfl
  | cons plane rest ih => exact congrArg (_ :: ·) (ih _)

theorem le_sliceEnd (offset : Nat) (planes : List (Nat × Nat)) : offset ≤ sliceEnd offset planes := by
  induction planes generalizing offset with
  | nil => exact Nat.le_refl offset
  | cons plane rest ih => exact Nat.le_trans (Nat.le_add_right _ _) (ih _)

/-- No slice goes beyond the end of the last one. -/
theorem bounds_of_mem_slices {offset start stop : Nat} {planes : List (Nat × Nat)}
    (hm : (start, stop) ∈ slices offset planes) :
    offset ≤ start ∧ start ≤ stop ∧ stop ≤ sliceEnd offset planes := by
  induction planes generalizing offset with
  | nil => cases hm
  | cons plane rest ih =>
    rcases List.mem_cons.mp hm with hfirst | hm
    · cases hfirst
      exact ⟨Nat.le_refl _, Nat.le_add_right _ _, le_sliceEnd _ rest⟩
    · obtain ⟨hstart, hslice⟩ := ih hm
      exact ⟨Nat.le_trans (Nat.le_add_right _ _) hstart, hslice⟩

theorem size_cutPlanes {data : Bytes} {offset : Nat} {planes : List (Nat × Nat)}
    (h : sliceEnd offset planes ≤ data.size) :
    (cutPlanes data offset planes).map Array.size =
      planes.map fun (rowBytes, rows) => rowBytes * rows := by
  induction planes generalizing offset with
  | nil => rfl
  | cons plane rest ih =>
    obtain ⟨rowBytes, rows⟩ := plane
    rw [sliceEnd_cons] at h
    have hle := le_sliceEnd (offset + rowBytes * rows) rest
    have hsize : (data.extract offset (offset + rowBytes * rows)).size = rowBytes * rows := by
      rw [Array.size_extract]
      omega
    unfold cutPlanes
    rw [List.map_cons, List.map_cons, hsize, ih h]

theorem flatMap_cutPlanes (data : Bytes) (offset : Nat) (planes : List (Nat × Nat)) :
    (cutPlanes data offset planes).flatMap Array.toList =
      (data.extract offset (sliceEnd offset planes)).toList := by
  induction planes generalizing offset with
  | nil => simp [cutPlanes]
  | cons plane rest ih =>
    obtain ⟨rowBytes, rows⟩ := plane
    have hle := le_sliceEnd (offset + rowBytes * rows) rest
    unfold cutPlanes
    rw [List.flatMap_cons, ih, ← Array.toList_append, Array.extract_append_extract, sliceEnd_cons,
      Nat.min_eq_left (Nat.le_add_right _ _), Nat.max_eq_right hle]

/-- Data that ends with the last slice is cut into its planes. -/
theorem cutInto_cutPlanes {data : Bytes} {planes : List (Nat × Nat)}
    (h : data.size = sliceEnd 0 planes) :
    CutInto data (planes.map fun (rowBytes, rows) => rowBytes * rows) (cutPlanes data 0 planes) where
  sizes := size_cutPlanes (Nat.le_of_eq h.symm)
  joined := by rw [flatMap_cutPlanes, ← h, Array.extract_size]

/-! ### The engine -/

/-- The measures of an open engine are those of its format and size. -/
structure Sound (engine : RawVideoEngine) : Prop where
  fits : engine.opened = true → engine.format.imageLength engine.size < UInt64.size
  imageBytes : engine.opened = true → engine.format.imageBytes? engine.size = some engine.imageBytes
  planes : engine.opened = true → engine.planes = engine.format.planes engine.size

def slot (engine : RawVideoEngine) : Slot := ⟨engine.opened, engine.output.map .video, engine.ended⟩

variable {engine : RawVideoEngine} {settings : CodecSettings}

theorem sliceEnd_of_imageBytes? {format : PixelFormat} {size : FrameSize} {length : Nat}
    (hfits : format.imageLength size < UInt64.size) (h : format.imageBytes? size = some length) :
    length = sliceEnd 0 (format.planes size) := by
  have hformat : format ≠ .unspecified := by
    rintro rfl
    cases h
  rw [PixelFormat.imageBytes?_eq hformat, Nat.mod_eq_of_lt hfits] at h
  exact (Option.some.inj h).symm

theorem length_planes (format : PixelFormat) (size : FrameSize) :
    (format.planes size).length = format.planeCount := by
  cases format <;> rfl

/-- Nothing is read beyond its end: there are measures of every plane, and the planes of a packet that
has the bytes of an image are slices within its data. -/
structure InBounds (engine : RawVideoEngine) : Prop where
  planeCount : engine.planes.length = engine.format.planeCount
  frame : ∀ packet, (engine.frame packet).planes =
    (slices 0 engine.planes).map fun (start, stop) => packet.data.extract start stop
  slices : ∀ packet : Packet, packet.data.size = engine.imageBytes →
    ∀ start stop, (start, stop) ∈ slices 0 engine.planes →
      start ≤ stop ∧ stop ≤ packet.data.size

theorem Sound.inBounds (h : engine.Sound) (hopened : engine.opened = true) : engine.InBounds where
  planeCount := by rw [h.planes hopened, length_planes]
  frame packet := cutPlanes_eq packet.data 0 engine.planes
  slices packet hdata start stop hm := by
    have hend : packet.data.size = sliceEnd 0 engine.planes := by
      rw [hdata, h.planes hopened]
      exact sliceEnd_of_imageBytes? (h.fits hopened) (h.imageBytes hopened)
    rw [hend]
    exact (bounds_of_mem_slices hm).2

theorem carries_of_frameOf {params : VideoParams} (hparams : settings.params.video? = some params)
    (hsize : engine.size = params.size)
    (hformat : engine.format = if params.format = .unspecified then .yuv420p else params.format)
    (hfits : engine.format.imageLength engine.size < UInt64.size)
    (himage : engine.format.imageBytes? engine.size = some engine.imageBytes)
    (hplanes : engine.planes = engine.format.planes engine.size)
    {packet : Packet} {frame : Frame} (h : engine.frameOf packet = .ok frame) :
    Carries settings packet frame := by
  unfold frameOf at h
  split_ifs at h with hdata
  cases h
  refine ⟨params, engine.frame packet, hparams, rfl, hformat, hsize, ?_, ?_, rfl, rfl, rfl⟩
  · exact congrArg (List.map Prod.fst) hplanes
  · have hend : packet.data.size = sliceEnd 0 engine.planes := by
      rw [Decidable.not_not.mp hdata, hplanes]
      exact sliceEnd_of_imageBytes? hfits himage
    exact hplanes ▸ cutInto_cutPlanes hend

theorem configure_cases (engine : RawVideoEngine) (settings : CodecSettings) :
    (∃ error, engine.configure settings = (.error error, engine)) ∨
    ∃ next, engine.configure settings = (.ok (), next) ∧ next.slot = ⟨true, none, false⟩ ∧
      (ImageFits settings → next.Sound ∧ ∀ packet frame, next.frameOf packet = .ok frame →
        Carries settings packet frame) := by
  unfold configure
  cases hparams : settings.params.video? with
  | none => exact .inl ⟨_, rfl⟩
  | some params =>
    dsimp only
    by_cases hsize : params.size.isEmpty = true
    · rw [if_pos hsize]
      exact .inl ⟨_, rfl⟩
    · rw [if_neg hsize]
      generalize hformat : (if params.format = .unspecified then PixelFormat.yuv420p
        else params.format) = format
      cases himage : format.imageBytes? params.size with
      | none => exact .inl ⟨_, rfl⟩
      | some imageBytes =>
        refine .inr ⟨_, rfl, rfl, fun hsettings => ?_⟩
        have hfits : format.imageLength params.size < UInt64.size :=
          hformat ▸ hsettings params hparams
        exact ⟨⟨fun _ => hfits, fun _ => himage, fun _ => rfl⟩,
          fun packet frame => carries_of_frameOf hparams rfl hformat.symm hfits himage rfl⟩

theorem sendPacket_cases (engine : RawVideoEngine) (packet : Packet) :
    engine.slot.Sends packet (engine.frameOf packet) (engine.sendPacket packet).1
        (engine.sendPacket packet).2.slot ∧
      Engine.flush (engine.sendPacket packet).2 = Engine.flush engine ∧
      ((engine.sendPacket packet).1 = .ok () ∨ (engine.sendPacket packet).2 = engine) := by
  obtain ⟨size, format, frameRate, imageBytes, planes, output, opened, ended⟩ := engine
  unfold sendPacket
  cases opened with
  | false => exact ⟨.closed rfl, rfl, .inr rfl⟩
  | true =>
    cases output with
    | some held => exact ⟨.busy rfl nofun, rfl, .inr rfl⟩
    | none =>
      cases hpacket : packet.isEmpty with
      | true => exact ⟨.ended rfl rfl hpacket, rfl, .inl rfl⟩
      | false =>
        rw [if_neg Bool.false_ne_true]
        by_cases hdata : packet.data.size ≠ imageBytes
        · rw [if_pos hdata]
          exact ⟨.refused rfl rfl hpacket (if_pos hdata), rfl, .inr rfl⟩
        · rw [if_neg hdata]
          exact ⟨.taken rfl rfl hpacket (if_neg hdata), rfl, .inl rfl⟩

theorem receiveFrame_cases (engine : RawVideoEngine) :
    engine.slot.Receives engine.receiveFrame.1 engine.receiveFrame.2.slot ∧
      Engine.flush engine.receiveFrame.2 = Engine.flush engine := by
  obtain ⟨size, format, frameRate, imageBytes, planes, output, opened, ended⟩ := engine
  cases output with
  | none => exact ⟨.drained rfl, rfl⟩
  | some held => exact ⟨.loaded rfl, rfl⟩

/-- The engine for uncompressed video has a single frame. -/
def singleFrame : SingleFrame RawVideoEngine ImageFits Carries where
  slot := slot
  frameOf := frameOf
  Sound := Sound
  frameOf_ne engine packet h := by
    unfold frameOf at h
    split_ifs at h
    cases h
  configures engine settings := by
    rcases configure_cases engine settings with hfailed | ⟨next, hopened, hslot, hnext⟩
    · exact .inl hfailed
    · exact .inr ⟨next, hopened, hslot, fun _ => hnext⟩
  sends engine packet := (sendPacket_cases engine packet).1
  sendKept engine packet := (sendPacket_cases engine packet).2.2
  receives engine := (receiveFrame_cases engine).1
  slot_flush _ := rfl
  frameOf_flush _ := rfl
  sound_flush _ :=
    ⟨fun h => ⟨h.fits, h.imageBytes, h.planes⟩, fun h => ⟨h.fits, h.imageBytes, h.planes⟩⟩
  flush_sendPacket engine packet := (sendPacket_cases engine packet).2.1
  flush_receiveFrame engine := (receiveFrame_cases engine).2

end RawVideoEngine

/-! ## All operations -/

/-- The engines for uncompressed streams keep the protocol under every sequence of operations, and
once opened they neither divide by zero nor take a slice beyond the data. The bytes of a block must be
countable in 32 bits, and those of an image in 64. -/
theorem conforms_uncompressed :
    (∀ (encoding : PcmEncoding) (calls : List EngineCall) (events : List EngineEvent)
      (engine : PcmEngine),
      (∀ settings, .configure settings ∈ calls → PcmEngine.BlockFits encoding settings) →
      Engine.run (PcmEngine.new encoding) calls = (events, engine) →
      Conforms (PcmEngine.Carries encoding) events (Account.ofEvents events) engine ∧
        (engine.opened = true → engine.blockAlign ≠ 0)) ∧
    ∀ (calls : List EngineCall) (events : List EngineEvent) (engine : RawVideoEngine),
      (∀ settings, .configure settings ∈ calls → RawVideoEngine.ImageFits settings) →
      Engine.run RawVideoEngine.new calls = (events, engine) →
      Conforms RawVideoEngine.Carries events (Account.ofEvents events) engine ∧
        (engine.opened = true → engine.InBounds) := by
  constructor
  · intro encoding calls events engine hfits hrun
    have hsound : (PcmEngine.new encoding).Sound encoding := ⟨rfl, nofun⟩
    obtain ⟨hconforms, hlast⟩ :=
      (PcmEngine.singleFrame encoding).conforms_run hsound rfl hfits
    rw [hrun] at hconforms hlast
    exact ⟨hconforms, hlast.blockAlign⟩
  · intro calls events engine hfits hrun
    have hsound : RawVideoEngine.new.Sound := ⟨nofun, nofun, nofun⟩
    obtain ⟨hconforms, hlast⟩ := RawVideoEngine.singleFrame.conforms_run hsound rfl hfits
    rw [hrun] at hconforms hlast
    exact ⟨hconforms, hlast.inBounds⟩

/-- A stereo block that is unread when the engine is opened again for mono; then a block that is taken,
an empty packet that has to wait for it, and the end. -/
def reopening : List EngineCall :=
  [.configure ⟨.pcmS16, #[], 0, .audio ⟨8000, .standard 2, .unspecified, 0, 0⟩⟩,
    .sendPacket ⟨#[1, 0, 2, 0], 5, 0, .hundredNanos⟩,
    .configure ⟨.pcmS16, #[], 0, .audio ⟨8000, .standard 1, .unspecified, 0, 0⟩⟩,
    .sendPacket ⟨#[3, 0], 7, 0, .hundredNanos⟩, .sendPacket .empty, .receiveFrame,
    .sendPacket .empty, .receiveFrame]

/-- Only the block that was sent last is received. -/
theorem conforms_uncompressed_reopened :
    (∀ settings, .configure settings ∈ reopening → PcmEngine.BlockFits .s16 settings) ∧
    (Engine.run (PcmEngine.new .s16) reopening).1.filterMap EngineEvent.frame? =
      [.audio ⟨[#[3, 0]], 1, 8000, .s16, .standard 1, 7, .hundredNanos, 0⟩] ∧
    Conforms (PcmEngine.Carries .s16) (Engine.run (PcmEngine.new .s16) reopening).1
      (Account.ofEvents (Engine.run (PcmEngine.new .s16) reopening).1)
      (Engine.run (PcmEngine.new .s16) reopening).2 ∧
    (Engine.run (PcmEngine.new .s16) reopening).2.blockAlign ≠ 0 := by
  have hfits : ∀ settings, .configure settings ∈ reopening →
      PcmEngine.BlockFits .s16 settings := by
    intro settings hm
    simp only [reopening, List.mem_cons, EngineCall.configure.injEq, reduceCtorEq, false_or,
      List.not_mem_nil, or_false] at hm
    rcases hm with rfl | rfl
    · rintro params ⟨⟩
      decide
    · rintro params ⟨⟩
      decide
  obtain ⟨hconforms, hblock⟩ := conforms_uncompressed.1 .s16 reopening _ _ hfits rfl
  exact ⟨hfits, by decide, hconforms, hblock (by decide)⟩

-- the image that is unread when the engine is opened again, for another size and format, is lost
example : (Engine.run RawVideoEngine.new
    [.configure ⟨.rawVideo, #[], 0, .video ⟨⟨1, 1⟩, .unspecified, .undefined, .one⟩⟩,
      .sendPacket ⟨#[1, 2, 3], 5, 0, .hundredNanos⟩,
      .configure ⟨.rawVideo, #[], 0, .video ⟨⟨3, 1⟩, .nv12, .undefined, .one⟩⟩,
      .sendPacket ⟨#[1, 2, 3], 6, 0, .hundredNanos⟩,
      .sendPacket ⟨#[1, 2, 3, 4, 5, 6, 7], 7, 0, .hundredNanos⟩,
      .receiveFrame]).1.filterMap EngineEvent.frame? =
    [.video ⟨[#[1, 2, 3], #[4, 5, 6, 7]], [3, 4], ⟨3, 1⟩, .nv12, 7, .hundredNanos, 0⟩] := by
  decide

end StreamDecode
