import StreamDecode.Proofs.Pipeline.Pcm
import StreamDecode.Proofs.Ratio.Reduction
import StreamDecode.Proofs.Session.Pcm

/-!
# How long uncompressed audio lasts

A packet without a duration lasts as long as its samples. They are counted in the time base of the
engine, whose denominator is the rate as a signed word: from the sign bit on it is negative, and so
is the duration (`IsPcmDuration`). The duration is right for the rates below the sign bit, and above
only for packets so short that it is zero (`IsPcmDuration.exact_iff`).

The samples that are counted are those of the packet (`PcmEngine.Fresh.counted_of_rendering`). Where
the length of a block does not fit its word, the engine counts more of them; but a frame with more
samples than its packet has is not rendered, as long as its own length is a word.
-/

namespace StreamDecode

/-! ## Counts of samples as durations -/

/-- A rate from the sign bit on is a negative number as a signed word. -/
theorem toInt_toInt32_of_signed {unsigned : UInt32} (h : 2 ^ 31 ≤ unsigned.toNat) :
    unsigned.toInt32.toInt = -((2 ^ 32 - unsigned.toNat : Nat) : Int) := by
  have hlt := unsigned.toNat_lt
  have hbits : unsigned.toInt32.toInt =
      if 2 * unsigned.toNat < 2 ^ 32 then (unsigned.toNat : Int)
      else (unsigned.toNat : Int) - (2 ^ 32 : Nat) :=
    BitVec.toInt_eq_toNat_cond unsigned.toInt32.toBitVec
  rw [hbits, if_neg (by omega)]
  omega

theorem toInt_ofInt_neg {magnitude : Nat} (h : magnitude < 2 ^ 63) :
    (Int64.ofInt (-(magnitude : Int))).toInt = -(magnitude : Int) :=
  Int64.toInt_ofInt_of_le (by omega) (by omega)

/-- The duration that a number of samples gets at a rate, in units of 100 nanoseconds and rounded
toward zero. From the sign bit on, a rate stands for a negative one, which is less by `2 ^ 32`. -/
structure IsPcmDuration (rate : UInt32) (count : Nat) (duration : Int64) : Prop where
  low : rate.toNat < 2 ^ 31 → duration.toInt = (count * 10000000 / rate.toNat : Nat)
  high : 2 ^ 31 ≤ rate.toNat →
    duration.toInt = -((count * 10000000 / (2 ^ 32 - rate.toNat) : Nat) : Int)

namespace IsPcmDuration

variable {rate : UInt32} {count : Nat} {duration : Int64}

/-- The duration is right below the sign bit, and above only if it is zero. -/
theorem exact_iff (h : IsPcmDuration rate count duration) :
    duration.toInt = (count * 10000000 / rate.toNat : Nat) ↔
      rate.toNat < 2 ^ 31 ∨ count * 10000000 < 2 ^ 32 - rate.toNat := by
  have hrate := rate.toNat_lt
  rcases Nat.lt_or_ge rate.toNat (2 ^ 31) with hlow | hhigh
  · exact ⟨fun _ => .inl hlow, fun _ => h.low hlow⟩
  · rw [h.high hhigh]
    constructor
    · intro heq
      -- neither side has the sign of the other one
      have hzero : count * 10000000 / (2 ^ 32 - rate.toNat) = 0 := by
        generalize count * 10000000 / (2 ^ 32 - rate.toNat) = made at heq
        generalize count * 10000000 / rate.toNat = due at heq
        omega
      rcases Nat.div_eq_zero_iff.mp hzero with hnone | hshort
      · omega
      · exact .inr hshort
    · rintro (hlow | hshort)
      · omega
      · rw [Nat.div_eq_of_lt hshort, Nat.div_eq_of_lt (by omega)]
        rfl

theorem of_samples (hrate : rate ≠ 0) (blocks : UInt32) :
    IsPcmDuration rate blocks.toNat (samplesDuration blocks ⟨1, rate.toInt32⟩) := by
  have hblocks := blocks.toNat_lt
  have hden : rate.toInt32 ≠ 0 := fun h => hrate (by
    rw [← UInt32.toUInt32_toInt32 rate, h]
    rfl)
  have hquotient : ∀ divisor : Nat,
      ((blocks.toNat : Int) * (1 : Int32).toInt * 10000000).tdiv divisor =
        (blocks.toNat * 10000000 / divisor : Nat) := by
    intro divisor
    rw [Int.ofNat_tdiv, Int.natCast_mul, show (1 : Int32).toInt = 1 from rfl, Int.mul_one]
    rfl
  -- no quotient of this number leaves 64 bits
  have hfits : ∀ divisor, blocks.toNat * 10000000 / divisor < 2 ^ 63 := fun divisor =>
    Nat.lt_of_le_of_lt (Nat.div_le_self _ divisor) (by omega)
  rcases Nat.lt_or_ge rate.toNat (2 ^ 31) with hlow | hhigh
  · have hword := Int64.toInt_ofNat_of_lt (hfits rate.toNat)
    have hconverts : Ratio.Converts ⟨1, rate.toInt32⟩ blocks.toNat
        (Int64.ofNat (blocks.toNat * 10000000 / rate.toNat)) := by
      refine ⟨hden, ?_⟩
      rw [hword, Ratio.toInt_toInt32 hlow, hquotient]
    rw [samplesDuration_of_converts hconverts]
    exact ⟨fun _ => hword, fun h => absurd hlow (Nat.not_lt.mpr h)⟩
  · have hword := toInt_ofInt_neg (hfits (2 ^ 32 - rate.toNat))
    have hconverts : Ratio.Converts ⟨1, rate.toInt32⟩ blocks.toNat (Int64.ofInt
        (-((blocks.toNat * 10000000 / (2 ^ 32 - rate.toNat) : Nat) : Int))) := by
      refine ⟨hden, ?_⟩
      rw [hword, toInt_toInt32_of_signed hhigh, Int.tdiv_neg, hquotient]
    rw [samplesDuration_of_converts hconverts]
    exact ⟨fun h => absurd h (Nat.not_lt.mpr hhigh), fun _ => hword⟩

end IsPcmDuration

/-! ## Frames that can be rendered -/

theorem Packet.size_pos {packet : Packet} (h : packet.isEmpty = false) : 0 < packet.data.size :=
  Array.size_pos_iff.mpr fun hempty => by
    rw [Packet.isEmpty, hempty] at h
    cases h

theorem AudioConversion.covers_of_convert {conversion : AudioConversion} {planes : List Bytes}
    {samples : UInt32} {length : Nat} {bytes : Bytes}
    (h : conversion.convert planes samples length = .ok bytes) :
    conversion.covers planes samples = true := by
  cases hcovers : conversion.covers planes samples with
  | true => rfl
  | false =>
    unfold convert at h
    rw [hcovers] at h
    split at h <;> cases h

namespace PcmEngine

variable {engine : PcmEngine} {packet : Packet} {blocks : UInt32}

/-- The blocks that the engine counts in a packet. -/
def counted (engine : PcmEngine) (packet : Packet) : Nat :=
  packet.data.size / engine.blockAlign.toNat

/-- The bytes of as many blocks as are counted in a packet are themselves counted in 64 bits. -/
def FrameFits (engine : PcmEngine) (packet : Packet) : Prop :=
  engine.counted packet * engine.layout.channels.toNat * engine.encoding.sample.width < UInt64.size

theorem size_of_rendering {data : Bytes}
    (h : AudioRenderer.rendering (.audio (engine.frame packet blocks)) = .ok data)
    (hlength : blocks.toNat * engine.layout.channels.toNat * engine.encoding.sample.width <
      UInt64.size)
    (hchannels : engine.layout.channels ≠ 0) :
    blocks.toNat * engine.layout.channels.toNat * engine.encoding.sample.width ≤
      packet.data.size := by
  obtain ⟨conversion, hconversion, hkeeps, -, hsame⟩ :=
    AudioRenderer.keepsChannels_conversionFor engine.rate engine.encoding
      (UInt32.pos_iff_ne_zero.mpr hchannels)
  change (do
    let conversion ← AudioRenderer.conversionFor engine.rate engine.encoding.sampleFormat
      engine.layout
    let buffer ← allocate (conversion.outputBytes blocks) "音频输出缓冲区"
    conversion.convert [packet.data] blocks buffer.size) = .ok data at h
  rw [hconversion] at h
  dsimp only [bind, Except.bind] at h
  rw [← hsame, ← hkeeps.planeLength] at hlength ⊢
  rw [← Nat.mod_eq_of_lt hlength, ← conversion.planeBytes_eq]
  split at h
  · cases h
  · exact AudioConversion.planeBytes_le_of_covers (AudioConversion.covers_of_convert h)
      hkeeps.interleaved rfl

/-- The frame of a packet that can be rendered has the samples that the packet holds, if its length
is a word; where the length of a block is not, no such frame can be rendered. -/
theorem Fresh.counted_of_rendering (h : engine.Fresh) {count : Nat} {data : Bytes}
    (hpacket : packet.isEmpty = false)
    (hdata : packet.data.size =
      count * (engine.encoding.sample.width * engine.layout.channels.toNat))
    (hframe : engine.FrameFits packet)
    (hblocks : blockCount packet.data.size engine.blockAlign = .ok blocks)
    (hrendered : AudioRenderer.rendering (.audio (engine.frame packet blocks)) = .ok data) :
    engine.counted packet = count := by
  have hcounted : blocks.toNat = engine.counted packet := (toNat_of_blockCount hblocks).2
  have hlength := Packet.size_pos hpacket
  have hwhole := mul_of_blockCount hblocks
  unfold FrameFits at hframe
  rw [← hcounted] at hframe ⊢
  have hsize := size_of_rendering hrendered hframe h.channels
  have hfits : engine.encoding.sample.width * engine.layout.channels.toNat < UInt32.size := by
    refine Nat.lt_of_le_of_lt ?_ engine.blockAlign.toNat_lt
    refine Nat.le_of_mul_le_mul_left ?_ (Nat.pos_of_mul_pos_right (hwhole ▸ hlength))
    rw [hwhole, Nat.mul_comm engine.encoding.sample.width, ← Nat.mul_assoc]
    exact hsize
  rw [h.blockAlign, toNat_block hfits, hdata] at hwhole
  exact Nat.eq_of_mul_eq_mul_right (Nat.pos_of_mul_pos_left (hdata ▸ hlength)) hwhole

/-- A number of blocks that fits: the length of a block and their number into their words, and their
samples as floats into a buffer. -/
structure Fits (engine : PcmEngine) (count : Nat) : Prop where
  block : engine.encoding.sample.width * engine.layout.channels.toNat < UInt32.size
  number : count < UInt32.size
  buffer : 4 * (count * engine.layout.channels.toNat) ≤ maxBufferLength

variable {count : Nat}

theorem Fits.frameFits (h : engine.Fits count)
    (hblocks : blockCount packet.data.size engine.blockAlign = .ok (UInt32.ofNat count)) :
    engine.FrameFits packet := by
  have hwidth : engine.encoding.sample.width ≤ 4 := by
    cases engine.encoding <;> decide
  unfold FrameFits counted
  rw [← (toNat_of_blockCount hblocks).2, UInt32.toNat_ofNat_of_lt' h.number]
  refine lt_size_of_le (Nat.le_trans (Nat.mul_le_mul_left _ hwidth) ?_)
  exact Nat.mul_comm 4 _ ▸ h.buffer

theorem Fresh.blockCount_of_fits (h : engine.Fresh) (hfits : engine.Fits count)
    (hdata : packet.data.size =
      count * (engine.encoding.sample.width * engine.layout.channels.toNat)) :
    blockCount packet.data.size engine.blockAlign = .ok (UInt32.ofNat count) := by
  have hwidth : 0 < engine.encoding.sample.width := by cases engine.encoding <;> decide
  have hchannels : 0 < engine.layout.channels.toNat :=
    UInt32.lt_iff_toNat_lt.mp (UInt32.pos_iff_ne_zero.mpr h.channels)
  unfold blockCount
  rw [h.blockAlign, toNat_block hfits.block, hdata, Nat.mul_mod_left,
    Nat.mul_div_cancel _ (Nat.mul_pos hwidth hchannels), if_neg (not_not_intro rfl),
    if_neg (Nat.not_le.mpr hfits.number)]

theorem Fresh.rendering_of_fits (h : engine.Fresh) (hfits : engine.Fits count)
    (hdata : packet.data.size =
      count * (engine.encoding.sample.width * engine.layout.channels.toNat)) :
    AudioRenderer.rendering (.audio (engine.frame packet (UInt32.ofNat count))) =
      .ok (engine.encoding.toFloat packet.data) := by
  have hcount : (UInt32.ofNat count).toNat = count := UInt32.toNat_ofNat_of_lt' hfits.number
  have hblocks : packet.data.size = (UInt32.ofNat count).toNat *
      engine.layout.channels.toNat * engine.encoding.sample.width := by
    rw [hcount, hdata, Nat.mul_assoc, Nat.mul_comm engine.encoding.sample.width]
  have hlength : 4 * ((UInt32.ofNat count).toNat * engine.layout.channels.toNat) < UInt64.size :=
    hcount.symm ▸ lt_size_of_le hfits.buffer
  rw [AudioRenderer.rendering_pcm (UInt32.pos_iff_ne_zero.mpr h.channels) hlength hblocks, hcount,
    allocate_of_le _ hfits.buffer]
  rfl

theorem Fresh.isPcmDuration_sampleOf (h : engine.Fresh) (hduration : packet.duration ≤ 0)
    (hblocks : blocks ≠ 0) (data : Bytes) :
    IsPcmDuration engine.rate blocks.toNat (engine.sampleOf packet blocks data).duration := by
  unfold sampleOf
  rw [sampleDuration_frame packet hblocks, if_neg (Int64.not_lt.mpr hduration), h.timeBase]
  exact .of_samples h.rate blocks

end PcmEngine

/-! ## Sessions -/

namespace Session

variable {ε : Type} [Engine ε] {session : Session (AnyEngine ε)} {origin : PcmEngine}
  {packet : Packet}

/-- A packet of whole blocks brings at most one sample, and one if the blocks fit. It lasts as long as
the blocks that are counted. -/
theorem PlaysPcm.made_decode (h : session.PlaysPcm origin) (hpacket : packet.isEmpty = false)
    (hduration : packet.duration ≤ 0) {count : Nat}
    (hdata : packet.data.size =
      count * (origin.encoding.sample.width * origin.layout.channels.toNat)) :
    ∃ made, (session.decode packet).2.queue = session.queue ++ made ∧
      (∀ sample ∈ made, IsPcmDuration origin.rate (origin.counted packet) sample.duration ∧
        (origin.FrameFits packet → origin.counted packet = count)) ∧
      (origin.Fits count → (session.decode packet).1 = .ok .queued ∧ made.length = 1) := by
  have houtcome := h.outcome_decode packet
  generalize session.decode packet = decoded at houtcome
  obtain ⟨result, after⟩ := decoded
  cases houtcome with
  | ended hempty =>
    rw [hpacket] at hempty
    cases hempty
  | refused _ hblocks =>
    refine ⟨[], (List.append_nil _).symm, nofun, ?_⟩
    intro hfits
    rw [h.fresh.blockCount_of_fits hfits hdata] at hblocks
    cases hblocks
  | rejected _ hblocks hrender =>
    refine ⟨[], (List.append_nil _).symm, nofun, ?_⟩
    intro hfits
    rw [h.fresh.blockCount_of_fits hfits hdata] at hblocks
    cases hblocks
    have hfailed := (h.serves.render origin.params _).1.symm.trans (congrArg Prod.fst hrender)
    cases (h.fresh.rendering_of_fits hfits hdata).symm.trans hfailed
  | @queued blocks data renderer _ hblocks hrender =>
    refine ⟨_, rfl, ?_, fun _ => ⟨rfl, rfl⟩⟩
    intro sample hm
    obtain rfl := List.mem_singleton.mp hm
    have hrendered := (h.serves.render origin.params _).1.symm.trans (congrArg Prod.fst hrender)
    have hcounted : blocks.toNat = origin.counted packet :=
      (PcmEngine.toNat_of_blockCount hblocks).2
    have hne : blocks ≠ 0 := by
      rintro rfl
      have hlength := Packet.size_pos hpacket
      rw [← PcmEngine.mul_of_blockCount hblocks, UInt32.toNat_zero, Nat.zero_mul] at hlength
      exact absurd hlength (Nat.lt_irrefl 0)
    exact ⟨hcounted ▸ h.fresh.isPcmDuration_sampleOf hduration hne data, fun hframe =>
      h.fresh.counted_of_rendering hpacket hdata hframe hblocks hrendered⟩

/-- **Durations of uncompressed audio.** In a session with the PCM engine, after any operations, a
packet with data but no duration that holds a number of samples for each channel brings samples with
the duration, at the rate of the input type, of the samples that the engine counts in it. These are
the samples that the packet holds, as long as a word counts their bytes; and then the duration is
their number in units of 100 nanoseconds, rounded down, exactly if the rate is below the sign bit or
the number is so small that the duration is zero. If the blocks fit, there is one sample. -/
theorem duration_after_run {registry : EngineRegistry (AnyEngine ε)} {input output : MediaType}
    {start : Session (AnyEngine ε)} {engine : PcmEngine}
    (hcreated : create registry input output = .ok start) (hengine : start.engine = .pcm engine)
    (calls : List SessionCall) {packet : Packet} (hpacket : packet.isEmpty = false)
    (hduration : packet.duration ≤ 0) {count : Nat}
    (hdata : packet.data.size =
      count * (engine.encoding.sample.width * engine.layout.channels.toNat)) :
    let session := (start.run calls).2
    input.u32? .sampleRate = some engine.rate ∧
    ∃ made, (session.decode packet).2.queue = session.queue ++ made ∧
      (∀ sample ∈ made, IsPcmDuration engine.rate (engine.counted packet) sample.duration ∧
        (engine.FrameFits packet → engine.counted packet = count ∧
          (sample.duration.toInt = (count * 10000000 / engine.rate.toNat : Nat) ↔
            engine.rate.toNat < 2 ^ 31 ∨ count * 10000000 < 2 ^ 32 - engine.rate.toNat))) ∧
      (engine.Fits count → engine.FrameFits packet ∧
        (session.decode packet).1 = .ok .queued ∧ made.length = 1) := by
  intro session
  obtain ⟨hplays, hrate⟩ := playsPcm_create hcreated hengine
  obtain ⟨made, hqueue, hdurations, hqueued⟩ :=
    (hplays.run calls).made_decode hpacket hduration hdata
  refine ⟨hrate, made, hqueue, ?_, ?_⟩
  · intro sample hm
    obtain ⟨hsample, hcounted⟩ := hdurations sample hm
    refine ⟨hsample, fun hframe => ⟨hcounted hframe, ?_⟩⟩
    rw [hcounted hframe] at hsample
    exact hsample.exact_iff
  · intro hfits
    exact ⟨hfits.frameFits (hplays.fresh.blockCount_of_fits hfits hdata), hqueued hfits⟩

/-- Two blocks of two channels at an ordinary rate, after a packet that is refused, the end of the
stream and a flush. -/
theorem duration_after_run_stereo :
    let registry : EngineRegistry (AnyEngine ScriptedEngine) := .builtin
    let calls : List SessionCall := [.decode ⟨#[0], 0, 0, .hundredNanos⟩, .decode .empty, .flush]
    let packet : Packet := ⟨#[0, 64, 0, 192, 0, 64, 0, 192], 0, 0, .hundredNanos⟩
    packet.isEmpty = false ∧ packet.duration ≤ 0 ∧
    ∃ start, create registry (.audio .pcm 2 44100) (.audio .float 2 44100) = .ok start ∧
      ((start.run calls).2.decode packet).1 = .ok .queued ∧
      ∃ sample, ((start.run calls).2.decode packet).2.queue =
          (start.run calls).2.queue ++ [sample] ∧
        sample.duration.toInt = 453 := by
  intro registry calls packet
  have hduration : packet.duration ≤ 0 := by decide
  obtain ⟨-, made, hqueue, hdurations, hqueued⟩ := @duration_after_run ScriptedEngine _ registry
    (.audio .pcm 2 44100) (.audio .float 2 44100) _ _ rfl rfl calls packet rfl hduration 2 rfl
  obtain ⟨hframe, hresult, hlength⟩ := hqueued ⟨by decide, by decide, by decide⟩
  obtain ⟨sample, rfl⟩ := List.length_eq_one_iff.mp hlength
  obtain ⟨-, hcounted⟩ := hdurations sample (List.mem_singleton.mpr rfl)
  exact ⟨rfl, hduration, _, rfl, hresult, sample, hqueue,
    (hcounted hframe).2.mpr (.inl (by decide))⟩

/-- At the greatest rate, the sample of a single block has a negative duration instead of none. -/
theorem negative_duration :
    let registry : EngineRegistry (AnyEngine ScriptedEngine) := .builtin
    ∃ start, create registry (.audio .pcm 1 4294967295) (.audio .float 1 4294967295) = .ok start ∧
      (start.run [.decode ⟨#[0, 64], 0, 0, .hundredNanos⟩, .popSample]).1 =
        [.decoded (.ok .queued), .sample (some ⟨#[0, 0, 0, 63], 0, -10000000⟩)] ∧
      1 * 10000000 / 4294967295 = 0 := by
  intro registry
  refine ⟨_, rfl, ?_, rfl⟩
  obtain ⟨hplays, -⟩ := @playsPcm_create ScriptedEngine _ _ _ registry
    (.audio .pcm 1 4294967295) (.audio .float 1 4294967295) rfl rfl
  have hdecode := hplays.decode_of_taken
    (show Packet.isEmpty ⟨#[0, 64], 0, 0, .hundredNanos⟩ = false from rfl)
    (show PcmEngine.blockCount 2 2 = .ok 1 from rfl)
  rw [run_cons, run_cons, run_nil]
  simp only [step]
  rw [hdecode]
  rfl

end Session

end StreamDecode
