import StreamDecode.Negotiation
import StreamDecode.Session.Decode

/-!
# Who blames a media type

Renderers and conversions fail for arguments, data and memory, but they do not blame a media type
once the output type has the coding of its kind (`Renderer.blamesNoType_prepare`,
`Renderer.blamesNoType_render`). So if decoding a packet fails because of a media type, the engine
has said so: it refused the packet, or it failed while its frames were received
(`Session.blames_of_decode`).
-/

namespace StreamDecode

/-- Whether a result is no failure of a media type. -/
def BlamesNoType {α : Type} (result : Except MediaError α) : Prop :=
  ∀ fault, result ≠ .error (.invalidMediaType fault)

namespace BlamesNoType

variable {α β : Type} {result : Except MediaError α} {error : MediaError}

theorem ok (value : α) : BlamesNoType (.ok value : Except MediaError α) := nofun

theorem of_error (h : ∀ fault, error ≠ .invalidMediaType fault) :
    BlamesNoType (.error error : Except MediaError α) :=
  fun fault he => h fault (Except.error.inj he)

/-- A failure that is handed on blames no type if it did not before. -/
theorem relay (h : BlamesNoType result) (he : result = .error error) :
    BlamesNoType (.error error : Except MediaError β) := by
  subst he
  intro fault hf
  exact h fault (congrArg Except.error (Except.error.inj hf))

theorem map (h : BlamesNoType result) (f : α → β) : BlamesNoType (result.map f) := by
  cases result with
  | error error => exact h.relay rfl
  | ok value => exact ok (f value)

theorem bind (h : BlamesNoType result) {f : α → Except MediaError β}
    (hf : ∀ value, BlamesNoType (f value)) : BlamesNoType (result >>= f) := by
  cases result with
  | error error => exact h.relay rfl
  | ok value => exact hf value

end BlamesNoType

theorem blamesNoType_allocate (length : Nat) (purpose : String) :
    BlamesNoType (allocate length purpose) := by
  unfold allocate
  split
  · exact .of_error nofun
  · exact .ok _

/-! ## Audio -/

namespace AudioConversion

theorem blamesNoType_create (sourceRate : UInt32) (source : SampleFormat)
    (sourceLayout : ChannelLayout) (targetRate : UInt32) (target : SampleFormat)
    (targetLayout : ChannelLayout) :
    BlamesNoType (create sourceRate source sourceLayout targetRate target targetLayout) := by
  unfold create
  split
  · exact .of_error nofun
  split
  · exact .of_error nofun
  split
  · exact .of_error nofun
  split
  · exact .of_error nofun
  · exact .ok _

theorem blamesNoType_convert (conversion : AudioConversion) (planes : List Bytes)
    (samples : UInt32) (bufferLength : Nat) :
    BlamesNoType (conversion.convert planes samples bufferLength) := by
  unfold convert
  split
  · exact .of_error nofun
  split
  · exact .of_error nofun
  split
  · exact .ok _
  · exact .of_error nofun

theorem blamesNoType_convertInto (conversion : AudioConversion) (planes : List Bytes)
    (samples : UInt32) (buffer : Bytes) :
    BlamesNoType (conversion.convertInto planes samples buffer).1 := by
  unfold convertInto
  split
  · exact .ok _
  · next he => exact (conversion.blamesNoType_convert planes samples buffer.size).relay he

end AudioConversion

namespace AudioRenderer

theorem blamesNoType_conversionFor (rate : UInt32) (format : SampleFormat)
    (layout : ChannelLayout) : BlamesNoType (conversionFor rate format layout) := by
  unfold conversionFor
  exact AudioConversion.blamesNoType_create _ _ _ _ _ _

theorem blamesNoType_conversionOf (renderer : AudioRenderer) (frame : AudioFrame) :
    BlamesNoType (renderer.conversionOf frame) := by
  unfold conversionOf
  split
  · exact .ok _
  · exact blamesNoType_conversionFor _ _ _

theorem blamesNoType_withBuffer (renderer : AudioRenderer) (shape : UInt32 × UInt32)
    (length : Nat) : BlamesNoType (renderer.withBuffer shape length) := by
  unfold withBuffer
  split
  · exact .ok _
  · exact (blamesNoType_allocate _ _).map _

theorem blamesNoType_prepare (renderer : AudioRenderer) (params : StreamParams)
    {output : MediaType} (hcoding : output.coding = .float) :
    BlamesNoType (renderer.prepare params output).1 := by
  unfold prepare
  rw [if_neg (not_not_intro hcoding)]
  dsimp only
  split
  · exact .ok _
  · split
    · exact .ok _
    · next he => exact (blamesNoType_conversionFor _ _ _).relay he

theorem blamesNoType_render (renderer : AudioRenderer) (frame : Frame) :
    BlamesNoType (renderer.render frame).1 := by
  unfold render
  split
  · exact .of_error nofun
  · split
    · next he => exact (renderer.blamesNoType_conversionOf _).relay he
    · dsimp only
      split
      · next he => exact (blamesNoType_withBuffer _ _ _).relay he
      · exact (AudioConversion.blamesNoType_convertInto _ _ _ _).map _

end AudioRenderer

/-! ## Pictures -/

theorem Image.blamesNoType_check (image : Image) : BlamesNoType image.check := by
  unfold check
  dsimp only
  split
  · exact .of_error nofun
  split
  · exact .of_error nofun
  · exact .ok _

theorem Nv12.blamesNoType_convert (image : Image) (lumaLength chromaLength : Nat) :
    BlamesNoType (convert image lumaLength chromaLength) := by
  unfold convert
  split
  · exact .of_error nofun
  split
  · exact .of_error nofun
  split
  · next he => exact image.blamesNoType_check.relay he
  split
  · exact .ok _
  · exact .of_error nofun

namespace Nv12Conversion

theorem blamesNoType_create (size : FrameSize) (source target : PixelFormat) :
    BlamesNoType (create size source target) := by
  unfold create
  split
  · exact .of_error nofun
  split
  · exact .of_error nofun
  · exact .ok _

theorem blamesNoType_convertInto (conversion : Nv12Conversion) (planes : List Bytes)
    (strides : List Nat) (buffer : Bytes) :
    BlamesNoType (conversion.convertInto planes strides buffer).1 := by
  unfold convertInto Nv12.convertInto
  split
  · exact .of_error nofun
  · dsimp only
    split
    · exact .ok _
    · next hinto =>
      split at hinto
      · cases hinto
      · next he =>
        cases hinto
        exact (Nv12.blamesNoType_convert _ _ _).relay he

end Nv12Conversion

namespace VideoRenderer

theorem blamesNoType_rebuild (renderer : VideoRenderer) (size : FrameSize)
    (format : PixelFormat) : BlamesNoType (renderer.rebuild size format) := by
  unfold rebuild
  refine .bind (Nv12Conversion.blamesNoType_create _ _ _) fun conversion => .bind ?_ fun buffer => .ok _
  unfold bufferOf
  split
  · exact .ok _
  · exact blamesNoType_allocate _ _

theorem blamesNoType_withConversion (renderer : VideoRenderer) (size : FrameSize)
    (format : PixelFormat) : BlamesNoType (renderer.withConversion size format) := by
  unfold withConversion
  split
  · exact .ok _
  · exact renderer.blamesNoType_rebuild size format

theorem blamesNoType_prepare (renderer : VideoRenderer) (params : StreamParams)
    {output : MediaType} (hcoding : output.coding = .nv12) :
    BlamesNoType (renderer.prepare params output).1 := by
  unfold prepare
  rw [if_neg (not_not_intro hcoding)]
  dsimp only
  split
  · exact .ok _
  · split
    · exact .ok _
    · next he => exact (blamesNoType_rebuild _ _ _).relay he

theorem blamesNoType_render (renderer : VideoRenderer) (params : StreamParams) (frame : Frame) :
    BlamesNoType (renderer.render params frame).1 := by
  unfold render
  split
  · exact .of_error nofun
  · dsimp only
    split
    · exact .of_error nofun
    · split
      · next he => exact (renderer.blamesNoType_withConversion _ _).relay he
      · exact (Nv12Conversion.blamesNoType_convertInto _ _ _ _).map _

end VideoRenderer

/-! ## Renderers -/

namespace Renderer

/-- The renderer for an output type blames a type only for its coding. -/
theorem blamesNoType_prepare {output : MediaType} (params : StreamParams)
    (hcoding : output.coding = Negotiation.outputCoding output.kind) :
    BlamesNoType ((forOutput output).prepare params output).1 := by
  unfold forOutput
  cases hkind : output.kind with
  | audio =>
    rw [hkind] at hcoding
    exact AudioRenderer.blamesNoType_prepare .new params hcoding
  | video =>
    rw [hkind] at hcoding
    exact VideoRenderer.blamesNoType_prepare .new params hcoding

theorem blamesNoType_render (renderer : Renderer) (params : StreamParams) (frame : Frame) :
    BlamesNoType (renderer.render params frame).1 := by
  cases renderer with
  | audio renderer => exact renderer.blamesNoType_render frame
  | video renderer => exact renderer.blamesNoType_render params frame

end Renderer

/-! ## Engines and sessions -/

namespace Engine

variable {σ : Type} [Engine σ]

/-- The failure that ends the receiving of frames. -/
def failure (engine : σ) : MediaError :=
  match _h : receiveFrame engine with
  | (.ok _, next) => failure next
  | (.error error, _) => error
termination_by backlog engine
decreasing_by exact backlog_lt _h

theorem failure_of_ok {engine next : σ} {frame : Frame}
    (h : receiveFrame engine = (.ok frame, next)) : failure engine = failure next := by
  rw [failure]
  split
  · next h' =>
    cases h.symm.trans h'
    rfl
  · next h' => cases h.symm.trans h'

theorem failure_of_error {engine next : σ} {error : MediaError}
    (h : receiveFrame engine = (.error error, next)) : failure engine = error := by
  rw [failure]
  split
  · next h' => cases h.symm.trans h'
  · next h' =>
    cases h.symm.trans h'
    rfl

/-- Whether an engine blames a media type when it is given a packet: it refuses the packet for it, or
it takes the packet and fails for it while its frames are received. -/
def Blames (engine : σ) (packet : Packet) (fault : MediaTypeFault) : Prop :=
  (sendPacket engine packet).1 = .error (.invalidMediaType fault) ∨
    (sendPacket engine packet).1 = .ok () ∧
      failure (sendPacket engine packet).2 = .invalidMediaType fault

end Engine

namespace Session

variable {σ : Type} [Engine σ] {fault : MediaTypeFault}

theorem failure_of_receiveFrames (session : Session σ) (packet : Packet)
    (h : (session.receiveFrames packet).1 = .error (.invalidMediaType fault)) :
    Engine.failure session.engine = .invalidMediaType fault := by
  fun_induction receiveFrames session packet with
  | case1 session error engine hreceived =>
    rw [Engine.failure_of_error hreceived]
    split at h
    · cases h
    · exact Except.error.inj h
  | case2 session frame engine hreceived error renderer hrendered =>
    have hblames := session.renderer.blamesNoType_render (Engine.params engine) frame
    rw [hrendered] at hblames
    exact absurd h (hblames.relay rfl fault)
  | case3 session frame engine hreceived data renderer _ ih =>
    rw [Engine.failure_of_ok hreceived]
    have hfailure := ih h
    rwa [engine_enqueue] at hfailure

/-- If decoding a packet fails because of a media type, then the engine says so. -/
theorem blames_of_decode {session : Session σ} {packet : Packet}
    (h : (session.decode packet).1 = .error (.invalidMediaType fault)) :
    Engine.Blames session.engine packet fault := by
  unfold decode at h
  unfold Engine.Blames
  split at h
  · cases h
  · split at h
    · cases h
    · next hsent =>
      rw [hsent]
      exact Or.inl (congrArg Except.error (Except.error.inj h))
    · next engine hsent =>
      rw [hsent]
      refine Or.inr ⟨rfl, ?_⟩
      split at h
      · next error after hreceived =>
        refine failure_of_receiveFrames { session with engine := engine } packet ?_
        rw [hreceived]
        exact congrArg Except.error (Except.error.inj h)
      · cases h

end Session

end StreamDecode
