import StreamDecode.Engine.Basic

/-!
# The protocol of engines

`Engine.run` is a sequence of operations on an engine, with the result of each. `Account` is what a
host that sees only operations and results can tell of it: with which settings the engine was opened
last, which packets it took and what became of each of them, and whether the end of the stream was
announced. `Conforms` says which frames and which refusals may be seen then.

Engines that have at most one frame conform (`SingleFrame.conforms_run`): such an engine is a `Slot`
together with what it makes of a packet. Every operation is one on the slot, and each keeps the slot
in agreement with the account (`SingleFrame.tracks_step`).
-/

namespace StreamDecode

/-- An operation on an engine. -/
inductive EngineCall where
  | configure (settings : CodecSettings)
  | sendPacket (packet : Packet)
  | receiveFrame
  | flush

/-- An operation on an engine with its result. -/
inductive EngineEvent where
  | configured (settings : CodecSettings) (result : Except MediaError Unit)
  | sent (packet : Packet) (result : Except MediaError Unit)
  | received (result : Except MediaError Frame)
  | flushed

namespace Engine

variable {σ : Type} [Engine σ]

def step (engine : σ) : EngineCall → EngineEvent × σ
  | .configure settings => (configure engine settings).map (.configured settings) id
  | .sendPacket packet => (sendPacket engine packet).map (.sent packet) id
  | .receiveFrame => (receiveFrame engine).map .received id
  | .flush => (.flushed, flush engine)

def run (engine : σ) : List EngineCall → List EngineEvent × σ
  | [] => ([], engine)
  | call :: calls =>
    let (event, next) := step engine call
    let (events, last) := run next calls
    (event :: events, last)

@[simp] theorem run_nil (engine : σ) : run engine [] = ([], engine) := rfl

@[simp] theorem run_cons (engine : σ) (call : EngineCall) (calls : List EngineCall) :
    run engine (call :: calls) =
      ((step engine call).1 :: (run (step engine call).2 calls).1,
        (run (step engine call).2 calls).2) := rfl

theorem step_configure (engine : σ) (settings : CodecSettings) :
    step engine (.configure settings) =
      (.configured settings (configure engine settings).1, (configure engine settings).2) := rfl

end Engine

/-! ## What a host can tell -/

namespace EngineEvent

/-- The packet with data that an engine took. -/
def taken? : EngineEvent → Option Packet
  | .sent packet (.ok ()) => if packet.isEmpty then none else some packet
  | _ => none

/-- The frame that was received. -/
def frame? : EngineEvent → Option Frame
  | .received (.ok frame) => some frame
  | _ => none

end EngineEvent

/-- What became of a packet that an engine took: the frame that was received for it, or none if it
was unread when the engine forgot its data. -/
structure Receipt where
  /-- The settings with which the engine was open. -/
  settings? : Option CodecSettings
  packet : Packet
  frame? : Option Frame

/-- The books of a host on an engine. -/
structure Account where
  /-- The settings of the last opening that succeeded. -/
  settings? : Option CodecSettings
  /-- Whether an empty packet was taken since the engine forgot its data. -/
  ended : Bool
  /-- The packets taken whose frame was received or forgotten. -/
  settled : List Receipt
  /-- The packets taken after those. -/
  unread : List Packet

namespace Account

def empty : Account := ⟨none, false, [], []⟩

/-- The engine forgets all data: frames that are unread will not be received. -/
def forget (account : Account) : Account where
  settings? := account.settings?
  ended := false
  settled := account.settled ++ account.unread.map fun packet => ⟨account.settings?, packet, none⟩
  unread := []

/-- Enters an event. A flush and an opening that succeeds make the engine forget its data, and a frame
that is received is that of the first unread packet. -/
def note (account : Account) : EngineEvent → Account
  | .configured settings (.ok ()) => { account.forget with settings? := some settings }
  | .sent packet (.ok ()) =>
    if packet.isEmpty then { account with ended := true }
    else { account with unread := account.unread ++ [packet] }
  | .received (.ok frame) =>
    match account.unread with
    | [] => account
    | packet :: rest =>
      { account with
        settled := account.settled ++ [⟨account.settings?, packet, some frame⟩]
        unread := rest }
  | .flushed => account.forget
  | .configured _ (.error _) | .sent _ (.error _) | .received (.error _) => account

theorem note_ended {packet : Packet} (hpacket : packet.isEmpty = true) (account : Account) :
    account.note (.sent packet (.ok ())) = { account with ended := true } := if_pos hpacket

theorem note_taken {packet : Packet} (hpacket : packet.isEmpty = false) (account : Account) :
    account.note (.sent packet (.ok ())) = { account with unread := account.unread ++ [packet] } :=
  if_neg (Bool.eq_false_iff.mp hpacket)

theorem note_received {account : Account} {packet : Packet} {rest : List Packet}
    (hu : account.unread = packet :: rest) (frame : Frame) :
    account.note (.received (.ok frame)) =
      { account with
        settled := account.settled ++ [⟨account.settings?, packet, some frame⟩]
        unread := rest } := by
  unfold note
  rw [hu]

def ofEvents (events : List EngineEvent) : Account := events.foldl note empty

def packets (account : Account) : List Packet :=
  account.settled.map Receipt.packet ++ account.unread

def frames (account : Account) : List Frame := account.settled.filterMap Receipt.frame?

@[simp] theorem packets_forget (account : Account) : account.forget.packets = account.packets := by
  simp [packets, forget, Function.comp_def]

@[simp] theorem frames_forget (account : Account) : account.forget.frames = account.frames := by
  simp [frames, forget]

theorem packets_note (account : Account) (event : EngineEvent) :
    (account.note event).packets = account.packets ++ event.taken?.toList := by
  cases event with
  | configured settings result =>
    cases result with
    | ok => exact (packets_forget account).trans (List.append_nil _).symm
    | error error => exact (List.append_nil _).symm
  | sent packet result =>
    cases result with
    | ok => by_cases hp : packet.isEmpty <;> simp [note, EngineEvent.taken?, packets, hp]
    | error error => exact (List.append_nil _).symm
  | received result =>
    cases result with
    | ok frame => cases hu : account.unread <;> simp [note, EngineEvent.taken?, packets, hu]
    | error error => exact (List.append_nil _).symm
  | flushed => exact (packets_forget account).trans (List.append_nil _).symm

theorem frames_note (account : Account) (event : EngineEvent)
    (h : event.frame? ≠ none → account.unread ≠ []) :
    (account.note event).frames = account.frames ++ event.frame?.toList := by
  cases event with
  | configured settings result =>
    cases result with
    | ok => exact (frames_forget account).trans (List.append_nil _).symm
    | error error => exact (List.append_nil _).symm
  | sent packet result =>
    cases result with
    | ok => by_cases hp : packet.isEmpty <;> simp [note, EngineEvent.frame?, frames, hp]
    | error error => exact (List.append_nil _).symm
  | received result =>
    cases result with
    | ok frame =>
      cases hu : account.unread with
      | nil => exact absurd hu (h nofun)
      | cons packet rest => simp [note, EngineEvent.frame?, frames, hu]
    | error error => exact (List.append_nil _).symm
  | flushed => exact (frames_forget account).trans (List.append_nil _).symm

end Account

/-- What a host may see of an engine after events, for a description of the frames that packets become:
which packets and frames there were, and how the engine answers next. -/
structure Conforms {σ : Type} [Engine σ] (Carries : CodecSettings → Packet → Frame → Prop)
    (events : List EngineEvent) (account : Account) (engine : σ) : Prop where
  /-- The packets with data that were taken are those whose frame was received or forgotten, and the
  unread ones. -/
  packets : events.filterMap EngineEvent.taken? = account.packets
  /-- The frames received are those of the packets, in order, without the forgotten and unread ones. -/
  frames : events.filterMap EngineEvent.frame? = account.frames
  /-- A frame that was received carries its packet, in the way that the settings ask for. -/
  carried : ∀ receipt ∈ account.settled, ∀ frame, receipt.frame? = some frame →
    ∃ settings, receipt.settings? = some settings ∧ Carries settings receipt.packet frame
  /-- At most one packet is unread, and its frame is received next. -/
  unread : ∀ packet rest, account.unread = packet :: rest → rest = [] ∧
    ∃ settings frame, account.settings? = some settings ∧ Carries settings packet frame ∧
      (Engine.receiveFrame engine).1 = .ok frame
  /-- Without an unread packet the engine asks for more data, or has come to the end. -/
  drained : account.unread = [] → (Engine.receiveFrame engine).1 =
    .error (if account.ended then .endOfStream else .needMoreData)
  /-- An engine that was opened asks to try again just while a packet is unread. -/
  tryAgain : account.settings?.isSome → ∀ packet,
    (Engine.sendPacket engine packet).1 = .error .tryAgain ↔ account.unread ≠ []
  /-- Opening that fails leaves the engine as it is. -/
  configureKept : ∀ settings error, (Engine.configure engine settings).1 = .error error →
    (Engine.configure engine settings).2 = engine
  /-- A packet that is refused leaves the engine as it is. -/
  sendKept : ∀ packet error, (Engine.sendPacket engine packet).1 = .error error →
    (Engine.sendPacket engine packet).2 = engine

/-! ## Engines with a single frame -/

/-- What an engine with at most one frame has: whether it is open, the frame, and whether the end of
the stream was announced. -/
structure Slot where
  opened : Bool
  output : Option Frame
  ended : Bool

namespace Slot

/-- The slot after forgetting all data. -/
def forget (slot : Slot) : Slot := ⟨slot.opened, none, false⟩

/-- What a slot answers to a packet of which a frame or an error is made, and what it is then. -/
inductive Sends (slot : Slot) (packet : Packet) (made : Except MediaError Frame) :
    Except MediaError Unit → Slot → Prop
  | closed (hopened : slot.opened = false) :
    Sends slot packet made (.error (.engine .notOpened)) slot
  | busy (hopened : slot.opened = true) (houtput : slot.output ≠ none) :
    Sends slot packet made (.error .tryAgain) slot
  | ended (hopened : slot.opened = true) (houtput : slot.output = none)
      (hpacket : packet.isEmpty = true) :
    Sends slot packet made (.ok ()) { slot with ended := true }
  | refused {error : MediaError} (hopened : slot.opened = true) (houtput : slot.output = none)
      (hpacket : packet.isEmpty = false) (hmade : made = .error error) :
    Sends slot packet made (.error error) slot
  | taken {frame : Frame} (hopened : slot.opened = true) (houtput : slot.output = none)
      (hpacket : packet.isEmpty = false) (hmade : made = .ok frame) :
    Sends slot packet made (.ok ()) { slot with output := some frame }

/-- What a slot hands out, and what it is then. -/
inductive Receives (slot : Slot) : Except MediaError Frame → Slot → Prop
  | loaded {frame : Frame} (houtput : slot.output = some frame) :
    Receives slot (.ok frame) { slot with output := none }
  | drained (houtput : slot.output = none) :
    Receives slot (.error (if slot.ended then .endOfStream else .needMoreData)) slot

theorem Receives.result_eq {slot next : Slot} {result : Except MediaError Frame}
    (h : slot.Receives result next) :
    result = match slot.output with
      | some frame => .ok frame
      | none => .error (if slot.ended then .endOfStream else .needMoreData) := by
  cases h with
  | loaded houtput => rw [houtput]
  | drained houtput => rw [houtput]

theorem Sends.tryAgain_iff {slot next : Slot} {packet : Packet} {made : Except MediaError Frame}
    {result : Except MediaError Unit} (h : slot.Sends packet made result next)
    (hopen : slot.opened = true) (hmade : made ≠ .error .tryAgain) :
    result = .error .tryAgain ↔ slot.output ≠ none := by
  cases h with
  | closed hopened =>
    rw [hopen] at hopened
    cases hopened
  | busy _ houtput => exact iff_of_true rfl houtput
  | ended _ houtput => exact iff_of_false nofun (not_not_intro houtput)
  | refused _ houtput _ herror =>
    refine iff_of_false ?_ (not_not_intro houtput)
    rintro ⟨⟩
    exact hmade herror
  | taken _ houtput => exact iff_of_false nofun (not_not_intro houtput)

end Slot

namespace Account

/-- A slot is what the books say: it has a frame that carries the unread packet, if there is one, and
the frames that packets become carry them in the way that the settings ask for. -/
structure Matches (Carries : CodecSettings → Packet → Frame → Prop) (account : Account) (slot : Slot)
    (frameOf : Packet → Except MediaError Frame) : Prop where
  opened : slot.opened = account.settings?.isSome
  ended : slot.ended = account.ended
  idle : account.unread = [] → slot.output = none
  loaded : ∀ packet rest, account.unread = packet :: rest → rest = [] ∧
    ∃ settings frame, account.settings? = some settings ∧ Carries settings packet frame ∧
      slot.output = some frame
  made : ∀ settings, account.settings? = some settings → ∀ packet frame,
    frameOf packet = .ok frame → Carries settings packet frame
  carried : ∀ receipt ∈ account.settled, ∀ frame, receipt.frame? = some frame →
    ∃ settings, receipt.settings? = some settings ∧ Carries settings receipt.packet frame

namespace Matches

variable {Carries : CodecSettings → Packet → Frame → Prop} {account : Account} {slot next : Slot}
  {frameOf : Packet → Except MediaError Frame}

theorem empty : Account.empty.Matches Carries ⟨false, none, false⟩ frameOf where
  opened := rfl
  ended := rfl
  idle _ := rfl
  loaded _ _ hu := absurd hu.symm (List.cons_ne_nil _ _)
  made _ hs := absurd hs.symm (Option.some_ne_none _)
  carried _ hm := absurd hm List.not_mem_nil

theorem unread_eq_nil_iff (h : account.Matches Carries slot frameOf) :
    account.unread = [] ↔ slot.output = none := by
  refine ⟨h.idle, ?_⟩
  intro houtput
  cases hu : account.unread with
  | nil => rfl
  | cons packet rest =>
    obtain ⟨-, settings, frame, -, -, hframe⟩ := h.loaded packet rest hu
    rw [houtput] at hframe
    cases hframe

theorem carried_forget (h : account.Matches Carries slot frameOf) :
    ∀ receipt ∈ account.forget.settled, ∀ frame, receipt.frame? = some frame →
      ∃ settings, receipt.settings? = some settings ∧ Carries settings receipt.packet frame := by
  intro receipt hm frame hframe
  rcases List.mem_append.mp hm with hm | hm
  · exact h.carried receipt hm frame hframe
  · obtain ⟨packet, -, rfl⟩ := List.mem_map.mp hm
    cases hframe

theorem flushed (h : account.Matches Carries slot frameOf) :
    (account.note .flushed).Matches Carries slot.forget frameOf where
  opened := h.opened
  ended := rfl
  idle _ := rfl
  loaded := nofun
  made := h.made
  carried := h.carried_forget

theorem configured (h : account.Matches Carries slot frameOf) {settings : CodecSettings}
    {newFrameOf : Packet → Except MediaError Frame}
    (hmade : ∀ packet frame, newFrameOf packet = .ok frame → Carries settings packet frame) :
    (account.note (.configured settings (.ok ()))).Matches Carries ⟨true, none, false⟩
      newFrameOf where
  opened := rfl
  ended := rfl
  idle _ := rfl
  loaded := nofun
  made := by
    rintro _ ⟨⟩
    exact hmade
  carried := h.carried_forget

theorem sent (h : account.Matches Carries slot frameOf) {packet : Packet}
    {result : Except MediaError Unit} (hs : slot.Sends packet (frameOf packet) result next) :
    (account.note (.sent packet result)).Matches Carries next frameOf := by
  cases hs with
  | closed => exact h
  | busy => exact h
  | refused => exact h
  | ended _ houtput hpacket =>
    rw [note_ended hpacket]
    exact ⟨h.opened, rfl, h.idle, h.loaded, h.made, h.carried⟩
  | @taken frame hopened houtput hpacket hmade =>
    obtain ⟨settings, hsettings⟩ : ∃ settings, account.settings? = some settings :=
      Option.isSome_iff_exists.mp (h.opened.symm.trans hopened)
    rw [note_taken hpacket, h.unread_eq_nil_iff.mpr houtput]
    refine ⟨h.opened, h.ended, nofun, ?_, h.made, h.carried⟩
    rintro _ _ ⟨⟩
    exact ⟨rfl, settings, frame, hsettings, h.made settings hsettings packet frame hmade, rfl⟩

theorem received (h : account.Matches Carries slot frameOf) {result : Except MediaError Frame}
    (hr : slot.Receives result next) :
    (account.note (.received result)).Matches Carries next frameOf ∧
      (EngineEvent.frame? (.received result) ≠ none → account.unread ≠ []) := by
  cases hr with
  | drained => exact ⟨h, nofun⟩
  | @loaded frame houtput =>
    cases hu : account.unread with
    | nil =>
      rw [h.idle hu] at houtput
      cases houtput
    | cons packet rest =>
      obtain ⟨rfl, settings, carried, hsettings, hcarries, hcarried⟩ := h.loaded packet rest hu
      obtain rfl : carried = frame := Option.some.inj (hcarried.symm.trans houtput)
      rw [note_received hu]
      refine ⟨⟨h.opened, h.ended, fun _ => rfl, nofun, h.made, ?_⟩, fun _ => nofun⟩
      intro receipt hm other hother
      rcases List.mem_append.mp hm with hm | hm
      · exact h.carried receipt hm other hother
      · obtain rfl := List.mem_singleton.mp hm
        obtain rfl := Option.some.inj hother
        exact ⟨settings, hsettings, hcarries⟩

end Matches

end Account

/-- A type of engines that are a slot, with a function for what packets become. Only opening changes
that function: apart from it, engines that are the same when flushed differ in the slot alone. -/
structure SingleFrame (σ : Type) [Engine σ] (Allowed : CodecSettings → Prop)
    (Carries : CodecSettings → Packet → Frame → Prop) where
  slot : σ → Slot
  frameOf : σ → Packet → Except MediaError Frame
  /-- What holds of the engine besides. -/
  Sound : σ → Prop
  frameOf_ne : ∀ (engine : σ) (packet : Packet), frameOf engine packet ≠ .error .tryAgain
  configures : ∀ (engine : σ) (settings : CodecSettings),
    (∃ error, Engine.configure engine settings = (.error error, engine)) ∨
    ∃ next, Engine.configure engine settings = (.ok (), next) ∧ slot next = ⟨true, none, false⟩ ∧
      (Sound engine → Allowed settings → Sound next ∧ ∀ packet frame,
        frameOf next packet = .ok frame → Carries settings packet frame)
  sends : ∀ (engine : σ) (packet : Packet),
    (slot engine).Sends packet (frameOf engine packet) (Engine.sendPacket engine packet).1
      (slot (Engine.sendPacket engine packet).2)
  sendKept : ∀ (engine : σ) (packet : Packet),
    (Engine.sendPacket engine packet).1 = .ok () ∨ (Engine.sendPacket engine packet).2 = engine
  receives : ∀ engine : σ,
    (slot engine).Receives (Engine.receiveFrame engine).1 (slot (Engine.receiveFrame engine).2)
  slot_flush : ∀ engine : σ, slot (Engine.flush engine) = (slot engine).forget
  frameOf_flush : ∀ engine : σ, frameOf (Engine.flush engine) = frameOf engine
  sound_flush : ∀ engine : σ, Sound (Engine.flush engine) ↔ Sound engine
  flush_sendPacket : ∀ (engine : σ) (packet : Packet),
    Engine.flush (Engine.sendPacket engine packet).2 = Engine.flush engine
  flush_receiveFrame : ∀ engine : σ,
    Engine.flush (Engine.receiveFrame engine).2 = Engine.flush engine

namespace SingleFrame

variable {σ : Type} [Engine σ] {Allowed : CodecSettings → Prop}
  {Carries : CodecSettings → Packet → Frame → Prop} (single : SingleFrame σ Allowed Carries)

/-- The books on an engine are right, after events. -/
structure Tracks (events : List EngineEvent) (engine : σ) : Prop where
  sound : single.Sound engine
  books : (Account.ofEvents events).Matches Carries (single.slot engine) (single.frameOf engine)
  packets : events.filterMap EngineEvent.taken? = (Account.ofEvents events).packets
  frames : events.filterMap EngineEvent.frame? = (Account.ofEvents events).frames

variable {single} {events : List EngineEvent} {engine next : σ}

theorem Tracks.concat (h : single.Tracks events engine) {event : EngineEvent}
    (hsound : single.Sound next)
    (hbooks : ((Account.ofEvents events).note event).Matches Carries (single.slot next)
      (single.frameOf next))
    (hframe : event.frame? ≠ none → (Account.ofEvents events).unread ≠ []) :
    single.Tracks (events ++ [event]) next := by
  have hnote : Account.ofEvents (events ++ [event]) = (Account.ofEvents events).note event := by
    unfold Account.ofEvents
    rw [List.foldl_append]
    rfl
  refine ⟨hsound, hnote ▸ hbooks, ?_, ?_⟩
  · rw [hnote, Account.packets_note, ← h.packets, List.filterMap_append]
    cases h : event.taken? <;> simp [h]
  · rw [hnote, Account.frames_note _ _ hframe, ← h.frames, List.filterMap_append]
    cases h : event.frame? <;> simp [h]

/-- Every operation keeps the books right. -/
theorem tracks_step (h : single.Tracks events engine) (call : EngineCall)
    (hallowed : ∀ settings, call = .configure settings → Allowed settings) :
    single.Tracks (events ++ [(Engine.step engine call).1]) (Engine.step engine call).2 := by
  -- engines that are the same when flushed make the same of packets
  have hsame : ∀ {next : σ}, Engine.flush next = Engine.flush engine →
      single.Sound next ∧ single.frameOf next = single.frameOf engine := by
    intro next hflush
    rw [← single.sound_flush, ← single.frameOf_flush, hflush, single.sound_flush,
      single.frameOf_flush]
    exact ⟨h.sound, rfl⟩
  cases call with
  | configure settings =>
    rcases single.configures engine settings with ⟨error, hfailed⟩ | ⟨next, hopened, hslot, hnext⟩
    · rw [Engine.step_configure, hfailed]
      exact h.concat h.sound h.books nofun
    · obtain ⟨hsound, hmade⟩ := hnext h.sound (hallowed settings rfl)
      rw [Engine.step_configure, hopened]
      exact h.concat hsound (hslot ▸ h.books.configured hmade) nofun
  | sendPacket packet =>
    obtain ⟨hsound, hframeOf⟩ := hsame (single.flush_sendPacket engine packet)
    exact h.concat hsound (hframeOf ▸ h.books.sent (single.sends engine packet)) nofun
  | receiveFrame =>
    obtain ⟨hsound, hframeOf⟩ := hsame (single.flush_receiveFrame engine)
    obtain ⟨hbooks, hunread⟩ := h.books.received (single.receives engine)
    exact h.concat hsound (hframeOf ▸ hbooks) hunread
  | flush =>
    have hbooks := h.books.flushed
    rw [← single.slot_flush, ← single.frameOf_flush] at hbooks
    exact h.concat ((single.sound_flush engine).mpr h.sound) hbooks nofun

/-- The books are right after every sequence of operations. -/
theorem tracks_run {calls : List EngineCall}
    (hallowed : ∀ settings, .configure settings ∈ calls → Allowed settings) :
    ∀ {events : List EngineEvent} {engine : σ}, single.Tracks events engine →
      single.Tracks (events ++ (Engine.run engine calls).1) (Engine.run engine calls).2 := by
  induction calls with
  | nil =>
    intro events engine h
    rw [Engine.run_nil, List.append_nil]
    exact h
  | cons call calls ih =>
    intro events engine h
    have hstep := tracks_step h call fun settings hcall =>
      hallowed settings (hcall ▸ List.mem_cons_self)
    have hrest := ih (fun settings hm => hallowed settings (List.mem_cons_of_mem call hm)) hstep
    rw [List.append_assoc] at hrest
    exact hrest

theorem Tracks.conforms (h : single.Tracks events engine) :
    Conforms Carries events (Account.ofEvents events) engine where
  packets := h.packets
  frames := h.frames
  carried := h.books.carried
  unread packet rest hu := by
    obtain ⟨hrest, settings, frame, hsettings, hcarries, houtput⟩ := h.books.loaded packet rest hu
    refine ⟨hrest, settings, frame, hsettings, hcarries, ?_⟩
    rw [(single.receives engine).result_eq, houtput]
  drained hu := by
    rw [(single.receives engine).result_eq, h.books.idle hu, h.books.ended]
  tryAgain hopened packet := by
    rw [(single.sends engine packet).tryAgain_iff (h.books.opened.trans hopened)
      (single.frameOf_ne engine packet), Ne, ← h.books.unread_eq_nil_iff]
  configureKept settings error hfailed := by
    rcases single.configures engine settings with ⟨other, hkept⟩ | ⟨next, hopened, -⟩
    · rw [hkept]
    · rw [hopened] at hfailed
      cases hfailed
  sendKept packet error hfailed := by
    rcases single.sendKept engine packet with htaken | hkept
    · rw [htaken] at hfailed
      cases hfailed
    · exact hkept

/-- An engine with a single frame conforms after every sequence of operations. -/
theorem conforms_run (single : SingleFrame σ Allowed Carries) {engine : σ}
    (hsound : single.Sound engine) (hslot : single.slot engine = ⟨false, none, false⟩)
    {calls : List EngineCall}
    (hallowed : ∀ settings, .configure settings ∈ calls → Allowed settings) :
    Conforms Carries (Engine.run engine calls).1 (Account.ofEvents (Engine.run engine calls).1)
        (Engine.run engine calls).2 ∧
      single.Sound (Engine.run engine calls).2 := by
  have hstart : single.Tracks [] engine := ⟨hsound, hslot ▸ Account.Matches.empty, rfl, rfl⟩
  have hrun := tracks_run hallowed hstart
  exact ⟨hrun.conforms, hrun.sound⟩

end SingleFrame

end StreamDecode
