import StreamDecode.Proofs.Session.Types

/-!
# Runs of a session

`SessionCall` has one constructor for each operation that changes a session. `Session.step` performs
one of them and `Session.run` a list; a session that came out of `Session.create` is reachable by
runs only. Every operation but the taking of a format change keeps the types
(`Session.continues_step`).
-/

namespace StreamDecode

/-- An operation on a session. -/
inductive SessionCall where
  | decode (packet : Packet)
  | popSample
  | takeFormatChange
  | flushInput
  | flush
deriving DecidableEq

/-- What an operation on a session answers. -/
inductive SessionAnswer where
  | decoded (result : Except MediaError DecodeStatus)
  | sample (sample : Option Sample)
  | formatChange (type : Option MediaType)
  | flushed (result : Except MediaError Unit)

/-- Whether an operation replaces the engine. -/
def SessionCall.replacesEngine : SessionCall → Bool
  | .flushInput | .flush => true
  | _ => false

namespace Session

variable {σ : Type} [Engine σ]

def step (session : Session σ) : SessionCall → SessionAnswer × Session σ
  | .decode packet => (session.decode packet).map .decoded id
  | .popSample => session.popSample.map .sample id
  | .takeFormatChange => session.takeFormatChange.map .formatChange id
  | .flushInput => session.flushInput.map .flushed id
  | .flush => session.flush.map .flushed id

def run (session : Session σ) : List SessionCall → List SessionAnswer × Session σ
  | [] => ([], session)
  | call :: calls =>
    let (answer, next) := session.step call
    let (answers, last) := next.run calls
    (answer :: answers, last)

@[simp] theorem run_nil (session : Session σ) : session.run [] = ([], session) := rfl

@[simp] theorem run_cons (session : Session σ) (call : SessionCall) (calls : List SessionCall) :
    session.run (call :: calls) =
      ((session.step call).1 :: ((session.step call).2.run calls).1,
        ((session.step call).2.run calls).2) := rfl

theorem run_append (session : Session σ) (calls later : List SessionCall) :
    (session.run (calls ++ later)).2 = ((session.run calls).2.run later).2 := by
  induction calls generalizing session with
  | nil => rfl
  | cons call calls ih => exact ih _

theorem continues_step (session : Session σ) {call : SessionCall}
    (h : call ≠ .takeFormatChange) : session.Continues (session.step call).2 := by
  cases call with
  | decode packet => exact continues_decode session packet
  | popSample => exact continues_popSample session
  | takeFormatChange => exact absurd rfl h
  | flushInput => exact continues_flushInput session
  | flush => exact continues_flush session

theorem continues_run (session : Session σ) {calls : List SessionCall}
    (h : .takeFormatChange ∉ calls) : session.Continues (session.run calls).2 := by
  induction calls generalizing session with
  | nil => exact .refl _
  | cons call calls ih =>
    obtain ⟨hcall, hcalls⟩ := List.ne_and_not_mem_of_not_mem_cons h
    exact (session.continues_step hcall.symm).trans (ih _ hcalls)

/-- Two states of one session: its ways to open an engine, its input type and, up to the frame size,
its output type never change. -/
structure SameOrigin (before after : Session σ) : Prop where
  registry : after.registry = before.registry
  settings : after.settings = before.settings
  input : after.input = before.input
  output : after.output.SameButFrameSize before.output

omit [Engine σ] in
theorem Continues.sameOrigin {before after : Session σ} (h : before.Continues after) :
    before.SameOrigin after :=
  ⟨h.registry, h.settings, h.input, h.output⟩

theorem sameOrigin_step (session : Session σ) (call : SessionCall) :
    session.SameOrigin (session.step call).2 := by
  by_cases h : call = .takeFormatChange
  · subst h
    show session.SameOrigin session.takeFormatChange.2
    unfold takeFormatChange
    split <;> exact ⟨rfl, rfl, rfl, .refl _⟩
  · exact (session.continues_step h).sameOrigin

theorem sameOrigin_run (session : Session σ) (calls : List SessionCall) :
    session.SameOrigin (session.run calls).2 := by
  induction calls generalizing session with
  | nil => exact ⟨rfl, rfl, rfl, .refl _⟩
  | cons call calls ih =>
    have hstep := session.sameOrigin_step call
    have hrest := ih (session.step call).2
    exact ⟨hrest.registry.trans hstep.registry, hrest.settings.trans hstep.settings,
      hrest.input.trans hstep.input, hrest.output.trans hstep.output⟩

end Session

end StreamDecode
