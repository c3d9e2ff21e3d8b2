import GwzCore.Lib.Steps
import GwzCore.SessionContract

/-!
# The in-process channel pair

Two ends share one locked state: an inbox for each side, with a count for each
lane, the first ending, and whether each side has stopped receiving. Each
operation holds the lock throughout, so an interleaving of the two ends is a list
of operations; a receive that finds nothing waits, which changes nothing, and
looks again.
-/
namespace GwzCore.SessionChannel.InProcess
open List Function Bool

open SessionContract

variable {frame : Frame} {lane : Lane}

inductive Side where
  | client
  | host
  deriving DecidableEq

def Side.peer : Side → Side
  | client => host
  | host => client

@[simp] lemma Side.peer_peer (side : Side) : side.peer.peer = side := by
  cases side <;> rfl

lemma Side.peer_ne (side : Side) : side.peer ≠ side := by
  cases side <;> decide

lemma Side.eq_or_eq_peer (side other : Side) : other = side ∨ other = side.peer := by
  cases side <;> cases other <;> decide

/-- Frames in transit to one side, with each lane's count. -/
structure Inbox where
  frames : List (Frame × Lane) := []
  calls : ℕ := 0
  controls : ℕ := 0
  deriving DecidableEq

namespace Inbox

variable {inbox : Inbox} {other : Lane} {rest : List (Frame × Lane)}

def count (inbox : Inbox) : Lane → ℕ
  | .call => inbox.calls
  | .control => inbox.controls

def setCount (inbox : Inbox) (lane : Lane) (count : ℕ) : Inbox :=
  match lane with
  | .call => { inbox with calls := count }
  | .control => { inbox with controls := count }

lemma count_setCount (count : ℕ) :
    (inbox.setCount lane count).count other =
      if other = lane then count else inbox.count other := by
  cases lane <;> cases other <;> rfl

/-- The frames queued in a lane. -/
def queued (frames : List (Frame × Lane)) (lane : Lane) : ℕ := frames.countP (·.2 = lane)

/-- Each lane's count is the number of its frames, and within its capacity. -/
def Counted (limits : Limits) (inbox : Inbox) : Prop :=
  ∀ lane, inbox.count lane = queued inbox.frames lane ∧
    inbox.count lane ≤ limits.laneCapacity lane

/-- A frame joins the queue and its lane's count. -/
def pushBack (inbox : Inbox) (frame : Frame) (lane : Lane) : Inbox :=
  { inbox.setCount lane (inbox.count lane + 1) with frames := inbox.frames ++ [(frame, lane)] }

@[simp] lemma pushBack_frames :
    (inbox.pushBack frame lane).frames = inbox.frames ++ [(frame, lane)] := rfl

/-- The oldest frame has left the queue and its lane's count. -/
def popFront (inbox : Inbox) (lane : Lane) (rest : List (Frame × Lane)) : Inbox :=
  { inbox.setCount lane (inbox.count lane - 1) with frames := rest }

@[simp] lemma popFront_frames : (inbox.popFront lane rest).frames = rest := rfl

variable {limits : Limits}

lemma Counted.empty (limits : Limits) : Counted limits {} := by
  intro lane
  cases lane <;> exact ⟨rfl, Nat.zero_le _⟩

lemma Counted.pushBack (h : Counted limits inbox)
    (hroom : inbox.count lane < limits.laneCapacity lane) :
    Counted limits (inbox.pushBack frame lane) := by
  intro other
  have hcount : (inbox.pushBack frame lane).count other =
      if other = lane then inbox.count lane + 1 else inbox.count other := count_setCount _
  have hother := h other
  rw [hcount, pushBack_frames, queued, countP_append, ← queued]
  by_cases heq : other = lane
  · subst heq
    simp only [if_true, countP_singleton, decide_true]
    omega
  · simpa [heq, Ne.symm heq] using hother

lemma Counted.popFront (h : Counted limits inbox) (hframes : inbox.frames = (frame, lane) :: rest) :
    Counted limits (inbox.popFront lane rest) := by
  intro other
  have hcount : (inbox.popFront lane rest).count other =
      if other = lane then inbox.count lane - 1 else inbox.count other := count_setCount _
  have hother := h other
  rw [hframes, queued, countP_cons, ← queued] at hother
  rw [hcount, popFront_frames]
  by_cases heq : other = lane
  · subst heq
    simp only [decide_true, if_true] at hother ⊢
    omega
  · simp only [heq, Ne.symm heq, decide_false, if_false, false_eq_true] at hother ⊢
    omega

end Inbox

structure Ending where
  bySide : Side
  protocol : Option FrameError
  deriving DecidableEq

/-- The reason `side` reports. -/
def Ending.seenBy (ending : Ending) (side : Side) : Closed :=
  match ending.protocol with
  | some error => .protocol error
  | none => if ending.bySide = side then .localEnd else .peer

structure State where
  /-- The frames waiting for each side. -/
  inboxes : Side → Inbox := fun _ => {}
  /-- The first ending, which both ends then report. -/
  ended : Option Ending := none
  /-- Whether each side has stopped receiving. -/
  stopped : Side → Bool := fun _ => false

namespace State

/-- Ends the channel if nothing has yet; this side stops receiving either way. -/
def stop (state : State) (side : Side) (protocol : Option FrameError) : Closed × State :=
  let ending := state.ended.getD ⟨side, protocol⟩
  (ending.seenBy side,
    { inboxes := Function.update state.inboxes side {}
      ended := some ending
      stopped := Function.update state.stopped side true })

/-- Sends on a lane. The key is a byte stream's and is ignored here. -/
def send (limits : Limits) (state : State) (side : Side) (frame : Frame) (lane : Lane)
    (_key : FrameKey) : Except SendError Unit × State :=
  match state.ended with
  | some ending => (.error (.closed frame (ending.seenBy side)), state)
  | none =>
    match frame.check .inProcess with
    | .error error =>
      (.error (.closed frame (state.stop side (some error)).1), (state.stop side (some error)).2)
    | .ok _ =>
      let inbox := state.inboxes side.peer
      if inbox.count lane ≥ limits.laneCapacity lane then (.error (.full frame), state)
      else (.ok (), { state with
        inboxes := Function.update state.inboxes side.peer (inbox.pushBack frame lane) })

def close (state : State) (side : Side) : State := (state.stop side none).2

/-- One look of a receive: the next frame, or why the channel has ended. With
neither the receiver waits and looks again. -/
def recv (state : State) (side : Side) : Option (Except Closed Frame) × State :=
  match state.stopped side, (state.inboxes side).frames with
  | false, (frame, lane) :: rest =>
    (some (.ok frame), { state with
      inboxes := Function.update state.inboxes side ((state.inboxes side).popFront lane rest) })
  | _, _ =>
    match state.ended with
    | some ending => (some (.error (ending.seenBy side)), state)
    | none => (none, state)

section

variable {state : State} {side : Side}

lemma recv_queued {rest : List (Frame × Lane)} (hruns : state.stopped side = false)
    (hframes : (state.inboxes side).frames = (frame, lane) :: rest) :
    state.recv side = (some (.ok frame), { state with
      inboxes :=
        Function.update state.inboxes side ((state.inboxes side).popFront lane rest) }) := by
  simp [recv, hruns, hframes]

lemma recv_idle (h : state.stopped side = true ∨ (state.inboxes side).frames = []) :
    state.recv side = (state.ended.map fun ending => .error (ending.seenBy side), state) := by
  rcases h with h | h <;> cases hended : state.ended <;> simp [recv, h, hended]

end

end State

/-! ## Interleavings of the two ends -/

/-- An operation at one end. Dropping an end closes it. -/
inductive Op where
  | send (side : Side) (frame : Frame) (lane : Lane) (key : FrameKey)
  | recv (side : Side)
  | close (side : Side)
  deriving DecidableEq

/-- The shared state, the frames whose sends each side had accepted and the frames
each side has received, in order. -/
structure Trace where
  state : State := {}
  accepted : Side → List Frame := fun _ => []
  received : Side → List Frame := fun _ => []

namespace Trace

variable (limits : Limits) {trace : Trace} {side : Side}

def step (trace : Trace) : Op → Trace
  | .send side frame lane key =>
    match trace.state.send limits side frame lane key with
    | (.ok (), state) =>
      { trace with
        state
        accepted := Function.update trace.accepted side (trace.accepted side ++ [frame]) }
    | (.error _, state) => { trace with state }
  | .recv side =>
    match trace.state.recv side with
    | (some (.ok frame), state) =>
      { trace with
        state
        received := Function.update trace.received side (trace.received side ++ [frame]) }
    | (_, state) => { trace with state }
  | .close side => { trace with state := trace.state.close side }

attribute [local simp] step

def run (ops : List Op) : Trace := Steps.run (step limits) {} ops

/-- What one operation does to the pair. -/
inductive Effect (trace : Trace) : Trace → Prop where
  /-- A refused send, a receive that reports the ending or waits. -/
  | nothing : Effect trace trace
  | sent (side : Side) (frame : Frame) (lane : Lane) (hopen : trace.state.ended = none)
      (hroom : (trace.state.inboxes side.peer).count lane < limits.laneCapacity lane) :
      Effect trace
        { trace with
          state := { trace.state with
            inboxes := Function.update trace.state.inboxes side.peer
              ((trace.state.inboxes side.peer).pushBack frame lane) }
          accepted := Function.update trace.accepted side (trace.accepted side ++ [frame]) }
  | took (side : Side) (frame : Frame) (lane : Lane) (rest : List (Frame × Lane))
      (hruns : trace.state.stopped side = false)
      (hframes : (trace.state.inboxes side).frames = (frame, lane) :: rest) :
      Effect trace
        { trace with
          state := { trace.state with
            inboxes := Function.update trace.state.inboxes side
              ((trace.state.inboxes side).popFront lane rest) }
          received := Function.update trace.received side (trace.received side ++ [frame]) }
  | stopped (side : Side) (protocol : Option FrameError) :
      Effect trace { trace with state := (trace.state.stop side protocol).2 }

lemma step_effect (trace : Trace) (op : Op) : Effect limits trace (trace.step limits op) := by
  cases op with
  | send side frame lane key =>
    cases hended : trace.state.ended with
    | some ending =>
      have hstep : trace.step limits (.send side frame lane key) = trace := by
        simp [State.send, hended]
      rw [hstep]
      exact .nothing
    | none =>
      cases hcheck : frame.check .inProcess with
      | error error =>
        have hstep : trace.step limits (.send side frame lane key) =
            { trace with state := (trace.state.stop side (some error)).2 } := by
          simp [State.send, hended, hcheck]
        rw [hstep]
        exact .stopped side (some error)
      | ok =>
        by_cases hfull : (trace.state.inboxes side.peer).count lane ≥ limits.laneCapacity lane
        · have hstep : trace.step limits (.send side frame lane key) = trace := by
            simp [State.send, hended, hcheck, hfull]
          rw [hstep]
          exact .nothing
        · have hsent : Effect limits trace _ :=
            .sent side frame lane hended (not_le.mp hfull)
          simpa [State.send, hended, hcheck, hfull] using hsent
  | recv side =>
    by_cases hidle : trace.state.stopped side = true ∨ (trace.state.inboxes side).frames = []
    · have hstep : trace.step limits (.recv side) = trace := by
        cases hended : trace.state.ended <;> simp [State.recv_idle hidle, hended]
      rw [hstep]
      exact .nothing
    · have hruns : trace.state.stopped side = false := eq_false_iff.mpr fun h => hidle (.inl h)
      obtain ⟨first, rest, hframes⟩ := exists_cons_of_ne_nil fun h => hidle (.inr h)
      have htook : Effect limits trace _ := .took side first.1 first.2 rest hruns hframes
      simpa [State.recv_queued hruns hframes] using htook
  | close side => exact .stopped side none

/-- What every interleaving keeps. While a side receives, what it has received
and what waits for it are what its peer had accepted; once it has stopped nothing
waits for it, and the channel has ended. -/
structure Kept (trace : Trace) : Prop where
  counted : ∀ side, Inbox.Counted limits (trace.state.inboxes side)
  ended : ∀ side, trace.state.stopped side = true → trace.state.ended ≠ none
  emptied : ∀ side, trace.state.stopped side = true → (trace.state.inboxes side).frames = []
  whole : ∀ side, trace.state.stopped side = false →
    trace.received side ++ (trace.state.inboxes side).frames.map Prod.fst =
      trace.accepted side.peer
  delivered : ∀ side, trace.received side <+: trace.accepted side.peer

namespace Kept

variable {limits}

lemma init : Kept limits {} :=
  ⟨fun _ => Inbox.Counted.empty limits, fun _ h => absurd h false_ne_true, fun _ _ => rfl,
    fun _ _ => rfl,
    fun _ => prefix_refl _⟩

/-- No side has stopped while the channel is open. -/
lemma not_stopped (h : trace.Kept limits) (hopen : trace.state.ended = none) (side : Side) :
    trace.state.stopped side = false :=
  eq_false_iff.mpr fun hstopped => h.ended side hstopped hopen

lemma sent (h : trace.Kept limits) (hopen : trace.state.ended = none)
    (hroom : (trace.state.inboxes side.peer).count lane < limits.laneCapacity lane) :
    Kept limits { trace with
      state := { trace.state with
        inboxes := update trace.state.inboxes side.peer
          ((trace.state.inboxes side.peer).pushBack frame lane) }
      accepted := update trace.accepted side (trace.accepted side ++ [frame]) } := by
  have hruns := h.not_stopped hopen
  refine ⟨?_, h.ended, ?_, ?_, ?_⟩
  · intro other
    rcases side.peer.eq_or_eq_peer other with rfl | rfl
    · simpa using (h.counted side.peer).pushBack hroom
    · simpa [side.peer_ne.symm] using h.counted side
  · intro other hstopped
    exact absurd (hruns other) (eq_false_iff.not_left.mpr hstopped)
  · intro other _
    rcases side.peer.eq_or_eq_peer other with rfl | rfl
    · have hwhole := h.whole side.peer (hruns _)
      simp only [Side.peer_peer] at hwhole
      simp [← hwhole]
    · simpa [side.peer_ne, side.peer_ne.symm] using h.whole side (hruns _)
  · intro other
    rcases side.peer.eq_or_eq_peer other with rfl | rfl
    · have hdelivered := h.delivered side.peer
      simp only [Side.peer_peer, update_self] at hdelivered ⊢
      exact hdelivered.trans (prefix_append ..)
    · simpa [side.peer_ne] using h.delivered side

lemma took (h : trace.Kept limits) {rest : List (Frame × Lane)}
    (hruns : trace.state.stopped side = false)
    (hframes : (trace.state.inboxes side).frames = (frame, lane) :: rest) :
    Kept limits { trace with
      state := { trace.state with
        inboxes := update trace.state.inboxes side
          ((trace.state.inboxes side).popFront lane rest) }
      received := update trace.received side (trace.received side ++ [frame]) } := by
  have hwhole := h.whole side hruns
  rw [hframes, map_cons] at hwhole
  refine ⟨?_, h.ended, ?_, ?_, ?_⟩
  · intro other
    by_cases heq : other = side
    · subst heq
      simpa using (h.counted other).popFront hframes
    · simpa [heq] using h.counted other
  · intro other hstopped
    by_cases heq : other = side
    · subst heq
      exact absurd hruns (eq_false_iff.not_left.mpr hstopped)
    · simpa [heq] using h.emptied other hstopped
  · intro other hother
    by_cases heq : other = side
    · subst heq
      simpa using hwhole
    · simpa [heq] using h.whole other hother
  · intro other
    by_cases heq : other = side
    · subst heq
      simp only [update_self]
      exact ⟨rest.map Prod.fst, by simpa using hwhole⟩
    · simpa [heq] using h.delivered other

lemma stopped (h : trace.Kept limits) (protocol : Option FrameError) :
    Kept limits { trace with state := (trace.state.stop side protocol).2 } := by
  refine ⟨?_, fun _ _ => by simp [State.stop], ?_, ?_, h.delivered⟩
  · intro other
    by_cases heq : other = side
    · subst heq
      simpa [State.stop] using Inbox.Counted.empty limits
    · simpa [State.stop, heq] using h.counted other
  · intro other hstopped
    by_cases heq : other = side
    · subst heq
      simp [State.stop]
    · simp only [State.stop, update_of_ne heq] at hstopped ⊢
      exact h.emptied other hstopped
  · intro other hother
    by_cases heq : other = side
    · subst heq
      simp [State.stop] at hother
    · simp only [State.stop, update_of_ne heq] at hother ⊢
      exact h.whole other hother

end Kept

lemma run_kept (ops : List Op) : (run limits ops).Kept limits := by
  apply Steps.run_induction Kept.init
  intro trace op h
  have heffect := step_effect limits trace op
  generalize trace.step limits op = after at heffect ⊢
  cases heffect with
  | nothing => exact h
  | sent side frame lane hopen hroom => exact h.sent hopen hroom
  | took side frame lane rest hruns hframes => exact h.took hruns hframes
  | stopped side protocol => exact h.stopped protocol

/-- The first ending stands. -/
lemma step_ended {ending : Ending} (op : Op) (h : trace.state.ended = some ending) :
    (trace.step limits op).state.ended = some ending := by
  have heffect := step_effect limits trace op
  generalize trace.step limits op = after at heffect ⊢
  cases heffect with
  | nothing | sent | took => exact h
  | stopped => simp [State.stop, h]

lemma run_ended {ending : Ending} (ops more : List Op)
    (h : (run limits ops).state.ended = some ending) :
    (run limits (ops ++ more)).state.ended = some ending := by
  rw [run, Steps.run_append]
  exact Steps.run_induction (P := fun trace : Trace => trace.state.ended = some ending) h
    (fun _ op hended => step_ended limits op hended) more

lemma send_full {state after : State} {back : Frame} {key : FrameKey}
    (h : state.send limits side frame lane key = (.error (.full back), after)) :
    after = state ∧ back = frame := by
  unfold State.send at h
  split at h
  · simp at h
  · split at h
    · simp at h
    · simp only at h
      split at h
      · simp only [Prod.mk.injEq, Except.error.injEq, SendError.full.injEq] at h
        exact ⟨h.2.symm, h.1.symm⟩
      · simp at h

/-- A side that has stopped stays stopped and receives nothing more. -/
lemma run_stopped (ops more : List Op) (h : (run limits ops).state.stopped side = true) :
    (run limits (ops ++ more)).state.stopped side = true ∧
      (run limits (ops ++ more)).received side = (run limits ops).received side := by
  rw [run, Steps.run_append]
  refine Steps.run_induction (P := fun trace : Trace => trace.state.stopped side = true ∧
    trace.received side = (run limits ops).received side) ⟨h, rfl⟩ ?_ more
  intro trace op hkept
  have heffect := step_effect limits trace op
  generalize trace.step limits op = after at heffect ⊢
  cases heffect with
  | nothing | sent => exact hkept
  | took other frame lane rest hruns hframes =>
    have hne : side ≠ other := by
      rintro rfl
      simp [hruns] at hkept
    exact ⟨hkept.1, by simpa [hne] using hkept.2⟩
  | stopped other protocol =>
    refine ⟨?_, hkept.2⟩
    by_cases heq : side = other <;> simp [State.stop, heq, hkept.1]

/-- The smallest limits. -/
def oneEach : Limits := ⟨1, 1, by decide, by decide, by decide⟩

end Trace

end GwzCore.SessionChannel.InProcess
