import GwzCore.SetupRetry.Table

/-!
# The hold and the notes

A `Retry-After` holds the key: no new connection starts, and no open begins its
first exchange on a leased one. A hold only grows while it is in force. The notes
are what the machine says to the user, as data.
-/
namespace GwzCore.SetupRetry

def holdCapMs : ℕ := 30000

/-- A hold longer than this discards the key's idle connections when it ends. -/
def discardAfterMs : ℕ := 1000

/-- What set the hold: a discovery response, or a POST response. -/
inductive Origin where
  | discovery
  | post
  deriving DecidableEq

structure ActiveHold where
  /-- When the whole hold ends. -/
  untilMs : ℕ
  /-- When the holds that POST responses set end. -/
  postUntil : Option ℕ
  long : Bool
  discardAsked : Bool
  deriving DecidableEq

structure Hold where
  active : Option ActiveHold := none
  deriving DecidableEq

/-- The later of two optional times; none is before every time. -/
def latest : Option ℕ → Option ℕ → Option ℕ
  | none, b => b
  | some a, none => some a
  | some a, some b => some (max a b)

namespace Hold

variable {hold : Hold} {now later retryAfterMs : ℕ} {origin : Origin} {time : ℕ}

def inForce (hold : Hold) (now : ℕ) : Bool :=
  match hold.active with
  | none => false
  | some active => now < active.untilMs || active.long

/-- Sets or extends the hold. Returns the server's `Retry-After`, uncapped, when a
long hold began. -/
def set (hold : Hold) (retryAfterMs : ℕ) (origin : Origin) (now : ℕ) : Option ℕ × Hold :=
  let wait := min retryAfterMs holdCapMs
  let untilMs := satAdd now wait
  let postUntil := if origin = .post then some untilMs else none
  let long : Bool := discardAfterMs < wait
  match hold.active, hold.inForce now with
  | some active, true =>
    (none, ⟨some { active with
      untilMs := max active.untilMs untilMs
      long := active.long || long
      postUntil := latest active.postUntil postUntil }⟩)
  | _, _ => (if long then some retryAfterMs else none, ⟨some ⟨untilMs, postUntil, long, false⟩⟩)

/-- Whether a member past its discovery may not send its next exchange. -/
def blocksContinuing (hold : Hold) (now : ℕ) : Bool :=
  hold.inForce now &&
    match hold.active with
    | none => false
    | some active =>
      match active.postUntil with
      | none => false
      | some post => now < post || active.untilMs ≤ now

/-- True once, when a long hold has run its time. -/
def discardDue (hold : Hold) (now : ℕ) : Bool × Hold :=
  match hold.active with
  | some active =>
    if active.long && active.untilMs ≤ now && !active.discardAsked then
      (true, ⟨some { active with discardAsked := true }⟩)
    else (false, hold)
  | none => (false, hold)

def idleDiscarded (_hold : Hold) : Hold := {}

/-- The hold lasts at least until `time`. -/
def Lasts (hold : Hold) (time : ℕ) : Prop :=
  ∃ active, hold.active = some active ∧ time ≤ active.untilMs

lemma Lasts.inForce (h : hold.Lasts time) (hnow : now < time) : hold.inForce now = true := by
  obtain ⟨active, hactive, hle⟩ := h
  have : now < active.untilMs := by omega
  simp [Hold.inForce, hactive, this]

lemma set_untilMs (hold : Hold) (retryAfterMs : ℕ) (origin : Origin) (now : ℕ) :
    (hold.set retryAfterMs origin now).2.Lasts (satAdd now (min retryAfterMs holdCapMs)) := by
  unfold set
  simp only
  split
  · exact ⟨_, rfl, le_max_right _ _⟩
  · exact ⟨_, rfl, le_refl _⟩

/-- A hold that is in force is never shortened by another. -/
lemma Lasts.set (h : hold.Lasts time) (hnow : now < time) (retryAfterMs : ℕ)
    (origin : Origin) : (hold.set retryAfterMs origin now).2.Lasts time := by
  have hforce := h.inForce hnow
  obtain ⟨active, hactive, hle⟩ := h
  unfold Hold.set
  simp only [hactive, hforce]
  exact ⟨_, rfl, le_trans hle (le_max_left _ _)⟩

/-- Asking for the discard keeps the end, and is due only past it. -/
lemma Lasts.discardDue (h : hold.Lasts time) (hnow : now < time) :
    hold.discardDue now = (false, hold) := by
  obtain ⟨active, hactive, hle⟩ := h
  have : ¬active.untilMs ≤ now := by omega
  simp [Hold.discardDue, hactive, this]

end Hold

/-! ## The notes -/

def changeNoteMs : ℕ := 2000

inductive Note where
  | overload (n ceiling : ℕ)
  | changed (n : ℕ)
  | backAtCeiling (ceiling : ℕ)
  | hold (waitMs : ℕ)
  | down
  deriving DecidableEq

structure Notes where
  out : List Note := []
  overloadPending : Bool := false
  overloadNoted : Bool := false
  lowered : Bool := false
  changePending : Option ℕ := none
  lastAt : ℕ := 0
  lastN : ℕ := 0
  downNoted : Bool := false
  deriving DecidableEq

namespace Notes

def overload (notes : Notes) : Notes :=
  { notes with
    lowered := true
    overloadPending := notes.overloadPending || !notes.overloadNoted }

def nChanged (notes : Notes) (n : ℕ) : Notes :=
  if notes.overloadNoted then { notes with changePending := some n } else notes

/-- The machine is saturated. A decrease that was never noted is cancelled. -/
def saturated (notes : Notes) (ceiling : ℕ) : Notes :=
  if notes.overloadPending then
    { notes with changePending := none, overloadPending := false, lowered := false }
  else if notes.lowered then
    { notes with
      changePending := none, out := notes.out ++ [.backAtCeiling ceiling], lowered := false }
  else { notes with changePending := none }

def down (notes : Notes) : Notes :=
  if notes.downNoted then notes else { notes with downNoted := true, out := notes.out ++ [.down] }

def healthy (notes : Notes) : Notes := { notes with downNoted := false }

def hold (notes : Notes) (waitMs : ℕ) : Notes := { notes with out := notes.out ++ [.hold waitMs] }

/-- Emits what is ready: the overload note once its wave has resolved, and a
changed-limit note at most once in two seconds. -/
def flush (notes : Notes) (now n ceiling : ℕ) (waveResolved : Bool) : Notes :=
  if notes.overloadPending && waveResolved then
    { notes with
      overloadPending := false
      overloadNoted := true
      changePending := none
      lastAt := now
      lastN := n
      out := notes.out ++ [.overload n ceiling] }
  else
    match notes.changePending with
    | none => notes
    | some changed =>
      if satAdd notes.lastAt changeNoteMs ≤ now then
        if changed = notes.lastN then { notes with changePending := none }
        else
          { notes with
            changePending := none
            lastAt := now
            lastN := changed
            out := notes.out ++ [.changed changed] }
      else notes

def drain (notes : Notes) : List Note × Notes := (notes.out, { notes with out := [] })

end Notes

end GwzCore.SetupRetry
