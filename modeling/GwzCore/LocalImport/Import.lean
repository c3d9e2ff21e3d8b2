import GwzCore.Lib.Steps
import GwzCore.Lib.Stopping
import GwzCore.LocalImport.Pairing

/-!
# A checked import

The phases of an import over a transport that may answer anything: pairing, which calls
nothing; the capture of every source; the collision check in every receiver; the fetches;
and the verification of every received commit. Each call is kept with its answer and the
state the host was left in.
-/
namespace GwzCore.LocalImport
open HistoryCheck HostPath Stopping Steps List Triple

structure ImportedCommit where
  key : RepoKey
  oid : ObjectId
  deriving DecidableEq

/-- A complete, verified import vector. -/
structure ImportedSource where
  importRef : String
  vector : List ImportedCommit
  deriving DecidableEq

inductive TransportError where
  | notLocal (detail : String)
  | repository (path : Path) (detail : String)
  | rejected (refspec detail : String)
  | failed (detail : String)
  deriving DecidableEq

def TransportError.display : TransportError → String
  | .notLocal detail => s!"not a local repository: {detail}"
  | .repository path detail => s!"{HostPath.display path}: {detail}"
  | .rejected refspec detail => s!"{refspec} rejected: {detail}"
  | .failed detail => detail

/-! ### The transport -/

/-- The local transport and the cancellation, over a state of their own. -/
structure Transport (σ : Type) where
  resolveSource : Path → SourceSelector → σ → Except TransportError ObjectId × σ
  refExists : Path → String → σ → Except TransportError Bool × σ
  fetchAnonymous : Path → Path → List String → σ → Except TransportError Unit × σ
  pushAnonymous : Path → Path → String → σ → Except TransportError Unit × σ
  readRef : Path → String → σ → Except TransportError (Option ObjectId) × σ
  isCancelled : σ → Bool × σ

/-- A call and its answer. -/
inductive Call where
  | resolveSource (source : Path) (selector : SourceSelector)
      (answer : Except TransportError ObjectId)
  | refExists (repository : Path) (name : String) (answer : Except TransportError Bool)
  | fetchAnonymous (receiver source : Path) (refspecs : List String)
      (answer : Except TransportError Unit)
  | pushAnonymous (source destination : Path) (refspec : String)
      (answer : Except TransportError Unit)
  | readRef (repository : Path) (name : String)
      (answer : Except TransportError (Option ObjectId))
  | isCancelled (answer : Bool)

structure Entry (σ : Type) where
  call : Call
  /-- The host after the call. -/
  after : σ

structure World (σ : Type) where
  host : σ
  log : List (Entry σ)

def World.calls {σ : Type} (world : World σ) : List Call := world.log.map Entry.call

abbrev Importing (σ : Type) := EStateM ImportError (World σ)

variable {σ α : Type} {effects : List ImportEffect} {selector : SourceSelector}

/-- The world after a call. -/
def World.asked (world : World σ) (call : α → Call) (port : σ → α × σ) : World σ :=
  let answer := port world.host
  ⟨answer.2, world.log ++ [⟨call answer.1, answer.2⟩]⟩

def ask (call : α → Call) (port : σ → α × σ) : Importing σ α := fun world =>
  .ok (port world.host).1 (world.asked call port)

def answered (result : Except ImportError α) : Importing σ α :=
  match result with
  | .ok value => pure value
  | .error error => throw error

/-! ### The phases -/

section Phases
variable (transport : Transport σ)

/-- Stops when the caller has cancelled. -/
def poll (effects : List ImportEffect) : Importing σ Unit := do
  if ← ask .isCancelled transport.isCancelled then throw (.cancelled effects)

/-- Every source resolved once: the commits found and the sources that do not resolve. -/
def capture (selector : SourceSelector) :
    List Pairing → Importing σ (List ImportedCommit × List SourceProblem)
  | [] => pure ([], [])
  | pairing :: rest => do
    let answer ← ask (.resolveSource pairing.source selector)
      (transport.resolveSource pairing.source selector)
    let (captured, unresolved) ← capture selector rest
    match answer with
    | .ok oid => pure (⟨pairing.key, oid⟩ :: captured, unresolved)
    | .error error => pure (captured, ⟨pairing.key, error.display⟩ :: unresolved)

/-- The import name is free in a receiver. -/
def checkFree (importRef : String) (pairing : Pairing) : Importing σ Unit := do
  match ← ask (.refExists pairing.receiver importRef)
      (transport.refExists pairing.receiver importRef) with
  | .ok false => pure ()
  | .ok true => throw (.refCollision pairing.key importRef)
  | .error error =>
    throw (.transferFailed pairing.key
      s!"import ref collision check failed: {error.display}" [])

/-- What a failed fetch is found to have created. -/
def createdBy (key : RepoKey) (importRef : String) :
    Except TransportError (Option ObjectId) → List ImportEffect
  | .ok (some oid) => [⟨key, importRef, oid⟩]
  | _ => []

def fetchAll (importRef refspec : String) :
    List (Pairing × ImportedCommit) → List ImportEffect → Importing σ (List ImportEffect)
  | [], effects => pure effects
  | (pairing, commit) :: rest, effects => do
    poll transport effects
    match ← ask (.fetchAnonymous pairing.receiver pairing.source [refspec])
        (transport.fetchAnonymous pairing.receiver pairing.source [refspec]) with
    | .ok () => fetchAll importRef refspec rest (effects ++ [⟨pairing.key, importRef, commit.oid⟩])
    | .error error =>
      let found ← ask (.readRef pairing.receiver importRef)
        (transport.readRef pairing.receiver importRef)
      throw (.transferFailed pairing.key error.display
        (effects ++ createdBy pairing.key importRef found))

/-- The first effect of a key takes the commit received, or goes when there is none. -/
def correctEffect (key : RepoKey) (received : Option ObjectId) :
    List ImportEffect → List ImportEffect
  | [] => []
  | effect :: rest =>
    if effect.key = key then
      match received with
      | some oid => { effect with oid := oid } :: rest
      | none => rest
    else effect :: correctEffect key received rest

def verify (importRef : String) (effects : List ImportEffect) (pairing : Pairing)
    (commit : ImportedCommit) : Importing σ Unit := do
  match ← ask (.readRef pairing.receiver importRef)
      (transport.readRef pairing.receiver importRef) with
  | .error error =>
    throw (.transferFailed pairing.key
      s!"import ref verification failed: {error.display}" effects)
  | .ok received =>
    if received ≠ some commit.oid then
      throw (.vectorMismatch pairing.key commit.oid received
        (correctEffect pairing.key received effects))

/-- The refspec of every fetch, which forces the one import ref. -/
def ImportRequest.refspec (request : ImportRequest) : String :=
  s!"+{request.selector.refspecSource}:{request.transfer.importRef}"

/-- The phases after pairing. -/
def importPaired (request : ImportRequest) (paired : List Pairing) :
    Importing σ ImportedSource := do
  let importRef := request.transfer.importRef
  poll transport []
  let (captured, unresolved) ← capture transport request.selector paired
  if unresolved ≠ [] then throw (.sourceMissing unresolved)
  paired.forM (checkFree transport importRef)
  let effects ← fetchAll transport importRef request.refspec (paired.zip captured) []
  (paired.zip captured).forM fun (pairing, commit) =>
    verify transport importRef effects pairing commit
  return ⟨importRef, captured⟩

def prepareImport (request : ImportRequest) : Importing σ ImportedSource := do
  let paired ← answered (pairParticipants request)
  importPaired transport request paired

end Phases

/-! ### Rules of the calls -/

section Rules
variable {transport : Transport σ} {P : World σ → Prop} {R : ImportError → World σ → Prop}

lemma ask_rule {call : α → Call} {port : σ → α × σ} {Q : α → World σ → Prop}
    (h : ∀ world, P world → Q (port world.host).1 (world.asked call port)) :
    Triple P (ask call port) Q R := by
  intro world hworld
  constructor
  · intro answer world' heq
    cases heq
    exact h world hworld
  · intro error world' heq
    cases heq

lemma poll_rule (hpoll : ∀ world, P world → P (world.asked .isCancelled transport.isCancelled))
    (hstop : ∀ world : World σ, P (world.asked .isCancelled transport.isCancelled) →
      R (.cancelled effects) (world.asked .isCancelled transport.isCancelled)) :
    Triple P (poll transport effects) (fun _ => P) R := by
  refine of_state fun world hworld => step rfl ?_
  exact ite (fun _ => stop (hstop world (hpoll world hworld))) fun _ => done (hpoll world hworld)

end Rules

/-! ### What the calls of a run show -/

@[simp] lemma World.calls_asked (world : World σ) (call : α → Call) (port : σ → α × σ) :
    (world.asked call port).calls = world.calls ++ [call (port world.host).1] := by
  simp [World.calls, World.asked]

/-- The grounds of a call: a fetch comes after every source has been resolved and every
receiver has been found free, and asks for the import ref of a pairing alone. -/
def Grounds (request : ImportRequest) (paired : List Pairing) (before : List Call) :
    Call → Prop
  | .fetchAnonymous receiver source refspecs _ =>
    (∃ pairing ∈ paired, pairing.receiver = receiver ∧ pairing.source = source)
      ∧ refspecs = [request.refspec]
      ∧ ∀ pairing ∈ paired,
        (∃ oid, .resolveSource pairing.source request.selector (.ok oid) ∈ before)
          ∧ .refExists pairing.receiver request.transfer.importRef (.ok false) ∈ before
  | .pushAnonymous .. => False
  | _ => True

/-- The commits captured for the pairings, each the answer of its source. -/
def Captured (selector : SourceSelector) (calls : List Call) (paired : List Pairing)
    (captured : List ImportedCommit) : Prop :=
  List.Forall₂ (fun pairing commit => commit.key = pairing.key
    ∧ .resolveSource pairing.source selector (.ok commit.oid) ∈ calls) paired captured

lemma Captured.append {calls : List Call} {paired : List Pairing}
    {captured : List ImportedCommit} (h : Captured selector calls paired captured)
    (more : List Call) : Captured selector (calls ++ more) paired captured :=
  List.Forall₂.imp (fun _ _ hcommit => ⟨hcommit.1, mem_append_left _ hcommit.2⟩) h

lemma Captured.resolved {calls : List Call} {paired : List Pairing}
    {captured : List ImportedCommit} (h : Captured selector calls paired captured) :
    ∀ pairing ∈ paired, ∃ oid, .resolveSource pairing.source selector (.ok oid) ∈ calls := by
  induction h with
  | nil => simp
  | cons hcommit _ ih =>
    intro pairing hpairing
    rcases mem_cons.mp hpairing with rfl | hpairing
    · exact ⟨_, hcommit.2⟩
    · exact ih pairing hpairing

/-- How far the calls of a run have come: the sources captured, the receivers found free
and those fetched into. -/
structure Progress (request : ImportRequest) (paired : List Pairing)
    (captured : List ImportedCommit) (free fetched : List Pairing) (calls : List Call) : Prop where
  grounded : Grounded (Grounds request paired) calls
  captured : Captured request.selector calls paired captured
  free : ∀ pairing ∈ free,
    .refExists pairing.receiver request.transfer.importRef (.ok false) ∈ calls
  fetched : ∀ pairing ∈ fetched,
    .fetchAnonymous pairing.receiver pairing.source [request.refspec] (.ok ()) ∈ calls

section Logged
variable {transport : Transport σ} {request : ImportRequest} {paired free fetched : List Pairing}
  {captured : List ImportedCommit} {calls : List Call} {R : ImportError → World σ → Prop}
  {pairs : List (Pairing × ImportedCommit)}

lemma Progress.concat (h : Progress request paired captured free fetched calls) {call : Call}
    (hcall : Grounds request paired calls call) :
    Progress request paired captured free fetched (calls ++ [call]) where
  grounded := h.grounded.concat hcall
  captured := h.captured.append [call]
  free pairing hpairing := mem_append_left _ (h.free pairing hpairing)
  fetched pairing hpairing := mem_append_left _ (h.fetched pairing hpairing)

/-- A call is made on its grounds, whatever its answer. -/
lemma Progress.asked {world : World σ}
    (h : Progress request paired captured free fetched world.calls) (call : α → Call)
    (port : σ → α × σ) (hcall : ∀ answer, Grounds request paired world.calls (call answer)) :
    Progress request paired captured free fetched (world.asked call port).calls := by
  rw [World.calls_asked]
  exact h.concat (hcall _)

/-- Capturing keeps what survives a resolution, and without a problem it is complete. -/
lemma capture_calls {P : List Call → Prop}
    (hP : ∀ calls source answer, P calls → P (calls ++ [.resolveSource source selector answer])) :
    Triple (fun world => P world.calls) (capture transport selector paired)
      (fun found world => P world.calls
        ∧ (found.2 = [] → Captured selector world.calls paired found.1)) R := by
  induction paired generalizing P with
  | nil => exact pure fun world hworld => ⟨hworld, fun _ => .nil⟩
  | cons pairing rest ih =>
    unfold capture
    refine bind (Q := fun answer world => P world.calls
      ∧ .resolveSource pairing.source selector answer ∈ world.calls) ?_ fun answer => ?_
    · refine ask_rule fun world hworld => ?_
      rw [World.calls_asked]
      exact ⟨hP _ _ _ hworld, by simp⟩
    · refine bind (ih (P := fun calls => P calls
        ∧ .resolveSource pairing.source selector answer ∈ calls) fun calls source other h =>
        ⟨hP calls source other h.1, mem_append_left _ h.2⟩) fun found => ?_
      cases answer with
      | ok =>
        refine pure fun world ⟨⟨hworld, hmem⟩, hfound⟩ => ⟨hworld, fun hnone => ?_⟩
        exact .cons ⟨rfl, hmem⟩ (hfound hnone)
      | error =>
        refine pure fun world ⟨⟨hworld, _⟩, _⟩ => ⟨hworld, fun hnone => ?_⟩
        cases hnone

lemma checkFree_calls :
    Triple (fun world => Progress request paired captured [] [] world.calls)
      (paired.forM (checkFree transport request.transfer.importRef))
      (fun _ world => Progress request paired captured paired [] world.calls)
      (fun _ world => Grounded (Grounds request paired) world.calls) := by
  refine forM_done (I := fun done (world : World σ) =>
    Progress request paired captured done [] world.calls) fun done pairing rest hpaired => ?_
  refine of_state fun world hworld => step rfl ?_
  have hnext := hworld.asked (.refExists pairing.receiver request.transfer.importRef)
    (transport.refExists pairing.receiver request.transfer.importRef) fun _ => trivial
  rcases hanswer : (transport.refExists pairing.receiver request.transfer.importRef world.host).1
    with error | _ | _
  · exact stop hnext.grounded
  · refine Triple.done ⟨hnext.grounded, hnext.captured, ?_, hnext.fetched⟩
    intro other hother
    rcases mem_append.mp hother with hother | hother
    · exact hnext.free other hother
    · rw [mem_singleton.mp hother, World.calls_asked, hanswer]
      simp
  · exact stop hnext.grounded

/-- Every fetch has its grounds once the sources are captured and the receivers free. -/
lemma Progress.grounds (h : Progress request paired captured paired fetched calls)
    {pairing : Pairing} (hpairing : pairing ∈ paired) (answer : Except TransportError Unit) :
    Grounds request paired calls
      (.fetchAnonymous pairing.receiver pairing.source [request.refspec] answer) :=
  ⟨⟨pairing, hpairing, rfl, rfl⟩, rfl,
    fun other hother => ⟨h.captured.resolved other hother, h.free other hother⟩⟩

lemma fetchAll_calls (hpairs : ∀ pair ∈ pairs, pair.1 ∈ paired) :
    Triple (fun world => Progress request paired captured paired fetched world.calls)
      (fetchAll transport request.transfer.importRef request.refspec pairs effects)
      (fun _ world =>
        Progress request paired captured paired (fetched ++ pairs.map Prod.fst) world.calls)
      (fun _ world => Grounded (Grounds request paired) world.calls) := by
  induction pairs generalizing fetched effects with
  | nil =>
    refine pure fun world hworld => ?_
    rwa [map_nil, append_nil]
  | cons pair rest ih =>
    obtain ⟨pairing, commit⟩ := pair
    unfold fetchAll
    refine bind_state (poll_rule (fun world hworld => hworld.asked _ _ fun _ => trivial)
      fun world hworld => hworld.grounded) fun _ world hworld => step rfl ?_
    have hnext := hworld.asked _
      (transport.fetchAnonymous pairing.receiver pairing.source [request.refspec])
      (hworld.grounds (hpairs _ mem_cons_self))
    rcases hanswer : (transport.fetchAnonymous pairing.receiver pairing.source [request.refspec]
      world.host).1 with error | ⟨⟨⟩⟩
    · refine step rfl (stop ?_)
      rw [World.calls_asked]
      exact hnext.grounded.concat trivial
    · have hrest := fun pair hpair => hpairs pair (mem_cons_of_mem _ hpair)
      refine (@ih _ (fetched ++ [pairing]) hrest).weaken ?_ ?_
      · rintro _ rfl
        refine ⟨hnext.grounded, hnext.captured, hnext.free, fun other hother => ?_⟩
        rcases mem_append.mp hother with hother | hother
        · exact hnext.fetched other hother
        · rw [mem_singleton.mp hother, World.calls_asked, hanswer]
          simp
      · intro _ world hworld
        rwa [append_assoc] at hworld

/-- The read that verifies a commit. -/
def readBack (importRef : String) (pair : Pairing × ImportedCommit) : Call :=
  .readRef pair.1.receiver importRef (.ok (some pair.2.oid))

lemma verify_calls {importRef : String} (hcalls : Grounded (Grounds request paired) calls) :
    Triple (fun world => world.calls = calls)
      (pairs.forM fun (pairing, commit) => verify transport importRef effects pairing commit)
      (fun _ world => Grounded (Grounds request paired) world.calls
        ∧ world.calls = calls ++ pairs.map (readBack importRef))
      (fun _ world => Grounded (Grounds request paired) world.calls) := by
  refine Triple.weaken (forM_done (I := fun done (world : World σ) =>
    Grounded (Grounds request paired) world.calls
      ∧ world.calls = calls ++ done.map (readBack importRef)) ?_) ?_ fun _ _ h => h
  · rintro done ⟨pairing, commit⟩ rest _
    refine of_state fun world ⟨hgrounded, hworld⟩ => step rfl ?_
    have hnext :
        Grounded (Grounds request paired) (world.asked (.readRef pairing.receiver importRef)
        (transport.readRef pairing.receiver importRef)).calls := by
      rw [World.calls_asked]
      exact hgrounded.concat trivial
    cases hanswer : (transport.readRef pairing.receiver importRef world.host).1 with
    | error => exact stop hnext
    | ok =>
      refine Triple.ite (fun _ => stop hnext) fun hsame => Triple.done ⟨hnext, ?_⟩
      rw [World.calls_asked, hanswer, not_not.mp hsame, hworld, map_append, append_assoc]
      rfl
  · rintro world rfl
    exact ⟨hcalls, by simp⟩

/-- The calls of a run, whether it completes or stops. -/
lemma importPaired_calls (transport : Transport σ) (request : ImportRequest)
    (paired : List Pairing) :
    Triple (fun world => world.calls = []) (importPaired transport request paired)
      (fun imported world => Grounded (Grounds request paired) world.calls
        ∧ imported.importRef = request.transfer.importRef
        ∧ ∃ before, Progress request paired imported.vector paired paired before
          ∧ world.calls =
            before ++ (paired.zip imported.vector).map (readBack request.transfer.importRef))
      (fun _ world => Grounded (Grounds request paired) world.calls) := by
  unfold importPaired
  refine bind (Q := fun _ world => Grounded (Grounds request paired) world.calls) ?_
    fun _ => ?_
  · refine weaken (poll_rule (P := fun world =>
      Grounded (Grounds request paired) world.calls) ?_ fun _ h => h) ?_ fun _ _ h => h
    · intro world hworld
      rw [World.calls_asked]
      exact hworld.concat trivial
    · intro world hworld
      rw [hworld]
      exact grounded_nil _
  refine bind (capture_calls (P := Grounded (Grounds request paired))
    fun calls source answer h => h.concat trivial) ?_
  rintro ⟨captured, unresolved⟩
  refine guard (fun _ world hworld => hworld.1) fun hresolved => ?_
  have hresolved := not_not.mp hresolved
  refine bind (checkFree_calls.weaken
    (fun world (hworld : Grounded (Grounds request paired) world.calls
        ∧ (unresolved = [] → Captured request.selector world.calls paired captured)) =>
      ⟨hworld.1, hworld.2 hresolved, by simp, by simp⟩) fun _ _ h => h) fun _ => ?_
  refine bind (fetchAll_calls ?_) fun effects => of_state fun world hworld => ?_
  · intro pair hpair
    exact (of_mem_zip hpair).1
  have hfetched : [] ++ (paired.zip captured).map Prod.fst = paired := by
    rw [nil_append, map_fst_zip]
    exact hworld.captured.length_eq.le
  rw [hfetched] at hworld
  refine bind ((verify_calls hworld.grounded).weaken ?_ fun _ _ h => h) fun _ => ?_
  · rintro _ rfl
    rfl
  exact pure fun world' ⟨hgrounded, hcalls⟩ =>
    ⟨hgrounded, rfl, world.calls, hworld, hcalls⟩

lemma prepareImport_eq (hpaired : pairParticipants request = .ok paired) (world : World σ) :
    prepareImport transport request world = importPaired transport request paired world := by
  unfold prepareImport
  rw [hpaired]
  rfl

/-- The world a run ended in. -/
def reached : EStateM.Result ImportError (World σ) α → World σ
  | .ok _ world => world
  | .error _ world => world

/-- For every transport: a pairing that fails makes no call, and a refused comparison names
exactly the keys without a counterpart and the members moved. After it, no fetch comes
before every source has been resolved and every receiver found free, and none asks for
anything but the import ref. A completed import has paired the selected keys by identity,
and ends by reading from each receiver the commit captured for its source. -/
theorem prepareImport_checked (transport : Transport σ) (request : ImportRequest) (host : σ) :
    (∀ error, pairParticipants request = .error error →
      prepareImport transport request ⟨host, []⟩ = .error error ⟨host, []⟩
        ∧ ∀ missing moved, error = .pairingIncomplete missing moved →
          (∀ key, key ∈ missing ↔ request.Unpaired key)
            ∧ ∀ key, key ∈ moved.map MovedMember.key ↔ request.Moved key)
      ∧ ∀ paired, pairParticipants request = .ok paired →
        Grounded (Grounds request paired)
            (reached (prepareImport transport request ⟨host, []⟩)).calls
          ∧ ∀ imported world, prepareImport transport request ⟨host, []⟩ = .ok imported world →
            (∀ key, key ∈ paired.map Pairing.key ↔ key ∈ request.selected)
              ∧ (∀ pairing ∈ paired, request.Joins pairing)
              ∧ imported.importRef = request.transfer.importRef
              ∧ ∃ before, Captured request.selector before paired imported.vector
                ∧ (∀ pairing ∈ paired, .fetchAnonymous pairing.receiver pairing.source
                  [request.refspec] (.ok ()) ∈ before)
                ∧ world.calls = before
                  ++ (paired.zip imported.vector).map (readBack imported.importRef) := by
  constructor
  · intro error herror
    constructor
    · unfold prepareImport
      rw [herror]
      rfl
    · rintro missing moved rfl
      exact pairParticipants_incomplete herror
  · intro paired hpaired
    obtain ⟨hok, herror⟩ := importPaired_calls transport request paired ⟨host, []⟩ rfl
    rw [prepareImport_eq hpaired]
    constructor
    · cases hresult : importPaired transport request paired ⟨host, []⟩ with
      | ok imported world => exact (hok imported world hresult).1
      | error error world => exact herror error world hresult
    · intro imported world hresult
      obtain ⟨_, hname, before, hprogress, hcalls⟩ := hok imported world hresult
      obtain ⟨_, hkeys, _, hjoins⟩ := pairParticipants_paired hpaired
      rw [← hname] at hcalls
      exact ⟨hkeys, hjoins, hname, before, hprogress.captured, hprogress.fetched, hcalls⟩

end Logged

namespace Sample

def oid (byte : UInt8) : ObjectId := ⟨.sha1, List.replicate 20 byte, rfl⟩

def receiver (id : String) : Participant := ⟨.member id, id, ofText ("/here/" ++ id)⟩

def source (id : String) : Participant := ⟨.member id, "./" ++ id, ofText ("/there/" ++ id)⟩

/-- An import of the members `ids`. -/
def request (ids : List String) (sources : List Participant) : ImportRequest :=
  ⟨⟨"t1", by simp [Lines.isWhitespace]⟩, ids.map receiver, sources, ids.map .member, .head⟩

def pairing (id : String) : Pairing :=
  ⟨.member id, ofText ("/here/" ++ id), ofText ("/there/" ++ id)⟩

/-- Every source stands at one commit, and every fetch delivers it. -/
def steady : Transport Unit where
  resolveSource _ _ s := (.ok (oid 1), s)
  refExists _ _ s := (.ok false, s)
  fetchAnonymous _ _ _ s := (.ok (), s)
  pushAnonymous _ _ _ s := (.ok (), s)
  readRef _ _ s := (.ok (some (oid 1)), s)
  isCancelled s := (false, s)

/-- An import of the members `a` and `b`. -/
def both : ImportRequest := request ["a", "b"] [source "a", source "b"]

lemma both_paired : pairParticipants both = .ok [pairing "a", pairing "b"] := by decide +kernel

lemma surplus :
    pairParticipants (request ["a"] [source "a", source "b"]) =
      .error (.pairingIncomplete [.member "b"] []) := by decide +kernel

end Sample

theorem prepareImport_checked_small :
    (∀ key, key ∈ [RepoKey.member "b"] ↔
        (Sample.request ["a"] [Sample.source "a", Sample.source "b"]).Unpaired key)
      ∧ ∃ imported world,
        prepareImport Sample.steady Sample.both ⟨(), []⟩ = .ok imported world
          ∧ ∀ key, key ∈ [Sample.pairing "a", Sample.pairing "b"].map Pairing.key ↔
            key ∈ [RepoKey.member "a", RepoKey.member "b"] := by
  constructor
  · have hchecked := prepareImport_checked Sample.steady
      (Sample.request ["a"] [Sample.source "a", Sample.source "b"]) ()
    obtain ⟨_, hnamed⟩ := hchecked.1 _ Sample.surplus
    exact (hnamed [.member "b"] [] rfl).1
  · have hchecked := prepareImport_checked Sample.steady Sample.both ()
    refine ⟨_, _, (prepareImport_eq Sample.both_paired _).trans rfl, ?_⟩
    exact ((hchecked.2 _ Sample.both_paired).2 _ _
      ((prepareImport_eq Sample.both_paired _).trans rfl)).1

/-- A refused comparison also names a member that was not selected: the source alone
records it. -/
theorem pairParticipants_names_unselected :
    ∃ missing, pairParticipants (Sample.request ["a"] [Sample.source "a", Sample.source "b"]) =
        .error (.pairingIncomplete missing [])
      ∧ ∃ key ∈ missing,
        key ∉ (Sample.request ["a"] [Sample.source "a", Sample.source "b"]).selected :=
  ⟨_, Sample.surplus, .member "b", mem_singleton_self _, by decide⟩

end GwzCore.LocalImport
