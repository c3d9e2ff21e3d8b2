import GwzCore.LocalImport.Import

/-!
# What a failed import reports

A failed import reports the refs it created and leaves. An effect is recorded at the fetch
with the commit captured for the source, and is corrected only for the receiver whose
verification fails. The refs that the receivers really hold are compared here with the
report, over every host whose reads are honest.
-/
namespace GwzCore.LocalImport
open HistoryCheck HostPath Stopping List Triple

variable {σ : Type} {received : Option ObjectId} {effects : List ImportEffect}
  {effect : ImportEffect}

/-- `held` is what the refs of the repositories hold: the calls that only read leave it and
answer from it, and a fetch changes its receiver alone. -/
structure Observes (transport : Transport σ) (held : σ → Path → String → Option ObjectId) :
    Prop where
  resolve : ∀ source selector s, held (transport.resolveSource source selector s).2 = held s
  exists_keeps : ∀ repository name s, held (transport.refExists repository name s).2 = held s
  exists_answers : ∀ repository name s found,
    (transport.refExists repository name s).1 = .ok found →
      found = (held s repository name).isSome
  read_keeps : ∀ repository name s, held (transport.readRef repository name s).2 = held s
  read_answers : ∀ repository name s found,
    (transport.readRef repository name s).1 = .ok found → found = held s repository name
  cancelled : ∀ s, held (transport.isCancelled s).2 = held s
  fetch_apart : ∀ receiver source refspecs s repository, repository ≠ receiver →
    held (transport.fetchAnonymous receiver source refspecs s).2 repository = held s repository

/-- The run's last call reads a ref of this repository. -/
def endsReading (log : List (Entry σ)) (repository : Path) : Bool :=
  match log.getLast?.map Entry.call with
  | some (.readRef read _ _) => read = repository
  | _ => false

/-- The run's last call is a read of this ref, which failed. -/
def Unread (world : World σ) (receiver : Path) (importRef : String) : Prop :=
  ∃ error, world.calls.getLast? = some (.readRef receiver importRef (.error error))

/-- Every effect names what its receiver's ref holds, and every ref that has come to be is
among the effects, unless the ref could not be read. -/
structure Honest (held : σ → Path → String → Option ObjectId) (start : σ) (importRef : String)
    (paired : List Pairing) (error : ImportError) (world : World σ) : Prop where
  named : ∀ effect ∈ error.effects, effect.importRef = importRef ∧ ∃ pairing ∈ paired,
    pairing.key = effect.key ∧ (Unread world pairing.receiver importRef
      ∨ held world.host pairing.receiver importRef = some effect.oid)
  complete : ∀ pairing ∈ paired,
    held world.host pairing.receiver importRef ≠ held start pairing.receiver importRef →
      Unread world pairing.receiver importRef
        ∨ ∃ effect ∈ error.effects, effect.key = pairing.key

/-- A completed fetch of this pairing left what its source resolved to. -/
def settledEntries (held : σ → Path → String → Option ObjectId) (importRef : String)
    (pairing : Pairing) (fetched resolved : Entry σ) : Bool :=
  match fetched.call, resolved.call with
  | .fetchAnonymous receiver source _ (.ok ()), .resolveSource origin _ (.ok oid) =>
    if receiver = pairing.receiver ∧ source = pairing.source ∧ origin = pairing.source then
      held fetched.after pairing.receiver importRef = some oid
    else true
  | _, _ => true

/-- Every completed fetch left the commit captured for it, but for the pairing whose receiver
the run ends reading. -/
def settled (held : σ → Path → String → Option ObjectId) (importRef : String)
    (paired : List Pairing) (log : List (Entry σ)) : Bool :=
  paired.all fun pairing => endsReading log pairing.receiver
    || log.all fun fetched => log.all fun resolved =>
      settledEntries held importRef pairing fetched resolved

/-! ### Corrected effects -/

lemma mem_correctEffect {key : RepoKey} (hkeys : (effects.map ImportEffect.key).Nodup)
    (h : effect ∈ correctEffect key received effects) :
    (effect ∈ effects ∧ effect.key ≠ key)
      ∨ ∃ old ∈ effects, old.key = key ∧ received = some effect.oid
        ∧ effect = { old with oid := effect.oid } := by
  induction effects with
  | nil => cases h
  | cons first rest ih =>
    rw [map_cons, nodup_cons] at hkeys
    obtain ⟨hfirst, hkeys⟩ := hkeys
    have hrest : first.key = key → ∀ other ∈ rest, other.key ≠ key := by
      rintro rfl other hother heq
      exact hfirst (heq ▸ mem_map_of_mem hother)
    unfold correctEffect at h
    split_ifs at h with hkey
    · cases received with
      | none => exact .inl ⟨mem_cons_of_mem _ h, hrest hkey effect h⟩
      | some oid =>
        rcases mem_cons.mp h with rfl | h
        · exact .inr ⟨first, mem_cons_self, hkey, rfl, rfl⟩
        · exact .inl ⟨mem_cons_of_mem _ h, hrest hkey effect h⟩
    · rcases mem_cons.mp h with rfl | h
      · exact .inl ⟨mem_cons_self, hkey⟩
      · rcases ih hkeys h with ⟨hmem, hne⟩ | ⟨old, hold, hcorrected⟩
        · exact .inl ⟨mem_cons_of_mem _ hmem, hne⟩
        · exact .inr ⟨old, mem_cons_of_mem _ hold, hcorrected⟩

/-- Correction loses the effect of the key alone, and only when nothing was received. -/
lemma correctEffect_keys {key : RepoKey} (h : effect ∈ effects)
    (hkept : effect.key ≠ key ∨ received.isSome = true) :
    ∃ other ∈ correctEffect key received effects, other.key = effect.key := by
  induction effects with
  | nil => cases h
  | cons first rest ih =>
    unfold correctEffect
    split_ifs with hkey
    · cases received with
      | none =>
        have hne : effect.key ≠ key := by simpa using hkept
        rcases mem_cons.mp h with rfl | h
        · exact absurd hkey hne
        · exact ⟨effect, h, rfl⟩
      | some oid =>
        rcases mem_cons.mp h with rfl | h
        · exact ⟨_, mem_cons_self, rfl⟩
        · exact ⟨effect, mem_cons_of_mem _ h, rfl⟩
    · rcases mem_cons.mp h with rfl | h
      · exact ⟨effect, mem_cons_self, rfl⟩
      · obtain ⟨other, hother, heq⟩ := ih h
        exact ⟨other, mem_cons_of_mem _ hother, heq⟩

/-! ### The refs along a run -/

section Run
variable {transport : Transport σ} {held : σ → Path → String → Option ObjectId}
  {request : ImportRequest} {paired : List Pairing} {captured : List ImportedCommit} {start : σ}
  {world : World σ} {error : ImportError}

/-- The effect recorded for a fetched pairing. -/
def effectOf (importRef : String) (pair : Pairing × ImportedCommit) : ImportEffect :=
  ⟨pair.1.key, importRef, pair.2.oid⟩

/-- What the refs hold once some pairings are touched and their fetches done: what a done
fetch left, and nothing where nothing was touched. -/
structure Left (held : σ → Path → String → Option ObjectId) (request : ImportRequest)
    (paired : List Pairing) (captured : List ImportedCommit) (start : σ)
    (done : List (Pairing × ImportedCommit)) (touched : List Pairing) (world : World σ) : Prop where
  resolved : Captured request.selector world.calls paired captured
  free : ∀ pairing ∈ paired, held start pairing.receiver request.transfer.importRef = none
  left : ∀ pair ∈ done, pair ∈ paired.zip captured ∧ ∃ entry ∈ world.log,
    entry.call = .fetchAnonymous pair.1.receiver pair.1.source [request.refspec] (.ok ())
      ∧ held world.host pair.1.receiver request.transfer.importRef =
        held entry.after pair.1.receiver request.transfer.importRef
  untouched : ∀ pairing ∈ paired, pairing ∉ touched →
    held world.host pairing.receiver request.transfer.importRef = none

/-- What a failure owes: an honest report when every other fetch was settled. -/
def Owes (held : σ → Path → String → Option ObjectId) (request : ImportRequest)
    (paired : List Pairing) (start : σ) (error : ImportError) (world : World σ) : Prop :=
  settled held request.transfer.importRef paired world.log = true →
    Honest held start request.transfer.importRef paired error world

/-- Before the first fetch nothing has come to be and nothing is reported. -/
lemma owes_of_unchanged (hhost : held world.host = held start) (heffects : error.effects = []) :
    Owes held request paired start error world := by
  refine fun _ => ⟨?_, ?_⟩
  · rw [heffects]
    simp
  · intro pairing _ hne
    rw [hhost] at hne
    exact absurd rfl hne

section Kept
variable {done : List (Pairing × ImportedCommit)} {touched : List Pairing}

section

variable (h : Left held request paired captured start done touched world)
include h

/-- The settled fetches left what is reported of them. -/
lemma Left.holds (hsettled : settled held request.transfer.importRef paired world.log = true)
    {pair : Pairing × ImportedCommit} (hpair : pair ∈ done)
    (hends : endsReading world.log pair.1.receiver = false) :
    held world.host pair.1.receiver request.transfer.importRef = some pair.2.oid := by
  obtain ⟨hzip, fetched, hfetched, hcall, hheld⟩ := h.left pair hpair
  obtain ⟨_, hresolved⟩ := (forall₂_iff_zip.mp h.resolved).2 hzip
  obtain ⟨resolved, hmem, hanswer⟩ := mem_map.mp hresolved
  have hboth := all_eq_true.mp hsettled pair.1 (of_mem_zip hzip).1
  rw [hends, Bool.false_or] at hboth
  have hentries := all_eq_true.mp (all_eq_true.mp hboth fetched hfetched) resolved hmem
  unfold settledEntries at hentries
  rw [hcall, hanswer] at hentries
  simp only [and_self, if_true, decide_eq_true_eq] at hentries
  rw [hheld, hentries]

/-- A report is honest when its effects are those of settled fetches or are read off the
refs, and every ref that was touched and holds something is among them. -/
lemma Left.owes (hnamed : ∀ effect ∈ error.effects,
      (∃ pair ∈ done, endsReading world.log pair.1.receiver = false
          ∧ effect = effectOf request.transfer.importRef pair)
        ∨ effect.importRef = request.transfer.importRef ∧ ∃ pairing ∈ paired,
          pairing.key = effect.key ∧ (Unread world pairing.receiver request.transfer.importRef
            ∨ held world.host pairing.receiver request.transfer.importRef = some effect.oid))
    (hcomplete : ∀ pairing ∈ touched,
      held world.host pairing.receiver request.transfer.importRef ≠ none →
        Unread world pairing.receiver request.transfer.importRef
          ∨ ∃ effect ∈ error.effects, effect.key = pairing.key) :
    Owes held request paired start error world := by
  refine fun hsettled => ⟨?_, ?_⟩
  · intro effect heffect
    rcases hnamed effect heffect with ⟨pair, hpair, hends, rfl⟩ | hread
    · have hpaired := (of_mem_zip (h.left pair hpair).1).1
      exact ⟨rfl, pair.1, hpaired, rfl, .inr (h.holds hsettled hpair hends)⟩
    · exact hread
  · intro pairing hpairing hne
    rw [h.free pairing hpairing] at hne
    by_cases htouched : pairing ∈ touched
    · exact hcomplete pairing htouched hne
    · exact absurd (h.untouched pairing hpairing htouched) hne

/-- A call that leaves the refs keeps what is known of them. -/
lemma Left.asked {α : Type} {port : σ → α × σ} (call : α → Call)
    (hkeeps : held (port world.host).2 = held world.host) :
    Left held request paired captured start done touched (world.asked call port) where
  resolved := by
    rw [World.calls_asked]
    exact h.resolved.append _
  free := h.free
  left pair hpair := by
    obtain ⟨hzip, entry, hentry, hcall, hheld⟩ := h.left pair hpair
    refine ⟨hzip, entry, mem_append_left _ hentry, hcall, ?_⟩
    rw [← hheld]
    exact congrFun (congrFun hkeeps _) _
  untouched pairing hpairing hnot := by
    rw [← h.untouched pairing hpairing hnot]
    exact congrFun (congrFun hkeeps _) _

end

variable (hobserves : Observes transport held) (hreceivers : (paired.map Pairing.receiver).Nodup)
include hobserves hreceivers

/-- A fetch touches its own receiver alone. -/
lemma Left.fetched (h : Left held request paired captured start done touched world)
    {pairing : Pairing} (hpairing : pairing ∈ paired) (hfresh : pairing ∉ done.map Prod.fst) :
    Left held request paired captured start done (touched ++ [pairing])
      (world.asked (.fetchAnonymous pairing.receiver pairing.source [request.refspec])
        (transport.fetchAnonymous pairing.receiver pairing.source [request.refspec])) := by
  have hapart : ∀ other ∈ paired, other ≠ pairing →
      held (transport.fetchAnonymous pairing.receiver pairing.source [request.refspec]
        world.host).2 other.receiver = held world.host other.receiver := by
    intro other hother hne
    apply hobserves.fetch_apart
    intro hsame
    exact hne (inj_on_of_nodup_map hreceivers hother hpairing hsame)
  refine ⟨?_, h.free, ?_, ?_⟩
  · rw [World.calls_asked]
    exact h.resolved.append _
  · intro pair hpair
    obtain ⟨hzip, entry, hentry, hcall, hheld⟩ := h.left pair hpair
    refine ⟨hzip, entry, mem_append_left _ hentry, hcall, ?_⟩
    rw [← hheld]
    refine congrFun (hapart pair.1 (of_mem_zip hzip).1 ?_) _
    rintro rfl
    exact hfresh (mem_map_of_mem hpair)
  · intro other hother hnot
    rw [mem_append, mem_singleton, not_or] at hnot
    rw [← h.untouched other hother hnot.1]
    exact congrFun (hapart other hother hnot.2) _

end Kept

section Phases
variable {done : List (Pairing × ImportedCommit)}
  (hobserves : Observes transport held) (hkeys : (paired.map Pairing.key).Nodup)
  (hreceivers : (paired.map Pairing.receiver).Nodup)

/-- The failed read of a ref is the last call of the run it stops. -/
lemma unread_asked {receiver : Path} {importRef : String} {failure : TransportError}
    (h : (transport.readRef receiver importRef world.host).1 = .error failure) :
    Unread (world.asked (.readRef receiver importRef) (transport.readRef receiver importRef))
      receiver importRef := by
  refine ⟨failure, ?_⟩
  rw [World.calls_asked, getLast?_concat, h]

lemma endsReading_apart {read receiver : Path} {importRef : String} (h : read ≠ receiver) :
    endsReading (world.asked (.readRef read importRef) (transport.readRef read importRef)).log
      receiver = false := by
  simp [endsReading, World.asked, h]

/-- The effects recorded so far, and none for a receiver not done. -/
lemma Left.owes_done (h : Left held request paired captured start done (done.map Prod.fst) world)
    (heffects : error.effects = done.map (effectOf request.transfer.importRef))
    (hends : ∀ receiver, endsReading world.log receiver = false) :
    Owes held request paired start error world := by
  refine h.owes ?_ ?_
  · intro effect heffect
    rw [heffects] at heffect
    obtain ⟨pair, hpair, rfl⟩ := mem_map.mp heffect
    exact .inl ⟨pair, hpair, hends _, rfl⟩
  · intro pairing htouched _
    obtain ⟨pair, hpair, rfl⟩ := mem_map.mp htouched
    rw [heffects]
    exact .inr ⟨_, mem_map_of_mem hpair, rfl⟩

include hobserves hreceivers

/-- A failed fetch is reported with what it is found to have created. -/
lemma Left.owes_failed (h : Left held request paired captured start done (done.map Prod.fst) world)
    {pairing : Pairing} (hpairing : pairing ∈ paired) (hfresh : pairing ∉ done.map Prod.fst)
    (detail : String) :
    let world' := world.asked
      (.fetchAnonymous pairing.receiver pairing.source [request.refspec])
      (transport.fetchAnonymous pairing.receiver pairing.source [request.refspec])
    let read := transport.readRef pairing.receiver request.transfer.importRef
    Owes held request paired start
      (.transferFailed pairing.key detail
        (done.map (effectOf request.transfer.importRef)
          ++ createdBy pairing.key request.transfer.importRef (read world'.host).1))
      (world'.asked (.readRef pairing.receiver request.transfer.importRef) read) := by
  intro world' read
  have hkeeps : held (read world'.host).2 = held world'.host := hobserves.read_keeps _ _ _
  have hleft := (h.fetched hobserves hreceivers hpairing hfresh).asked
    (.readRef pairing.receiver request.transfer.importRef) hkeeps
  refine hleft.owes ?_ ?_
  · intro effect heffect
    rcases mem_append.mp heffect with heffect | heffect
    · obtain ⟨pair, hpair, rfl⟩ := mem_map.mp heffect
      refine .inl ⟨pair, hpair, endsReading_apart fun hsame => ?_, rfl⟩
      have hpaired := (of_mem_zip (h.left pair hpair).1).1
      have := inj_on_of_nodup_map hreceivers hpaired hpairing hsame.symm
      exact hfresh (this ▸ mem_map_of_mem hpair)
    · right
      unfold createdBy at heffect
      split at heffect
      · rename_i oid hread
        rw [mem_singleton.mp heffect]
        refine ⟨rfl, pairing, hpairing, rfl, .inr ?_⟩
        have hfound := hobserves.read_answers _ _ _ _ hread
        exact (congrFun (congrFun hkeeps _) _).trans hfound.symm
      · cases heffect
  · intro other htouched hne
    rcases mem_append.mp htouched with hother | hother
    · obtain ⟨pair, hpair, rfl⟩ := mem_map.mp hother
      exact .inr ⟨_, mem_append_left _ (mem_map_of_mem hpair), rfl⟩
    · rw [mem_singleton.mp hother] at hne ⊢
      rcases hread : (read world'.host).1 with failure | _ | oid
      · exact .inl (unread_asked hread)
      · have hfound := hobserves.read_answers _ _ _ _ hread
        exact absurd ((congrFun (congrFun hkeeps _) _).trans hfound.symm) hne
      · right
        exact ⟨_, mem_append_right _ mem_cons_self, rfl⟩

include hkeys

lemma fetchAll_left (hzip : (paired.zip captured).map Prod.fst = paired)
    {pairs : List (Pairing × ImportedCommit)} (hpairs : paired.zip captured = done ++ pairs) :
    Triple (Left held request paired captured start done (done.map Prod.fst))
      (fetchAll transport request.transfer.importRef request.refspec pairs
        (done.map (effectOf request.transfer.importRef)))
      (fun effects world =>
        effects = (paired.zip captured).map (effectOf request.transfer.importRef)
          ∧ Left held request paired captured start (paired.zip captured) paired world)
      (Owes held request paired start) := by
  induction pairs generalizing done with
  | nil =>
    rw [append_nil] at hpairs
    refine pure fun world hworld => ?_
    rw [← hpairs, hzip] at hworld
    rw [← hpairs]
    exact ⟨rfl, hworld⟩
  | cons pair rest ih =>
    obtain ⟨pairing, commit⟩ := pair
    have hmem : (pairing, commit) ∈ paired.zip captured := by
      rw [hpairs]
      simp
    have hpairing : pairing ∈ paired := (of_mem_zip hmem).1
    have hfresh : pairing ∉ done.map Prod.fst := by
      have hnodup : ((paired.zip captured).map Prod.fst).Nodup := by
        rw [hzip]
        exact List.Nodup.of_map _ hkeys
      rw [hpairs, map_append, map_cons] at hnodup
      intro hin
      exact disjoint_of_nodup_append hnodup hin mem_cons_self
    unfold fetchAll
    refine bind_state (poll_rule (fun world hworld => ?_) fun world hworld => ?_)
      fun _ world hworld => step rfl ?_
    · exact hworld.asked _ (hobserves.cancelled _)
    · exact hworld.owes_done rfl fun _ => by simp [endsReading, World.asked]
    rcases hanswer : (transport.fetchAnonymous pairing.receiver pairing.source [request.refspec]
      world.host).1 with failure | ⟨⟨⟩⟩
    · refine step rfl (stop ?_)
      exact hworld.owes_failed hobserves hreceivers hpairing hfresh failure.display
    · have hsplit : paired.zip captured = (done ++ [(pairing, commit)]) ++ rest := by
        rw [hpairs]
        simp
      have heffects : (done ++ [(pairing, commit)]).map (effectOf request.transfer.importRef) =
          done.map (effectOf request.transfer.importRef)
            ++ [⟨pairing.key, request.transfer.importRef, commit.oid⟩] := map_append
      have hnext := ih hsplit
      rw [heffects] at hnext
      refine hnext.weaken ?_ fun _ _ h => h
      rintro _ rfl
      have hfetched := hworld.fetched hobserves hreceivers hpairing hfresh
      refine ⟨hfetched.resolved, hfetched.free, ?_, ?_⟩
      · intro pair hpair
        rcases mem_append.mp hpair with hpair | hpair
        · exact hfetched.left pair hpair
        · rw [mem_singleton.mp hpair]
          refine ⟨hmem, _, mem_append_right _ mem_cons_self, ?_, rfl⟩
          exact congrArg _ hanswer
      · intro other hother hnot
        apply hfetched.untouched other hother
        rwa [map_append] at hnot

/-- What the verification of one pairing finds is what its effect says, or corrects it. -/
lemma verify_left (hzip : (paired.zip captured).map Prod.fst = paired) {pairing : Pairing}
    {commit : ImportedCommit} (hpair : (pairing, commit) ∈ paired.zip captured) :
    Triple (Left held request paired captured start (paired.zip captured) paired)
      (verify transport request.transfer.importRef
        ((paired.zip captured).map (effectOf request.transfer.importRef)) pairing commit)
      (fun _ => Left held request paired captured start (paired.zip captured) paired)
      (Owes held request paired start) := by
  have hpairing : pairing ∈ paired := (of_mem_zip hpair).1
  have hrecorded : ∀ other ∈ paired, ∃ effect ∈
      (paired.zip captured).map (effectOf request.transfer.importRef), effect.key = other.key := by
    intro other hother
    rw [← hzip] at hother
    obtain ⟨found, hfound, rfl⟩ := mem_map.mp hother
    exact ⟨_, mem_map_of_mem hfound, rfl⟩
  have hreported : (((paired.zip captured).map (effectOf request.transfer.importRef)).map
      ImportEffect.key).Nodup := by
    have hmap : ((paired.zip captured).map (effectOf request.transfer.importRef)).map
        ImportEffect.key = ((paired.zip captured).map Prod.fst).map Pairing.key := by
      rw [map_map, map_map]
      rfl
    rw [hmap, hzip]
    exact hkeys
  have hother : ∀ pair ∈ paired.zip captured, pair.1.key ≠ pairing.key →
      pairing.receiver ≠ pair.1.receiver := by
    intro pair hin hne hsame
    exact hne (inj_on_of_nodup_map hreceivers hpairing (of_mem_zip hin).1 hsame ▸ rfl)
  unfold verify
  refine of_state fun world hworld => ?_
  have hleft := hworld.asked (.readRef pairing.receiver request.transfer.importRef)
    (hobserves.read_keeps pairing.receiver request.transfer.importRef world.host)
  refine step rfl ?_
  rcases hread : (transport.readRef pairing.receiver request.transfer.importRef world.host).1
    with failure | received
  · refine stop (hleft.owes ?_ ?_)
    · intro effect heffect
      obtain ⟨pair, hin, rfl⟩ := mem_map.mp heffect
      by_cases hkey : pair.1.key = pairing.key
      · exact .inr ⟨rfl, pairing, hpairing, hkey.symm, .inl (unread_asked hread)⟩
      · exact .inl ⟨pair, hin, endsReading_apart (hother pair hin hkey), rfl⟩
    · intro other htouched _
      exact .inr (hrecorded other htouched)
  · refine ite (fun _ => stop ?_) fun _ => done hleft
    · have hfound := hobserves.read_answers _ _ _ _ hread
      have hholds : held (world.asked (.readRef pairing.receiver request.transfer.importRef)
          (transport.readRef pairing.receiver request.transfer.importRef)).host pairing.receiver
          request.transfer.importRef = received := by
        rw [hfound]
        exact congrFun (congrFun (hobserves.read_keeps _ _ _) _) _
      refine hleft.owes ?_ ?_
      · intro effect heffect
        rcases mem_correctEffect hreported heffect with
          ⟨hin, hkey⟩ | ⟨old, hold, hkey, hreceived, hcorrected⟩
        · obtain ⟨pair, hpair, rfl⟩ := mem_map.mp hin
          exact .inl ⟨pair, hpair, endsReading_apart (hother pair hpair hkey), rfl⟩
        · obtain ⟨pair, _, rfl⟩ := mem_map.mp hold
          right
          rw [hcorrected]
          exact ⟨rfl, pairing, hpairing, hkey.symm, .inr (hholds.trans hreceived)⟩
      · intro other htouched hne
        obtain ⟨effect, heffect, hkey⟩ := hrecorded other htouched
        have hkept : effect.key ≠ pairing.key ∨ received.isSome = true := by
          by_cases hsame : effect.key = pairing.key
          · right
            rw [hkey] at hsame
            rw [inj_on_of_nodup_map hkeys htouched hpairing hsame, hholds] at hne
            exact Option.isSome_iff_ne_none.mpr hne
          · exact .inl hsame
        obtain ⟨corrected, hcorrected, hsame⟩ := correctEffect_keys heffect hkept
        exact .inr ⟨corrected, hcorrected, hsame.trans hkey⟩

omit hkeys hreceivers in
lemma capture_held {selector : SourceSelector} {R : ImportError → World σ → Prop} :
    Triple (fun world => held world.host = held start) (capture transport selector paired)
      (fun _ world => held world.host = held start) R := by
  induction paired with
  | nil => exact pure fun _ hworld => hworld
  | cons pairing rest ih =>
    unfold capture
    refine bind (ask_rule (Q := fun _ world => held world.host = held start)
      fun world hworld => (hobserves.resolve _ _ _).trans hworld) fun answer => ?_
    refine bind ih fun found => ?_
    cases answer with
    | ok | error => exact pure fun _ hworld => hworld

omit hkeys hreceivers in
lemma checkFree_left :
    Triple (fun world => Captured request.selector world.calls paired captured
        ∧ held world.host = held start)
      (paired.forM (checkFree transport request.transfer.importRef))
      (fun _ => Left held request paired captured start [] [])
      (Owes held request paired start) := by
  refine Triple.weaken (forM_done (I := fun done (world : World σ) =>
    Captured request.selector world.calls paired captured ∧ held world.host = held start
      ∧ ∀ pairing ∈ done, held start pairing.receiver request.transfer.importRef = none) ?_) ?_ ?_
  · intro done pairing rest _
    refine of_state fun world ⟨hcaptured, hheld, hfree⟩ => step rfl ?_
    have hkeeps := (hobserves.exists_keeps pairing.receiver request.transfer.importRef
      world.host).trans hheld
    rcases hanswer : (transport.refExists pairing.receiver request.transfer.importRef world.host).1
      with failure | _ | _
    · exact stop (owes_of_unchanged hkeeps rfl)
    · refine Triple.done ⟨?_, hkeeps, fun other hother => ?_⟩
      · rw [World.calls_asked]
        exact hcaptured.append _
      rcases mem_append.mp hother with hother | hother
      · exact hfree other hother
      · rw [mem_singleton.mp hother, ← hheld]
        simpa using hobserves.exists_answers _ _ _ _ hanswer
    · exact stop (owes_of_unchanged hkeeps rfl)
  · rintro world ⟨hcaptured, hheld⟩
    exact ⟨hcaptured, hheld, by simp⟩
  · rintro _ world ⟨hcaptured, hheld, hfree⟩
    refine ⟨hcaptured, hfree, by simp, fun pairing hpairing _ => ?_⟩
    rw [hheld]
    exact hfree pairing hpairing

lemma importPaired_owes (request : ImportRequest) (start : σ) :
    Triple (fun world => held world.host = held start) (importPaired transport request paired)
      (fun _ _ => True) (Owes held request paired start) := by
  unfold importPaired
  refine bind (poll_rule (fun world hworld => (hobserves.cancelled _).trans hworld)
    fun world hworld => owes_of_unchanged hworld rfl) fun _ => ?_
  refine bind (weaken
    ((capture_calls (P := fun _ => True) fun _ _ _ h => h).and (capture_held hobserves))
    (fun world hworld => ⟨trivial, hworld⟩) fun _ _ h => h) ?_
  rintro ⟨captured, unresolved⟩
  refine guard (fun _ world hworld => owes_of_unchanged hworld.2 rfl) fun hresolved => ?_
  have hresolved := not_not.mp hresolved
  refine bind ((checkFree_left hobserves).weaken
    (fun world hworld => ⟨hworld.1.2 hresolved, hworld.2⟩) fun _ _ h => h) fun _ => ?_
  refine of_state fun world hworld => ?_
  have hzip : (paired.zip captured).map Prod.fst = paired := by
    rw [map_fst_zip]
    exact hworld.resolved.length_eq.le
  refine bind ((fetchAll_left hobserves hkeys hreceivers hzip
    (nil_append (paired.zip captured)).symm).weaken ?_ fun _ _ h => h) fun effects => ?_
  · rintro _ rfl
    exact hworld
  refine of_state fun world' ⟨heffects, hworld'⟩ => ?_
  subst heffects
  refine bind (weaken (forM
    (P := Left held request paired captured start (paired.zip captured) paired) ?_)
    ?_ fun _ _ h => h) fun _ => pure fun _ _ => trivial
  · rintro ⟨pairing, commit⟩ hpair
    exact verify_left hobserves hkeys hreceivers hzip hpair
  · rintro _ rfl
    exact hworld'

end Phases

/-- For every host with honest reads and receivers in different places: the report of a
failed import is honest when every completed fetch, but for the pairing whose receiver the
run ends reading, left the commit captured for its source. -/
theorem prepareImport_honest (hobserves : Observes transport held)
    (hplaces : (request.receivers.map Participant.path).Nodup)
    (hpaired : pairParticipants request = .ok paired)
    (hrun : prepareImport transport request ⟨start, []⟩ = .error error world)
    (hsettled : settled held request.transfer.importRef paired world.log = true) :
    Honest held start request.transfer.importRef paired error world := by
  obtain ⟨hkeys, _, hsublist, _⟩ := pairParticipants_paired hpaired
  have howes := importPaired_owes hobserves hkeys (hplaces.sublist hsublist) request start
    ⟨start, []⟩ rfl
  rw [prepareImport_eq hpaired] at hrun
  exact howes.2 error world hrun hsettled

end Run

namespace Sample

/-- The refs of the repositories, under the one import name. -/
abbrev Refs := Path → Option ObjectId

def held (refs : Refs) (repository : Path) (_ : String) : Option ObjectId := refs repository

/-- Sources that resolve to one commit; a fetch from `a` delivers the given commit, and
every other fetch fails. -/
def delivering (delivered : ObjectId) : Transport Refs where
  resolveSource _ _ refs := (.ok (oid 1), refs)
  refExists repository _ refs := (.ok (refs repository).isSome, refs)
  fetchAnonymous receiver source _ refs :=
    if source = ofText "/there/a" then (.ok (), Function.update refs receiver (some delivered))
    else (.error (.failed "gone"), refs)
  pushAnonymous _ _ _ refs := (.ok (), refs)
  readRef repository _ refs := (.ok (refs repository), refs)
  isCancelled refs := (false, refs)

lemma delivering_observes (delivered : ObjectId) : Observes (delivering delivered) held where
  resolve _ _ _ := rfl
  exists_keeps _ _ _ := rfl
  exists_answers _ _ _ _ h := (Except.ok.inj h).symm
  read_keeps _ _ _ := rfl
  read_answers _ _ _ _ h := (Except.ok.inj h).symm
  cancelled _ := rfl
  fetch_apart receiver source refspecs refs repository hne := by
    funext name
    unfold delivering
    dsimp only
    split_ifs
    · exact Function.update_of_ne hne _ _
    · rfl

end Sample

theorem prepareImport_honest_small :
    ∃ error world,
      prepareImport (Sample.delivering (Sample.oid 1)) Sample.both ⟨fun _ => none, []⟩ =
          .error error world
        ∧ error.effects = [⟨.member "a", Sample.both.transfer.importRef, Sample.oid 1⟩]
        ∧ Honest Sample.held (fun _ => none) Sample.both.transfer.importRef
          [Sample.pairing "a", Sample.pairing "b"] error world := by
  refine ⟨_, _, (prepareImport_eq Sample.both_paired _).trans rfl, rfl, ?_⟩
  exact prepareImport_honest (Sample.delivering_observes _) (by decide +kernel) Sample.both_paired
    ((prepareImport_eq Sample.both_paired _).trans rfl) (by decide +kernel)

/-- The source `a` moves between its capture and its fetch and the fetch of `b` fails: the
report names the captured commit, and the receiver holds the other one. -/
theorem prepareImport_misreports :
    ∃ error world,
      prepareImport (Sample.delivering (Sample.oid 2)) Sample.both ⟨fun _ => none, []⟩ =
          .error error world
        ∧ error.effects = [⟨.member "a", Sample.both.transfer.importRef, Sample.oid 1⟩]
        ∧ Sample.held world.host (Sample.pairing "a").receiver Sample.both.transfer.importRef =
          some (Sample.oid 2)
        ∧ ¬ Honest Sample.held (fun _ => none) Sample.both.transfer.importRef
          [Sample.pairing "a", Sample.pairing "b"] error world := by
  refine ⟨_, _, (prepareImport_eq Sample.both_paired _).trans rfl, rfl, by decide +kernel, ?_⟩
  intro hhonest
  obtain ⟨_, pairing, hpairing, hkey, hholds⟩ := hhonest.named _ mem_cons_self
  have ha : pairing = Sample.pairing "a" := by
    rcases mem_cons.mp hpairing with rfl | hpairing
    · rfl
    · rw [mem_singleton.mp hpairing] at hkey
      exact absurd hkey (by decide)
  subst ha
  rcases hholds with ⟨failure, hlast⟩ | hholds
  · cases hlast
  · exact absurd hholds (by decide +kernel)

end GwzCore.LocalImport
