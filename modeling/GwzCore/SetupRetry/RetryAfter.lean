import GwzCore.SetupRetry.HeldOver

/-!
# A Retry-After holds the site

An operation that is told a `Retry-After` holds the site for every live operation at
once, and from then on no operation is told before the hold's end that the gate is
open or that a first exchange may begin.
-/
namespace GwzCore.SetupRetry.Governor
open List

variable {governor : Governor} {operation other : Operation} {site place : Site} {now time : ℕ}
  {judged post : Bool} {book : Book} {wait : ℕ}

/-! ## The slots of one operation -/

/-- An operation has at most one slot on each site. -/
def Distinct (governor : Governor) : Prop :=
  ∀ operation, ((governor.book.holds operation).map Prod.fst).Nodup

/-- The operation has a slot on the site. -/
def Owns (operation : Operation) (site : Site) (governor : Governor) : Prop :=
  ∃ hold, (site, hold) ∈ governor.book.holds operation

/-- The operation has a slot on the site, and it is held until `time`. -/
def OwnsHeld (operation : Operation) (site : Site) (time : ℕ) (governor : Governor) : Prop :=
  Owns operation site governor ∧
    ∀ hold, (site, hold) ∈ governor.book.holds operation → hold.Lasts time

lemma distinctRule (now : ℕ) (place : Site) : Rule now place Distinct := by
  refine Rule.of_holds (Q := fun holds => ∀ operation, ((holds operation).map Prod.fst).Nodup)
    now place ?_ ?_
  · intro book operation h
    obtain hsame | ⟨hnone, -, hholds⟩ := Book.slot_cases book operation place now
    · rwa [hsame]
    · intro other
      rw [hholds]
      split
      · rw [map_append, nodup_append]
        refine ⟨h operation, by simp, ?_⟩
        intro site hsite made hmade hsame
        obtain ⟨⟨site, hold⟩, hmem, rfl⟩ := mem_map.mp hsite
        simp only [map_cons, map_nil, mem_singleton] at hmade
        simp only at hsame
        subst hmade hsame
        exact hnone hold hmem
      · exact h other
  · intro book operation f hf h other
    rw [Book.holds_update fun slot => (hf slot).1]
    exact h other

lemma distinct_step (timed : TimedGovernorCall) (h : governor.Distinct) :
    (governor.step timed).Distinct := by
  have hdropped : ∀ operation now, (governor.dropScope operation now).Distinct := by
    intro operation now other
    rw [holds_dropScope]
    split
    · exact nodup_nil
    · exact h other
  obtain ⟨call, now⟩ := timed
  cases call with
  | beginOperation operation =>
    intro other
    simp only [step]
    rw [holds_beginOperation]
    exact hdropped operation now other
  | endOperation operation => exact hdropped operation now
  | tick =>
    exact Steps.foldl_induction h
      (fun _ name hgovernor => (distinctRule now name.2).sync hgovernor name.1) _
  | drainAllNotes =>
    intro other
    simp only [step]
    rw [governor.drainAllNotes_frame.1]
    exact h other
  | started | seen | endpoint => exact (distinctRule now _).siteStep h rfl

lemma distinct_run (defaultCeiling : ℕ) (spread : ℕ → Spread) (calls : List TimedGovernorCall) :
    (run defaultCeiling spread calls).Distinct :=
  Steps.run_induction (P := Distinct) (fun _ => by simp [new, Book.holds])
    (fun _ timed h => distinct_step timed h) calls

lemma mem_holds_slot_of_mem {hold : Hold} (h : (site, hold) ∈ book.holds other) :
    (site, hold) ∈ (book.slot operation place now).holds other := by
  obtain hsame | ⟨-, -, hholds⟩ := Book.slot_cases book operation place now
  · rwa [hsame]
  · rw [hholds]
    split
    · rename_i heq
      exact mem_append_left _ (heq ▸ h)
    · exact h

lemma mem_holds_update_of_mem {f : ∀ {C : ℕ}, Slot C → Slot C}
    (hf : ∀ {C : ℕ} (slot : Slot C), slot.Moves now (f slot))
    (h : ∃ hold, (site, hold) ∈ book.holds other) :
    ∃ hold, (site, hold) ∈ (book.update operation place f).holds other := by
  obtain ⟨hold, hmem⟩ := h
  have hsite : site ∈ ((book.update operation place f).holds other).map Prod.fst := by
    rw [Book.holds_update fun slot => (hf slot).1]
    exact mem_map.mpr ⟨(site, hold), hmem, rfl⟩
  simpa using hsite

lemma ownsRule (now : ℕ) (place : Site) (operation : Operation) (site : Site) :
    Rule now place (Owns operation site) := by
  refine Rule.of_holds (Q := fun holds => ∃ hold, (site, hold) ∈ holds operation) now place ?_ ?_
  · rintro book asked ⟨hold, hmem⟩
    exact ⟨hold, mem_holds_slot_of_mem hmem⟩
  · intro book asked f hf howns
    exact mem_holds_update_of_mem hf howns

lemma ownsHeldRule (htime : now < time) (operation : Operation) (site : Site) (place : Site) :
    Rule now place (OwnsHeld operation site time) := by
  refine Rule.of_holds (Q := fun holds => (∃ hold, (site, hold) ∈ holds operation) ∧
    ∀ hold, (site, hold) ∈ holds operation → hold.Lasts time) now place ?_ ?_
  · rintro book asked ⟨⟨own, hown⟩, hlasts⟩
    refine ⟨⟨own, mem_holds_slot_of_mem hown⟩, ?_⟩
    intro hold hmem
    obtain hsame | ⟨hnone, -, hholds⟩ := Book.slot_cases book asked place now
    · rw [hsame] at hmem
      exact hlasts hold hmem
    · rw [hholds] at hmem
      split at hmem
      · rename_i heq
        subst heq
        obtain hbefore | hmade := mem_append.mp hmem
        · exact hlasts hold hbefore
        · simp only [mem_singleton, Prod.mk.injEq] at hmade
          obtain ⟨rfl, -⟩ := hmade
          exact absurd hown (hnone own)
      · exact hlasts hold hmem
  · rintro book asked f hf ⟨howns, hlasts⟩
    refine ⟨mem_holds_update_of_mem hf howns, ?_⟩
    intro hold hmem
    obtain ⟨before, hbefore, hkeeps⟩ := Book.mem_holds_update hf hmem
    exact hkeeps time htime (hlasts before hbefore)

lemma owns_enter (hlive : governor.book.isLive operation = true) (site : Site) (now : ℕ) :
    Owns operation site (governor.enter operation site now) := by
  refine (ownsRule now site operation site).sync ?_ operation
  exact Book.mem_holds_slot hlive

lemma withSlot_of_live (hlive : governor.book.isLive operation = true) {α : Type}
    (f : ∀ {C : ℕ}, Slot C → α × Slot C) :
    governor.withSlot operation site now f =
      let entered := governor.enter operation site now
      (entered.book.onSlot operation site fun slot => (f slot).1,
        (entered.onBook fun book =>
          book.update operation site fun slot => (f slot).2).syncSite site now) := by
  simp [withSlot, hlive]

/-! ## The refusal that sets the hold -/

/-- A judged refusal holds its own operation's machine; one with no attempt in flight
leaves the machine to be held with the others. -/
lemma ownsHeld_refused (hdistinct : governor.Distinct)
    (hlive : governor.book.isLive operation = true) {signal : Signal}
    (hsignal : signal ≠ .setupDrop)
    (conn : ConnId) (wait : ℕ) (post : Bool) (htime : now < satAdd now (min wait holdCapMs)) :
    let judged := governor.withSlot operation site now fun slot =>
      slot.refused conn now signal (some wait) post
    Owns operation site judged.2 ∧
      (judged.1.join.isSome = true →
        OwnsHeld operation site (satAdd now (min wait holdCapMs)) judged.2) := by
  intro judged
  have hjudged : judged = _ := withSlot_of_live hlive _
  have hentered := owns_enter hlive site now
  have hdistinct' : (governor.enter operation site now).Distinct :=
    (distinctRule now site).enter hdistinct operation
  have hmoves : ∀ {C : ℕ} (slot : Slot C),
      slot.Moves now (slot.refused conn now signal (some wait) post).2 :=
    fun slot => ⟨rfl, Limit.keeps_result conn _⟩
  rw [hjudged]
  generalize governor.enter operation site now = entered at hentered hdistinct'
  refine ⟨?_, ?_⟩
  · exact (ownsRule now site operation site).syncSite
      ((ownsRule now site operation site).update operation hmoves hentered)
  · intro hruled
    refine (ownsHeldRule htime operation site site).syncSite ?_
    refine ⟨mem_holds_update_of_mem hmoves hentered, ?_⟩
    intro hold hmem
    obtain ⟨scope, hget, slot, hslot, hsite, honly⟩ := Book.onSlot_of_mem hentered
    obtain ⟨scope', hget', slot', hslot', hsite', hhold⟩ := Book.mem_holds_update_self hmem
    obtain rfl : scope = scope' := Option.some.inj (hget.symm.trans hget')
    have hnodup : (scope.slots.map (·.site)).Nodup := by
      have := hdistinct' operation
      rwa [Book.holds_of_get hget, Scope.holds, map_map] at this
    obtain rfl : slot' = slot :=
      inj_on_of_nodup_map hnodup hslot' hslot (hsite'.trans hsite.symm)
    rw [hhold]
    have hruled' :
        (slot'.limit.result conn (.refused signal (some wait) post) now).1.isSome = true := by
      simpa [honly, Slot.refused] using hruled
    exact Limit.lasts_refused conn hsignal wait post hruled'

/-- Holding one operation's machine keeps every other as long held. -/
lemma lasts_holdSlot {asked : Bool} (htime : now < time)
    (h : ∀ hold, (site, hold) ∈ governor.book.holds other → hold.Lasts time) (held : Operation) :
    ∀ hold, (site, hold) ∈
      (governor.holdSlot operation site now wait asked judged post held).book.holds other →
      hold.Lasts time := by
  unfold holdSlot
  split
  · exact h
  · intro hold hmem
    obtain ⟨before, hbefore, hkeeps⟩ := Book.mem_holds_update
      (f := fun slot => { slot with limit := slot.limit.setHold wait post now })
      (fun slot => ⟨rfl, Limit.keeps_setHold wait post⟩) hmem
    exact hkeeps time htime (h before hbefore)

lemma lasts_holdSlot_self (hheld : ¬(other = operation ∧ judged = true)) :
    ∀ hold, (site, hold) ∈
      (governor.holdSlot operation site now wait true judged post other).book.holds other →
      hold.Lasts (satAdd now (min wait holdCapMs)) := by
  have hnot : ¬((other = operation && true && judged) || (other ≠ operation && !true)) = true := by
    simpa using hheld
  unfold holdSlot
  rw [if_neg hnot]
  intro hold hmem
  obtain ⟨scope, -, slot, -, -, hhold⟩ := Book.mem_holds_update_self hmem
  rw [hhold, Limit.hold_setHold]
  exact Hold.set_untilMs _ _ _ _

/-- Once the loop over the operations on the site is done, every one is held, those it
skips having been held before. -/
lemma lasts_foldl_holdSlot (htime : now < satAdd now (min wait holdCapMs)) (held : List Operation)
    (hheld : ∀ other, other ∉ held ∨ (other = operation ∧ judged = true) →
      ∀ hold, (site, hold) ∈ governor.book.holds other →
        hold.Lasts (satAdd now (min wait holdCapMs)))
    (other : Operation) :
    ∀ hold, (site, hold) ∈ (held.foldl (fun governor next =>
        governor.holdSlot operation site now wait true judged post next)
          governor).book.holds other →
      hold.Lasts (satAdd now (min wait holdCapMs)) := by
  induction held generalizing governor with
  | nil => exact hheld other (.inl (by simp))
  | cons next held ih =>
    refine ih ?_
    intro third hthird
    by_cases hnext : third = next ∧ ¬(third = operation ∧ judged = true)
    · obtain ⟨rfl, hnot⟩ := hnext
      exact lasts_holdSlot_self hnot
    · refine lasts_holdSlot htime (hheld third ?_) next
      obtain hout | hskipped := hthird
      · by_cases heq : third = next
        · exact .inr (not_not.mp fun hnot => hnext ⟨heq, hnot⟩)
        · exact .inl (by simp [heq, hout])
      · exact .inr hskipped

lemma mem_operationsOn (h : ∃ hold, (site, hold) ∈ book.holds operation) :
    operation ∈ book.operationsOn site := by
  obtain ⟨scope, hget, slot, hslot, hsite, -⟩ := Book.onSlot_of_mem h
  unfold Book.operationsOn
  refine mem_map.mpr ⟨(operation, scope), mem_filter.mpr
    ⟨FiniteMap.mem_toList.mpr hget, ?_⟩, rfl⟩
  exact any_eq_true.mpr ⟨slot, hslot, by simpa using hsite⟩

/-- A live operation's refusal with a `Retry-After` holds the site for every one. -/
lemma held_refused (hdistinct : governor.Distinct)
    (hlive : governor.book.isLive operation = true) {signal : Signal}
    (hsignal : signal ≠ .setupDrop)
    (conn : ConnId) (wait : ℕ) (post : Bool) (htime : now < satAdd now (min wait holdCapMs)) :
    (governor.refused operation site now conn signal (some wait) post).2.book.Held site
      (satAdd now (min wait holdCapMs)) := by
  have hruled : Owns operation site (governor.withSlot operation site now fun slot =>
        slot.refused conn now signal (some wait) post).2 ∧ _ :=
    ownsHeld_refused hdistinct hlive hsignal conn wait post htime
  unfold refused
  simp only [refusalWait]
  generalize governor.withSlot operation site now (fun slot =>
    slot.refused conn now signal (some wait) post) = judged at hruled
  obtain ⟨howns, hown⟩ := hruled
  have hlooped : Owns operation site ((judged.2.book.operationsOn site).foldl (fun governor next =>
      governor.holdSlot operation site now wait true judged.1.join.isSome post next) judged.2) :=
    Steps.foldl_induction howns
      (fun _ next h =>
        (ownsRule now site operation site).holdSlot h operation next wait true _ post) _
  have hbefore : ∀ other,
      other ∉ judged.2.book.operationsOn site ∨ (other = operation ∧ judged.1.join.isSome = true) →
      ∀ hold, (site, hold) ∈ judged.2.book.holds other →
        hold.Lasts (satAdd now (min wait holdCapMs)) := by
    rintro other (hout | ⟨rfl, hsome⟩) hold hmem
    · exact absurd (mem_operationsOn ⟨hold, hmem⟩) hout
    · exact (hown hsome).2 hold hmem
  have htouched := Book.touched_iff.mpr ⟨operation, hlooped⟩
  have hready : Ready site now site (satAdd now (min wait holdCapMs))
      ((judged.2.book.operationsOn site).foldl (fun governor next =>
        governor.holdSlot operation site now wait true judged.1.join.isSome post next)
          judged.2) := by
    refine ⟨⟨lasts_foldl_holdSlot htime _ hbefore, ?_⟩, ?_⟩
    · intro huntouched
      exact absurd (htouched.symm.trans huntouched) (by decide)
    · intro _ huntouched
      exact absurd (htouched.symm.trans huntouched) (by decide)
  exact ((readyRule htime).syncSite hready).toHeld

/-! ## What an operation is told -/

section

variable (htime : now < time) (h : governor.book.Held site time)
  (hordered : (governor.book.touched site || governor.book.longestFirst site now) = true)
  (hlive : governor.book.isLive operation = true)
include htime h hordered hlive

/-- A live operation asks about a held site: its machine there is held. -/
lemma answer_of_held {α : Type} (f : ∀ {C : ℕ}, Slot C → α × Slot C) :
    ∃ (C : ℕ) (slot : Slot C), slot.limit.hold.inForce now = true ∧
      (governor.withSlot operation site now f).1 = some (f slot).1 := by
  have hready := (readyRule htime).enter (ready_of_held htime h hordered) operation
  obtain ⟨scope, hget, slot, hslot, rfl, honly⟩ := Book.onSlot_of_mem (owns_enter hlive site now)
  refine ⟨scope.ceiling, slot, ?_, ?_⟩
  · exact (hready.every operation _ (Book.mem_holds_of_slot hget hslot)).inForce htime
  · rw [withSlot_of_live hlive]
    exact honly fun slot => (f slot).1

lemma told_closed :
    (governor.admission operation site now).1.gateOpen = false ∧
      (governor.exchangeMayBegin operation site now).1 = false ∧
      ∀ conn, (governor.exchangeBegins operation site now conn).1 = false := by
  refine ⟨?_, ?_, ?_⟩
  · obtain ⟨C, slot, hforce, hanswer⟩ := answer_of_held htime h hordered hlive
      fun slot => slot.admission now
    have hadvance : (slot.limit.advance now).hold.inForce now = true := hforce
    have hclosed : (slot.admission now).1.gateOpen = false := by
      simp [Slot.admission, Limit.gateOpen, hadvance]
    simp only [admission, hanswer]
    exact hclosed
  · obtain ⟨C, slot, hforce, hanswer⟩ := answer_of_held htime h hordered hlive fun slot =>
      ((slot.limit.admitsFirstExchange now).1,
        { slot with limit := (slot.limit.admitsFirstExchange now).2 })
    have hclosed : (slot.limit.admitsFirstExchange now).1 = false := by
      simp [Limit.admitsFirstExchange, hforce]
    simp only [exchangeMayBegin, hanswer]
    exact hclosed
  · intro conn
    obtain ⟨C, slot, hforce, hanswer⟩ := answer_of_held htime h hordered hlive
      fun slot => slot.exchangeBegins conn now
    have hclosed : (slot.exchangeBegins conn now).1 = false := by
      simp [Slot.exchangeBegins, Limit.admitsFirstExchange, hforce]
    simp only [exchangeBegins, hanswer]
    exact hclosed

end

/-- The call of an operation that is refused with a `Retry-After`. -/
def refusal (operation : Operation) (site : Site) (conn : ConnId) (signal : Signal)
    (retryAfterMs : ℕ) (post : Bool) (told : ℕ) : TimedGovernorCall :=
  ⟨.endpoint operation site (.refused conn signal (some retryAfterMs) post), told⟩

/-- In every run with non-decreasing times whose calls meet the condition on the holds
left: once a live operation is told a `Retry-After`, then before it is over, and at
most thirty seconds on, no operation that is live is told that the gate is open or
that a first exchange may begin, whichever operations began or ended in between. -/
theorem retry_after_outlasts_operations (defaultCeiling : ℕ) (spread : ℕ → Spread)
    (before after : List TimedGovernorCall) (operation asking : Operation) (site : Site)
    (conn : ConnId) (signal : Signal) (retryAfterMs : ℕ) (post : Bool) (told later : ℕ)
    (hordered : Steps.Meets (fun governor timed => governor.holdsOrdered timed = true) step
      (Governor.new defaultCeiling spread)
      (before ++ refusal operation site conn signal retryAfterMs post told :: after))
    (htimes : ((before ++ refusal operation site conn signal retryAfterMs post told :: after).map
      (·.now) ++ [later]).Pairwise (· ≤ ·))
    (hlive : (run defaultCeiling spread before).book.isLive operation = true)
    (hover : later < told + min retryAfterMs holdCapMs) (hclock : later < u64Max) :
    let governor := run defaultCeiling spread
      (before ++ refusal operation site conn signal retryAfterMs post told :: after)
    governor.book.isLive asking = true →
    (governor.book.touched site || governor.book.longestFirst site later) = true →
    (governor.admission asking site later).1.gateOpen = false ∧
      (governor.exchangeMayBegin asking site later).1 = false ∧
      ∀ conn, (governor.exchangeBegins asking site later conn).1 = false := by
  intro governor hasking hlast
  have hend : later < satAdd told (min retryAfterMs holdCapMs) := by
    unfold satAdd
    omega
  have hle : ∀ timed ∈ before ++ refusal operation site conn signal retryAfterMs post told :: after,
      timed.now ≤ later := by
    intro timed hmem
    exact (pairwise_append.mp htimes).2.2 _ (mem_map.mpr ⟨timed, hmem, rfl⟩) later (by simp)
  have htold : told ≤ later :=
    hle (refusal operation site conn signal retryAfterMs post told) (by simp)
  have hsignal : signal ≠ .setupDrop := by
    rintro rfl
    have hcall := hordered before _ after rfl
    simp [holdsOrdered, refusal, GovernorCall.namesNoSetupWait] at hcall
  have hheard : (step (run defaultCeiling spread before)
      (refusal operation site conn signal retryAfterMs post told)).book.Held site
      (satAdd told (min retryAfterMs holdCapMs)) :=
    held_refused (distinct_run defaultCeiling spread before) hlive hsignal conn retryAfterMs post
      (lt_of_le_of_lt htold hend)
  have hrest : Steps.Meets (fun governor timed => governor.holdsOrdered timed = true) step
      (step (run defaultCeiling spread before)
        (refusal operation site conn signal retryAfterMs post told)) after := by
    rw [append_cons] at hordered
    have hmeets := hordered.of_append
    rwa [Steps.run_concat] at hmeets
  have hheld : governor.book.Held site (satAdd told (min retryAfterMs holdCapMs)) := by
    have hrun : governor = Steps.run step (step (run defaultCeiling spread before)
        (refusal operation site conn signal retryAfterMs post told)) after := by
      simp only [governor, run, Steps.run_append, Steps.run_cons]
    rw [hrun]
    -- the calls after the refusal are made before its end
    have hbefore : Steps.Meets (fun governor timed => governor.holdsOrdered timed = true ∧
        timed.now < satAdd told (min retryAfterMs holdCapMs)) step
        (step (run defaultCeiling spread before)
          (refusal operation site conn signal retryAfterMs post told)) after := by
      intro first timed rest heq
      refine ⟨hrest first timed rest heq, lt_of_le_of_lt (hle timed ?_) hend⟩
      simp [heq]
    exact Steps.run_induction_of_meets (P := fun governor : Governor =>
      governor.book.Held site (satAdd told (min retryAfterMs holdCapMs)))
      hheard (fun _ _ hcall h => held_step hcall.2 hcall.1 h) hbefore
  exact told_closed hend hheld hlast hasking

/-- One operation is told to wait five seconds and ends; the next is held at once. -/
theorem retry_after_outlasts_one_operation :
    let governor := run 3 (fun _ => ⟨fun _ => 1000, 0⟩)
      ([⟨.beginOperation 1 3 (by decide) true, 0⟩] ++
        refusal 1 0 9 .throttle 5000 false 0 ::
          [⟨.endOperation 1, 1⟩, ⟨.beginOperation 2 3 (by decide) true, 2⟩])
    (governor.admission 2 0 4000).1.gateOpen = false := by
  refine (retry_after_outlasts_operations 3 (fun _ => ⟨fun _ => 1000, 0⟩) _ _ 1 2 0 9 .throttle 5000
    false 0 4000 (Steps.Meets.of_meets (by decide +kernel)) (by decide) (by decide +kernel)
    (by decide) (by decide) (by decide +kernel) (by decide +kernel)).1

/-- Two operations leave holds on a site, the shorter one first: the next operation
inherits that one, and is told that the gate is open while the longer is in force. -/
theorem shorter_hold_is_inherited :
    let governor := run 3 (fun _ => ⟨fun _ => 1000, 0⟩)
      [⟨.beginOperation 1 3 (by decide) true, 0⟩, ⟨.beginOperation 2 3 (by decide) true, 0⟩,
        ⟨.endpoint 1 0 .admission, 0⟩, ⟨.endpoint 2 0 .admission, 0⟩,
        refusal 1 0 9 .throttle 5000 false 0, ⟨.endOperation 1, 0⟩,
        refusal 2 0 9 .throttle 20000 false 1, ⟨.endOperation 2, 1⟩,
        ⟨.beginOperation 3 3 (by decide) true, 1⟩]
    governor.book.isLive 3 = true ∧ 6000 < 1 + min 20000 holdCapMs ∧
      (governor.admission 3 0 6000).1.gateOpen = true := by
  decide +kernel

end GwzCore.SetupRetry.Governor
