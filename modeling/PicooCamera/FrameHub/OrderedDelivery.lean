import PicooCamera.FrameHub.FrameBus

/-!
# Ordered delivery

Whatever the owner, the consumers and the cutoffs do, in any order, a
subscription delivers a prefix of what was published for it, and it ends
silently only after a cutoff, with nothing left behind.
-/

namespace PicooCamera.FrameHub

structure HonestSubscription (f : Followed) : Prop where
  /-- In order, without gap or duplicate. -/
  delivers : f.ledger.delivered <+: f.ledger.published
  normal : f.subscription.normalEnd = true ∨ f.ledger.silent = true →
    f.ledger.cut = true ∧ f.ledger.cause = none ∧ f.ledger.delivered = f.ledger.published
  sticky : f.ledger.answers.Pairwise fun earlier later =>
    ∀ reason, earlier = .error reason → later = .error reason
  cause : f.subscription.ended = f.ledger.cause
  failures : ∀ reason, .error reason ∈ f.ledger.answers → f.ledger.cause = some reason
  reports : ∀ reason ∈ f.ledger.reports, f.ledger.cause = some reason
  reportedOnce : f.ledger.reports.length ≤ 1

structure HonestBus (x : BusState) : Prop where
  subscriptions : ∀ f ∈ x.subscriptions, HonestSubscription f
  oneAccepts : ∀ (i j : Nat) (f g : Followed), x.subscriptions[i]? = some f →
    x.subscriptions[j]? = some g → f.subscription.accepting = true →
      g.subscription.accepting = true → i = j
  latest : x.latest = x.sinceClear.getLast?

/-! ## One subscription -/

/-- What the two sides of a subscription keep. -/
structure Sound (f : Followed) : Prop where
  cause : f.subscription.ended = f.ledger.cause
  accepting : f.subscription.accepting = true → f.subscription.ended = none ∧
    f.subscription.receiver = true ∧ f.subscription.sender = true ∧
      f.subscription.normalEnd = false ∧ f.ledger.closed = false ∧ f.ledger.dropped = false
  shut : f.subscription.accepting = false → f.subscription.ended = none → f.ledger.closed = true
  cut : f.ledger.closed = true → f.subscription.ended = none → f.ledger.cut = true
  queue : f.subscription.receiver = true → f.subscription.ended = none →
    f.ledger.delivered ++ f.subscription.queue.map QueuedFrame.frame = f.ledger.published
  delivers : f.ledger.delivered <+: f.ledger.published
  normal : f.subscription.normalEnd = true → f.subscription.ended = none ∧
    f.subscription.accepting = false ∧ f.ledger.delivered = f.ledger.published
  emptied : f.subscription.receiver = false → f.subscription.ended = none →
    f.subscription.normalEnd = true ∨ f.ledger.dropped = true
  silent : f.ledger.silent = true → f.subscription.normalEnd = true
  sticky : f.ledger.answers.Pairwise fun earlier later =>
    ∀ reason, earlier = .error reason → later = .error reason
  failures : ∀ reason, .error reason ∈ f.ledger.answers → f.subscription.ended = some reason
  reports : ∀ reason ∈ f.ledger.reports, f.subscription.ended = some reason

namespace FrameBus

open NativeFrameSubscription

variable {f : Followed}

theorem sound_new : Sound ⟨.new, .new⟩ := by
  constructor <;> simp [NativeFrameSubscription.new, Ledger.new, Ledger.delivered]

theorem sound_honest (h : Sound f) (hreports : f.ledger.reports.length ≤ 1) :
    HonestSubscription f := by
  have hnormal : f.subscription.normalEnd = true → f.ledger.cut = true ∧ f.ledger.cause = none ∧
      f.ledger.delivered = f.ledger.published := by
    intro hend
    obtain ⟨hended, haccepting, hall⟩ := h.normal hend
    exact ⟨h.cut (h.shut haccepting hended) hended, h.cause ▸ hended, hall⟩
  refine ⟨h.delivers, ?_, h.sticky, h.cause, ?_, ?_, hreports⟩
  · rintro (hend | hsilent)
    · exact hnormal hend
    · exact hnormal (h.silent hsilent)
  · intro reason hmem
    rw [← h.cause]
    exact h.failures reason hmem
  · intro reason hmem
    rw [← h.cause]
    exact h.reports reason hmem

theorem offer_shut (h : Sound f) (hshut : f.subscription.accepting = false)
    (frame : NativeVideoFrame) : offer frame f = f := by
  have hrecord : ¬(f.ledger.closed = false ∧ f.ledger.cause = none) := by
    rintro ⟨hclosed, hcause⟩
    rw [h.shut hshut (h.cause.trans hcause)] at hclosed
    exact nomatch hclosed
  rw [offer, Ledger.offer, if_neg hrecord]

theorem sound_dropSender (h : Sound f) (hshut : f.subscription.accepting = false) :
    Sound (dropSender f) := by
  refine ⟨h.cause, ?_, h.shut, h.cut, h.queue, h.delivers, h.normal, h.emptied, h.silent,
    h.sticky, h.failures, h.reports⟩
  intro haccepting
  exact nomatch hshut.symm.trans haccepting

theorem sound_close (h : Sound f) : Sound (close f) := by
  refine ⟨h.cause, ?_, fun _ _ => rfl, ?_, h.queue, h.delivers, ?_, h.emptied, h.silent,
    h.sticky, h.failures, h.reports⟩
  · intro haccepting
    exact nomatch haccepting
  · intro _ hended
    have hcause : f.ledger.cause = none := h.cause ▸ hended
    simp [close, Ledger.close, hcause]
  · intro hend
    exact ⟨(h.normal hend).1, rfl, (h.normal hend).2.2⟩

theorem sound_terminate (h : Sound f) (reason : SubscriptionEnd) :
    Sound (terminate reason f) := by
  unfold terminate NativeFrameSubscription.terminate
  split
  · rename_i haccepting
    obtain ⟨hended, hreceiver, hsender, hnormal, hclosed, hdropped⟩ := h.accepting haccepting
    have hcause : f.ledger.cause = none := h.cause ▸ hended
    refine ⟨?_, ?_, ?_, ?_, ?_, h.delivers, ?_, ?_, h.silent, h.sticky, ?_, ?_⟩
    · simp [Ledger.observe, setEnd, hended, hcause]
    · intro hopen
      exact nomatch hopen
    · intro _ hnone
      simp [setEnd, hended] at hnone
    · intro _ hnone
      simp [setEnd, hended] at hnone
    · intro _ hnone
      simp [setEnd, hended] at hnone
    · intro hend
      exact nomatch hnormal.symm.trans hend
    · intro _ hnone
      simp [setEnd, hended] at hnone
    · intro found hmem
      exact nomatch hended.symm.trans (h.failures found hmem)
    · intro found hmem
      exact nomatch hended.symm.trans (h.reports found hmem)
  · have hobserve : f.ledger.observe f.subscription = f.ledger := by
      simp [Ledger.observe, h.cause]
    dsimp only
    rw [hobserve]
    exact h

theorem terminate_shut (reason : SubscriptionEnd) (f : Followed) :
    (terminate reason f).subscription.accepting = false := by
  unfold terminate NativeFrameSubscription.terminate
  split
  · rfl
  · rename_i hshut
    simpa using hshut

theorem sound_dropSubscription (h : Sound f) : Sound (dropSubscription f) := by
  unfold dropSubscription
  split
  · exact h
  · have hterminate := sound_terminate h .cancelled
    have hshut := terminate_shut .cancelled f
    refine ⟨hterminate.cause, ?_, hterminate.shut, hterminate.cut, hterminate.queue,
      hterminate.delivers, hterminate.normal, fun _ _ => .inr rfl, hterminate.silent,
      hterminate.sticky, hterminate.failures, hterminate.reports⟩
    intro haccepting
    exact nomatch hshut.symm.trans haccepting

theorem sound_release (h : Sound f) : Sound (release f) := by
  unfold release
  split
  · rename_i hdropped
    refine ⟨h.cause, ?_, h.shut, h.cut, ?_, h.delivers, h.normal, fun _ _ => .inr hdropped,
      h.silent, h.sticky, h.failures, h.reports⟩
    · intro haccepting
      exact nomatch hdropped.symm.trans (h.accepting haccepting).2.2.2.2.2
    · intro hreceiver
      exact nomatch hreceiver
  · exact h

/-! ### Publishing -/

theorem ledger_eta (l : Ledger) (s : NativeFrameSubscription) (h : s.ended = l.cause) :
    l.observe s = l := by
  simp [Ledger.observe, h]

theorem publishAt_open {s : NativeFrameSubscription} (hended : s.ended = none)
    (haccepting : s.accepting = true) (hreceiver : s.receiver = true)
    (frame : NativeVideoFrame) (now : Nat) : s.publishAt frame now =
      if s.queue.length < orderedCapacity then
        (.published, { s with queue := s.queue ++ [⟨frame, now⟩] })
      else
        (.ended (.queueFull frame.identity),
          { s.setEnd (.queueFull frame.identity) with accepting := false }) := by
  obtain ⟨queue, sender, receiver, ended, accepting, normalEnd⟩ := s
  obtain rfl : ended = none := hended
  obtain rfl : accepting = true := haccepting
  obtain rfl : receiver = true := hreceiver
  rfl

theorem sound_publish (h : Sound f) (frame : NativeVideoFrame) (now : Nat) :
    Sound (publishTo frame now (offer frame f)).2 := by
  cases haccepting : f.subscription.accepting with
  | false =>
      rw [offer_shut h haccepting]
      unfold publishTo publishAt
      cases hended : f.subscription.ended with
      | some reason =>
          dsimp only
          have hcause : f.ledger.cause = some reason := h.cause ▸ hended
          refine ⟨?_, ?_, ?_, ?_, ?_, h.delivers, ?_, ?_, h.silent, h.sticky, ?_, ?_⟩
          · simp [Ledger.observe, Ledger.report, hcause]
          · intro hopen
            exact nomatch hopen
          · intro _ hnone
            exact nomatch hnone
          · intro _ hnone
            exact nomatch hnone
          · intro _ hnone
            exact nomatch hnone
          · intro hend
            exact nomatch hended.symm.trans (h.normal hend).1
          · intro _ hnone
            exact nomatch hnone
          · intro found hmem
            exact hended.symm.trans (h.failures found hmem)
          · intro found hmem
            obtain hold | hnew := List.mem_append.mp hmem
            · exact hended.symm.trans (h.reports found hold)
            · rw [List.mem_singleton.mp hnew]
      | none =>
          dsimp only
          rw [if_pos haccepting]
          dsimp only [Ledger.report]
          rw [ledger_eta _ _ h.cause]
          exact h
  | true =>
      obtain ⟨hended, hreceiver, hsender, hnormal, hclosed, hdropped⟩ := h.accepting haccepting
      have hcause : f.ledger.cause = none := h.cause ▸ hended
      have hoffer : f.ledger.offer frame =
          { f.ledger with published := f.ledger.published ++ [frame] } := by
        rw [Ledger.offer, if_pos ⟨hclosed, hcause⟩]
      have hqueue := h.queue hreceiver hended
      unfold publishTo offer
      rw [hoffer, publishAt_open hended haccepting hreceiver]
      split
      · -- The frame is queued.
        refine ⟨?_, ?_, ?_, ?_, ?_, ?_, ?_, ?_, h.silent, h.sticky, ?_, ?_⟩
        · simp [Ledger.observe, Ledger.report, hcause, hended]
        · intro _
          exact ⟨hended, hreceiver, hsender, hnormal, hclosed, hdropped⟩
        · intro hshut
          exact nomatch haccepting.symm.trans hshut
        · intro hclosed'
          exact nomatch hclosed.symm.trans hclosed'
        · intro _ _
          change f.ledger.delivered ++ (f.subscription.queue ++ [QueuedFrame.mk frame now]).map
            QueuedFrame.frame = f.ledger.published ++ [frame]
          rw [List.map_append, ← List.append_assoc, hqueue]
          rfl
        · exact h.delivers.trans (List.prefix_append _ _)
        · intro hend
          exact nomatch hnormal.symm.trans hend
        · intro hempty
          exact nomatch hreceiver.symm.trans hempty
        · intro found hmem
          exact nomatch hended.symm.trans (h.failures found hmem)
        · intro found hmem
          exact nomatch hended.symm.trans (h.reports found hmem)
      · -- The queue is full.
        refine ⟨?_, ?_, ?_, ?_, ?_, ?_, ?_, ?_, h.silent, h.sticky, ?_, ?_⟩
        · simp [Ledger.observe, Ledger.report, setEnd, hcause, hended]
        · intro hopen
          exact nomatch hopen
        · intro _ hnone
          simp [setEnd, hended] at hnone
        · intro _ hnone
          simp [setEnd, hended] at hnone
        · intro _ hnone
          simp [setEnd, hended] at hnone
        · exact h.delivers.trans (List.prefix_append _ _)
        · intro hend
          exact nomatch hnormal.symm.trans hend
        · intro _ hnone
          simp [setEnd, hended] at hnone
        · intro found hmem
          exact nomatch hended.symm.trans (h.failures found hmem)
        · intro found hmem
          obtain hold | hnew := List.mem_append.mp hmem
          · exact nomatch hended.symm.trans (h.reports found hold)
          · rw [List.mem_singleton.mp hnew]
            simp [setEnd, hended]

/-! ### Polling -/

theorem delivered_answer (l : Ledger) (a : Answer) :
    (l.answer a).delivered = l.delivered ++ a.toOption.join.toList := by
  unfold Ledger.answer Ledger.delivered
  rw [List.filterMap_append]
  cases h : a.toOption.join <;> simp [h]

theorem sticky_append {answers : List Answer} {a : Answer}
    (h : answers.Pairwise fun earlier later =>
      ∀ reason, earlier = .error reason → later = .error reason)
    (hlast : ∀ reason, .error reason ∈ answers → a = .error reason) :
    (answers ++ [a]).Pairwise fun earlier later =>
      ∀ reason, earlier = .error reason → later = .error reason := by
  rw [List.pairwise_append]
  refine ⟨h, List.pairwise_singleton _ _, ?_⟩
  intro earlier hearlier later hlater reason hreason
  rw [List.mem_singleton.mp hlater]
  exact hlast reason (hreason ▸ hearlier)

theorem sound_poll_none (h : Sound f) (hended : f.subscription.ended = none)
    {s : NativeFrameSubscription} (hs : s.ended = none)
    (haccepting : s.accepting = f.subscription.accepting)
    (hsender : s.sender = f.subscription.sender)
    (hqueue : s.queue = f.subscription.queue)
    (hend : s.normalEnd = true → s.accepting = false ∧ f.ledger.delivered = f.ledger.published)
    (hopen : s.accepting = true → s.receiver = true ∧ s.normalEnd = false)
    (hreceiver : s.receiver = true → f.subscription.receiver = true)
    (hempty : s.receiver = false → s.normalEnd = true)
    (hclosed : f.ledger.closed = true → s.normalEnd = true)
    (hsilent : f.subscription.normalEnd = true → s.normalEnd = true) :
    Sound ⟨s, (f.ledger.answer (.ok none)).observe s⟩ := by
  have hcause : f.ledger.cause = none := h.cause ▸ hended
  have hdelivered : ((f.ledger.answer (.ok none)).observe s).delivered = f.ledger.delivered := by
    change (f.ledger.answer (.ok none)).delivered = _
    rw [delivered_answer]
    exact List.append_nil _
  have hnoError : ∀ reason, .error reason ∈ f.ledger.answers → False := by
    intro reason hmem
    exact nomatch hended.symm.trans (h.failures reason hmem)
  refine ⟨?_, ?_, ?_, ?_, ?_, ?_, ?_, fun hnone _ => .inl (hempty hnone), ?_, ?_, ?_, ?_⟩
  · simp [Ledger.observe, Ledger.answer, hcause, hs]
  · intro hopen'
    have hfopen := haccepting.symm.trans hopen'
    obtain ⟨-, -, hfsender, -, hfclosed, hdropped⟩ := h.accepting hfopen
    exact ⟨hs, (hopen hopen').1, hsender.trans hfsender, (hopen hopen').2, hfclosed, hdropped⟩
  · intro hshut _
    exact h.shut (haccepting.symm.trans hshut) hended
  · intro hclosed' _
    exact h.cut hclosed' hended
  · intro hreceiver' _
    rw [hdelivered, hqueue]
    exact h.queue (hreceiver hreceiver') hended
  · rw [hdelivered]
    exact h.delivers
  · intro hend'
    rw [hdelivered]
    exact ⟨hs, hend hend'⟩
  · intro hsilent'
    simp only [Ledger.observe, Ledger.answer, Bool.or_eq_true, Bool.and_eq_true] at hsilent'
    obtain hold | hnew := hsilent'
    · exact hsilent (h.silent hold)
    · exact hclosed hnew.1
  · exact sticky_append h.sticky fun reason hmem => (hnoError reason hmem).elim
  · intro reason hmem
    obtain hold | hnew := List.mem_append.mp hmem
    · exact (hnoError reason hold).elim
    · exact nomatch List.mem_singleton.mp hnew
  · intro reason hmem
    exact nomatch hended.symm.trans (h.reports reason hmem)

theorem sound_poll_error (h : Sound f) {s : NativeFrameSubscription} {reason : SubscriptionEnd}
    (hs : s.ended = some reason) (hshut : s.accepting = false)
    (hend : s.normalEnd = false)
    (hended : f.subscription.ended = none ∨ f.subscription.ended = some reason)
    (hnotEnded : f.subscription.normalEnd = false) :
    Sound ⟨s, (f.ledger.answer (.error reason)).observe s⟩ := by
  have hdelivered : ((f.ledger.answer (.error reason)).observe s).delivered =
      f.ledger.delivered := by
    change (f.ledger.answer (.error reason)).delivered = _
    rw [delivered_answer]
    exact List.append_nil _
  have hsame : ∀ found, .error found ∈ f.ledger.answers → found = reason := by
    intro found hmem
    have hfound := h.failures found hmem
    obtain hnone | hsome := hended
    · exact nomatch hnone.symm.trans hfound
    · exact Option.some.inj (hfound.symm.trans hsome)
  refine ⟨?_, ?_, ?_, ?_, ?_, ?_, ?_, ?_, ?_, ?_, ?_, ?_⟩
  · have hcause : f.ledger.cause = none ∨ f.ledger.cause = some reason := h.cause ▸ hended
    obtain hcause | hcause := hcause <;> simp [Ledger.observe, Ledger.answer, hcause, hs]
  · intro hopen
    exact nomatch hshut.symm.trans hopen
  · intro _ hnone
    exact nomatch hs.symm.trans hnone
  · intro _ hnone
    exact nomatch hs.symm.trans hnone
  · intro _ hnone
    exact nomatch hs.symm.trans hnone
  · rw [hdelivered]
    exact h.delivers
  · intro hend'
    exact nomatch hend.symm.trans hend'
  · intro _ hnone
    exact nomatch hs.symm.trans hnone
  · intro hsilent
    simp only [Ledger.observe, Ledger.answer, Bool.or_eq_true, Bool.and_eq_true] at hsilent
    obtain hold | hnew := hsilent
    · exact nomatch hnotEnded.symm.trans (h.silent hold)
    · exact absurd hnew.2 (by simp [Except.toOption])
  · exact sticky_append h.sticky fun found hmem => by rw [hsame found hmem]
  · intro found hmem
    obtain hold | hnew := List.mem_append.mp hmem
    · rw [hsame found hold]
      exact hs
    · rw [Except.error.inj (List.mem_singleton.mp hnew)]
      exact hs
  · intro found hmem
    have hfound := h.reports found hmem
    obtain hnone | hsome := hended
    · exact nomatch hnone.symm.trans hfound
    · exact hs.trans (hsome.symm.trans hfound)

theorem sound_poll_frame (h : Sound f) (hended : f.subscription.ended = none)
    (hreceiver : f.subscription.receiver = true) {queued : QueuedFrame} {rest : List QueuedFrame}
    (hqueue : f.subscription.queue = queued :: rest)
    (hnormal : f.subscription.normalEnd = false) :
    Sound ⟨{ f.subscription with queue := rest },
      (f.ledger.answer (.ok (some queued.frame))).observe
        { f.subscription with queue := rest }⟩ := by
  have hcause : f.ledger.cause = none := h.cause ▸ hended
  have hall := h.queue hreceiver hended
  rw [hqueue, List.map_cons] at hall
  have hdelivered : ((f.ledger.answer (.ok (some queued.frame))).observe
      { f.subscription with queue := rest }).delivered = f.ledger.delivered ++ [queued.frame] :=
    delivered_answer f.ledger (.ok (some queued.frame))
  have hnext : f.ledger.delivered ++ [queued.frame] ++ rest.map QueuedFrame.frame =
      f.ledger.published := by
    rw [← hall, List.append_assoc]
    rfl
  refine ⟨?_, ?_, h.shut, h.cut, ?_, ?_, ?_, ?_, ?_, ?_, ?_, h.reports⟩
  · simp [Ledger.observe, Ledger.answer, hcause, hended]
  · intro haccepting
    exact h.accepting haccepting
  · intro _ _
    rw [hdelivered]
    exact hnext
  · rw [hdelivered]
    change _ <+: f.ledger.published
    rw [← hnext]
    exact List.prefix_append _ _
  · intro hend
    exact nomatch hnormal.symm.trans hend
  · intro hempty
    exact nomatch hreceiver.symm.trans hempty
  · intro hsilent
    simp only [Ledger.observe, Ledger.answer, Bool.or_eq_true, Bool.and_eq_true] at hsilent
    obtain hold | hnew := hsilent
    · exact h.silent hold
    · exact absurd hnew.2 (by simp [Except.toOption])
  · apply sticky_append h.sticky
    intro reason hmem
    exact nomatch hended.symm.trans (h.failures reason hmem)
  · intro reason hmem
    obtain hold | hnew := List.mem_append.mp hmem
    · exact h.failures reason hold
    · exact nomatch List.mem_singleton.mp hnew

theorem sound_tryNext (h : Sound f) (now : Nat) : Sound (tryNext now f) := by
  unfold tryNext
  split
  · exact h
  rename_i hdropped
  obtain ⟨⟨queue, sender, receiver, ended, accepting, normalEnd⟩, ledger⟩ := f
  cases normalEnd with
  | true =>
      obtain ⟨hended, hshut, hall⟩ := h.normal rfl
      refine sound_poll_none h hended hended rfl rfl rfl (fun _ => ⟨hshut, hall⟩) ?_ id ?_ ?_ id
      · intro hopen
        exact nomatch hshut.symm.trans hopen
      · exact fun _ => rfl
      · exact fun _ => rfl
  | false =>
  cases ended with
  | some reason => exact sound_poll_error h rfl rfl rfl (.inr rfl) rfl
  | none =>
  cases receiver with
  | false =>
      obtain hend | hgone := h.emptied rfl rfl
      · exact nomatch hend
      · exact absurd hgone hdropped
  | true =>
  cases queue with
  | cons queued rest =>
      dsimp only [tryNextAt]
      rw [if_neg Bool.false_ne_true, if_neg (by simp)]
      split
      · exact sound_poll_frame h rfl rfl rfl rfl
      · exact sound_poll_error h rfl rfl rfl (.inl rfl) rfl
  | nil =>
  have hempty : ledger.delivered = ledger.published := by
    have hall := h.queue rfl rfl
    rwa [List.map_nil, List.append_nil] at hall
  cases accepting with
  | true =>
      -- Nothing is queued yet.
      obtain ⟨-, -, hsender, -, hclosed, -⟩ := h.accepting rfl
      obtain rfl : sender = true := hsender
      refine sound_poll_none h rfl rfl rfl rfl rfl ?_ (fun _ => ⟨rfl, rfl⟩) id ?_ ?_ id
      · intro hend
        exact nomatch hend
      · intro hnone
        exact nomatch hnone
      · intro hclosed'
        exact nomatch hclosed.symm.trans hclosed'
  | false =>
      have hpoll : Sound ⟨⟨[], sender, false, none, false, true⟩,
          (ledger.answer (.ok none)).observe ⟨[], sender, false, none, false, true⟩⟩ := by
        refine sound_poll_none h rfl rfl rfl rfl rfl (fun _ => ⟨rfl, hempty⟩) ?_ ?_ (fun _ => rfl)
          (fun _ => rfl) (fun _ => rfl)
        · intro hopen
          exact nomatch hopen
        · intro hheld
          exact nomatch hheld
      cases sender <;> exact hpoll

/-! ## The bus -/

/-- What the owner keeps for the subscription with number `i`. -/
structure Kept (x : BusState) (i : Nat) (f : Followed) : Prop where
  sound : Sound f
  fed : f.subscription.accepting = true → x.ordered = some i ∧ x.leaving = none
  reportedOnce : f.ledger.reports.length ≤ 1
  unreported : x.ordered = some i → x.leaving = none → f.ledger.reports = []

structure BusInvariant (x : BusState) : Prop where
  kept : ∀ (i : Nat) (f : Followed), x.subscriptions[i]? = some f → Kept x i f
  latest : x.latest = x.sinceClear.getLast?

theorem busInvariant_honest {x : BusState} (h : BusInvariant x) : HonestBus x := by
  refine ⟨?_, ?_, h.latest⟩
  · intro f hmem
    obtain ⟨i, hi⟩ := List.mem_iff_getElem?.mp hmem
    exact sound_honest (h.kept i f hi).sound (h.kept i f hi).reportedOnce
  · intro i j f g hf hg hfopen hgopen
    have hi := ((h.kept i f hf).fed hfopen).1
    have hj := ((h.kept j g hg).fed hgopen).1
    exact Option.some.inj (hi.symm.trans hj)

theorem getElem?_onSubscription {x : BusState} {i j : Nat} {g : Followed → Followed}
    {f' : Followed} (h : (onSubscription x i g).subscriptions[j]? = some f') :
    ∃ f, x.subscriptions[j]? = some f ∧ (j = i ∧ f' = g f ∨ j ≠ i ∧ f' = f) := by
  simp only [FrameBus.onSubscription, List.getElem?_modify] at h
  obtain ⟨f, hf, hentry⟩ := Option.map_eq_some_iff.mp h
  refine ⟨f, hf, ?_⟩
  by_cases hij : i = j
  · rw [if_pos hij] at hentry
    exact .inl ⟨hij.symm, hentry.symm⟩
  · rw [if_neg hij] at hentry
    exact .inr ⟨fun hji => hij hji.symm, hentry.symm⟩

theorem busInvariant_onSubscription {x : BusState} (h : BusInvariant x) {g : Followed → Followed}
    (hsound : ∀ f, Sound f → Sound (g f))
    (hopen : ∀ f, (g f).subscription.accepting = true → f.subscription.accepting = true)
    (hreports : ∀ f, (g f).ledger.reports = f.ledger.reports) (i : Nat) :
    BusInvariant (onSubscription x i g) := by
  refine ⟨?_, h.latest⟩
  intro j f' hf'
  obtain ⟨f, hf, ⟨-, rfl⟩ | ⟨-, rfl⟩⟩ := getElem?_onSubscription hf'
  · have hkept := h.kept j f hf
    refine ⟨hsound f hkept.sound, fun haccepting => hkept.fed (hopen f haccepting), ?_, ?_⟩
    · rw [hreports]
      exact hkept.reportedOnce
    · rw [hreports]
      exact hkept.unreported
  · have hkept := h.kept j f' hf
    exact ⟨hkept.sound, hkept.fed, hkept.reportedOnce, hkept.unreported⟩

theorem tryNextAt_shut {s : NativeFrameSubscription} (hshut : s.accepting = false) (now : Nat) :
    (s.tryNextAt now).2.accepting = false := by
  obtain ⟨queue, sender, receiver, ended, accepting, normalEnd⟩ := s
  obtain rfl : accepting = false := hshut
  unfold tryNextAt
  cases ended with
  | some reason => split <;> rfl
  | none =>
      cases queue with
      | cons queued rest =>
          dsimp only
          split_ifs <;> rfl
      | nil =>
          dsimp only
          split_ifs <;> rfl

theorem tryNext_accepting (now : Nat) (f : Followed)
    (h : (tryNext now f).subscription.accepting = true) : f.subscription.accepting = true := by
  unfold tryNext at h
  split at h
  · exact h
  · cases haccepting : f.subscription.accepting with
    | true => rfl
    | false => exact nomatch (tryNextAt_shut haccepting now).symm.trans h

theorem tryNext_reports (now : Nat) (f : Followed) :
    (tryNext now f).ledger.reports = f.ledger.reports := by
  unfold tryNext
  split <;> rfl

theorem dropSubscription_accepting (f : Followed)
    (h : (dropSubscription f).subscription.accepting = true) :
    f.subscription.accepting = true := by
  unfold dropSubscription at h
  split at h
  · exact h
  · exact nomatch (terminate_shut .cancelled f).symm.trans h

theorem dropSubscription_reports (f : Followed) :
    (dropSubscription f).ledger.reports = f.ledger.reports := by
  unfold dropSubscription
  split <;> rfl

theorem release_accepting (f : Followed) (h : (release f).subscription.accepting = true) :
    f.subscription.accepting = true := by
  unfold release at h
  split at h <;> exact h

theorem release_reports (f : Followed) : (release f).ledger.reports = f.ledger.reports := by
  unfold release
  split <;> rfl

/-! ### Steps of the owner -/

variable {x : BusState}

theorem kept_congr {y : BusState} {i : Nat} (h : Kept x i f) (hordered : y.ordered = x.ordered)
    (hleaving : y.leaving = x.leaving) : Kept y i f := by
  refine ⟨h.sound, ?_, h.reportedOnce, ?_⟩ <;> rw [hordered, hleaving]
  · exact h.fed
  · exact h.unreported

theorem busInvariant_leave (h : BusInvariant x) : BusInvariant (leave x) := by
  unfold leave
  cases hleaving : x.leaving with
  | none => exact h
  | some i =>
      refine ⟨?_, h.latest⟩
      have hshut : ∀ (j : Nat) (f : Followed), x.subscriptions[j]? = some f →
          f.subscription.accepting = false := by
        intro j f hf
        cases haccepting : f.subscription.accepting with
        | false => rfl
        | true => exact nomatch hleaving.symm.trans ((h.kept j f hf).fed haccepting).2
      intro j f' hf'
      obtain ⟨f, hf, ⟨-, rfl⟩ | ⟨-, rfl⟩⟩ := getElem?_onSubscription hf'
      · have hkept := h.kept j f hf
        have hopen := hshut j f hf
        exact ⟨sound_dropSender hkept.sound hopen,
          (fun haccepting => nomatch hopen.symm.trans haccepting), hkept.reportedOnce,
          (fun hnone => nomatch hnone)⟩
      · have hkept := h.kept j f' hf
        have hopen := hshut j f' hf
        exact ⟨hkept.sound, (fun haccepting => nomatch hopen.symm.trans haccepting),
          hkept.reportedOnce, (fun hnone => nomatch hnone)⟩

theorem busInvariant_endOrdered (h : BusInvariant x) (reason : SubscriptionEnd) :
    BusInvariant (endOrdered x reason) := by
  unfold endOrdered
  cases hordered : x.ordered with
  | none => exact h
  | some i =>
      refine ⟨?_, h.latest⟩
      intro j f' hf'
      obtain ⟨f, hf, ⟨-, rfl⟩ | ⟨hother, rfl⟩⟩ := getElem?_onSubscription hf'
      · have hkept := h.kept j f hf
        refine ⟨sound_terminate hkept.sound reason, ?_, hkept.reportedOnce,
          (fun hnone => nomatch hnone)⟩
        intro haccepting
        exact nomatch (terminate_shut reason f).symm.trans haccepting
      · have hkept := h.kept j f' hf
        refine ⟨hkept.sound, ?_, hkept.reportedOnce, (fun hnone => nomatch hnone)⟩
        intro haccepting
        have hfed := Option.some.inj (hordered.symm.trans (hkept.fed haccepting).1)
        exact absurd hfed.symm hother

theorem busInvariant_clear (h : BusInvariant x) : BusInvariant (clear x) := by
  apply busInvariant_endOrdered
  exact ⟨fun i f hf => kept_congr (h.kept i f hf) rfl rfl, rfl⟩

theorem shut_of_inactive (h : BusInvariant x) (hinactive : ¬x.ordered.any (isActive x) = true)
    {i : Nat} (hf : x.subscriptions[i]? = some f) : f.subscription.accepting = false := by
  cases haccepting : f.subscription.accepting with
  | false => rfl
  | true =>
      have hkept := h.kept i f hf
      have hended := (hkept.sound.accepting haccepting).1
      refine absurd ?_ hinactive
      rw [(hkept.fed haccepting).1, Option.any_some, isActive, hf, Option.any_some]
      simp [hended, haccepting]

/-- A subscription that is over and fed no more. -/
structure Parked (f : Followed) : Prop where
  sound : Sound f
  shut : f.subscription.accepting = false
  reportedOnce : f.ledger.reports.length ≤ 1

theorem parked_dropSender (h : Parked f) : Parked (dropSender f) :=
  ⟨sound_dropSender h.sound h.shut, h.shut, h.reportedOnce⟩

theorem busInvariant_append (hlatest : x.latest = x.sinceClear.getLast?)
    (hidle : x.leaving = none)
    (hparked : ∀ (i : Nat) (f : Followed), x.subscriptions[i]? = some f → Parked f) :
    BusInvariant { x with
      ordered := some x.subscriptions.length
      subscriptions := x.subscriptions ++ [⟨.new, .new⟩] } := by
  refine ⟨?_, hlatest⟩
  intro i f hf
  change (x.subscriptions ++ [_])[i]? = some f at hf
  obtain hlt | heq | hgt := Nat.lt_trichotomy i x.subscriptions.length
  · rw [List.getElem?_append_left hlt] at hf
    have hold := hparked i f hf
    refine ⟨hold.sound, ?_, hold.reportedOnce, ?_⟩
    · intro haccepting
      exact nomatch hold.shut.symm.trans haccepting
    · intro hordered
      have hlength : x.subscriptions.length = i := Option.some.inj hordered
      omega
  · subst heq
    rw [List.getElem?_append_right (Nat.le_refl _), Nat.sub_self] at hf
    obtain rfl := Option.some.inj hf
    exact ⟨sound_new, fun _ => ⟨rfl, hidle⟩, Nat.zero_le 1, fun _ _ => rfl⟩
  · rw [List.getElem?_eq_none (by simp; omega)] at hf
    exact nomatch hf

theorem busInvariant_subscribe (h : BusInvariant x) (hidle : x.leaving = none) :
    BusInvariant (subscribeOrdered x) := by
  unfold subscribeOrdered
  split
  · exact h
  rename_i hinactive
  have hparked : ∀ (i : Nat) (f : Followed), x.subscriptions[i]? = some f → Parked f := by
    intro i f hf
    have hkept := h.kept i f hf
    exact ⟨hkept.sound, shut_of_inactive h hinactive hf, hkept.reportedOnce⟩
  cases x.ordered with
  | none => exact busInvariant_append h.latest hidle hparked
  | some former =>
      refine @busInvariant_append (onSubscription x former dropSender) h.latest hidle ?_
      intro i f' hf'
      obtain ⟨f, hf, ⟨-, rfl⟩ | ⟨-, rfl⟩⟩ := getElem?_onSubscription hf'
      · exact parked_dropSender (hparked i f hf)
      · exact hparked i f' hf

theorem publishAt_shut {s : NativeFrameSubscription} (hshut : s.accepting = false)
    (frame : NativeVideoFrame) (now : Nat) : (s.publishAt frame now).1 ≠ .published ∧
      (s.publishAt frame now).2.accepting = false := by
  unfold publishAt
  cases s.ended with
  | some reason => exact ⟨(fun h => nomatch h), rfl⟩
  | none =>
      dsimp only
      rw [if_pos hshut]
      exact ⟨(fun h => nomatch h), hshut⟩

theorem publishAt_reports (l : Ledger) (out : Publication) (hreports : l.reports = []) :
    (l.report out).reports.length ≤ 1 ∧ (out = .published → (l.report out).reports = []) := by
  cases out with
  | published => exact ⟨by simp [Ledger.report, hreports], fun _ => hreports⟩
  | detach => exact ⟨by simp [Ledger.report, hreports], fun h => nomatch h⟩
  | ended reason => exact ⟨by simp [Ledger.report, hreports], fun h => nomatch h⟩

theorem publishTo_accepting (h : Sound f) (frame : NativeVideoFrame) (now : Nat)
    (haccepting : (publishTo frame now (offer frame f)).2.subscription.accepting = true) :
    (publishTo frame now (offer frame f)).1 = .published := by
  change (f.subscription.publishAt frame now).2.accepting = true at haccepting
  change (f.subscription.publishAt frame now).1 = .published
  cases hopen : f.subscription.accepting with
  | false => exact nomatch (publishAt_shut hopen frame now).2.symm.trans haccepting
  | true =>
      obtain ⟨hended, hreceiver, -⟩ := h.accepting hopen
      rw [publishAt_open hended hopen hreceiver] at haccepting ⊢
      split at haccepting
      · rename_i hroom
        rw [if_pos hroom]
      · exact nomatch haccepting

theorem kept_parked {i : Nat} (h : Parked f) (hother : x.ordered ≠ some i) : Kept x i f :=
  ⟨h.sound, (fun haccepting => nomatch h.shut.symm.trans haccepting), h.reportedOnce,
    fun hordered => absurd hordered hother⟩

theorem sound_publishLatest (h : BusInvariant x) (frame : NativeVideoFrame) {i : Nat}
    (hf : (publishLatest x frame).subscriptions[i]? = some f) :
    ∃ old, Kept x i old ∧ f = offer frame old := by
  change (x.subscriptions.map (offer frame))[i]? = some f at hf
  rw [List.getElem?_map] at hf
  obtain ⟨old, hold, heq⟩ := Option.map_eq_some_iff.mp hf
  exact ⟨old, h.kept i old hold, heq.symm⟩

theorem parked_publishLatest (h : BusInvariant x) (frame : NativeVideoFrame) {i : Nat}
    (hother : x.ordered ≠ some i) (hf : (publishLatest x frame).subscriptions[i]? = some f) :
    Parked f := by
  obtain ⟨old, hkept, rfl⟩ := sound_publishLatest h frame hf
  have hshut : old.subscription.accepting = false := by
    cases haccepting : old.subscription.accepting with
    | false => rfl
    | true => exact absurd (hkept.fed haccepting).1 hother
  rw [offer_shut hkept.sound hshut]
  exact ⟨hkept.sound, hshut, hkept.reportedOnce⟩

theorem busInvariant_publish (h : BusInvariant x) (hidle : x.leaving = none)
    (frame : NativeVideoFrame) (now : Nat) : BusInvariant (publish x frame now) := by
  have hlatest : (publishLatest x frame).latest = (publishLatest x frame).sinceClear.getLast? := by
    change some frame = (x.sinceClear ++ [frame]).getLast?
    rw [List.getLast?_concat]
  have hsame : (publishLatest x frame).ordered = x.ordered := rfl
  have hother := fun j g => @parked_publishLatest g x h frame j
  unfold publish publishOrdered
  cases hordered : (publishLatest x frame).ordered with
  | none =>
      refine ⟨?_, hlatest⟩
      intro j g hg
      have hnot : x.ordered ≠ some j := by simp [← hsame, hordered]
      exact kept_parked (hother j g hnot hg) hnot
  | some i =>
      have hne : ∀ j, j ≠ i → x.ordered ≠ some j := by
        intro j hj heq
        exact hj (Option.some.inj (heq.symm.trans (hsame.symm.trans hordered)))
      dsimp only
      cases hf : (publishLatest x frame).subscriptions[i]? with
      | none =>
          refine ⟨?_, hlatest⟩
          intro j g hg
          have hj : j ≠ i := by
            rintro rfl
            exact nomatch hf.symm.trans hg
          exact kept_parked (hother j g (hne j hj) hg) (hne j hj)
      | some f =>
          obtain ⟨old, hkept, rfl⟩ := sound_publishLatest h frame hf
          have hunreported : old.ledger.reports = [] :=
            hkept.unreported (hsame.symm.trans hordered) hidle
          have hreports := publishAt_reports (old.ledger.offer frame)
            (publishTo frame now (offer frame old)).1
            (by unfold Ledger.offer; split <;> exact hunreported)
          have haccepting := publishTo_accepting hkept.sound frame now
          refine ⟨?_, hlatest⟩
          intro j g hg
          obtain ⟨before, hbefore, ⟨rfl, rfl⟩ | ⟨hj, rfl⟩⟩ := getElem?_onSubscription hg
          · refine ⟨sound_publish hkept.sound frame now, ?_, hreports.1, ?_⟩
            · intro hopen
              refine ⟨hordered, ?_⟩
              simp [haccepting hopen]
            · intro _ hleaving
              apply hreports.2
              simpa using hleaving
          · exact kept_parked (hother j g (hne j hj) hbefore) (hne j hj)

theorem busInvariant_step (h : BusInvariant x) (step : BusStep) :
    BusInvariant (busStep x step) := by
  cases step with
  | subscribeOrdered =>
      dsimp only [busStep]
      split
      · rename_i hidle
        exact busInvariant_subscribe h hidle.2
      · exact h
  | publish frame now =>
      dsimp only [busStep]
      split
      · rename_i hidle
        exact busInvariant_publish h hidle.2 frame now
      · exact h
  | clear =>
      dsimp only [busStep]
      split
      · rename_i hidle
        exact busInvariant_clear h
      · exact h
  | resetOrderedSource =>
      dsimp only [busStep]
      split
      · rename_i hidle
        exact busInvariant_endOrdered h .reset
      · exact h
  | dropBus =>
      dsimp only [busStep]
      split
      · rename_i hidle
        have hended := busInvariant_endOrdered h .publisherStopped
        exact ⟨fun i f hf => kept_congr (hended.kept i f hf) rfl rfl, hended.latest⟩
      · exact h
  | leave => exact busInvariant_leave h
  | close i =>
      exact busInvariant_onSubscription h (fun _ => sound_close) (fun _ hopen => nomatch hopen)
        (fun _ => rfl) i
  | tryNext i now =>
      exact busInvariant_onSubscription h (fun _ hf => sound_tryNext hf now)
        (tryNext_accepting now) (tryNext_reports now) i
  | dropSubscription i =>
      exact busInvariant_onSubscription h (fun _ => sound_dropSubscription)
        dropSubscription_accepting dropSubscription_reports i
  | release i =>
      exact busInvariant_onSubscription h (fun _ => sound_release) release_accepting
        release_reports i

theorem busInvariant_new : BusInvariant FrameBus.new := by
  refine ⟨?_, rfl⟩
  intro i f hf
  exact nomatch hf

end FrameBus

end PicooCamera.FrameHub
