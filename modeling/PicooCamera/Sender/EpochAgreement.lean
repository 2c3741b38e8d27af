import PicooCamera.Library.History
import PicooCamera.Sender.TransactionIntegrity

/-!
# Epoch agreement with the Receiver

The Receiver ignores epochs below the one it has been told. `EpochInvariant` is
what a session keeps as long as no reconfiguration fails once its configuration
was sent, and none is announced while older media still waits in the queue.
-/

namespace PicooCamera.Sender

open PicooCamera.Library PicooCamera.Protocol PicooCamera.Packet PicooCamera.Session
open PicooCamera.Transport

/-! ## Epochs on the wire -/

/-- The epochs of a StreamConfig or of the media datagrams that were sent. -/
def SenderMark.wireEpochs : SenderMark → List Nat
  | .controlSent _ _ (.streamConfig wire) => [wire.streamEpoch]
  | .mediaSent _ batch => batch.datagrams.map streamEpochOf
  | _ => []

/-- Nothing is sent of an epoch below one that the Receiver was told before. -/
def EpochOrder (before : List SenderMark) (mark : SenderMark) (_ : List SenderMark) : Prop :=
  ∀ streamEpoch ∈ mark.wireEpochs, ∀ earlier ∈ told before, earlier ≤ streamEpoch

theorem epochOrder_snoc {marks : List SenderMark} {mark : SenderMark}
    (h : Splits EpochOrder marks) (hmark : EpochOrder marks mark []) :
    Splits EpochOrder (marks ++ [mark]) :=
  Splits.snoc hmark fun before x early hsplit => h before x early hsplit

theorem epochOrder_silent {marks : List SenderMark} {mark : SenderMark}
    (h : Splits EpochOrder marks) (hmark : mark.wireEpochs = []) :
    Splits EpochOrder (marks ++ [mark]) := by
  refine epochOrder_snoc h fun streamEpoch hepoch => ?_
  rw [hmark] at hepoch
  cases hepoch

theorem SenderMark.wireEpochs_of_minor {mark : SenderMark} (h : mark.isMinor) :
    mark.wireEpochs = [] := by
  unfold SenderMark.wireEpochs
  split
  · cases h
  · cases h
  · rfl

theorem tell_silent {mark : SenderMark} (h : mark.wireEpochs = [])
    (hconnected : ∀ generation, mark ≠ .connected generation) (epochs : List Nat) :
    tell epochs mark = epochs := by
  unfold tell
  split
  · exact absurd rfl (hconnected _)
  · cases h
  · rfl

theorem told_media (marks : List SenderMark) (session : SessionId)
    (batches : List VideoDatagramBatch) :
    told (marks ++ batches.map (.mediaSent session)) = told marks := by
  induction batches using List.reverseRecOn with
  | nil => rw [List.map_nil, List.append_nil]
  | append_singleton batches batch ih =>
      rw [List.map_append, ← List.append_assoc, List.map_singleton, told_snoc]
      exact ih

/-- All datagrams of the batch have its epoch. -/
def Uniform (batch : VideoDatagramBatch) : Prop :=
  ∀ datagram ∈ batch.datagrams, streamEpochOf datagram = batchEpoch batch

theorem Carries.uniform {batch : VideoDatagramBatch} {isKeyframe : Bool} {streamEpoch : Nat}
    (h : Carries batch isKeyframe streamEpoch) : Uniform batch :=
  fun datagram hdatagram => (h.epoch datagram hdatagram).trans h.batchEpoch.symm

theorem epochOrder_media {marks : List SenderMark} (session : SessionId)
    {batches : List VideoDatagramBatch} (h : Splits EpochOrder marks)
    (huniform : ∀ batch ∈ batches, Uniform batch)
    (hbatches : ∀ batch ∈ batches, ∀ earlier ∈ told marks, earlier ≤ batchEpoch batch) :
    Splits EpochOrder (marks ++ batches.map (.mediaSent session)) := by
  induction batches using List.reverseRecOn with
  | nil => rwa [List.map_nil, List.append_nil]
  | append_singleton batches batch ih =>
      rw [List.map_append, ← List.append_assoc, List.map_singleton]
      have hmem : batch ∈ batches ++ [batch] :=
        List.mem_append_right _ (List.mem_singleton_self batch)
      refine epochOrder_snoc (ih (fun b hb => huniform b (List.mem_append_left _ hb))
        fun b hb => hbatches b (List.mem_append_left _ hb)) ?_
      intro streamEpoch hepoch earlier hearlier
      obtain ⟨datagram, hdatagram, rfl⟩ := List.mem_map.mp hepoch
      rw [told_media] at hearlier
      rw [huniform batch hmem datagram hdatagram]
      exact hbatches batch hmem earlier hearlier

/-! ## The invariant -/

/-- A reconfiguration is not announced while older media waits, and does not fail once it was
announced. -/
def epochLimits : Limits where
  admits _ _ := True
  announces p streamEpoch := ∀ batch ∈ p.pending, streamEpoch ≤ batchEpoch batch
  rollsBack p transaction := transaction.directive.kind = .localRequest →
    transaction.directive.streamEpoch ∉ told p.marks

instance (p : EncoderPath) (facts : EncodedFacts) : Decidable (epochLimits.admits p facts) :=
  inferInstanceAs (Decidable True)

instance (p : EncoderPath) (streamEpoch : Nat) : Decidable (epochLimits.announces p streamEpoch) :=
  inferInstanceAs (Decidable (∀ batch ∈ p.pending, streamEpoch ≤ batchEpoch batch))

instance (p : EncoderPath) (transaction : EncoderTransaction) :
    Decidable (epochLimits.rollsBack p transaction) :=
  inferInstanceAs (Decidable (transaction.directive.kind = .localRequest →
    transaction.directive.streamEpoch ∉ told p.marks))

/-- The epoch of the transaction that is applying. -/
def EncoderState.Awaits (e : EncoderState) (streamEpoch : Nat) : Prop :=
  ∃ directive ∈ e.applyState.directive, directive.streamEpoch = streamEpoch

/-- What the Receiver of the connection was told. -/
structure Informed (p : EncoderPath) : Prop where
  queued : ∀ batch ∈ p.pending, p.encoder.currentStreamEpoch ≤ batchEpoch batch ∧
    ∀ streamEpoch ∈ told p.marks, streamEpoch ≤ batchEpoch batch
  bound : ∀ streamEpoch ∈ told p.marks,
    streamEpoch ≤ p.encoder.currentStreamEpoch ∨ p.encoder.Awaits streamEpoch
  reached : told p.marks ≠ [] → p.encoder.currentStreamEpoch ∈ told p.marks ∨
    ∃ streamEpoch ∈ told p.marks, p.encoder.Awaits streamEpoch

structure EpochInvariant (p : EncoderPath) : Prop where
  disconnected : p.connection = none → p.pending = []
  uniform : ∀ batch ∈ p.pending, Uniform batch
  ahead : ∀ directive ∈ p.encoder.applyState.directive,
    p.encoder.currentStreamEpoch ≤ directive.streamEpoch ∧
      (directive.kind = .recovery → directive.streamEpoch = p.encoder.currentStreamEpoch)
  informed : p.connection ≠ none → Informed p
  ordered : Splits EpochOrder p.marks

theorem not_awaits_of_idle {e : EncoderState} (h : e.applyState = .committed)
    (streamEpoch : Nat) : ¬e.Awaits streamEpoch := by
  rintro ⟨directive, hdirective, -⟩
  rw [h] at hdirective
  cases hdirective

theorem directive_of_applying {e : EncoderState} {transaction : EncoderTransaction}
    (h : e.applyState = .applying transaction) :
    e.applyState.directive = some transaction.directive := by
  rw [h]
  rfl

theorem directive_stage (e : EncoderState) (config : StreamConfigParams) :
    (e.stageStreamConfig config).applyState.directive = e.applyState.directive := by
  unfold EncoderState.stageStreamConfig
  cases e.applyState <;> rfl

theorem Informed.idle {p : EncoderPath} (h : Informed p)
    (hidle : p.encoder.applyState = .committed) :
    (∀ streamEpoch ∈ told p.marks, streamEpoch ≤ p.encoder.currentStreamEpoch) ∧
      (told p.marks ≠ [] → p.encoder.currentStreamEpoch ∈ told p.marks) := by
  refine ⟨?_, ?_⟩
  · intro streamEpoch hepoch
    exact (h.bound streamEpoch hepoch).resolve_right (not_awaits_of_idle hidle streamEpoch)
  · intro hne
    refine (h.reached hne).resolve_right ?_
    rintro ⟨streamEpoch, -, hawaits⟩
    exact not_awaits_of_idle hidle streamEpoch hawaits

theorem Informed.awaited {p : EncoderPath} (h : Informed p) {directive : EncoderDirective}
    (hdirective : p.encoder.applyState.directive = some directive)
    (hahead : p.encoder.currentStreamEpoch ≤ directive.streamEpoch) {streamEpoch : Nat}
    (hepoch : streamEpoch ∈ told p.marks) : streamEpoch ≤ directive.streamEpoch := by
  cases h.bound streamEpoch hepoch with
  | inl hle => exact hle.trans hahead
  | inr hawaits =>
      obtain ⟨other, hother, heq⟩ := hawaits
      rw [hdirective] at hother
      rw [← heq, Option.some.inj hother]

namespace EpochInvariant

variable {p q : EncoderPath}

theorem of_same (h : EpochInvariant p)
    (hcurrent : q.encoder.currentStreamEpoch = p.encoder.currentStreamEpoch)
    (hdirective : q.encoder.applyState.directive = p.encoder.applyState.directive)
    (hconnection : q.connection = p.connection) (hpending : ∀ batch ∈ q.pending, batch ∈ p.pending)
    (htold : told q.marks = told p.marks) (hordered : Splits EpochOrder q.marks) :
    EpochInvariant q where
  disconnected hnone := by
    have hempty := h.disconnected (hconnection ▸ hnone)
    rw [hempty] at hpending
    exact List.eq_nil_iff_forall_not_mem.mpr fun batch hbatch =>
      List.not_mem_nil (hpending batch hbatch)
  uniform batch hbatch := h.uniform batch (hpending batch hbatch)
  ahead := by
    rw [hdirective, hcurrent]
    exact h.ahead
  informed hconnected := by
    have hinformed := h.informed (hconnection ▸ hconnected)
    refine ⟨?_, ?_, ?_⟩
    · rw [hcurrent, htold]
      exact fun batch hbatch => hinformed.queued batch (hpending batch hbatch)
    · unfold EncoderState.Awaits
      rw [hcurrent, htold, hdirective]
      exact hinformed.bound
    · unfold EncoderState.Awaits
      rw [hcurrent, htold, hdirective]
      exact hinformed.reached
  ordered := hordered

theorem silent (h : EpochInvariant p) {mark : SenderMark} (hsilent : mark.wireEpochs = [])
    (hconnected : ∀ generation, mark ≠ .connected generation) : EpochInvariant (p.mark mark) := by
  refine h.of_same rfl rfl rfl (fun batch hbatch => hbatch) ?_
    (epochOrder_silent h.ordered hsilent)
  exact (told_snoc _ _).trans (tell_silent hsilent hconnected _)

theorem begin (h : EpochInvariant p) {directive : EncoderDirective} {now : Instant}
    (hidle : p.encoder.applyState = .committed)
    (hahead : p.encoder.currentStreamEpoch ≤ directive.streamEpoch)
    (hrecovery : directive.kind = .recovery →
      directive.streamEpoch = p.encoder.currentStreamEpoch) :
    EpochInvariant (p.begin directive now) where
  disconnected := h.disconnected
  uniform := h.uniform
  ahead other hother := by
    change other ∈ (p.encoder.applyState.begin directive p.encoder.rollback now).2.directive
      at hother
    rw [hidle] at hother
    rw [← Option.some.inj hother]
    exact ⟨hahead, hrecovery⟩
  informed hconnected := by
    have hinformed := h.informed hconnected
    have htold : told (p.begin directive now).marks = told p.marks := told_snoc _ _
    obtain ⟨hbound, hreached⟩ := hinformed.idle hidle
    refine ⟨?_, ?_, ?_⟩
    · rw [htold]
      exact hinformed.queued
    · rw [htold]
      exact fun streamEpoch hepoch => Or.inl (hbound streamEpoch hepoch)
    · rw [htold]
      exact fun hne => Or.inl (hreached hne)
  ordered := epochOrder_silent h.ordered rfl

theorem rollBack (h : EpochInvariant p) {transaction : EncoderTransaction}
    (happlying : p.encoder.applyState = .applying transaction)
    (hlimit : epochLimits.rollsBack p transaction) :
    EpochInvariant (p.rollBack transaction) where
  disconnected := h.disconnected
  uniform := h.uniform
  ahead directive hdirective := by cases hdirective
  informed hconnected := by
    have hinformed := h.informed hconnected
    have hdirective := directive_of_applying happlying
    have htold : told (p.rollBack transaction).marks = told p.marks := told_snoc _ _
    have hsettled : ∀ streamEpoch ∈ told p.marks, p.encoder.Awaits streamEpoch →
        streamEpoch = p.encoder.currentStreamEpoch := by
      rintro streamEpoch hepoch ⟨directive, hmem, heq⟩
      rw [hdirective] at hmem
      rw [← Option.some.inj hmem] at heq
      cases hkind : transaction.directive.kind with
      | localRequest =>
          rw [← heq] at hepoch
          exact absurd hepoch (hlimit hkind)
      | recovery =>
          rw [← heq]
          exact (h.ahead _ hdirective).2 hkind
    refine ⟨?_, ?_, ?_⟩
    · rw [htold]
      exact hinformed.queued
    · rw [htold]
      intro streamEpoch hepoch
      cases hinformed.bound streamEpoch hepoch with
      | inl hle => exact Or.inl hle
      | inr hawaits => exact Or.inl (hsettled streamEpoch hepoch hawaits).le
    · rw [htold]
      intro hne
      cases hinformed.reached hne with
      | inl hcurrent => exact Or.inl hcurrent
      | inr hawaited =>
          obtain ⟨streamEpoch, hepoch, hawaits⟩ := hawaited
          exact Or.inl (hsettled streamEpoch hepoch hawaits ▸ hepoch)
  ordered := epochOrder_silent h.ordered rfl

theorem tearDown (h : EpochInvariant p) : EpochInvariant p.aborted.released where
  disconnected _ := rfl
  uniform batch hbatch := by cases hbatch
  ahead directive hdirective := by
    have hidle : p.aborted.encoder.applyState.directive = none := by
      unfold EncoderPath.aborted
      cases hstate : p.encoder.applyState with
      | committed =>
          dsimp only
          rw [hstate]
          rfl
      | applying transaction => rfl
    rw [show p.aborted.released.encoder.applyState.directive = none from hidle] at hdirective
    cases hdirective
  informed hconnected := absurd rfl hconnected
  ordered := by
    change Splits EpochOrder p.aborted.marks
    unfold EncoderPath.aborted
    split
    · exact h.ordered
    · exact epochOrder_silent h.ordered rfl

theorem adopt (h : EpochInvariant p) (generation : Nat) (hfree : p.connection = none) :
    EpochInvariant (p.adopt generation) where
  disconnected hnone := by cases hnone
  uniform := h.uniform
  ahead := h.ahead
  informed _ := by
    have htold : told (p.adopt generation).marks = [] := told_snoc _ _
    refine ⟨?_, ?_, ?_⟩
    · intro batch hbatch
      rw [show (p.adopt generation).pending = [] from h.disconnected hfree] at hbatch
      cases hbatch
    · rw [htold]
      exact nofun
    · rw [htold]
      exact fun hne => absurd rfl hne
  ordered := epochOrder_silent h.ordered rfl

theorem publish (h : EpochInvariant p) {session : SessionId} {messageId : Nat}
    {config : StreamConfigParams} {wire : StreamConfig}
    (hconnected : p.connection = some session.value)
    (hidle : p.encoder.applyState = .committed)
    (hepoch : wire.streamEpoch = p.encoder.currentStreamEpoch) :
    EpochInvariant (p.publish session messageId config wire) := by
  have hinformed := h.informed (by rw [hconnected]; nofun)
  obtain ⟨hbound, -⟩ := hinformed.idle hidle
  have htold : told (p.publish session messageId config wire).marks =
      told p.marks ++ [wire.streamEpoch] := told_snoc _ _
  refine ⟨h.disconnected, h.uniform, h.ahead, fun _ => ⟨?_, ?_, ?_⟩, epochOrder_snoc h.ordered ?_⟩
  · intro batch hbatch
    obtain ⟨hcurrent, hqueued⟩ := hinformed.queued batch hbatch
    refine ⟨hcurrent, ?_⟩
    rw [htold]
    intro streamEpoch hmem
    cases List.mem_append.mp hmem with
    | inl hold => exact hqueued streamEpoch hold
    | inr hnew =>
        rw [List.mem_singleton.mp hnew, hepoch]
        exact hcurrent
  · rw [htold]
    intro streamEpoch hmem
    cases List.mem_append.mp hmem with
    | inl hold => exact Or.inl (hbound streamEpoch hold)
    | inr hnew => exact Or.inl ((List.mem_singleton.mp hnew).trans hepoch).le
  · rw [htold]
    exact fun _ => Or.inl (List.mem_append_right _ (List.mem_singleton.mpr hepoch.symm))
  · intro streamEpoch hmark earlier hearlier
    rw [List.mem_singleton.mp hmark, hepoch]
    exact hbound earlier hearlier

theorem announce (h : EpochInvariant p) {transaction : EncoderTransaction} {session : SessionId}
    {messageId : Nat} {wire : StreamConfig} (hconnected : p.connection = some session.value)
    (happlying : p.encoder.applyState = .applying transaction)
    (hepoch : wire.streamEpoch = transaction.directive.streamEpoch)
    (hlimit : epochLimits.announces p transaction.directive.streamEpoch) :
    EpochInvariant (p.mark (.controlSent session messageId (.streamConfig wire))) := by
  have hinformed := h.informed (by rw [hconnected]; nofun)
  have hdirective := directive_of_applying happlying
  have hahead := (h.ahead _ hdirective).1
  have htold : told (p.mark (.controlSent session messageId (.streamConfig wire))).marks =
      told p.marks ++ [wire.streamEpoch] := told_snoc _ _
  refine ⟨h.disconnected, h.uniform, h.ahead, fun _ => ⟨?_, ?_, ?_⟩, epochOrder_snoc h.ordered ?_⟩
  · intro batch hbatch
    obtain ⟨hcurrent, hqueued⟩ := hinformed.queued batch hbatch
    refine ⟨hcurrent, ?_⟩
    rw [htold]
    intro streamEpoch hmem
    cases List.mem_append.mp hmem with
    | inl hold => exact hqueued streamEpoch hold
    | inr hnew =>
        rw [List.mem_singleton.mp hnew, hepoch]
        exact hlimit batch hbatch
  · rw [htold]
    intro streamEpoch hmem
    cases List.mem_append.mp hmem with
    | inl hold => exact hinformed.bound streamEpoch hold
    | inr hnew => exact Or.inr ⟨_, hdirective, ((List.mem_singleton.mp hnew).trans hepoch).symm⟩
  · rw [htold]
    exact fun _ => Or.inr ⟨wire.streamEpoch, List.mem_append_right _ (List.mem_singleton_self _),
      _, hdirective, hepoch.symm⟩
  · intro streamEpoch hmark earlier hearlier
    rw [List.mem_singleton.mp hmark, hepoch]
    exact hinformed.awaited hdirective hahead hearlier

theorem push (h : EpochInvariant p) {batch : VideoDatagramBatch} (hconnected : p.connection ≠ none)
    (huniform : Uniform batch) (hcurrent : batchEpoch batch = p.encoder.currentStreamEpoch)
    (hbound : ∀ streamEpoch ∈ told p.marks, streamEpoch ≤ p.encoder.currentStreamEpoch) :
    EpochInvariant (p.push batch) where
  disconnected hnone := absurd hnone hconnected
  uniform other hother := by
    cases List.mem_append.mp hother with
    | inl hold => exact h.uniform other (mem_of_mem_pendingRoom hold)
    | inr hnew => exact List.mem_singleton.mp hnew ▸ huniform
  ahead := h.ahead
  informed _ := by
    have hinformed := h.informed hconnected
    refine ⟨?_, hinformed.bound, hinformed.reached⟩
    intro other hother
    cases List.mem_append.mp hother with
    | inl hold => exact hinformed.queued other (mem_of_mem_pendingRoom hold)
    | inr hnew =>
        rw [List.mem_singleton.mp hnew, hcurrent]
        exact ⟨le_rfl, hbound⟩
  ordered := h.ordered

theorem committedBy (h : EpochInvariant p) {transaction : EncoderTransaction}
    {facts : EncodedFacts} {config : StreamConfigParams}
    (happlying : p.encoder.applyState = .applying transaction)
    (hepoch : transaction.directive.streamEpoch = facts.streamEpoch)
    (hannounced : facts.streamEpoch ∈ told p.marks) :
    EpochInvariant (p.setEncoder (p.encoder.committedBy transaction facts config)) ∧
      (p.encoder.committedBy transaction facts config).currentStreamEpoch = facts.streamEpoch := by
  have hdirective := directive_of_applying happlying
  obtain ⟨hahead, hrecovery⟩ := h.ahead _ hdirective
  have hcurrent : (p.encoder.committedBy transaction facts config).currentStreamEpoch =
      facts.streamEpoch := by
    unfold EncoderState.committedBy
    split
    next hkind => exact (hrecovery hkind).symm.trans hepoch
    · exact hepoch
  have hidle : (p.encoder.committedBy transaction facts config).applyState = .committed := by
    unfold EncoderState.committedBy
    split <;> rfl
  generalize p.encoder.committedBy transaction facts config = e at hcurrent hidle ⊢
  refine ⟨⟨h.disconnected, h.uniform, ?_, fun hconnected => ?_, h.ordered⟩, hcurrent⟩
  · intro directive hmem
    rw [show (p.setEncoder e).encoder.applyState = .committed from hidle] at hmem
    cases hmem
  · have hinformed := h.informed hconnected
    have hbound : ∀ streamEpoch ∈ told p.marks, streamEpoch ≤ facts.streamEpoch :=
      fun streamEpoch hmem => hepoch ▸ hinformed.awaited hdirective hahead hmem
    refine ⟨?_, ?_, ?_⟩
    · intro batch hbatch
      refine ⟨?_, (hinformed.queued batch hbatch).2⟩
      rw [show (p.setEncoder e).encoder.currentStreamEpoch = _ from hcurrent]
      exact (hinformed.queued batch hbatch).2 facts.streamEpoch hannounced
    · intro streamEpoch hmem
      rw [show (p.setEncoder e).encoder.currentStreamEpoch = _ from hcurrent]
      exact Or.inl (hbound streamEpoch hmem)
    · intro _
      rw [show (p.setEncoder e).encoder.currentStreamEpoch = _ from hcurrent]
      exact Or.inl hannounced

end EpochInvariant

theorem observe_epochs (p : EncoderPath) :
    p.observe.encoder.currentStreamEpoch = p.encoder.currentStreamEpoch ∧
      p.observe.encoder.applyState = p.encoder.applyState ∧
      p.observe.connection = p.connection ∧ p.observe.pending = p.pending ∧
      told p.observe.marks = told p.marks := by
  unfold EncoderPath.observe
  split
  · exact ⟨rfl, rfl, rfl, rfl, told_snoc _ _⟩
  · exact ⟨rfl, rfl, rfl, rfl, rfl⟩

theorem epochInvariant_change {p q : EncoderPath} (bounded : Bounded p.encoder)
    (h : EpochInvariant p) (hchange : Change epochLimits p q) : EpochInvariant q := by
  cases hchange with
  | note mark minor =>
      refine h.silent (SenderMark.wireEpochs_of_minor minor) fun generation hmark => ?_
      rw [hmark] at minor
      cases minor
  | stage config =>
      exact h.of_same rfl (directive_stage _ _) rfl (fun _ hbatch => hbatch) rfl h.ordered
  | bind encoderGeneration height idle shaped first =>
      have hbound : EpochInvariant (p.setEncoder
          (p.encoder.bindEncoder encoderGeneration height)) :=
        h.of_same rfl rfl rfl (fun _ hbatch => hbatch) rfl h.ordered
      exact hbound.silent rfl nofun
  | start transaction encoderGeneration applying first =>
      have hstarted : EpochInvariant (p.setEncoder (p.encoder.setApplyState
          (.applying { transaction with expectedGeneration := some encoderGeneration }))) :=
        h.of_same rfl (directive_of_applying applying).symm rfl (fun _ hbatch => hbatch) rfl
          h.ordered
      exact hstarted.silent rfl nofun
  | begin directive now idle fresh recovery epoch =>
      exact h.begin idle epoch.ge fun _ => epoch
  | reconfigure directive now idle fresh wanted epoch room =>
      have hcounted : EpochInvariant (p.setEncoder p.encoder.allocateEpoch) :=
        h.of_same rfl rfl rfl (fun _ hbatch => hbatch) rfl h.ordered
      have hallocated : EpochInvariant p.allocate := hcounted.silent rfl nofun
      refine hallocated.begin idle ?_ ?_
      · rw [epoch]
        exact Nat.le_succ_of_le bounded.current
      · intro hrecovery
        rw [wanted] at hrecovery
        cases hrecovery
  | rollBack transaction applying limit => exact h.rollBack applying limit
  | tearDown => exact h.tearDown
  | close generation asked => exact h.silent rfl nofun
  | adopt generation free polled => exact h.adopt generation free
  | receive messageId newer =>
      exact h.of_same rfl rfl rfl (fun _ hbatch => hbatch) rfl h.ordered
  | dispatch session envelope connected generation newer =>
      have hreceived : EpochInvariant (p.receive envelope.messageId) :=
        h.of_same rfl rfl rfl (fun _ hbatch => hbatch) rfl h.ordered
      exact hreceived.silent rfl nofun
  | publish session messageId config wire connected idle epoch =>
      exact h.publish connected idle epoch
  | announce transaction session messageId wire connected applying epoch limit =>
      exact h.announce connected applying epoch limit
  | commit transaction facts config batch connected applying completes announced carries =>
      obtain ⟨hdirective, -⟩ := of_decide_eq_true completes.matched
      obtain ⟨-, hepoch, -⟩ := of_decide_eq_true hdirective
      obtain ⟨hcommitted, hcurrent⟩ := @EpochInvariant.committedBy p h transaction facts config
        applying hepoch announced
      have hinformed := hcommitted.informed connected
      have hidle : (p.encoder.committedBy transaction facts config).applyState = .committed := by
        unfold EncoderState.committedBy
        split <;> rfl
      have hpushed := hcommitted.push connected carries.uniform
        (carries.batchEpoch.trans hcurrent.symm) (hinformed.idle hidle).1
      have hmarked := @EpochInvariant.silent _ hpushed (.committed transaction.directive facts)
        rfl nofun
      exact hmarked.silent rfl nofun
  | enqueue facts batch connected idle committed carries limit =>
      obtain ⟨hcurrent, hstate, hconnection, hpending, htold⟩ := observe_epochs p
      have hobserved : EpochInvariant p.observe := by
        refine h.of_same hcurrent (by rw [hstate]) hconnection (fun _ hbatch => hpending ▸ hbatch)
          htold ?_
        unfold EncoderPath.observe
        split
        · exact epochOrder_silent h.ordered rfl
        · exact h.ordered
      have hinformed := hobserved.informed (hconnection.symm ▸ connected)
      have hpushed := hobserved.push (hconnection.symm ▸ connected) carries.uniform
        (carries.batchEpoch.trans (committed.epoch.trans hcurrent.symm))
        (hinformed.idle (hstate.trans idle)).1
      exact hpushed.silent rfl nofun
  | makeRoom =>
      exact h.of_same rfl rfl rfl (fun _ hbatch => mem_of_mem_pendingRoom hbatch) rfl h.ordered
  | clear => exact h.of_same rfl rfl rfl (fun _ hbatch => by cases hbatch) rfl h.ordered
  | flush session sent rest connected split =>
      have hinformed := h.informed (by rw [connected]; nofun)
      refine h.of_same rfl rfl rfl (fun _ hbatch => by cases hbatch) (told_media _ _ _)
        (epochOrder_media session h.ordered ?_ ?_)
      · intro batch hbatch
        exact h.uniform batch (split ▸ List.mem_append_left _ hbatch)
      · intro batch hbatch
        exact (hinformed.queued batch (split ▸ List.mem_append_left _ hbatch)).2

theorem epochInvariant_new : EpochInvariant EncoderPath.new where
  disconnected _ := rfl
  uniform batch hbatch := by cases hbatch
  ahead directive hdirective := by cases hdirective
  informed hconnected := absurd rfl hconnected
  ordered := Splits.nil

/-- On each connection the epochs on the wire do not decrease, and a session without a
transaction has last told the Receiver its own epoch. -/
structure EpochAgreement (s : SenderState) : Prop where
  ordered : Splits EpochOrder s.trace
  told : s.session.activeSession ≠ none → s.session.encoder.applyState = .committed →
    (∀ streamEpoch ∈ told s.trace, streamEpoch ≤ s.session.encoder.currentStreamEpoch) ∧
      (told s.trace ≠ [] → s.session.encoder.currentStreamEpoch ∈ told s.trace)

theorem epochAgreement_of_limits (P : SenderPlatform) {s : SenderState}
    (h : TransitionSystem.Reachable ((senderSystem P).restrict epochLimits.Meets) s) :
    EpochAgreement s := by
  obtain ⟨-, hinvariant⟩ := path_invariant epochInvariant_new
    (fun _ _ => epochInvariant_change) h
  refine ⟨hinvariant.ordered, fun hactive hidle => ?_⟩
  exact (hinvariant.informed (Core.connected_of_active hactive)).idle hidle

/-! ## A keyframe that cannot be packetized -/

/-- The state after a StreamConfig was sent. -/
def announced (s : SenderState) (session : SessionId) (wire : StreamConfig) : SenderState :=
  { Core.counted s with
    trace := s.trace ++
      [.controlSent session s.session.nextControlMessageId (.streamConfig wire)] }

/-- What a transaction needs for its keyframe to be announced. -/
structure Announces (P : SenderPlatform) (s : SenderState) (unit : NativeEncoderAccessUnit)
    (session : SessionId) (wire : StreamConfig) : Prop where
  active : s.session.activeSession = some session
  streaming : s.session.streaming = true
  expected : s.session.encoder.applyState.matchesNativeFacts unit.transactionId
    unit.encoderGeneration unit.streamEpoch unit.height = true
  keyframe : unit.isKeyframe = true
  config : ∃ config, s.session.encoder.pendingStreamConfig = some config ∧
    config.height = unit.height ∧
      ({ config with streamEpoch := unit.streamEpoch } : StreamConfigParams).toProto
        P.bitstream = .ok wire ∧
      ∀ directive ∈ s.session.encoder.applyState.directive, directive.targetFormat.matches config
  staged : s.session.encoder.applyState.isStreamConfigStaged = true
  sent : s.answer.sendControl = .ok ()

namespace Core

open Program

theorem exec_packetize_oversized {P : SenderPlatform} {unit : NativeEncoderAccessUnit}
    (hdata : unit.data ≠ []) (hlarge : maxVideoFragmentsPerAccessUnit < fragmentCountOf unit.data)
    (fec : FecProtection) (s : SenderState) :
    exec (packetize P unit fec) s = (.error (.packetizer .accessUnitTooLarge), s) := by
  have hpacked : packetizeIntoPending P.codecs s.session.pipeline unit.data unit.isKeyframe
      unit.ptsUs unit.encodedAtUs unit.streamEpoch fec =
        (.error .accessUnitTooLarge, s.session.pipeline) := by
    unfold packetizeIntoPending
    rw [if_neg hdata, if_pos hlarge]
  unfold packetize session modifySession
  rw [exec_read_bind, hpacked]
  rfl

theorem next_oversized {P : SenderPlatform} {s : SenderState} {unit : NativeEncoderAccessUnit}
    {session : SessionId} {wire : StreamConfig} (hdata : unit.data ≠ [])
    (hlarge : maxVideoFragmentsPerAccessUnit < fragmentCountOf unit.data)
    (h : Announces P s unit session wire) :
    next P s (.ingestEncoderAccessUnit unit) = announced s session wire := by
  obtain ⟨config, hconfig, hheight, hwire, hformat⟩ := h.config
  obtain ⟨transaction, happlying⟩ : ∃ transaction,
      s.session.encoder.applyState = .applying transaction := by
    have hexpected := h.expected
    cases hstate : s.session.encoder.applyState with
    | committed =>
        rw [hstate] at hexpected
        cases hexpected
    | applying transaction => exact ⟨transaction, rfl⟩
  have hactive : s.session.activeSession ≠ none := by
    rw [h.active]
    exact Option.some_ne_none session
  have hgeneration : s.session.lifecycle.activeGeneration = some session.value := by
    obtain ⟨generation, hgeneration, rfl⟩ := Option.map_eq_some_iff.mp h.active
    exact hgeneration
  have hsession : exec requireSession s = (.ok session, s) := by
    rw [exec_requireSession, hgeneration]
  have hsend : exec (sendStreamConfigForEpoch P
      { config with streamEpoch := unit.streamEpoch } unit.streamEpoch) s =
        (.ok (), announced s session wire) := by
    unfold sendStreamConfigForEpoch
    rw [exec_bind_ok hsession]
    dsimp only
    rw [hwire]
    dsimp only
    rw [exec_sendControlPayload, h.sent]
    rfl
  have hcandidate : exec (ingestCandidate P unit) s =
      (.error (.packetizer .accessUnitTooLarge), announced s session wire) := by
    unfold ingestCandidate Core.session
    rw [exec_read_bind]
    dsimp only
    rw [if_neg (by rw [h.expected, h.keyframe]; decide), hconfig]
    dsimp only
    rw [if_neg (by rw [h.staged]; exact not_or.mpr ⟨nofun, not_not.mpr hheight⟩),
      if_neg ?_, exec_bind_ok hsend]
    · have hfec : exec (fecProtectionFor true) (announced s session wire) =
          (.ok .strong, announced s session wire) := rfl
      rw [exec_bind_ok hfec, exec_bind_error (exec_packetize_oversized hdata hlarge _ _)]
    · rintro ⟨directive, hdirective, hdiffers⟩
      rw [hformat directive hdirective] at hdiffers
      cases hdiffers
  unfold next run ingestEncoderAccessUnit Core.session
  dsimp only
  rw [exec_read_bind, if_neg hdata, if_neg hactive, if_neg (by rw [h.streaming]; nofun),
    if_pos (by rw [happlying]; rfl), hcandidate]

end Core

/-! ## A streaming session -/

def sampleEndpoint : Endpoint := ⟨"10.0.0.2", 4455⟩

def sampleHello : ServerHello where
  receiverId := samplePlatform.crypto.deriveDeviceId (List.replicate 32 7)
  displayName := "Receiver"
  publicKey := List.replicate 32 7
  pairingRequired := true
  receiverNonce := List.replicate 32 9
  transcriptHash := sampleDigest
  identitySignature := List.replicate 64 1

def sampleProof : PairingProof := ⟨sampleDigest, List.replicate 64 1⟩

/-- The session connects and says hello. -/
def connecting : List SenderStep :=
  [.schedule [{ Answers.quiet with connect := .ok ⟨1⟩ }], .connect sampleEndpoint, .sendClientHello,
    .schedule [{ Answers.quiet with event := some (.connected ⟨1⟩) },
      { Answers.quiet with nonce := .ok (List.replicate 32 4) }], .drainEvents]

/-- A control message of the Receiver arrives. -/
def receiving (messageId : Nat) (payload : ControlPayload) : List SenderStep :=
  [.schedule [{ Answers.quiet with
      event := some (.controlMessage ⟨1⟩ (encodeControlEnvelope payload messageId 1)) },
      { Answers.quiet with channelBinding := .ok (List.replicate 32 3) }], .drainEvents]

/-- The Receiver is paired with the user's approval, and streaming starts. -/
def streamingSteps : List SenderStep :=
  connecting ++ receiving 1 (.serverHello sampleHello) ++
    [.sendPairingConfirm sampleHello.receiverId] ++ receiving 2 (.pairingApproval sampleProof) ++
    receiving 3 (.pairingComplete sampleProof)

/-- What the 1080p encoder of the reconfiguration produces. -/
def sampleTarget : StreamConfigParams :=
  { sampleParams with width := 1920, height := 1080 }

/-- The encoder of a reconfiguration is started and configured. -/
def reconfiguring : List SenderStep :=
  streamingSteps ++ [.reportEncoderStarted 0 7 1 720, .beginStreamReconfiguration ⟨.avc, 1080, 30⟩,
    .reportEncoderStarted 1 8 2 1080, .setStreamConfig sampleTarget]

def sampleCandidate (data : Bytes) : NativeEncoderAccessUnit where
  data := data
  isKeyframe := true
  ptsUs := 0
  encodedAtUs := 0
  transactionId := 1
  encoderGeneration := 8
  streamEpoch := 2
  height := 1080

/-- The reconfiguration commits with its keyframe, which is sent. -/
def committing : List SenderStep :=
  reconfiguring ++ [.ingestEncoderAccessUnit (sampleCandidate [7]), .flushPending]

theorem epochAgreement_committing : EpochAgreement (senderRun committing) :=
  epochAgreement_of_limits samplePlatform (reachable_limitedRun (by decide +kernel))

def sampleWire : StreamConfig where
  codec := codecAvc
  profile := profileAvcHigh
  levelIdc := 31
  width := 1920
  height := 1080
  fps := 30
  bitrate := 4000000
  rotation := 0
  mirrored := false
  colorRange := rangeLimited
  codecConfiguration := [1, 100, 0, 31]
  streamEpoch := 2

section Failing

variable (data : Bytes)

/-- The keyframe of the reconfiguration is submitted, and the encoder gives up. -/
def failing : List SenderStep :=
  reconfiguring ++ [.ingestEncoderAccessUnit (sampleCandidate data), .reportEncoderFailed 1 0]

theorem announces_candidate : Announces samplePlatform (senderRun reconfiguring)
    (sampleCandidate data) ⟨1⟩ sampleWire where
  active := by decide +kernel
  streaming := by decide +kernel
  expected := by
    change (senderRun reconfiguring).session.encoder.applyState.matchesNativeFacts 1 8 2 1080 = true
    decide +kernel
  keyframe := rfl
  config := ⟨sampleTarget, by decide +kernel, rfl, rfl, by decide +kernel⟩
  staged := by decide +kernel
  sent := by decide +kernel

variable {data}

theorem senderRun_failing (hdata : data ≠ [])
    (hlarge : maxVideoFragmentsPerAccessUnit < fragmentCountOf data) :
    senderRun (failing data) =
      Core.next samplePlatform (announced (senderRun reconfiguring) ⟨1⟩ sampleWire)
        (.reportEncoderFailed 1 0) := by
  have hannounced : Core.next samplePlatform (senderRun reconfiguring)
      (.ingestEncoderAccessUnit (sampleCandidate data)) =
        announced (senderRun reconfiguring) ⟨1⟩ sampleWire :=
    Core.next_oversized hdata hlarge (announces_candidate data)
  rw [← hannounced]
  unfold failing senderRun
  rw [List.foldl_append, List.foldl_cons, List.foldl_cons, List.foldl_nil]

theorem not_epochAgreement_failing (hdata : data ≠ [])
    (hlarge : maxVideoFragmentsPerAccessUnit < fragmentCountOf data) :
    ¬EpochAgreement (senderRun (failing data)) := by
  intro h
  have htold := h.told
  rw [senderRun_failing hdata hlarge] at htold
  revert htold
  decide +kernel

end Failing

/-- More than 1024 fragments. -/
def oversizedData : Bytes := List.replicate 1140737 0

theorem oversizedData_length : oversizedData.length = 1140737 := by
  unfold oversizedData
  rw [List.length_replicate]

theorem oversizedData_ne_nil : oversizedData ≠ [] := by
  apply List.ne_nil_of_length_pos
  rw [oversizedData_length]
  norm_num

theorem fragmentCountOf_eq {data : Bytes} {length : Nat} (h : data.length = length) :
    fragmentCountOf data = (length + maxFecFragmentPayload - 1) / maxFecFragmentPayload := by
  rw [fragmentCountOf, h]

theorem oversizedData_fragments :
    maxVideoFragmentsPerAccessUnit < fragmentCountOf oversizedData := by
  rw [fragmentCountOf_eq oversizedData_length]
  norm_num [maxVideoFragmentsPerAccessUnit, maxFecFragmentPayload_eq]

theorem epochAgreement_fails :
    (senderSystem samplePlatform).Reachable (senderRun (failing oversizedData)) ∧
      ¬EpochAgreement (senderRun (failing oversizedData)) :=
  ⟨reachable_senderRun _, not_epochAgreement_failing oversizedData_ne_nil oversizedData_fragments⟩

end PicooCamera.Sender
