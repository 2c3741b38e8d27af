import PicooCamera.Sender.EpochAgreement

/-!
# Order of media and configurations

`MediaInvariant` is what a session keeps as long as an access unit is admitted
outside a transaction only after the configuration of its epoch was sent, and a
delta only behind other media of its epoch.
-/

namespace PicooCamera.Sender

open PicooCamera.Library PicooCamera.Protocol PicooCamera.Packet PicooCamera.Session
open PicooCamera.Transport

/-! ## What the marks say -/

/-- The connection that was adopted last. -/
def adopt? (connection : Option Nat) : SenderMark → Option Nat
  | .connected generation => some generation
  | _ => connection

def adopted (marks : List SenderMark) : Option Nat := marks.foldl adopt? none

/-- The access units that were admitted since then. -/
def withAdmitted (units : List (EncodedFacts × VideoDatagramBatch)) :
    SenderMark → List (EncodedFacts × VideoDatagramBatch)
  | .connected _ => []
  | .admitted facts batch => units ++ [(facts, batch)]
  | _ => units

def admittedUnits (marks : List SenderMark) : List (EncodedFacts × VideoDatagramBatch) :=
  marks.foldl withAdmitted []

/-- What the encoder commits with a mark. -/
def CommittedEncoder.after (c : CommittedEncoder) : SenderMark → CommittedEncoder
  | .bound generation height => { c with generation := generation, height := height }
  | .observed format => { c with format := some format }
  | .committed directive facts =>
      ⟨facts.encoderGeneration, facts.streamEpoch, facts.height, some directive.targetFormat⟩
  | _ => c

/-- The committed encoder after the marks. -/
def committedAt (marks : List SenderMark) : CommittedEncoder :=
  marks.foldl CommittedEncoder.after TransactionLog.new.committed

/-- The facts of an access unit are those of the committed encoder. -/
structure CommittedEncoder.Produced (c : CommittedEncoder) (facts : EncodedFacts) : Prop where
  generation : facts.encoderGeneration = c.generation
  streamEpoch : facts.streamEpoch = c.streamEpoch
  height : facts.height = c.height

/-- What holds where a batch of media is sent: the configuration of its epoch was sent before
on the same connection, it was admitted on that connection, and it is a keyframe if it is the
first of its epoch. -/
structure SendsInOrder (before : List SenderMark) (session : SessionId)
    (batch : VideoDatagramBatch) : Prop where
  connection : adopted before = some session.value
  configured : ∀ datagram ∈ batch.datagrams, streamEpochOf datagram ∈ told before
  opened : batch.keyframe ∨ emitted before (batchEpoch batch)
  admitted : ∃ facts, (facts, batch) ∈ admittedUnits before ∧
    Carries batch facts.isKeyframe facts.streamEpoch

/-- What holds where a mark is made. -/
def MediaRule (before : List SenderMark) (mark : SenderMark) (_ : List SenderMark) : Prop :=
  match mark with
  | .admitted facts _ => (committedAt before).Produced facts
  | .mediaSent session batch => SendsInOrder before session batch
  | _ => True

/-- The rules of media do not speak of the mark. -/
def SenderMark.isRuled : SenderMark → Bool
  | .admitted _ _ => true
  | .mediaSent _ _ => true
  | _ => false

theorem mediaRule_unruled {mark : SenderMark} (h : mark.isRuled = false)
    (before after : List SenderMark) : MediaRule before mark after := by
  cases mark <;> first | exact trivial | cases h

theorem mediaRule_snoc {marks : List SenderMark} {mark : SenderMark}
    (h : Splits MediaRule marks) (hmark : MediaRule marks mark []) :
    Splits MediaRule (marks ++ [mark]) :=
  Splits.snoc hmark fun before x early hsplit => h before x early hsplit

theorem adopted_snoc (marks : List SenderMark) (mark : SenderMark) :
    adopted (marks ++ [mark]) = adopt? (adopted marks) mark := by
  rw [adopted, List.foldl_append]
  rfl

theorem admittedUnits_snoc (marks : List SenderMark) (mark : SenderMark) :
    admittedUnits (marks ++ [mark]) = withAdmitted (admittedUnits marks) mark := by
  rw [admittedUnits, List.foldl_append]
  rfl

theorem committedAt_snoc (marks : List SenderMark) (mark : SenderMark) :
    committedAt (marks ++ [mark]) = (committedAt marks).after mark := by
  rw [committedAt, List.foldl_append]
  rfl

theorem emitted_snoc (marks : List SenderMark) (mark : SenderMark) (streamEpoch : Nat) :
    emitted (marks ++ [mark]) streamEpoch =
      (emitted marks streamEpoch || mark.emits streamEpoch) := by
  rw [emitted, List.any_append, List.any_cons, List.any_nil, Bool.or_false]
  rfl

theorem TransactionLog.Records.committedAt {marks : List SenderMark} {log : TransactionLog}
    (h : Records marks log) : committedAt marks = log.committed := by
  induction h with
  | new => rfl
  | @other marks log h mark hother ih =>
      rw [committedAt_snoc, ih]
      cases mark <;> first | rfl | cases hother
  | bound h hidle hfirst hshaped ih =>
      rw [committedAt_snoc, ih]
      rfl
  | observed h hidle hfirst ih =>
      rw [committedAt_snoc, ih]
      rfl
  | allocated h hidle hnew ih =>
      rw [committedAt_snoc, ih]
      rfl
  | began h hidle hnew hepoch hgeneration hcurrent ih =>
      rw [committedAt_snoc, ih]
      rfl
  | started h happlying hfirst ih =>
      rw [committedAt_snoc, ih]
      rfl
  | rolledBack h happlying ih =>
      rw [committedAt_snoc, ih]
      rfl
  | committed h happlying hmatches ih =>
      rw [committedAt_snoc, ih]
      rfl

theorem Logged.committedAt {p : EncoderPath} (h : Logged p) :
    Sender.committedAt p.marks = p.encoder.committedEncoder := by
  obtain ⟨log, hrecords, hdescribes⟩ := h.log
  exact hrecords.committedAt.trans hdescribes.committed

/-! ## The queue -/

/-- Each batch is a keyframe, or media of its epoch is before it in the queue or `seen`. -/
def Opens (seen : Nat → Bool) : List VideoDatagramBatch → Prop
  | [] => True
  | batch :: rest =>
      (batch.keyframe ∨ seen (batchEpoch batch)) ∧
        Opens (fun streamEpoch => seen streamEpoch || decide (batchEpoch batch = streamEpoch)) rest

theorem opens_of_keyframes {batches : List VideoDatagramBatch}
    (h : ∀ batch ∈ batches, batch.keyframe = true) (seen : Nat → Bool) : Opens seen batches := by
  induction batches generalizing seen with
  | nil => trivial
  | cons batch rest ih =>
      exact ⟨Or.inl (h batch List.mem_cons_self),
        ih (fun b hb => h b (List.mem_cons_of_mem _ hb)) _⟩

namespace Opens

variable {seen seen' : Nat → Bool} {batches : List VideoDatagramBatch}

theorem mono (h : Opens seen batches) (hseen : ∀ streamEpoch, seen streamEpoch → seen' streamEpoch) :
    Opens seen' batches := by
  induction batches generalizing seen seen' with
  | nil => trivial
  | cons batch rest ih =>
      refine ⟨h.1.imp_right (hseen _), ih h.2 fun streamEpoch hepoch => ?_⟩
      rw [Bool.or_eq_true] at hepoch ⊢
      exact hepoch.imp_left (hseen _)

theorem eraseDelta (h : Opens seen batches) {i : Nat} {delta : VideoDatagramBatch}
    (hi : batches[i]? = some delta) (hdelta : delta.keyframe = false) :
    Opens seen (batches.eraseIdx i) := by
  induction batches generalizing seen i with
  | nil => trivial
  | cons batch rest ih =>
      cases i with
      | zero =>
          have hsame : batch = delta := Option.some.inj hi
          have hopen : seen (batchEpoch batch) := by
            refine h.1.resolve_left ?_
            rw [hsame, hdelta]
            exact Bool.false_ne_true
          refine h.2.mono fun streamEpoch hepoch => ?_
          rw [Bool.or_eq_true] at hepoch
          cases hepoch with
          | inl hold => exact hold
          | inr hthis => exact of_decide_eq_true hthis ▸ hopen
      | succ i => exact ⟨h.1, ih h.2 hi⟩

theorem room (h : Opens seen batches) : Opens seen (pendingRoom batches) := by
  unfold pendingRoom
  split
  · unfold dropIndex
    cases hdelta : batches.findIdx? fun batch => !batch.keyframe with
    | none =>
        apply opens_of_keyframes
        intro batch hbatch
        have hkeyframe := List.findIdx?_eq_none_iff.mp hdelta batch (List.mem_of_mem_eraseIdx hbatch)
        simpa using hkeyframe
    | some i =>
        obtain ⟨hlt, hnot, -⟩ := List.findIdx?_eq_some_iff_getElem.mp hdelta
        exact h.eraseDelta (List.getElem?_eq_getElem hlt) (by simpa using hnot)
  · exact h

theorem push (h : Opens seen batches) {batch : VideoDatagramBatch}
    (hbatch : batch.keyframe ∨ seen (batchEpoch batch) ∨
      ∃ earlier ∈ batches, batchEpoch earlier = batchEpoch batch) :
    Opens seen (batches ++ [batch]) := by
  induction batches generalizing seen with
  | nil =>
      refine ⟨hbatch.imp_right fun hseen => hseen.resolve_right ?_, trivial⟩
      rintro ⟨earlier, hearlier, -⟩
      cases hearlier
  | cons first rest ih =>
      refine ⟨h.1, ih h.2 (hbatch.imp_right ?_)⟩
      rintro (hseen | ⟨earlier, hearlier, hepoch⟩)
      · exact Or.inl (Bool.or_eq_true _ _ ▸ Or.inl hseen)
      · cases List.mem_cons.mp hearlier with
        | inl hfirst =>
            refine Or.inl ?_
            rw [Bool.or_eq_true]
            exact Or.inr (decide_eq_true (hfirst ▸ hepoch))
        | inr hrest => exact Or.inr ⟨earlier, hrest, hepoch⟩

theorem front {rest : List VideoDatagramBatch} (h : Opens seen (batches ++ rest)) :
    Opens seen batches := by
  induction batches generalizing seen with
  | nil => trivial
  | cons batch more ih => exact ⟨h.1, ih h.2⟩

end Opens

/-! ## The invariant -/

/-- An access unit is admitted outside a transaction only for an epoch whose configuration was
sent on the connection, and a delta only behind media of its epoch. -/
def mediaLimits : Limits where
  admits p facts := facts.streamEpoch ∈ told p.marks ∧
    (facts.isKeyframe ∨ emitted p.marks facts.streamEpoch ∨
      ∃ batch ∈ pendingRoom p.pending, batchEpoch batch = facts.streamEpoch)
  announces _ _ := True
  rollsBack _ _ := True

instance (p : EncoderPath) (facts : EncodedFacts) : Decidable (mediaLimits.admits p facts) :=
  inferInstanceAs (Decidable (facts.streamEpoch ∈ told p.marks ∧
    (facts.isKeyframe ∨ emitted p.marks facts.streamEpoch ∨
      ∃ batch ∈ pendingRoom p.pending, batchEpoch batch = facts.streamEpoch)))

instance (p : EncoderPath) (streamEpoch : Nat) : Decidable (mediaLimits.announces p streamEpoch) :=
  inferInstanceAs (Decidable True)

instance (p : EncoderPath) (transaction : EncoderTransaction) :
    Decidable (mediaLimits.rollsBack p transaction) :=
  inferInstanceAs (Decidable True)

/-- A batch of the queue was admitted on the connection, which was told its epoch. -/
structure Queued (marks : List SenderMark) (batch : VideoDatagramBatch) : Prop where
  configured : ∀ datagram ∈ batch.datagrams, streamEpochOf datagram ∈ told marks
  admitted : ∃ facts, (facts, batch) ∈ admittedUnits marks ∧
    Carries batch facts.isKeyframe facts.streamEpoch

structure MediaInvariant (p : EncoderPath) : Prop where
  disconnected : p.connection = none → p.pending = []
  connection : p.connection ≠ none → adopted p.marks = p.connection
  queued : ∀ batch ∈ p.pending, Queued p.marks batch
  opened : Opens (emitted p.marks) p.pending
  history : Splits MediaRule p.marks

/-- A mark that adopts no connection. -/
def SenderMark.isWithin : SenderMark → Bool
  | .connected _ => false
  | _ => true

section Within

variable {mark : SenderMark} (h : mark.isWithin)
include h

theorem adopt_within (connection : Option Nat) : adopt? connection mark = connection := by
  cases mark <;> first | rfl | cases h

theorem mem_tell {streamEpoch : Nat} {epochs : List Nat} (hmem : streamEpoch ∈ epochs) :
    streamEpoch ∈ tell epochs mark := by
  unfold tell
  split
  · cases h
  · exact List.mem_append_left _ hmem
  · exact hmem

theorem mem_withAdmitted {unit : EncodedFacts × VideoDatagramBatch}
    {units : List (EncodedFacts × VideoDatagramBatch)} (hmem : unit ∈ units) :
    unit ∈ withAdmitted units mark := by
  unfold withAdmitted
  split
  · cases h
  · exact List.mem_append_left _ hmem
  · exact hmem

theorem Queued.snoc {marks : List SenderMark} {batch : VideoDatagramBatch}
    (hqueued : Queued marks batch) : Queued (marks ++ [mark]) batch where
  configured datagram hdatagram := by
    rw [told_snoc]
    exact mem_tell h (hqueued.configured datagram hdatagram)
  admitted := by
    obtain ⟨facts, hmem, hcarries⟩ := hqueued.admitted
    rw [admittedUnits_snoc]
    exact ⟨facts, mem_withAdmitted h hmem, hcarries⟩

end Within

namespace MediaInvariant

variable {p q : EncoderPath}

theorem of_same (h : MediaInvariant p) (hconnection : q.connection = p.connection) (hmarks : q.marks = p.marks)
    (hpending : ∀ batch ∈ q.pending, batch ∈ p.pending)
    (hopened : Opens (emitted p.marks) p.pending → Opens (emitted p.marks) q.pending) :
    MediaInvariant q where
  disconnected hnone := by
    have hempty := h.disconnected (hconnection ▸ hnone)
    rw [hempty] at hpending
    exact List.eq_nil_iff_forall_not_mem.mpr fun batch hbatch =>
      List.not_mem_nil (hpending batch hbatch)
  connection hconnected := by
    rw [hmarks, hconnection]
    exact h.connection (hconnection ▸ hconnected)
  queued batch hbatch := by
    rw [hmarks]
    exact h.queued batch (hpending batch hbatch)
  opened := by
    rw [hmarks]
    exact hopened h.opened
  history := by
    rw [hmarks]
    exact h.history

theorem mark (h : MediaInvariant p) {mark : SenderMark} (hwithin : mark.isWithin)
    (hrule : MediaRule p.marks mark []) : MediaInvariant (p.mark mark) where
  disconnected := h.disconnected
  connection hconnected := by
    change adopted (p.marks ++ [mark]) = p.connection
    rw [adopted_snoc, adopt_within hwithin]
    exact h.connection hconnected
  queued batch hbatch := (h.queued batch hbatch).snoc hwithin
  opened := h.opened.mono fun streamEpoch hemitted => by
    change emitted (p.marks ++ [mark]) streamEpoch
    rw [emitted_snoc, hemitted]
    rfl
  history := mediaRule_snoc h.history hrule

theorem unruled (h : MediaInvariant p) {mark : SenderMark} (hwithin : mark.isWithin)
    (hunruled : mark.isRuled = false) : MediaInvariant (p.mark mark) :=
  h.mark hwithin (mediaRule_unruled hunruled _ _)

theorem setEncoder (h : MediaInvariant p) (encoder : EncoderState) :
    MediaInvariant (p.setEncoder encoder) :=
  h.of_same rfl rfl (fun _ hbatch => hbatch) id

theorem rollBack (h : MediaInvariant p) (transaction : EncoderTransaction) :
    MediaInvariant (p.rollBack transaction) :=
  (h.setEncoder _).unruled rfl rfl

theorem observe (h : MediaInvariant p) : MediaInvariant p.observe := by
  unfold EncoderPath.observe
  split
  · exact (h.setEncoder _).unruled rfl rfl
  · exact h

theorem tearDown (h : MediaInvariant p) : MediaInvariant p.aborted.released := by
  have haborted : MediaInvariant p.aborted := by
    unfold EncoderPath.aborted
    split
    · exact h
    · exact h.rollBack _
  exact {
    disconnected := fun _ => rfl
    connection := fun hconnected => absurd rfl hconnected
    queued := fun batch hbatch => by cases hbatch
    opened := trivial
    history := haborted.history }

theorem adopt (h : MediaInvariant p) (generation : Nat) (hfree : p.connection = none) :
    MediaInvariant (p.adopt generation) where
  disconnected hnone := by cases hnone
  connection _ := adopted_snoc _ _
  queued batch hbatch := by
    rw [show (p.adopt generation).pending = [] from h.disconnected hfree] at hbatch
    cases hbatch
  opened := by
    rw [show (p.adopt generation).pending = [] from h.disconnected hfree]
    trivial
  history := mediaRule_snoc h.history trivial

theorem enqueue (h : MediaInvariant p) {facts : EncodedFacts} {batch : VideoDatagramBatch}
    (hconnected : p.connection ≠ none) (hcarries : Carries batch facts.isKeyframe facts.streamEpoch)
    (hconfigured : facts.streamEpoch ∈ told p.marks)
    (hopens : facts.isKeyframe ∨ emitted p.marks facts.streamEpoch ∨
      ∃ earlier ∈ pendingRoom p.pending, batchEpoch earlier = facts.streamEpoch)
    (hproduced : (committedAt p.marks).Produced facts) :
    MediaInvariant ((p.push batch).mark (.admitted facts batch)) where
  disconnected hnone := absurd hnone hconnected
  connection _ := by
    change adopted (p.marks ++ [.admitted facts batch]) = p.connection
    rw [adopted_snoc]
    exact h.connection hconnected
  queued other hother := by
    cases List.mem_append.mp hother with
    | inl hold => exact (h.queued other (mem_of_mem_pendingRoom hold)).snoc rfl
    | inr hnew =>
        rw [List.mem_singleton.mp hnew]
        refine ⟨fun datagram hdatagram => ?_, facts, ?_, hcarries⟩
        · change streamEpochOf datagram ∈ told (p.marks ++ [.admitted facts batch])
          rw [told_snoc, hcarries.epoch datagram hdatagram]
          exact mem_tell rfl hconfigured
        · change (facts, batch) ∈ admittedUnits (p.marks ++ [.admitted facts batch])
          rw [admittedUnits_snoc]
          exact List.mem_append_right _ (List.mem_singleton_self _)
  opened := by
    have hmore : ∀ streamEpoch, emitted p.marks streamEpoch →
        emitted (p.marks ++ [.admitted facts batch]) streamEpoch := by
      intro streamEpoch hemitted
      rw [emitted_snoc, hemitted]
      rfl
    refine (h.opened.room.push ?_).mono hmore
    rw [hcarries.keyframe, hcarries.batchEpoch]
    exact hopens
  history := mediaRule_snoc h.history hproduced

end MediaInvariant

theorem history_media {session : SessionId} {sent : List VideoDatagramBatch}
    {marks : List SenderMark} (h : Splits MediaRule marks)
    (hconnection : adopted marks = some session.value)
    (hqueued : ∀ batch ∈ sent, Queued marks batch) (hopened : Opens (emitted marks) sent) :
    Splits MediaRule (marks ++ sent.map (.mediaSent session)) := by
  induction sent generalizing marks with
  | nil => rwa [List.map_nil, List.append_nil]
  | cons batch rest ih =>
      have hfirst := hqueued batch List.mem_cons_self
      have hrule : MediaRule marks (.mediaSent session batch) [] :=
        ⟨hconnection, hfirst.configured, hopened.1, hfirst.admitted⟩
      rw [List.map_cons, List.append_cons]
      refine ih (mediaRule_snoc h hrule) ?_ ?_ ?_
      · rw [adopted_snoc]
        exact hconnection
      · exact fun other hother => (hqueued other (List.mem_cons_of_mem _ hother)).snoc rfl
      · refine hopened.2.mono fun streamEpoch hepoch => ?_
        rw [emitted_snoc]
        exact hepoch

theorem adopted_media (marks : List SenderMark) (session : SessionId)
    (batches : List VideoDatagramBatch) :
    adopted (marks ++ batches.map (.mediaSent session)) = adopted marks := by
  induction batches using List.reverseRecOn with
  | nil => rw [List.map_nil, List.append_nil]
  | append_singleton batches batch ih =>
      rw [List.map_append, ← List.append_assoc, List.map_singleton, adopted_snoc]
      exact ih

theorem observe_encoder (p : EncoderPath) :
    p.observe.encoder.committedEncoderGeneration = p.encoder.committedEncoderGeneration ∧
      p.observe.encoder.committedEncoderHeight = p.encoder.committedEncoderHeight ∧
      ∀ streamEpoch, emitted p.observe.marks streamEpoch = emitted p.marks streamEpoch := by
  unfold EncoderPath.observe
  split
  · refine ⟨rfl, rfl, fun streamEpoch => ?_⟩
    exact (emitted_snoc _ _ _).trans (Bool.or_false _)
  · exact ⟨rfl, rfl, fun _ => rfl⟩

theorem mediaInvariant_change {p q : EncoderPath} (hlogged : Logged p) (h : MediaInvariant p)
    (hchange : Change mediaLimits p q) : MediaInvariant q := by
  cases hchange with
  | note mark minor =>
      refine h.unruled ?_ ?_
      · cases mark <;> first | rfl | cases minor
      · cases mark <;> first | rfl | cases minor
  | stage config => exact h.setEncoder _
  | bind encoderGeneration height idle shaped first => exact (h.setEncoder _).unruled rfl rfl
  | start transaction encoderGeneration applying first => exact (h.setEncoder _).unruled rfl rfl
  | begin directive now idle fresh recovery epoch => exact (h.setEncoder _).unruled rfl rfl
  | reconfigure directive now idle fresh wanted epoch room =>
      have hallocated : MediaInvariant p.allocate := (h.setEncoder _).unruled rfl rfl
      exact (hallocated.setEncoder _).unruled rfl rfl
  | rollBack transaction applying limit => exact h.rollBack transaction
  | tearDown => exact h.tearDown
  | close generation asked => exact h.unruled rfl rfl
  | adopt generation free polled => exact h.adopt generation free
  | receive messageId newer => exact h.of_same rfl rfl (fun _ hbatch => hbatch) id
  | dispatch session envelope connected generation newer =>
      have hreceived : MediaInvariant (p.receive envelope.messageId) :=
        h.of_same rfl rfl (fun _ hbatch => hbatch) id
      exact hreceived.unruled rfl rfl
  | publish session messageId config wire connected idle epoch =>
      exact (h.setEncoder _).unruled rfl rfl
  | announce transaction session messageId wire connected applying epoch limit =>
      exact h.unruled rfl rfl
  | commit transaction facts config batch connected applying completes announced carries =>
      have hcommitted : MediaInvariant ((p.setEncoder
          (p.encoder.committedBy transaction facts config)).mark
          (.committed transaction.directive facts)) := (h.setEncoder _).unruled rfl rfl
      refine hcommitted.enqueue connected carries ?_ (Or.inl completes.keyframe) ?_
      · change facts.streamEpoch ∈ told (p.marks ++ [.committed transaction.directive facts])
        rw [told_snoc]
        exact announced
      · change (committedAt (p.marks ++ [.committed transaction.directive facts])).Produced facts
        rw [committedAt_snoc]
        exact ⟨rfl, rfl, rfl⟩
  | enqueue facts batch connected idle committed carries limit =>
      obtain ⟨hcurrent, hstate, hconnection, hpending, htold⟩ := observe_epochs p
      obtain ⟨hgeneration, hheight, hemitted⟩ := observe_encoder p
      have hproduced : (committedAt p.observe.marks).Produced facts := by
        rw [(hlogged.observe idle).committedAt]
        exact ⟨committed.generation.trans hgeneration.symm, committed.epoch.trans hcurrent.symm,
          committed.height.trans hheight.symm⟩
      refine h.observe.enqueue (hconnection.symm ▸ connected) carries (htold.symm ▸ limit.1) ?_
        hproduced
      rw [hpending, hemitted]
      exact limit.2
  | makeRoom =>
      exact h.of_same rfl rfl (fun _ hbatch => mem_of_mem_pendingRoom hbatch) Opens.room
  | clear => exact h.of_same rfl rfl (fun _ hbatch => by cases hbatch) fun _ => trivial
  | flush session sent rest connected split =>
      have hmem : ∀ batch ∈ sent, batch ∈ p.pending :=
        fun batch hbatch => split ▸ List.mem_append_left _ hbatch
      have hconnection := h.connection (by rw [connected]; exact Option.some_ne_none _)
      have hopened : Opens (emitted p.marks) sent :=
        (show Opens (emitted p.marks) (sent ++ rest) from split ▸ h.opened).front
      exact {
        disconnected := fun _ => rfl
        connection := fun _ => (adopted_media _ _ _).trans hconnection
        queued := fun batch hbatch => by cases hbatch
        opened := trivial
        history := history_media h.history (hconnection.trans connected)
          (fun batch hbatch => h.queued batch (hmem batch hbatch)) hopened }

theorem mediaInvariant_new : MediaInvariant EncoderPath.new where
  disconnected _ := rfl
  connection hconnected := absurd rfl hconnected
  queued batch hbatch := by cases hbatch
  opened := trivial
  history := Splits.nil

/-- Every batch of media was sent in order, and was produced by the committed encoder of its
epoch. -/
structure MediaOrder (s : SenderState) : Prop where
  committed : committedAt s.trace = s.session.encoder.committedEncoder
  ordered : Splits MediaRule s.trace

theorem mediaOrder_of_limits (P : SenderPlatform) {s : SenderState}
    (h : TransitionSystem.Reachable ((senderSystem P).restrict mediaLimits.Meets) s) :
    MediaOrder s := by
  have hchange : ∀ p q, Bounded p.encoder → Logged p ∧ MediaInvariant p →
      Change mediaLimits p q → Logged q ∧ MediaInvariant q :=
    fun p q _ hp hstep => ⟨logged_change hp.1 hstep, mediaInvariant_change hp.1 hp.2 hstep⟩
  obtain ⟨-, hlogged, hinvariant⟩ := path_invariant ⟨logged_new, mediaInvariant_new⟩ hchange h
  exact ⟨hlogged.committedAt, hinvariant.history⟩

/-! ## Deltas of two encoders -/

/-- What an encoder produces outside a transaction. -/
def sampleDelta (encoderGeneration streamEpoch height : Nat) : NativeEncoderAccessUnit where
  data := [7]
  isKeyframe := false
  ptsUs := 0
  encodedAtUs := 0
  transactionId := 0
  encoderGeneration := encoderGeneration
  streamEpoch := streamEpoch
  height := height

/-- The encoder of the reconfiguration goes on after its keyframe. -/
def continuing : List SenderStep :=
  committing ++ [.ingestEncoderAccessUnit (sampleDelta 8 2 1080), .flushPending]

theorem mediaOrder_continuing : MediaOrder (senderRun continuing) :=
  mediaOrder_of_limits samplePlatform (reachable_limitedRun (by decide +kernel))

/-- The transport does not take the configuration of the first encoder, whose delta arrives
next. -/
def unconfigured : List SenderStep :=
  streamingSteps ++ receiving 4 (.capabilities ⟨[⟨some sampleFormat, 1000000, 31⟩]⟩) ++
    [.setStreamConfig sampleParams, .reportEncoderStarted 0 7 1 720,
      .schedule [{ Answers.quiet with sendControl := .error .sendFailed }], .publishWhenStreaming,
      .ingestEncoderAccessUnit (sampleDelta 7 1 720), .flushPending]

def unconfiguredBatch : VideoDatagramBatch where
  datagrams := [6 :: putBE 4 1 ++ putBE 8 1 ++ putBE 8 0 ++ putBE 8 0 ++ putBE 2 0 ++ putBE 2 1 ++ [7]]
  encodedBytes := 34
  keyframe := false

/-- Media of epoch 1 is sent, and the Receiver was told no epoch. -/
theorem mediaOrder_fails :
    (senderSystem samplePlatform).Reachable (senderRun unconfigured) ∧
      ¬MediaOrder (senderRun unconfigured) := by
  refine ⟨reachable_senderRun unconfigured, fun h => ?_⟩
  have hsplit : (senderRun unconfigured).trace = (senderRun unconfigured).trace.dropLast ++
      .mediaSent ⟨1⟩ unconfiguredBatch :: [] := by decide +kernel
  have hsent : SendsInOrder (senderRun unconfigured).trace.dropLast ⟨1⟩ unconfiguredBatch :=
    h.ordered _ _ _ hsplit
  have htold : told (senderRun unconfigured).trace.dropLast = [] := by decide +kernel
  have hconfigured := hsent.configured _ (List.mem_singleton_self _)
  rw [htold] at hconfigured
  cases hconfigured

end PicooCamera.Sender
