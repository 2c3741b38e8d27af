import PicooCamera.Sender.OperationSimulation

/-!
# Integrity of encoder transactions

`TransactionLog` says what the marks of a run may be: one transaction at a time,
with a new directive and, for a reconfiguration, an epoch of its own; it ends with
its keyframe, or with what there was before it. The session keeps to it.
-/

namespace PicooCamera.Sender

open PicooCamera.Library PicooCamera.Protocol PicooCamera.Packet PicooCamera.Session
open PicooCamera.Pairing PicooCamera.Transport

/-! ## The log -/

/-- What a keyframe commits. -/
structure CommittedEncoder where
  generation : Nat
  streamEpoch : Nat
  height : Nat
  format : Option SourceFormat
  deriving DecidableEq

structure OpenTransaction where
  directive : EncoderDirective
  before : EncoderSnapshot
  /-- The encoder that was started for it. -/
  generation : Option Nat
  deriving DecidableEq

structure TransactionLog where
  committed : CommittedEncoder
  applying : Option OpenTransaction
  lastEpoch : Nat
  /-- The epoch that no transaction has taken yet. -/
  unused : Option Nat
  lastDirectiveId : Nat
  deriving DecidableEq

def TransactionLog.new : TransactionLog where
  committed := ⟨0, initialStreamEpoch, 0, none⟩
  applying := none
  lastEpoch := initialStreamEpoch
  unused := none
  lastDirectiveId := 0

/-- The facts are of the keyframe that the transaction waits for. -/
structure OpenTransaction.Matches (t : OpenTransaction) (facts : EncodedFacts) : Prop where
  directive : facts.transactionId = t.directive.id
  generation : t.generation = some facts.encoderGeneration
  streamEpoch : facts.streamEpoch = t.directive.streamEpoch
  height : facts.height = t.directive.targetFormat.height
  keyframe : facts.isKeyframe = true

/-- A reconfiguration takes the new epoch, a recovery keeps the committed one. -/
def TransactionLog.epochFor (log : TransactionLog) : EncoderDirectiveKind → Option Nat
  | .localRequest => log.unused
  | .recovery => some log.committed.streamEpoch

namespace SenderMark

/-- Whether the mark is about the encoder or its transactions. -/
def isTransactional : SenderMark → Bool
  | .allocated _ => true
  | .began _ _ => true
  | .started _ => true
  | .rolledBack _ _ => true
  | .bound _ _ => true
  | .observed _ => true
  | .committed _ _ => true
  | _ => false

end SenderMark

/-- The marks are those of a log. -/
inductive TransactionLog.Records : List SenderMark → TransactionLog → Prop
  | new : Records [] TransactionLog.new
  | other {marks : List SenderMark} {log : TransactionLog} (h : Records marks log)
      {mark : SenderMark} (hother : mark.isTransactional = false) : Records (marks ++ [mark]) log
  | bound {marks : List SenderMark} {log : TransactionLog} (h : Records marks log)
      {generation height : Nat} (hidle : log.applying = none)
      (hfirst : log.committed.generation = 0) (hshaped : generation ≠ 0) :
      Records (marks ++ [.bound generation height])
        { log with
          committed := { log.committed with generation := generation, height := height } }
  | observed {marks : List SenderMark} {log : TransactionLog} (h : Records marks log)
      {format : SourceFormat} (hidle : log.applying = none)
      (hfirst : log.committed.format = none) :
      Records (marks ++ [.observed format])
        { log with committed := { log.committed with format := some format } }
  | allocated {marks : List SenderMark} {log : TransactionLog} (h : Records marks log)
      {streamEpoch : Nat} (hidle : log.applying = none) (hnew : log.lastEpoch < streamEpoch) :
      Records (marks ++ [.allocated streamEpoch])
        { log with lastEpoch := streamEpoch, unused := some streamEpoch }
  | began {marks : List SenderMark} {log : TransactionLog} (h : Records marks log)
      {directive : EncoderDirective} {before : EncoderSnapshot} (hidle : log.applying = none)
      (hnew : log.lastDirectiveId < directive.id)
      (hepoch : log.epochFor directive.kind = some directive.streamEpoch)
      (hgeneration : before.encoderGeneration = log.committed.generation)
      (hcurrent : before.streamEpoch = log.committed.streamEpoch) :
      Records (marks ++ [.began directive before])
        { log with
          applying := some ⟨directive, before, none⟩
          unused := none
          lastDirectiveId := directive.id }
  | started {marks : List SenderMark} {log : TransactionLog} (h : Records marks log)
      {t : OpenTransaction} {generation : Nat} (happlying : log.applying = some t)
      (hfirst : t.generation = none) :
      Records (marks ++ [.started generation])
        { log with applying := some { t with generation := some generation } }
  | rolledBack {marks : List SenderMark} {log : TransactionLog} (h : Records marks log)
      {t : OpenTransaction} (happlying : log.applying = some t) :
      Records (marks ++ [.rolledBack t.directive t.before]) { log with applying := none }
  | committed {marks : List SenderMark} {log : TransactionLog} (h : Records marks log)
      {t : OpenTransaction} {facts : EncodedFacts} (happlying : log.applying = some t)
      (hmatches : t.Matches facts) :
      Records (marks ++ [.committed t.directive facts])
        { log with
          committed := ⟨facts.encoderGeneration, facts.streamEpoch, facts.height,
            some t.directive.targetFormat⟩
          applying := none }

/-! ## The log of the session -/

namespace EncoderState

def committedEncoder (e : EncoderState) : CommittedEncoder where
  generation := e.committedEncoderGeneration
  streamEpoch := e.currentStreamEpoch
  height := e.committedEncoderHeight
  format := e.committedSourceFormat

/-- What a transaction of the encoder would restore. -/
def snapshotBefore (e : EncoderState) (transaction : EncoderTransaction) : EncoderSnapshot where
  streamConfig := transaction.rollback.streamConfig
  streamConfigSent := transaction.rollback.streamConfigSent
  encoderGeneration := transaction.rollback.encoderGeneration
  streamEpoch := e.currentStreamEpoch

def openTransaction (e : EncoderState) : Option OpenTransaction :=
  match e.applyState with
  | .committed => none
  | .applying transaction =>
      some ⟨transaction.directive, e.snapshotBefore transaction, transaction.expectedGeneration⟩

end EncoderState

/-- The log is that of the encoder. -/
structure TransactionLog.Describes (log : TransactionLog) (e : EncoderState) : Prop where
  committed : log.committed = e.committedEncoder
  applying : log.applying = e.openTransaction
  lastEpoch : log.lastEpoch = e.lastAllocatedStreamEpoch
  nextDirective : log.lastDirectiveId + 1 = e.nextEncoderDirectiveId

/-- What the session knows of its transaction beside the log. -/
structure Resumable (e : EncoderState) (transaction : EncoderTransaction) : Prop where
  generation : transaction.rollback.encoderGeneration = e.committedEncoderGeneration
  recovery : transaction.directive.kind = .recovery →
    transaction.directive.streamEpoch = e.currentStreamEpoch

/-- What a change of the encoder leaves of the log. -/
structure SameLog (e e' : EncoderState) : Prop where
  committed : e'.committedEncoder = e.committedEncoder
  applying : e'.openTransaction = e.openTransaction
  lastEpoch : e'.lastAllocatedStreamEpoch = e.lastAllocatedStreamEpoch
  nextDirective : e'.nextEncoderDirectiveId = e.nextEncoderDirectiveId

namespace TransactionLog

variable {log : TransactionLog} {e e' : EncoderState} {marks : List SenderMark}

theorem Describes.of_same (h : log.Describes e) (hsame : SameLog e e') : log.Describes e' where
  committed := h.committed.trans hsame.committed.symm
  applying := h.applying.trans hsame.applying.symm
  lastEpoch := h.lastEpoch.trans hsame.lastEpoch.symm
  nextDirective := h.nextDirective.trans hsame.nextDirective.symm

theorem Records.others (h : Records marks log) {more : List SenderMark}
    (hmore : ∀ mark ∈ more, mark.isTransactional = false) : Records (marks ++ more) log := by
  induction more using List.reverseRecOn with
  | nil => rwa [List.append_nil]
  | append_singleton more mark ih =>
      rw [← List.append_assoc]
      exact (ih fun m hm => hmore m (List.mem_append_left _ hm)).other
        (hmore mark (List.mem_append_right _ (List.mem_singleton_self mark)))

end TransactionLog

theorem SenderMark.not_transactional_of_minor {mark : SenderMark} (h : mark.isMinor) :
    mark.isTransactional = false := by
  cases mark <;> first | rfl | cases h

/-- The path has a log. -/
structure Logged (p : EncoderPath) : Prop where
  log : ∃ log : TransactionLog, TransactionLog.Records p.marks log ∧ log.Describes p.encoder
  resumable : ∀ transaction, p.encoder.applyState = .applying transaction →
    Resumable p.encoder transaction

theorem idle_openTransaction {e : EncoderState} (h : e.applyState = .committed) :
    e.openTransaction = none := by
  unfold EncoderState.openTransaction
  rw [h]

theorem applying_openTransaction {e : EncoderState} {transaction : EncoderTransaction}
    (h : e.applyState = .applying transaction) :
    e.openTransaction = some ⟨transaction.directive, e.snapshotBefore transaction,
      transaction.expectedGeneration⟩ := by
  unfold EncoderState.openTransaction
  rw [h]

theorem resumable_of_idle {e : EncoderState} (h : e.applyState = .committed)
    (transaction : EncoderTransaction) (happlying : e.applyState = .applying transaction) :
    Resumable e transaction := by
  rw [h] at happlying
  cases happlying

theorem sameLog_stage (e : EncoderState) (config : StreamConfigParams) :
    SameLog e (e.stageStreamConfig config) where
  committed := rfl
  applying := by
    unfold EncoderState.openTransaction EncoderState.stageStreamConfig
    cases e.applyState <;> rfl
  lastEpoch := rfl
  nextDirective := rfl

namespace Logged

variable {L : Limits} {p q : EncoderPath}

theorem of_same (h : Logged p) (hsame : SameLog p.encoder q.encoder)
    (hresumable : ∀ transaction, q.encoder.applyState = .applying transaction →
      Resumable q.encoder transaction) {more : List SenderMark} (hmarks : q.marks = p.marks ++ more)
    (hmore : ∀ mark ∈ more, mark.isTransactional = false) : Logged q where
  log := by
    obtain ⟨log, hrecords, hdescribes⟩ := h.log
    refine ⟨log, ?_, hdescribes.of_same hsame⟩
    rw [hmarks]
    exact hrecords.others hmore
  resumable := hresumable

theorem of_encoder (h : Logged p) (hencoder : q.encoder = p.encoder) {more : List SenderMark}
    (hmarks : q.marks = p.marks ++ more)
    (hmore : ∀ mark ∈ more, mark.isTransactional = false) : Logged q := by
  refine h.of_same ⟨?_, ?_, ?_, ?_⟩ ?_ hmarks hmore
  · rw [hencoder]
  · rw [hencoder]
  · rw [hencoder]
  · rw [hencoder]
  · rw [hencoder]
    exact h.resumable

theorem rollBack (h : Logged p) {transaction : EncoderTransaction}
    (happlying : p.encoder.applyState = .applying transaction) :
    Logged (p.rollBack transaction) where
  log := by
    obtain ⟨log, hrecords, hdescribes⟩ := h.log
    have hopen := hdescribes.applying.trans (applying_openTransaction happlying)
    refine ⟨_, hrecords.rolledBack hopen, ?_, rfl, hdescribes.lastEpoch,
      hdescribes.nextDirective⟩
    have hgeneration := (h.resumable transaction happlying).generation
    rw [hdescribes.committed]
    unfold EncoderState.committedEncoder
    exact congrArg (fun generation => CommittedEncoder.mk generation _ _ _) hgeneration.symm
  resumable _ hagain := by cases hagain

theorem begun {directive : EncoderDirective} {now : Instant} {log : TransactionLog}
    (hrecords : TransactionLog.Records p.marks log) (hdescribes : log.Describes p.encoder)
    (hidle : p.encoder.applyState = .committed)
    (hfresh : directive.id = p.encoder.nextEncoderDirectiveId)
    (hepoch : log.epochFor directive.kind = some directive.streamEpoch)
    (hrecovery : directive.kind = .recovery →
      directive.streamEpoch = p.encoder.currentStreamEpoch) : Logged (p.begin directive now) := by
  have hbegun : (p.encoder.begun directive now).applyState = .applying
      ⟨directive, p.encoder.rollback, false, none, now + encoderApplyTimeout⟩ := by
    unfold EncoderState.begun
    rw [hidle]
    rfl
  have hnext := hdescribes.nextDirective
  refine ⟨⟨_, hrecords.began (hdescribes.applying.trans (idle_openTransaction hidle))
    (by omega) hepoch ?_ ?_, hdescribes.committed, ?_, hdescribes.lastEpoch, ?_⟩, ?_⟩
  · rw [hdescribes.committed]
    rfl
  · rw [hdescribes.committed]
    rfl
  · exact (applying_openTransaction hbegun).symm
  · change directive.id + 1 = p.encoder.nextEncoderDirectiveId + 1
    rw [hfresh]
  · intro transaction happlying
    rw [show (p.begin directive now).encoder.applyState = _ from hbegun] at happlying
    cases happlying
    exact ⟨rfl, hrecovery⟩

theorem tearDown (h : Logged p) : Logged p.aborted.released := by
  have haborted : Logged p.aborted := by
    unfold EncoderPath.aborted
    split
    · exact h
    next transaction happlying => exact h.rollBack happlying
  have hidle : p.aborted.encoder.applyState = .committed := by
    unfold EncoderPath.aborted
    split
    next hidle => exact hidle
    · rfl
  refine haborted.of_same ⟨rfl, ?_, rfl, rfl⟩ (resumable_of_idle hidle)
    (List.append_nil _).symm nofun
  exact (idle_openTransaction hidle).trans (idle_openTransaction hidle).symm

theorem observe (h : Logged p) (hidle : p.encoder.applyState = .committed) :
    Logged p.observe := by
  unfold EncoderPath.observe
  split
  next config hconfig hnone =>
    obtain ⟨log, hrecords, hdescribes⟩ := h.log
    have hopen := hdescribes.applying.trans (idle_openTransaction hidle)
    have hformat : log.committed.format = none := by
      rw [hdescribes.committed]
      exact hnone
    refine ⟨⟨_, hrecords.observed hopen hformat, ?_, ?_, hdescribes.lastEpoch,
      hdescribes.nextDirective⟩, ?_⟩
    · rw [hdescribes.committed]
      rfl
    · exact hdescribes.applying
    · exact resumable_of_idle hidle
  · exact h

theorem commit (h : Logged p) {transaction : EncoderTransaction} {facts : EncodedFacts}
    {config : StreamConfigParams} (happlying : p.encoder.applyState = .applying transaction)
    (hcompletes : Completes transaction facts config) :
    Logged ((p.setEncoder (p.encoder.committedBy transaction facts config)).mark
      (.committed transaction.directive facts)) := by
  obtain ⟨log, hrecords, hdescribes⟩ := h.log
  have hopen := hdescribes.applying.trans (applying_openTransaction happlying)
  obtain ⟨hdirective, hexpected⟩ := of_decide_eq_true hcompletes.matched
  obtain ⟨hid, hepoch, hheight⟩ := of_decide_eq_true hdirective
  have hrecovery := (h.resumable transaction happlying).recovery
  have hformat := sourceFormat_of_matches hcompletes.format
  have hcommitted : (p.encoder.committedBy transaction facts config).committedEncoder =
      ⟨facts.encoderGeneration, facts.streamEpoch, facts.height,
        some transaction.directive.targetFormat⟩ := by
    unfold EncoderState.committedBy
    split
    next hkind =>
      change CommittedEncoder.mk facts.encoderGeneration p.encoder.currentStreamEpoch facts.height
        (some config.sourceFormat) = _
      rw [hformat, ← hrecovery hkind, hepoch]
    · change CommittedEncoder.mk facts.encoderGeneration transaction.directive.streamEpoch
        facts.height (some config.sourceFormat) = _
      rw [hformat, hepoch]
  have hidle : (p.encoder.committedBy transaction facts config).applyState = .committed := by
    unfold EncoderState.committedBy
    split <;> rfl
  have hsame : (p.encoder.committedBy transaction facts config).lastAllocatedStreamEpoch =
        p.encoder.lastAllocatedStreamEpoch ∧
      (p.encoder.committedBy transaction facts config).nextEncoderDirectiveId =
        p.encoder.nextEncoderDirectiveId := by
    unfold EncoderState.committedBy
    split <;> exact ⟨rfl, rfl⟩
  exact ⟨⟨_, hrecords.committed hopen ⟨hid.symm, hexpected, hepoch.symm, hheight.symm,
    hcompletes.keyframe⟩, hcommitted.symm, (idle_openTransaction hidle).symm,
    hdescribes.lastEpoch.trans hsame.1.symm, hdescribes.nextDirective.trans hsame.2.symm⟩,
    resumable_of_idle hidle⟩

end Logged

theorem logged_change {L : Limits} {p q : EncoderPath} (h : Logged p) (hchange : Change L p q) :
    Logged q := by
  cases hchange with
  | note mark minor =>
      exact h.of_encoder rfl rfl (List.forall_mem_singleton.mpr
        (SenderMark.not_transactional_of_minor minor))
  | stage config =>
      refine h.of_same (sameLog_stage _ _) ?_ (List.append_nil _).symm nofun
      intro transaction happlying
      cases hstate : p.encoder.applyState with
      | committed =>
          change (p.encoder.applyState.reduce .streamConfigStaged).2 = _ at happlying
          rw [hstate] at happlying
          cases happlying
      | applying before =>
          change (p.encoder.applyState.reduce .streamConfigStaged).2 = _ at happlying
          rw [hstate] at happlying
          cases happlying
          have hbefore := h.resumable before hstate
          exact ⟨hbefore.generation, hbefore.recovery⟩
  | bind encoderGeneration height idle shaped first =>
      obtain ⟨log, hrecords, hdescribes⟩ := h.log
      have hopen := hdescribes.applying.trans (idle_openTransaction idle)
      have hfirst : log.committed.generation = 0 := by
        rw [hdescribes.committed]
        exact first
      refine ⟨⟨_, hrecords.bound hopen hfirst shaped, ?_, hdescribes.applying,
        hdescribes.lastEpoch, hdescribes.nextDirective⟩, resumable_of_idle idle⟩
      rw [hdescribes.committed]
      rfl
  | start transaction encoderGeneration applying first =>
      obtain ⟨log, hrecords, hdescribes⟩ := h.log
      have hopen := hdescribes.applying.trans (applying_openTransaction applying)
      refine ⟨⟨_, hrecords.started hopen first, hdescribes.committed, rfl, hdescribes.lastEpoch,
        hdescribes.nextDirective⟩, ?_⟩
      intro after happlying
      cases happlying
      have hbefore := h.resumable transaction applying
      exact ⟨hbefore.generation, hbefore.recovery⟩
  | begin directive now idle fresh recovery epoch =>
      obtain ⟨log, hrecords, hdescribes⟩ := h.log
      refine Logged.begun hrecords hdescribes idle fresh ?_ fun _ => epoch
      rw [recovery, epoch]
      unfold TransactionLog.epochFor
      rw [hdescribes.committed]
      rfl
  | reconfigure directive now idle fresh wanted epoch room =>
      obtain ⟨log, hrecords, hdescribes⟩ := h.log
      have hopen := hdescribes.applying.trans (idle_openTransaction idle)
      have hnew : log.lastEpoch < p.encoder.lastAllocatedStreamEpoch + 1 := by
        rw [hdescribes.lastEpoch]
        exact Nat.lt_succ_self _
      refine @Logged.begun p.allocate directive now _ (hrecords.allocated hopen hnew)
        ⟨hdescribes.committed, hdescribes.applying, rfl, hdescribes.nextDirective⟩ idle fresh ?_ ?_
      · rw [wanted, epoch]
        rfl
      · intro hrecovery
        rw [wanted] at hrecovery
        cases hrecovery
  | rollBack transaction applying limit => exact h.rollBack applying
  | tearDown => exact h.tearDown
  | close generation asked => exact h.of_encoder rfl rfl (List.forall_mem_singleton.mpr rfl)
  | adopt generation free polled =>
      exact h.of_encoder rfl rfl (List.forall_mem_singleton.mpr rfl)
  | receive messageId newer => exact h.of_encoder rfl (List.append_nil _).symm nofun
  | dispatch session envelope connected generation newer =>
      exact h.of_encoder rfl rfl (List.forall_mem_singleton.mpr rfl)
  | publish session messageId config wire connected idle epoch =>
      refine h.of_same ⟨rfl, ?_, rfl, rfl⟩ (resumable_of_idle idle) rfl
        (List.forall_mem_singleton.mpr rfl)
      exact (idle_openTransaction idle).trans (idle_openTransaction idle).symm
  | announce transaction session messageId wire connected applying epoch limit =>
      exact h.of_encoder rfl rfl (List.forall_mem_singleton.mpr rfl)
  | commit transaction facts config batch connected applying completes announced carries =>
      exact (h.commit applying completes).of_encoder rfl rfl (List.forall_mem_singleton.mpr rfl)
  | enqueue facts batch connected idle committed carries limit =>
      exact (h.observe idle).of_encoder rfl rfl (List.forall_mem_singleton.mpr rfl)
  | makeRoom => exact h.of_encoder rfl (List.append_nil _).symm nofun
  | clear => exact h.of_encoder rfl (List.append_nil _).symm nofun
  | flush session sent rest connected split =>
      refine h.of_encoder rfl rfl ?_
      intro mark hmark
      obtain ⟨batch, -, rfl⟩ := List.mem_map.mp hmark
      rfl

/-! ## Epochs and directives are not reused -/

/-- The numbers increase, up to the last one. -/
structure Increasing (numbers : List Nat) (last : Nat) : Prop where
  ordered : numbers.Pairwise (· < ·)
  bound : ∀ number ∈ numbers, number ≤ last

theorem Increasing.push {numbers : List Nat} {last next : Nat} (h : Increasing numbers last)
    (hnext : last < next) : Increasing (numbers ++ [next]) next where
  ordered := by
    rw [List.pairwise_append]
    refine ⟨h.ordered, List.pairwise_singleton _ _, ?_⟩
    intro number hnumber later hlater
    rw [List.mem_singleton.mp hlater]
    exact (h.bound number hnumber).trans_lt hnext
  bound number hnumber := by
    cases List.mem_append.mp hnumber with
    | inl hold => exact (h.bound number hold).trans hnext.le
    | inr hnew => exact (List.mem_singleton.mp hnew).le

namespace SenderMark

def allocatedEpoch? : SenderMark → Option Nat
  | .allocated streamEpoch => some streamEpoch
  | _ => none

def directiveId? : SenderMark → Option Nat
  | .began directive _ => some directive.id
  | _ => none

/-- The epoch of a reconfiguration. -/
def reconfiguredEpoch? : SenderMark → Option Nat
  | .began directive _ =>
      if directive.kind = .localRequest then some directive.streamEpoch else none
  | _ => none

end SenderMark

/-- The epochs that were allocated, the first one of every session included. -/
def allocatedEpochs (marks : List SenderMark) : List Nat :=
  initialStreamEpoch :: marks.filterMap SenderMark.allocatedEpoch?

def directiveIds (marks : List SenderMark) : List Nat := marks.filterMap SenderMark.directiveId?

/-- The epochs of the reconfigurations. -/
def reconfiguredEpochs (marks : List SenderMark) : List Nat :=
  initialStreamEpoch :: marks.filterMap SenderMark.reconfiguredEpoch?

/-- What the numbers of a log are. -/
structure TransactionLog.Numbered (marks : List SenderMark) (log : TransactionLog) : Prop where
  epochs : Increasing (allocatedEpochs marks) log.lastEpoch
  directives : Increasing (directiveIds marks) log.lastDirectiveId
  reconfigured : ∃ last, Increasing (reconfiguredEpochs marks) last ∧ last ≤ log.lastEpoch ∧
    ∀ streamEpoch ∈ log.unused, last < streamEpoch ∧ streamEpoch = log.lastEpoch

theorem TransactionLog.Records.numbered {marks : List SenderMark} {log : TransactionLog}
    (h : Records marks log) : Numbered marks log := by
  -- A mark that has none of the numbers leaves the three lists as they are.
  have hkept : ∀ {marks : List SenderMark} {log log' : TransactionLog} {mark : SenderMark},
      Numbered marks log → mark.allocatedEpoch? = none → mark.directiveId? = none →
        mark.reconfiguredEpoch? = none → log'.lastEpoch = log.lastEpoch →
          log'.unused = log.unused → log'.lastDirectiveId = log.lastDirectiveId →
            Numbered (marks ++ [mark]) log' := by
    intro marks log log' mark hnumbered hepoch hid hreconfigured hlast hunused hdirective
    refine ⟨?_, ?_, ?_⟩
    · rw [allocatedEpochs, List.filterMap_append, List.filterMap_cons_none hepoch,
        List.filterMap_nil, List.append_nil, hlast]
      exact hnumbered.epochs
    · rw [directiveIds, List.filterMap_append, List.filterMap_cons_none hid, List.filterMap_nil,
        List.append_nil, hdirective]
      exact hnumbered.directives
    · rw [reconfiguredEpochs, List.filterMap_append, List.filterMap_cons_none hreconfigured,
        List.filterMap_nil, List.append_nil, hlast, hunused]
      exact hnumbered.reconfigured
  induction h with
  | new =>
      have hfirst : Increasing [initialStreamEpoch] initialStreamEpoch :=
        ⟨List.pairwise_singleton _ _, fun _ hnumber => (List.mem_singleton.mp hnumber).le⟩
      exact ⟨hfirst, ⟨List.Pairwise.nil, nofun⟩, initialStreamEpoch, hfirst, le_rfl, nofun⟩
  | @other marks log h mark hother ih =>
      cases mark <;> first | exact hkept ih rfl rfl rfl rfl rfl rfl | cases hother
  | bound h hidle hfirst hshaped ih => exact hkept ih rfl rfl rfl rfl rfl rfl
  | observed h hidle hfirst ih => exact hkept ih rfl rfl rfl rfl rfl rfl
  | started h happlying hfirst ih => exact hkept ih rfl rfl rfl rfl rfl rfl
  | rolledBack h happlying ih => exact hkept ih rfl rfl rfl rfl rfl rfl
  | committed h happlying hmatches ih => exact hkept ih rfl rfl rfl rfl rfl rfl
  | @allocated marks log h streamEpoch hidle hnew ih =>
      obtain ⟨last, hincreasing, hle, hunused⟩ := ih.reconfigured
      refine ⟨?_, ?_, last, ?_, hle.trans hnew.le, ?_⟩
      · rw [allocatedEpochs, List.filterMap_append]
        exact ih.epochs.push hnew
      · rw [directiveIds, List.filterMap_append]
        exact (List.append_nil _).symm ▸ ih.directives
      · rw [reconfiguredEpochs, List.filterMap_append]
        exact (List.append_nil _).symm ▸ hincreasing
      · intro epoch hepoch
        rw [← Option.some.inj hepoch]
        exact ⟨hle.trans_lt hnew, rfl⟩
  | @began marks log h directive before hidle hnew hepoch hgeneration hcurrent ih =>
      obtain ⟨last, hincreasing, hle, hunused⟩ := ih.reconfigured
      refine ⟨?_, ?_, ?_⟩
      · rw [allocatedEpochs, List.filterMap_append]
        exact (List.append_nil _).symm ▸ ih.epochs
      · rw [directiveIds, List.filterMap_append]
        exact ih.directives.push hnew
      · rw [reconfiguredEpochs, List.filterMap_append]
        cases hkind : directive.kind with
        | localRequest =>
            rw [hkind] at hepoch
            obtain ⟨hlt, heq⟩ := hunused directive.streamEpoch hepoch
            refine ⟨directive.streamEpoch, ?_, heq.le, nofun⟩
            have hreconfigured : (SenderMark.began directive before).reconfiguredEpoch? =
                some directive.streamEpoch := if_pos hkind
            rw [List.filterMap_cons_some hreconfigured]
            exact hincreasing.push hlt
        | recovery =>
            refine ⟨last, ?_, hle, nofun⟩
            have hreconfigured : (SenderMark.began directive before).reconfiguredEpoch? = none :=
              if_neg (by rw [hkind]; nofun)
            rw [List.filterMap_cons_none hreconfigured, List.filterMap_nil, List.append_nil]
            exact hincreasing

/-! ## The integrity of a run -/

/-- The run keeps to the log, and no epoch or directive is used twice. -/
structure TransactionIntegrity (s : SenderState) : Prop where
  recorded : ∃ log, TransactionLog.Records s.trace log ∧ log.Describes s.session.encoder
  epochs : (allocatedEpochs s.trace).Pairwise (· < ·)
  directives : (directiveIds s.trace).Pairwise (· < ·)
  reconfigured : (reconfiguredEpochs s.trace).Pairwise (· < ·)

theorem logged_new : Logged EncoderPath.new where
  log := ⟨TransactionLog.new, .new, rfl, rfl, rfl, rfl⟩
  resumable := resumable_of_idle rfl

theorem transactions_keepIntegrity (P : SenderPlatform) {s : SenderState}
    (h : (senderSystem P).Reachable s) : TransactionIntegrity s := by
  obtain ⟨-, hlogged⟩ := path_invariant logged_new (fun _ _ _ => logged_change)
    (reachable_unlimited h)
  obtain ⟨log, hrecords, hdescribes⟩ := hlogged.log
  have hnumbered := hrecords.numbered
  obtain ⟨last, hreconfigured, -, -⟩ := hnumbered.reconfigured
  exact ⟨⟨log, hrecords, hdescribes⟩, hnumbered.epochs.ordered, hnumbered.directives.ordered,
    hreconfigured.ordered⟩

/-! ## A session with one Receiver -/

def sampleFormat : VideoFormat where
  codec := codecAvc
  profile := profileAvcHigh
  tier := tierAvc
  bitDepth := 8
  chroma := chromaYuv420
  codedSize := some ⟨1280, 720⟩
  visibleRect := some ⟨0, 0, 1280, 720⟩
  frameRate := some ⟨30, 1⟩
  color := some ⟨rangeLimited, bt709, bt709, bt709⟩

def sampleDigest : Bytes := List.replicate 32 5

/-- A platform for one Receiver, whose signatures verify, and for 720p and 1080p streams. -/
def samplePlatform : SenderPlatform where
  crypto :=
    { sha256 := fun _ => sampleDigest
      validKey := fun _ => true
      verify := fun _ _ _ => true
      sign := fun _ _ => List.replicate 64 1
      lowercase := id }
  codecs := fun _ _ => ⟨fun _ => none, fun _ => none⟩
  bitstream :=
    { levelIdc := fun _ => 31
      validateVisibleSize := fun _ _ _ => .ok ()
      sourceColor := fun _ => .ok (some ⟨1, 1, 1, false⟩)
      nalLengthSize := fun _ => 4
      videoFormat := fun _ _ => .ok sampleFormat
      alignAccessUnit := fun _ data => .ok data
      validatedVideoFormat := fun _ => .ok sampleFormat }

/-- What a 720p encoder produces. -/
def sampleParams : StreamConfigParams where
  width := 1280
  height := 720
  fps := 30
  bitrateBps := 4000000
  streamEpoch := 1
  mirrored := false
  rotation := 0
  configuration := ⟨.avc, [1, 100, 0, 31]⟩

def sampleIdentity : DeviceIdentity where
  deviceId := "picoo-sender"
  deviceName := "Sender"
  signingKey := List.replicate 32 6
  publicKey := List.replicate 32 8

def sampleStart : SenderState := SenderState.new sampleIdentity TrustedDeviceStore.new false

def senderRun (labels : List SenderStep) : SenderState :=
  labels.foldl (Core.next samplePlatform) sampleStart

theorem reachable_senderRun (labels : List SenderStep) :
    (senderSystem samplePlatform).Reachable (senderRun labels) := by
  have hstart : (senderSystem samplePlatform).Reachable sampleStart :=
    TransitionSystem.Reachable.of_init ⟨_, _, _, rfl⟩
  unfold senderRun
  generalize sampleStart = s at hstart
  induction labels generalizing s with
  | nil => exact hstart
  | cons label labels ih => exact ih _ (hstart.step rfl)

theorem reachable_limitedRun {L : Limits} {labels : List SenderStep}
    (h : TransitionSystem.MeetsAll L.Meets (Core.next samplePlatform) sampleStart labels) :
    ((senderSystem samplePlatform).restrict L.Meets).Reachable (senderRun labels) := by
  have hstart : ((senderSystem samplePlatform).restrict L.Meets).Reachable sampleStart :=
    TransitionSystem.Reachable.of_init ⟨_, _, _, rfl⟩
  exact TransitionSystem.Reachable.foldl (fun _ _ hmeets => ⟨hmeets, rfl⟩) hstart h

/-- The first encoder is bound; a reconfiguration of it fails after its start, and then the
recovery, too. -/
def failingTwice : List SenderStep :=
  [.reportEncoderStarted 0 7 1 720, .setStreamConfig sampleParams,
    .beginStreamReconfiguration ⟨.avc, 1080, 30⟩, .reportEncoderStarted 1 8 2 1080,
    .reportEncoderFailed 1 8, .reportEncoderFailed 2 0]

theorem transactions_keepIntegrity_failingTwice : TransactionIntegrity (senderRun failingTwice) :=
  transactions_keepIntegrity samplePlatform (reachable_senderRun failingTwice)

/-- The first start report of a session changes what is committed, without any transaction. -/
theorem firstStart_commits :
    (senderSystem samplePlatform).Reachable sampleStart ∧
      sampleStart.session.encoder.applyState = .committed ∧
      (Core.next samplePlatform sampleStart
        (.reportEncoderStarted 0 7 1 720)).session.encoder.committedEncoder ≠
          sampleStart.session.encoder.committedEncoder :=
  ⟨reachable_senderRun [], rfl, by decide⟩

end PicooCamera.Sender
