import PicooCamera.Session.ClockSync
import PicooCamera.Library.TransitionSystem

/-!
# Clock synchronisation of the receiver

The receiver issues pings and keeps the newest four of them. A pong counts only
when it names an outstanding ping, which it uses up. The ledger records beside the
session which pings were issued and which exchanges the mapper took in, each with
the era between two resets it belongs to.
-/

namespace PicooCamera.Receiver

open PicooCamera.Session PicooCamera.Library

def initialSyncIntervalUs : Nat := 250000

def steadySyncIntervalUs : Nat := 1000000

def maxPendingSyncSamples : Nat := 4

structure ClockSyncPing where
  sampleId : Nat
  receiverSendUs : Nat
  streamEpoch : Nat
  deriving DecidableEq, Repr

structure ClockSyncPong where
  sampleId : Nat
  receiverSendUs : Nat
  senderReceiveUs : Nat
  senderSendUs : Nat
  streamEpoch : Nat
  deriving DecidableEq, Repr

structure PendingClockSync where
  sampleId : Nat
  receiverSendUs : Nat
  streamEpoch : Nat
  deriving DecidableEq, Repr

def PendingClockSync.answeredBy (pending : PendingClockSync) (pong : ClockSyncPong) : Bool :=
  pending.sampleId == pong.sampleId && pending.receiverSendUs == pong.receiverSendUs &&
    pending.streamEpoch == pong.streamEpoch

theorem PendingClockSync.answeredBy_iff {p : PendingClockSync} {pong : ClockSyncPong} :
    p.answeredBy pong ↔ p.sampleId = pong.sampleId ∧
      p.receiverSendUs = pong.receiverSendUs ∧ p.streamEpoch = pong.streamEpoch := by
  unfold PendingClockSync.answeredBy
  simp only [Bool.and_eq_true, beq_iff_eq, and_assoc]

/-- The exchange that a pong completes. -/
def PendingClockSync.exchange (pending : PendingClockSync) (pong : ClockSyncPong)
    (receiverReceiveUs : Nat) : ClockSyncExchange where
  generation := pending.streamEpoch
  localSendUs := pending.receiverSendUs
  remoteReceiveUs := pong.senderReceiveUs
  remoteSendUs := pong.senderSendUs
  localReceiveUs := receiverReceiveUs

structure ReceiverClockSync (F : Type) where
  mapper : AffineClockMapper F
  pending : List PendingClockSync
  nextSampleId : Nat
  /-- In microseconds of the monotonic clock. -/
  nextSyncAt : Option Nat

variable {F : Type} [FloatArithmetic F]

namespace ReceiverClockSync

def default : ReceiverClockSync F := ⟨.new 0, [], 1, none⟩

def reset (c : ReceiverClockSync F) (streamEpoch : UInt32) (now : Nat) : ReceiverClockSync F where
  mapper := c.mapper.reset streamEpoch.toNat
  pending := []
  nextSampleId := 1
  nextSyncAt := some now

def clear (c : ReceiverClockSync F) : ReceiverClockSync F where
  mapper := c.mapper.reset 0
  pending := []
  nextSampleId := 1
  nextSyncAt := none

def due (c : ReceiverClockSync F) (now : Nat) : Bool :=
  c.nextSyncAt.any (· ≤ now)

def createPing (c : ReceiverClockSync F) (now receiverSendUs : Nat) :
    ReceiverClockSync F × Option ClockSyncPing :=
  if !c.due now || c.mapper.generation == 0 then (c, none) else
  let sampleId := c.nextSampleId
  if 2 ^ 64 ≤ sampleId + 1 then (c, none) else
  let c := { c with nextSampleId := sampleId + 1 }
  let streamEpoch := c.mapper.generation
  if 2 ^ 32 ≤ streamEpoch then (c, none) else
  let kept := if maxPendingSyncSamples ≤ c.pending.length then c.pending.drop 1 else c.pending
  ({ c with
      pending := kept ++ [⟨sampleId, receiverSendUs, streamEpoch⟩]
      nextSyncAt := some (now +
        if c.mapper.stable then steadySyncIntervalUs else initialSyncIntervalUs) },
    some ⟨sampleId, receiverSendUs, streamEpoch⟩)

def observePong (c : ReceiverClockSync F) (pong : ClockSyncPong) (receiverReceiveUs : Nat) :
    ReceiverClockSync F :=
  match c.pending.findIdx? (·.answeredBy pong) with
  | none => c
  | some index =>
      match c.pending[index]? with
      | none => c
      | some pending => { c with
          pending := c.pending.eraseIdx index
          mapper := c.mapper.observed (pending.exchange pong receiverReceiveUs) }

def estimateLocalTime (c : ReceiverClockSync F) (senderTimeUs : Nat) :
    Option ClockMappingEstimate :=
  c.mapper.estimateLocalTime senderTimeUs

end ReceiverClockSync

/-! ## The ledger -/

structure IssuedPing where
  era : Nat
  ping : ClockSyncPing
  deriving DecidableEq, Repr

/-- A sample of the mapper, with the ping it answers. -/
structure Contribution where
  era : Nat
  sampleId : Nat
  exchange : ClockSyncExchange
  deriving DecidableEq, Repr

structure Ledger (F : Type) where
  sync : ReceiverClockSync F
  /-- How many resets there were. -/
  era : Nat
  issued : List IssuedPing
  contributed : List Contribution

inductive ClockEvent where
  | ping (now receiverSendUs : Nat)
  | reset (streamEpoch : UInt32) (now : Nat)
  | clear
  | pong (pong : ClockSyncPong) (receiverReceiveUs : Nat)

/-- The exchange that the mapper takes in when `pong` arrives. -/
def ReceiverClockSync.contribution (c : ReceiverClockSync F) (pong : ClockSyncPong)
    (receiverReceiveUs : Nat) : Option ClockSyncExchange :=
  (c.pending.find? (·.answeredBy pong)).bind fun pending =>
    let exchange := pending.exchange pong receiverReceiveUs
    if (c.mapper.observe exchange).isOk then some exchange else none

namespace Ledger

def start : Ledger F := ⟨.default, 0, [], []⟩

def step (s : Ledger F) : ClockEvent → Ledger F
  | .ping now receiverSendUs =>
      let (sync, ping) := s.sync.createPing now receiverSendUs
      { s with sync := sync, issued := s.issued ++ (ping.map (⟨s.era, ·⟩)).toList }
  | .reset streamEpoch now =>
      { s with sync := s.sync.reset streamEpoch now, era := s.era + 1 }
  | .clear => { s with sync := s.sync.clear, era := s.era + 1 }
  | .pong pong receiverReceiveUs => { s with
      sync := s.sync.observePong pong receiverReceiveUs
      contributed := s.contributed ++
        ((s.sync.contribution pong receiverReceiveUs).map
          (⟨s.era, pong.sampleId, ·⟩)).toList }

/-- The exchanges of the current era that the mapper took in. -/
def current (s : Ledger F) : List ClockSyncExchange :=
  (s.contributed.filter (·.era = s.era)).map (·.exchange)

def issuedKeys (s : Ledger F) : List (Nat × Nat) :=
  s.issued.map fun i => (i.era, i.ping.sampleId)

def contributedKeys (s : Ledger F) : List (Nat × Nat) :=
  s.contributed.map fun c => (c.era, c.sampleId)

/-- What holds of every ledger: the pings have distinct names, each name contributes at most
once, every sample answers a ping of its era, and the mapper is what the exchanges of the
current era make of a fresh one. -/
structure ReplaySafe (s : Ledger F) : Prop where
  bounded : s.sync.pending.length ≤ maxPendingSyncSamples
  distinct : s.issuedKeys.Nodup
  once : s.contributedKeys.Nodup
  answers : ∀ c ∈ s.contributed, ∃ i ∈ s.issued, i.era = c.era ∧
    i.ping.sampleId = c.sampleId ∧ i.ping.receiverSendUs = c.exchange.localSendUs ∧
      i.ping.streamEpoch = c.exchange.generation
  estimate : s.sync.mapper =
    s.current.foldl AffineClockMapper.observed (.new s.sync.mapper.generation)

/-- What any pong can do: it contributes only as the answer to an outstanding ping of the
current epoch that has not contributed yet, and it changes nothing else of the estimate. -/
structure PongSafe (s : Ledger F) (pong : ClockSyncPong) (receiverReceiveUs : Nat) : Prop where
  outstanding : ∀ e, s.sync.contribution pong receiverReceiveUs = some e →
    ∃ p ∈ s.sync.pending, p.answeredBy pong ∧ p.streamEpoch = s.sync.mapper.generation ∧
      ⟨s.era, ⟨p.sampleId, p.receiverSendUs, p.streamEpoch⟩⟩ ∈ s.issued ∧
        (s.era, p.sampleId) ∉ s.contributedKeys ∧ e = p.exchange pong receiverReceiveUs
  other : s.sync.contribution pong receiverReceiveUs = none →
    (s.sync.observePong pong receiverReceiveUs).mapper = s.sync.mapper
  unmatched : (∀ p ∈ s.sync.pending, ¬p.answeredBy pong) →
    s.sync.observePong pong receiverReceiveUs = s.sync

end Ledger

/-! ## What one call does -/

namespace ReceiverClockSync

variable {c : ReceiverClockSync F}

omit [FloatArithmetic F] in
theorem createPing_cases (c : ReceiverClockSync F) (now receiverSendUs : Nat) :
    ((c.createPing now receiverSendUs).2 = none ∧
      (c.createPing now receiverSendUs).1.mapper = c.mapper ∧
      (c.createPing now receiverSendUs).1.pending = c.pending ∧
      c.nextSampleId ≤ (c.createPing now receiverSendUs).1.nextSampleId) ∨
    ∃ kept, kept <:+ c.pending ∧
      (c.pending.length ≤ maxPendingSyncSamples → kept.length < maxPendingSyncSamples) ∧
      (c.createPing now receiverSendUs).2 =
        some ⟨c.nextSampleId, receiverSendUs, c.mapper.generation⟩ ∧
      (c.createPing now receiverSendUs).1.mapper = c.mapper ∧
      (c.createPing now receiverSendUs).1.pending =
        kept ++ [⟨c.nextSampleId, receiverSendUs, c.mapper.generation⟩] ∧
      (c.createPing now receiverSendUs).1.nextSampleId = c.nextSampleId + 1 := by
  unfold createPing
  split
  · exact .inl ⟨rfl, rfl, rfl, Nat.le_refl _⟩
  · dsimp only
    split
    · exact .inl ⟨rfl, rfl, rfl, Nat.le_refl _⟩
    · split
      · exact .inl ⟨rfl, rfl, rfl, Nat.le_succ _⟩
      · refine .inr ⟨_, ?_, ?_, rfl, rfl, rfl, rfl⟩
        · split
          · exact List.drop_suffix _ _
          · exact List.suffix_refl _
        · intro hbounded
          split
          · rw [List.length_drop]
            unfold maxPendingSyncSamples at *
            omega
          · omega

theorem observePong_cases (c : ReceiverClockSync F) (pong : ClockSyncPong)
    (receiverReceiveUs : Nat) :
    ((∀ p ∈ c.pending, ¬p.answeredBy pong) ∧ c.observePong pong receiverReceiveUs = c ∧
      c.contribution pong receiverReceiveUs = none) ∨
    ∃ before p after, c.pending = before ++ p :: after ∧ p.answeredBy pong ∧
      c.observePong pong receiverReceiveUs = { c with
        pending := before ++ after
        mapper := c.mapper.observed (p.exchange pong receiverReceiveUs) } ∧
      c.contribution pong receiverReceiveUs =
        if (c.mapper.observe (p.exchange pong receiverReceiveUs)).isOk then
          some (p.exchange pong receiverReceiveUs) else none := by
  cases hfind : c.pending.find? (·.answeredBy pong) with
  | none =>
      have hnone := List.find?_eq_none.mp hfind
      refine .inl ⟨hnone, ?_, ?_⟩
      · have hindex : c.pending.findIdx? (·.answeredBy pong) = none :=
          List.findIdx?_eq_none_iff.mpr fun p hp => by simpa using hnone p hp
        rw [observePong, hindex]
      · rw [contribution, hfind]
        rfl
  | some p =>
      obtain ⟨hp, before, after, hsplit, hbefore⟩ := List.find?_eq_some_iff_append.mp hfind
      have hindex : c.pending.findIdx? (·.answeredBy pong) = some before.length := by
        rw [hsplit, List.findIdx?_append, List.findIdx?_eq_none_iff.mpr, List.findIdx?_cons, hp]
        · simp
        · intro q hq
          simpa using hbefore q hq
      refine .inr ⟨before, p, after, hsplit, hp, ?_, ?_⟩
      · have hget : c.pending[before.length]? = some p := by
          rw [hsplit]
          simp
        have herase : c.pending.eraseIdx before.length = before ++ after := by
          rw [hsplit, List.eraseIdx_append_of_length_le (Nat.le_refl _)]
          simp
        rw [observePong, hindex]
        dsimp only
        rw [hget, herase]
      · rw [contribution, hfind]
        rfl

end ReceiverClockSync

/-! ## Runs -/

namespace Ledger

open ReceiverClockSync

variable {s : Ledger F}

/-- What the record of the pings says of the one that is outstanding as `p`. -/
structure Outstanding (s : Ledger F) (p : PendingClockSync) : Prop where
  named : p.sampleId < s.sync.nextSampleId
  epoch : p.streamEpoch = s.sync.mapper.generation
  issued : ⟨s.era, ⟨p.sampleId, p.receiverSendUs, p.streamEpoch⟩⟩ ∈ s.issued
  unused : (s.era, p.sampleId) ∉ s.contributedKeys

structure Coherent (s : Ledger F) : Prop extends ReplaySafe s where
  ordered : s.sync.pending.Pairwise (·.sampleId < ·.sampleId)
  open_ : ∀ p ∈ s.sync.pending, s.Outstanding p
  past : ∀ i ∈ s.issued, i.era ≤ s.era ∧
    (i.era = s.era → i.ping.sampleId < s.sync.nextSampleId)

theorem coherent_start : Coherent (start : Ledger F) where
  bounded := Nat.zero_le _
  distinct := List.nodup_nil
  once := List.nodup_nil
  answers := by simp [start]
  estimate := rfl
  ordered := List.Pairwise.nil
  open_ := by simp [start, ReceiverClockSync.default]
  past := by simp [start]

theorem Coherent.current_next (h : Coherent s) :
    s.contributed.filter (·.era = s.era + 1) = [] := by
  apply List.filter_eq_nil_iff.mpr
  intro c hc
  obtain ⟨i, hi, hera, _⟩ := h.answers c hc
  have := (h.past i hi).1
  simp only [decide_eq_true_eq]
  omega

theorem Coherent.reset (h : Coherent s) {sync : ReceiverClockSync F} {generation : Nat}
    (hmapper : sync.mapper = .new generation) (hpending : sync.pending = []) :
    Coherent { s with sync := sync, era := s.era + 1 } where
  bounded := by rw [hpending]; exact Nat.zero_le _
  distinct := h.distinct
  once := h.once
  answers := h.answers
  estimate := by
    unfold current
    dsimp only
    rw [h.current_next, hmapper]
    rfl
  ordered := by rw [hpending]; exact List.Pairwise.nil
  open_ := by
    intro p hp
    dsimp only at hp
    rw [hpending] at hp
    exact absurd hp (List.not_mem_nil)
  past := by
    intro i hi
    have hera := (h.past i hi).1
    dsimp only
    exact ⟨by omega, by omega⟩

theorem Coherent.next_unissued (h : Coherent s) :
    (s.era, s.sync.nextSampleId) ∉ s.issuedKeys := by
  intro hmem
  obtain ⟨i, hi, hkey⟩ := List.mem_map.mp hmem
  have hera := congrArg Prod.fst hkey
  have hid := congrArg Prod.snd hkey
  have := (h.past i hi).2 hera
  dsimp only at hid
  omega

theorem Coherent.next_unused (h : Coherent s) :
    (s.era, s.sync.nextSampleId) ∉ s.contributedKeys := by
  intro hmem
  obtain ⟨c, hc, hkey⟩ := List.mem_map.mp hmem
  obtain ⟨i, hi, hera, hid, _⟩ := h.answers c hc
  apply h.next_unissued
  rw [← hkey]
  exact List.mem_map.mpr ⟨i, hi, by rw [hera, hid]⟩

theorem Coherent.ping (h : Coherent s) (now receiverSendUs : Nat) :
    Coherent (s.step (.ping now receiverSendUs)) := by
  unfold step
  dsimp only
  obtain ⟨hping, hmapper, hpending, hnext⟩ | ⟨kept, hkept, hlength, hping, hmapper, hpending, hnext⟩ :=
    createPing_cases s.sync now receiverSendUs
  · rw [hping]
    simp only [Option.map_none, Option.toList_none, List.append_nil]
    exact {
      bounded := by rw [hpending]; exact h.bounded
      distinct := h.distinct
      once := h.once
      answers := h.answers
      estimate := by
        rw [hmapper]
        exact h.estimate
      ordered := by rw [hpending]; exact h.ordered
      open_ := by
        intro p hp
        dsimp only at hp
        rw [hpending] at hp
        have hopen := h.open_ p hp
        exact ⟨Nat.lt_of_lt_of_le hopen.named hnext, hmapper ▸ hopen.epoch, hopen.issued,
          hopen.unused⟩
      past := by
        intro i hi
        exact ⟨(h.past i hi).1, fun hera => Nat.lt_of_lt_of_le ((h.past i hi).2 hera) hnext⟩ }
  · rw [hping]
    simp only [Option.map_some, Option.toList_some]
    exact {
      bounded := by
        dsimp only
        rw [hpending, List.length_append, List.length_singleton]
        exact hlength h.bounded
      distinct := by
        unfold issuedKeys
        rw [List.map_append, List.map_singleton]
        exact List.nodup_append.mpr ⟨h.distinct, List.nodup_singleton _, by
          intro key hkey other hother heq
          rw [List.mem_singleton.mp hother] at heq
          exact h.next_unissued (heq ▸ hkey)⟩
      once := h.once
      answers := by
        intro c hc
        obtain ⟨i, hi, hrest⟩ := h.answers c hc
        exact ⟨i, List.mem_append_left _ hi, hrest⟩
      estimate := by
        rw [hmapper]
        exact h.estimate
      ordered := by
        dsimp only
        rw [hpending]
        refine List.pairwise_append.mpr ⟨h.ordered.sublist hkept.sublist,
          List.pairwise_singleton _ _, ?_⟩
        intro p hp q hq
        rw [List.mem_singleton.mp hq]
        exact (h.open_ p (hkept.mem hp)).named
      open_ := by
        intro p hp
        dsimp only at hp
        rw [hpending] at hp
        obtain hold | hnew := List.mem_append.mp hp
        · have hopen := h.open_ p (hkept.mem hold)
          exact ⟨by dsimp only; have := hopen.named; omega, hmapper ▸ hopen.epoch,
            List.mem_append_left _ hopen.issued, hopen.unused⟩
        · rw [List.mem_singleton.mp hnew]
          exact ⟨by dsimp only; omega, by dsimp only; rw [hmapper],
            List.mem_append_right _ (List.mem_singleton.mpr rfl), h.next_unused⟩
      past := by
        intro i hi
        dsimp only
        obtain hold | hnew := List.mem_append.mp hi
        · have hpast := h.past i hold
          exact ⟨hpast.1, fun hera => by have := hpast.2 hera; omega⟩
        · rw [List.mem_singleton.mp hnew]
          exact ⟨Nat.le_refl _, fun _ => by dsimp only; omega⟩ }

theorem Coherent.answered (h : Coherent s) {before after : List PendingClockSync}
    {p : PendingClockSync} (hsplit : s.sync.pending = before ++ p :: after)
    {mapper : AffineClockMapper F} {added : List Contribution}
    (hgeneration : mapper.generation = s.sync.mapper.generation)
    (hadded : ∀ c ∈ added, c.era = s.era ∧ c.sampleId = p.sampleId ∧
      c.exchange.localSendUs = p.receiverSendUs ∧ c.exchange.generation = p.streamEpoch)
    (hone : added.length ≤ 1)
    (hmapper : mapper =
      (added.map (·.exchange)).foldl AffineClockMapper.observed s.sync.mapper) :
    Coherent { s with
      sync := { s.sync with pending := before ++ after, mapper := mapper }
      contributed := s.contributed ++ added } := by
  have hsub : (before ++ after).Sublist s.sync.pending := by
    rw [hsplit]
    exact List.Sublist.append_left (List.sublist_cons_self p after) before
  have hopen : s.Outstanding p := h.open_ p (by rw [hsplit]; simp)
  have hkeys : ∀ key ∈ added.map fun c => (c.era, c.sampleId), key = (s.era, p.sampleId) := by
    intro key hkey
    obtain ⟨c, hc, rfl⟩ := List.mem_map.mp hkey
    rw [(hadded c hc).1, (hadded c hc).2.1]
  have hothers : ∀ q ∈ before ++ after, q.sampleId ≠ p.sampleId := by
    have hordered := h.ordered
    rw [hsplit] at hordered
    obtain ⟨_, hafter, hbetween⟩ := List.pairwise_append.mp hordered
    intro q hq
    obtain hfront | hback := List.mem_append.mp hq
    · exact Nat.ne_of_lt (hbetween q hfront p (List.mem_cons_self ..))
    · exact Nat.ne_of_gt ((List.pairwise_cons.mp hafter).1 q hback)
  exact {
    bounded := Nat.le_trans hsub.length_le h.bounded
    distinct := h.distinct
    once := by
      unfold contributedKeys
      rw [List.map_append]
      refine List.nodup_append.mpr ⟨h.once, ?_, ?_⟩
      · cases added with
        | nil => exact List.nodup_nil
        | cons c rest =>
            cases rest with
            | nil => exact List.nodup_singleton _
            | cons d rest => exact absurd hone (by simp)
      · intro key hkey other hother heq
        rw [heq, hkeys other hother] at hkey
        exact hopen.unused hkey
    answers := by
      intro c hc
      obtain hold | hnew := List.mem_append.mp hc
      · exact h.answers c hold
      · obtain ⟨hera, hid, hsend, hepoch⟩ := hadded c hnew
        exact ⟨_, hopen.issued, hera.symm, hid.symm, hsend.symm, hepoch.symm⟩
    estimate := by
      have hall : added.filter (·.era = s.era) = added := by
        apply List.filter_eq_self.mpr
        intro c hc
        simpa using (hadded c hc).1
      unfold current
      dsimp only
      rw [List.filter_append, hall, List.map_append, List.foldl_append, hgeneration]
      have hestimate := h.estimate
      unfold current at hestimate
      rw [← hestimate]
      exact hmapper
    ordered := h.ordered.sublist hsub
    open_ := by
      intro q hq
      have hold := h.open_ q (hsub.mem hq)
      refine ⟨hold.named, hgeneration ▸ hold.epoch, hold.issued, ?_⟩
      unfold contributedKeys
      rw [List.map_append, List.mem_append]
      rintro (hused | hused)
      · exact hold.unused hused
      · exact hothers q hq (congrArg Prod.snd (hkeys _ hused))
    past := h.past }

theorem Coherent.pong (h : Coherent s) (pong : ClockSyncPong) (receiverReceiveUs : Nat) :
    Coherent (s.step (.pong pong receiverReceiveUs)) := by
  unfold step
  obtain ⟨_, hsync, hnone⟩ | ⟨before, p, after, hsplit, hp, hsync, hcontribution⟩ :=
    observePong_cases s.sync pong receiverReceiveUs
  · dsimp only
    rw [hsync, hnone]
    simpa using h
  · dsimp only
    rw [hsync]
    refine h.answered hsplit (AffineClockMapper.observed_generation _ _) ?_ ?_ ?_
    · intro c hc
      obtain ⟨e, he, rfl⟩ := Option.map_eq_some_iff.mp (Option.mem_toList.mp hc)
      rw [hcontribution] at he
      split at he
      · obtain rfl := Option.some.inj he
        exact ⟨rfl, (PendingClockSync.answeredBy_iff.mp hp).1.symm, rfl, rfl⟩
      · cases he
    · cases s.sync.contribution pong receiverReceiveUs with
      | none => exact Nat.zero_le _
      | some e => exact Nat.le_refl _
    · rw [hcontribution]
      cases hobserve : s.sync.mapper.observe (p.exchange pong receiverReceiveUs) with
      | error err => exact AffineClockMapper.observed_of_error hobserve
      | ok mapper => rfl

theorem Coherent.step (h : Coherent s) (event : ClockEvent) : Coherent (s.step event) := by
  cases event with
  | ping now receiverSendUs => exact h.ping now receiverSendUs
  | reset streamEpoch now => exact h.reset rfl rfl
  | clear => exact h.reset rfl rfl
  | pong pong receiverReceiveUs => exact h.pong pong receiverReceiveUs

theorem coherent_run (events : List ClockEvent) :
    Coherent (events.foldl Ledger.step (start : Ledger F)) :=
  TransitionSystem.Reachable.invariant (T := .ofFunction start Ledger.step)
    (fun _ hstart => hstart ▸ coherent_start)
    (fun _ event _ hs hstep => hstep ▸ hs.step event)
    (TransitionSystem.reachable_foldl _ _ _)

theorem Coherent.pongSafe (h : Coherent s) (pong : ClockSyncPong) (receiverReceiveUs : Nat) :
    PongSafe s pong receiverReceiveUs := by
  obtain ⟨hunmatched, hsync, hnone⟩ | ⟨before, p, after, hsplit, hp, hsync, hcontribution⟩ :=
    observePong_cases s.sync pong receiverReceiveUs
  · refine ⟨?_, fun _ => by rw [hsync], fun _ => hsync⟩
    intro e he
    rw [hnone] at he
    cases he
  · have hmem : p ∈ s.sync.pending := by
      rw [hsplit]
      simp
    have hopen := h.open_ p hmem
    refine ⟨?_, ?_, fun hunmatched => absurd hp (hunmatched p hmem)⟩
    · intro e he
      rw [hcontribution] at he
      split at he
      · exact ⟨p, hmem, hp, hopen.epoch, hopen.issued, hopen.unused, (Option.some.inj he).symm⟩
      · cases he
    · intro hnone
      rw [hcontribution] at hnone
      rw [hsync]
      cases hobserve : s.sync.mapper.observe (p.exchange pong receiverReceiveUs) with
      | error err => exact AffineClockMapper.observed_of_error hobserve
      | ok mapper =>
          rw [hobserve] at hnone
          cases hnone

/-- Clock synchronisation is safe against replay, for every order of calls, resets and pongs. -/
theorem receiver_clock_sync_replay_safe (events : List ClockEvent) :
    ReplaySafe (events.foldl Ledger.step (start : Ledger F)) ∧
      ∀ pong receiverReceiveUs,
        PongSafe (events.foldl Ledger.step (start : Ledger F)) pong receiverReceiveUs :=
  ⟨(coherent_run events).toReplaySafe, (coherent_run events).pongSafe⟩

end Ledger

end PicooCamera.Receiver
