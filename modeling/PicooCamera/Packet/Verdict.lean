import PicooCamera.Packet.AtMostOnce

/-!
# The verdict on one packet

`Verdict` lists the outcomes of `admit_packet` with every guard that leads to
them and with the loss accounting of each, where `Admission` keeps only what
the tracking of ids needs.
-/

namespace PicooCamera.Packet.ReassemblyMap

open PicooCamera.Library PicooCamera.Protocol

/-- What becomes of the frame of a packet that passed every check. -/
inductive Acceptance (room : ReassemblyMap) (key : FrameKey) :
    IngestResult → ReassemblyMap → Prop
  | abandoned {base : ReassemblyMap} {entry : PartialFrame} {result : IngestResult}
      (hbase : UpToFecCounters base room) (hnone : returned result = none) :
      Acceptance room key result (base.abandonFrame key entry)
  | kept {base : ReassemblyMap} {entry : PartialFrame} {result : IngestResult}
      (hbase : UpToFecCounters base room) (hnone : returned result = none) :
      Acceptance room key result { base with frames := base.frames.insert key entry }
  | completed {base : ReassemblyMap} {entry : PartialFrame} {unit : AssembledAccessUnit}
      (hbase : UpToFecCounters base room) (hkey : unitKey unit = key) :
      Acceptance room key (.ok (some unit))
        { { base with frames := base.frames.erase key }.rememberTerminal key with
          resolvedFragments := saturatingAdd base.resolvedFragments entry.fragmentCount }

/-- The boundary or the terminal cache closes the frame of the packet. -/
def Covers (m : ReassemblyMap) (packet : VideoPacket) : Prop :=
  atOrBelow m.expiredThroughFrameId packet.frameId ∨ keyOf packet ∈ m.terminalFrames

instance (m : ReassemblyMap) (packet : VideoPacket) : Decidable (m.Covers packet) :=
  inferInstanceAs (Decidable (_ ∨ _))

inductive Verdict (m : ReassemblyMap) (packet : VideoPacket) :
    IngestResult → ReassemblyMap → Prop
  | covered (hcovered : m.Covers packet) : Verdict m packet (.ok none) m
  | rejectedBefore (hopen : ¬ m.Covers packet) (hrejected : keyOf packet ∈ m.rejectedFrames) :
      Verdict m packet (.error .tooManyFragments) m
  | tooMany (hopen : ¬ m.Covers packet) (hnew : keyOf packet ∉ m.rejectedFrames)
      (hcount : m.maxFragments < packet.fragmentCount) :
      Verdict m packet (.error .tooManyFragments) (m.rejectFrame (keyOf packet) packet.flags)
  | badParity {error : ReassemblyError} (hopen : ¬ m.Covers packet)
      (hnew : keyOf packet ∉ m.rejectedFrames)
      (hcount : packet.fragmentCount ≤ m.maxFragments)
      (hparity : parityError packet = some error) :
      Verdict m packet (.error error) (m.makeRoom (keyOf packet))
  | accepted {result : IngestResult} {m' : ReassemblyMap} (hopen : ¬ m.Covers packet)
      (hnew : keyOf packet ∉ m.rejectedFrames)
      (hcount : packet.fragmentCount ≤ m.maxFragments)
      (hparity : parityError packet = none)
      (h : Acceptance (m.makeRoom (keyOf packet)) (keyOf packet) result m') :
      Verdict m packet result m'

theorem acceptPacket_acceptance (codecs : Codecs) (room : ReassemblyMap)
    (packet : VideoPacket) (firstFragmentAt : Instant) :
    Acceptance room (keyOf packet) (acceptPacket codecs room packet firstFragmentAt).1
      (acceptPacket codecs room packet firstFragmentAt).2 := by
  unfold acceptPacket
  dsimp only
  split
  · exact Acceptance.abandoned (upToFecCounters_refl room) rfl
  · split
    · exact Acceptance.abandoned (upToFecCounters_refl room) rfl
    · split
      · rename_i result hstore
        exact Acceptance.kept (upToFecCounters_refl room) (storePacket_error_none hstore)
      · rename_i stored groupIx _
        unfold finishFrame
        split
        · exact Acceptance.kept (countRecovery_upToFecCounters _ _) rfl
        · split
          · exact Acceptance.abandoned (countRecovery_upToFecCounters _ _) rfl
          · exact Acceptance.completed (countRecovery_upToFecCounters _ _) rfl

theorem admitPacket_verdict (codecs : Codecs) (m : ReassemblyMap) (packet : VideoPacket)
    (firstFragmentAt : Instant) :
    Verdict m packet (admitPacket codecs m packet firstFragmentAt).1
      (admitPacket codecs m packet firstFragmentAt).2 := by
  unfold admitPacket
  dsimp only
  split
  · rename_i hcovered
    exact Verdict.covered hcovered
  · rename_i hopen
    split
    · rename_i hrejected
      exact Verdict.rejectedBefore hopen hrejected
    · rename_i hnew
      split
      · rename_i hcount
        exact Verdict.tooMany hopen hnew hcount
      · rename_i hcount
        split
        · rename_i error hparity
          exact Verdict.badParity hopen hnew (Nat.not_lt.mp hcount) hparity
        · rename_i hparity
          exact Verdict.accepted hopen hnew (Nat.not_lt.mp hcount) hparity
            (acceptPacket_acceptance codecs _ packet firstFragmentAt)

theorem ingestAt_verdict (codecs : Codecs) {m : ReassemblyMap} {packet : VideoPacket}
    (now : Instant) (hepoch : ¬ packet.streamEpoch < m.currentEpoch) :
    Verdict ((m.enterEpoch packet.streamEpoch).observeFrameId packet.frameId now) packet
      (m.ingestAt codecs packet now).1 (m.ingestAt codecs packet now).2 := by
  unfold ingestAt
  rw [if_neg hepoch]
  exact admitPacket_verdict codecs _ packet _

namespace Acceptance

variable {room m' : ReassemblyMap} {key : FrameKey} {result : IngestResult}

theorem frames (h : Acceptance room key result m') {k : FrameKey} (hk : k ∈ m'.frames) :
    k = key ∨ k ∈ room.frames := by
  cases h with
  | abandoned hbase _ =>
      rw [hbase] at hk
      exact Or.inr (mem_map_erase.mp hk).2
  | kept hbase _ =>
      rw [hbase] at hk
      exact mem_map_insert.mp hk
  | completed hbase _ =>
      rw [hbase] at hk
      exact Or.inr (mem_map_erase.mp hk).2

theorem frames_of_ne (h : Acceptance room key result m') {k : FrameKey} (hne : k ≠ key)
    (hk : k ∈ room.frames) : k ∈ m'.frames := by
  cases h with
  | abandoned hbase _ =>
      rw [hbase]
      exact mem_map_erase.mpr ⟨hne, hk⟩
  | kept hbase _ =>
      rw [hbase]
      exact mem_map_insert.mpr (Or.inr hk)
  | completed hbase _ =>
      rw [hbase]
      exact mem_map_erase.mpr ⟨hne, hk⟩

theorem rejected (h : Acceptance room key result m') :
    m'.rejectedFrames = room.rejectedFrames := by
  cases h with
  | abandoned hbase _ => rw [hbase]; rfl
  | kept hbase _ => rw [hbase]
  | completed hbase _ => rw [hbase]; rfl

theorem terminal (h : Acceptance room key result m') {k : FrameKey}
    (hk : k ∈ m'.terminalFrames) : k = key ∧ key ∉ m'.frames ∨ k ∈ room.terminalFrames := by
  cases h with
  | abandoned hbase _ =>
      rw [hbase] at hk ⊢
      rcases mem_terminalAfter hk with rfl | hk
      · exact Or.inl ⟨rfl, fun hmem => (mem_map_erase.mp hmem).1 rfl⟩
      · exact Or.inr hk
  | kept hbase _ =>
      rw [hbase] at hk
      exact Or.inr hk
  | completed hbase _ =>
      rw [hbase] at hk ⊢
      rcases mem_terminalAfter hk with rfl | hk
      · exact Or.inl ⟨rfl, fun hmem => (mem_map_erase.mp hmem).1 rfl⟩
      · exact Or.inr hk

end Acceptance

end PicooCamera.Packet.ReassemblyMap
