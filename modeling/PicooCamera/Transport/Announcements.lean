import PicooCamera.Transport.ListenerWorker

/-!
# Announcements of connections

The worker announces each connection once. What counts is how often it may still
do so: it has announced it and the event waits for the owner, it is about to,
or the session is one of those that it has not numbered yet.
-/

namespace PicooCamera.Transport

open PicooCamera.Library PicooCamera.Protocol PicooCamera.Packet

/-- Whether the worker is about to announce the session. -/
def WorkerPhase.announces (session : SessionId) : WorkerPhase → Bool
  | .installing target _ => target = session
  | .announcing target => target = session
  | _ => false

namespace ListenerWorker

variable {w : ListenerWorker} {session : SessionId}

def upcoming (w : ListenerWorker) (session : SessionId) : Nat :=
  w.criticalEvents.count (.connected session) + w.videoEvents.count (.connected session) +
    (w.phase.announces session).toNat + (decide (w.nextSession ≤ session.value)).toNat

theorem upcoming_new (session : SessionId) : new.upcoming session ≤ 1 := by
  change 0 + 0 + 0 + (decide (1 ≤ session.value)).toNat ≤ 1
  have hone := Bool.toNat_le (decide (1 ≤ session.value))
  omega

theorem upcoming_critical (w : ListenerWorker) (event : TransportEvent) (session : SessionId) :
    (w.critical event).upcoming session =
      w.upcoming session + if event = .connected session then 1 else 0 := by
  unfold upcoming critical
  simp only [List.count_append, List.count_singleton, beq_iff_eq]
  omega

theorem upcoming_disconnected (w : ListenerWorker) (target : SessionId) (reason : CloseReason)
    (session : SessionId) :
    (w.critical (.disconnected target reason)).upcoming session = w.upcoming session := by
  rw [upcoming_critical, if_neg nofun, Nat.add_zero]

theorem upcoming_controlMessage (w : ListenerWorker) (target : SessionId)
    (message : ControlFrame) (session : SessionId) :
    (w.critical (.controlMessage target message)).upcoming session = w.upcoming session := by
  rw [upcoming_critical, if_neg nofun, Nat.add_zero]

theorem upcoming_videoEvent (w : ListenerWorker) (receivedAt : Instant)
    (packets : List VideoPacket) (target session : SessionId) :
    (w.videoEvent (.videoPackets target receivedAt packets)).upcoming session =
      w.upcoming session := by
  unfold videoEvent
  split
  · unfold upcoming
    simp only [List.count_append, List.count_singleton, beq_iff_eq, reduceCtorEq, if_false]
    omega
  · rfl

theorem upcoming_numbered (w : ListenerWorker) (session : SessionId) :
    ({ w with nextSession := w.nextSession + 1 } : ListenerWorker).upcoming session ≤
      w.upcoming session := by
  unfold upcoming
  by_cases hlater : w.nextSession + 1 ≤ session.value
  · have hnow : w.nextSession ≤ session.value := Nat.le_of_succ_le hlater
    simp only [decide_eq_true hlater, decide_eq_true hnow]
    exact Nat.le_refl _
  · simp only [decide_eq_false hlater, Bool.toNat_false]
    omega

theorem upcoming_phase {phase : WorkerPhase} (h : phase.announces session = false) :
    ({ w with phase := phase } : ListenerWorker).upcoming session ≤ w.upcoming session := by
  unfold upcoming
  simp only [h, Bool.toNat_false]
  omega

theorem upcoming_accept (hphase : w.phase = .accepting) (channelBinding : Bytes) :
    ({ w with
      phase := .installing ⟨w.nextSession⟩ channelBinding
      nextSession := w.nextSession + 1 } : ListenerWorker).upcoming session ≤
      w.upcoming session := by
  unfold upcoming
  simp only [hphase, WorkerPhase.announces]
  by_cases hnumber : (⟨w.nextSession⟩ : SessionId) = session
  · subst hnumber
    simp
  · have hvalue : w.nextSession ≠ session.value := fun h => hnumber (by rw [h])
    simp only [decide_eq_false hnumber, Bool.toNat_false]
    by_cases hlater : w.nextSession ≤ session.value
    · have hnext : w.nextSession + 1 ≤ session.value := by omega
      simp [hlater, hnext]
    · have hnext : ¬w.nextSession + 1 ≤ session.value := by omega
      simp [hlater, hnext]

theorem upcoming_announce {target : SessionId} (hphase : w.phase = .announcing target) :
    (({ w with phase := .serving target } : ListenerWorker).critical (.connected target)).upcoming
      session = w.upcoming session := by
  rw [upcoming_critical]
  unfold upcoming
  simp only [hphase, WorkerPhase.announces, Bool.toNat_false, TransportEvent.connected.injEq]
  by_cases htarget : target = session
  · simp [htarget]
    omega
  · simp [htarget]

theorem upcoming_takeCommand (w : ListenerWorker) (session : SessionId) :
    w.takeCommand.upcoming session ≤ w.upcoming session := by
  unfold takeCommand
  split
  · exact Nat.le_refl _
  next target command rest hphase hcommands =>
    unfold handleCommand
    dsimp only
    split
    · split <;> exact Nat.le_refl _
    · split
      · exact upcoming_phase rfl
      · exact Nat.le_refl _
    · exact Nat.le_refl _
  · exact Nat.le_refl _

theorem upcoming_step (w : ListenerWorker) (label : WorkerStep) (session : SessionId) :
    (w.step label).upcoming session ≤ w.upcoming session := by
  unfold step
  split
  next hphase => exact upcoming_accept hphase _
  · rw [upcoming_disconnected]
    exact upcoming_numbered w session
  · rw [upcoming_disconnected]
    exact upcoming_numbered w session
  next target channelBinding hphase =>
    unfold upcoming
    simp only [hphase, WorkerPhase.announces]
    exact Nat.le_refl _
  next target hphase => exact (upcoming_announce hphase).le
  · exact upcoming_takeCommand w session
  · rw [upcoming_controlMessage]
  · split
    · exact Nat.le_refl _
    · exact (upcoming_videoEvent w _ _ _ session).le
  · exact upcoming_phase rfl
  next target reason hphase =>
    split
    · exact upcoming_phase rfl
    · exact upcoming_phase rfl
  · rw [upcoming_disconnected]
    exact upcoming_phase rfl
  · exact Nat.le_refl _

theorem upcoming_command (w : ListenerWorker) (command : Command) (session : SessionId) :
    (w.command command).2.upcoming session = w.upcoming session := by
  unfold ListenerWorker.command
  split <;> rfl

theorem upcoming_pollEvent (w : ListenerWorker) (session : SessionId) :
    w.pollEvent.2.upcoming session + (if w.pollEvent.1 = some (.connected session) then 1 else 0) =
      w.upcoming session := by
  unfold pollEvent
  cases hcritical : w.criticalEvents with
  | cons event rest =>
      unfold upcoming
      simp only [hcritical, List.count_cons, beq_iff_eq, Option.some.injEq]
      omega
  | nil =>
      cases hvideo : w.videoEvents with
      | cons event rest =>
          unfold upcoming
          simp only [hcritical, hvideo, List.count_cons, beq_iff_eq, Option.some.injEq]
          omega
      | nil =>
          unfold upcoming
          simp [hcritical, hvideo]

end ListenerWorker

end PicooCamera.Transport
