import PicooCamera.Library.TransitionSystem
import PicooCamera.Sender.Pump

/-!
# Runs of the Sender session

One step of the system is one operation of the session or one part of `pump` and
of `submit_encoder_event`. The parts may follow each other in any order: the
order of the source is one of them, and an error that ends it early is another.
-/

namespace PicooCamera.Sender

open PicooCamera.Library PicooCamera.Pairing PicooCamera.Transport

inductive SenderStep where
  /-- What the surroundings will answer to the session's next looks at them. -/
  | schedule (answers : List Answers)
  /-- The surroundings move on to their next answers. -/
  | turn
  | drainEvents
  | expireEncoderTransaction
  | reconnectWhenDue
  | publishWhenStreaming
  | connect (endpoint : Endpoint)
  | disconnect
  | setAutoReconnect (enabled : Bool)
  | sendClientHello
  | sendPairingConfirm (receiverId : String)
  | sendStartStream
  | sendStopStream
  | removeTrustedDevice (deviceId : String)
  | markPermissionRequired
  | clearPermissionRequired
  | setStreamConfig (config : StreamConfigParams)
  | beginStreamReconfiguration (targetFormat : SourceFormat)
  | reportEncoderStarted (transactionId encoderGeneration streamEpoch height : Nat)
  | reportEncoderFailed (transactionId encoderGeneration : Nat)
  | prepareEncoderEvent (event : NativeEncoderEvent)
  | ingestEncoderAccessUnit (unit : NativeEncoderAccessUnit)
  | flushPending
  | takeKeyframeRequest
  | takeCameraCommand

namespace Core

open Program

/-- The program for its effects; what it answers goes to the caller. -/
def run {α : Type} (p : Core α) (s : SenderState) : SenderState := (exec p s).2

def next (P : SenderPlatform) (s : SenderState) : SenderStep → SenderState
  | .schedule answers => { s with answers := s.answers ++ answers }
  | .turn => s.turn
  | .drainEvents => run (drainEvents P) s
  | .expireEncoderTransaction => run (expireEncoderTransaction P) s
  | .reconnectWhenDue => run (reconnectWhenDue P) s
  | .publishWhenStreaming => run (publishWhenStreaming P) s
  | .connect endpoint => run (connect P endpoint) s
  | .disconnect => run (disconnect P) s
  | .setAutoReconnect enabled => run (setAutoReconnect enabled) s
  | .sendClientHello => run (sendClientHello P) s
  | .sendPairingConfirm receiverId => run (sendPairingConfirm P receiverId) s
  | .sendStartStream => run (sendStartStream P) s
  | .sendStopStream => run (sendStopStream P) s
  | .removeTrustedDevice deviceId => run (removeTrustedDevice P deviceId) s
  | .markPermissionRequired => run (modifySession SenderSession.markPermissionRequired) s
  | .clearPermissionRequired => run (modifySession SenderSession.clearPermissionRequired) s
  | .setStreamConfig config => run (setStreamConfig config) s
  | .beginStreamReconfiguration targetFormat => run (beginStreamReconfiguration targetFormat) s
  | .reportEncoderStarted transactionId encoderGeneration streamEpoch height =>
      run (reportEncoderStarted transactionId encoderGeneration streamEpoch height) s
  | .reportEncoderFailed transactionId encoderGeneration =>
      run (reportEncoderFailed P transactionId encoderGeneration) s
  | .prepareEncoderEvent event => run (prepareEncoderEvent P event) s
  | .ingestEncoderAccessUnit unit => run (ingestEncoderAccessUnit P unit) s
  | .flushPending => run flushPending s
  | .takeKeyframeRequest => run takeKeyframeRequest s
  | .takeCameraCommand => run takeCameraCommand s

end Core

def SenderState.new (identity : DeviceIdentity) (trusted : TrustedDeviceStore)
    (hasTrustedStorePath : Bool) : SenderState where
  session := SenderSession.new identity trusted hasTrustedStorePath
  now := 0
  answers := []
  trace := []

def senderSystem (P : SenderPlatform) : TransitionSystem SenderState SenderStep where
  init s := ∃ identity trusted hasPath, s = SenderState.new identity trusted hasPath
  step s label s' := s' = Core.next P s label

namespace Core

open Program TransitionSystem

/-! ## `pump` and `submit_encoder_event` are runs -/

def Steps (P : SenderPlatform) (s s' : SenderState) : Prop :=
  ∃ labels, Run (senderSystem P) s labels s'

instance (P : SenderPlatform) : Frame (Steps P) where
  refl _ := ⟨[], Run.nil⟩
  trans := by
    rintro s t u ⟨labels, hst⟩ ⟨more, htu⟩
    exact ⟨labels ++ more, hst.append htu⟩

theorem steps_of_next (P : SenderPlatform) (s : SenderState) (label : SenderStep) :
    Steps P s (next P s label) :=
  ⟨[] ++ [label], Run.snoc Run.nil rfl⟩

section Parts

variable {P : SenderPlatform}

instance : Keeps (Steps P) (drainEvents P) := ⟨fun s => steps_of_next P s .drainEvents⟩

instance : Keeps (Steps P) (expireEncoderTransaction P) :=
  ⟨fun s => steps_of_next P s .expireEncoderTransaction⟩

instance : Keeps (Steps P) (reconnectWhenDue P) :=
  ⟨fun s => steps_of_next P s .reconnectWhenDue⟩

instance : Keeps (Steps P) (publishWhenStreaming P) :=
  ⟨fun s => steps_of_next P s .publishWhenStreaming⟩

instance keeps_pump : Keeps (Steps P) (pump P) := by
  unfold pump
  infer_instance

instance (event : NativeEncoderEvent) : Keeps (Steps P) (prepareEncoderEvent P event) :=
  ⟨fun s => steps_of_next P s (.prepareEncoderEvent event)⟩

instance (unit : NativeEncoderAccessUnit) : Keeps (Steps P) (ingestEncoderAccessUnit P unit) :=
  ⟨fun s => steps_of_next P s (.ingestEncoderAccessUnit unit)⟩

instance : Keeps (Steps P) flushPending := ⟨fun s => steps_of_next P s .flushPending⟩

instance : Keeps (Steps P) takeKeyframeRequest :=
  ⟨fun s => steps_of_next P s .takeKeyframeRequest⟩

instance (unit : NativeEncoderAccessUnit) (configStaged : Bool) :
    Keeps (Steps P) (submitAccessUnit P unit configStaged) := by
  unfold submitAccessUnit session
  infer_instance

end Parts

theorem pump_isRun (P : SenderPlatform) (s : SenderState) : Steps P s (run (pump P) s) :=
  keeps_pump.keeps s

/-- Whatever holds in every reachable state of the system holds after every callback of a
native encoder. -/
theorem submitEncoderEvent_isRun (P : SenderPlatform) (event : NativeEncoderEvent)
    (s : SenderState) : Steps P s (run (submitEncoderEvent P event) s) := by
  have hsubmit : Keeps (Steps P) (submitEncoderEvent P event) := by
    unfold submitEncoderEvent
    apply keeps_then inferInstance
    intro prepared
    cases prepared with
    | noEvidence => exact inferInstanceAs (Keeps _ (pure _))
    | refused => infer_instance
    | ready unit configStaged => infer_instance
  exact hsubmit.keeps s

end Core

end PicooCamera.Sender
