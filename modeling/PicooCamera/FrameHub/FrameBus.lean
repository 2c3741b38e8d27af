import PicooCamera.FrameHub.NativeFrame

/-!
# The frame bus

One owner publishes frames. It keeps the latest one and may feed one ordered
subscription, whose consumer runs on its own. What both sides do under the lock
of the gate is one step; the owner drops its sender after it released the lock.
-/

namespace PicooCamera.FrameHub

def orderedCapacity : Nat := 8
def maxOrderedAgeUs : Nat := 150000

inductive SubscriptionEnd where
  | queueFull (identity : FrameIdentity)
  | tooOld (identity : FrameIdentity)
  | reset
  | publisherStopped
  | cancelled
  deriving DecidableEq, Repr

structure QueuedFrame where
  frame : NativeVideoFrame
  enqueuedAt : Nat
  deriving DecidableEq, Repr

/-- The channel, the once cell and the gate of a subscription, and what its consumer holds. -/
structure NativeFrameSubscription where
  queue : List QueuedFrame
  /-- The publisher holds the sender. -/
  sender : Bool
  receiver : Bool
  ended : Option SubscriptionEnd
  accepting : Bool
  normalEnd : Bool
  deriving DecidableEq, Repr

abbrev Answer := Except SubscriptionEnd (Option NativeVideoFrame)

inductive Publication where
  | published
  | detach
  | ended (reason : SubscriptionEnd)
  deriving DecidableEq, Repr

namespace NativeFrameSubscription

def new : NativeFrameSubscription where
  queue := []
  sender := true
  receiver := true
  ended := none
  accepting := true
  normalEnd := false

/-- `OnceLock::set`. -/
def setEnd (s : NativeFrameSubscription) (reason : SubscriptionEnd) : NativeFrameSubscription :=
  { s with ended := s.ended.or (some reason) }

/-- `NativeFrameSubscriptionCutoff::close`. -/
def close (s : NativeFrameSubscription) : NativeFrameSubscription := { s with accepting := false }

def tryNextAt (s : NativeFrameSubscription) (now : Nat) : Answer × NativeFrameSubscription :=
  if s.normalEnd = true then (.ok none, s)
  else
    match s.ended with
    | some reason => (.error reason, { s with accepting := false, receiver := false })
    | none =>
        if s.receiver = false then
          if s.accepting = false then (.ok none, { s with normalEnd := true })
          else (.error .publisherStopped, s)
        else
          match s.queue with
          | queued :: rest =>
              if now - queued.enqueuedAt ≤ maxOrderedAgeUs then
                (.ok (some queued.frame), { s with queue := rest })
              else
                let s := { s with queue := rest }.setEnd (.tooOld queued.frame.identity)
                (.error (s.ended.getD (.tooOld queued.frame.identity)),
                  { s with accepting := false, receiver := false })
          | [] =>
              if s.sender = true then
                if s.accepting = false then
                  (.ok none, { s with receiver := false, normalEnd := true })
                else (.ok none, s)
              else
                -- The channel is disconnected.
                if s.ended = none ∧ s.accepting = false then
                  (.ok none, { s with receiver := false, normalEnd := true })
                else (.error (s.ended.getD .publisherStopped), { s with receiver := false })

/-- The part of `publish_at` under the gate. -/
def publishAt (s : NativeFrameSubscription) (frame : NativeVideoFrame) (now : Nat) :
    Publication × NativeFrameSubscription :=
  match s.ended with
  | some reason => (.ended reason, { s with accepting := false })
  | none =>
      if s.accepting = false then (.detach, s)
      else if s.receiver = false then (.detach, { s with accepting := false })
      else if s.queue.length < orderedCapacity then
        (.published, { s with queue := s.queue ++ [⟨frame, now⟩] })
      else
        let s := s.setEnd (.queueFull frame.identity)
        (.ended (s.ended.getD (.queueFull frame.identity)), { s with accepting := false })

/-- What `end_ordered` and the drop of the consumer do under the gate. -/
def terminate (s : NativeFrameSubscription) (reason : SubscriptionEnd) :
    NativeFrameSubscription :=
  if s.accepting = true then { s with accepting := false }.setEnd reason else s

end NativeFrameSubscription

/-! ## What the callers saw -/

/-- The record of one subscription's calls. -/
structure Ledger where
  /-- The frames published since it was created and before its cutoff or end. -/
  published : List NativeVideoFrame
  /-- What `try_next` answered. -/
  answers : List Answer
  /-- The ends that `publish` reported for it. -/
  reports : List SubscriptionEnd
  /-- The first end that was set. -/
  cause : Option SubscriptionEnd
  closed : Bool
  /-- `cutoff.close` came before any end. -/
  cut : Bool
  /-- `try_next` answered `Ok(None)` after `cutoff.close`. -/
  silent : Bool
  dropped : Bool

namespace Ledger

def new : Ledger where
  published := []
  answers := []
  reports := []
  cause := none
  closed := false
  cut := false
  silent := false
  dropped := false

def delivered (l : Ledger) : List NativeVideoFrame :=
  l.answers.filterMap fun answer => answer.toOption.join

def offer (l : Ledger) (frame : NativeVideoFrame) : Ledger :=
  if l.closed = false ∧ l.cause = none then { l with published := l.published ++ [frame] }
  else l

def observe (l : Ledger) (s : NativeFrameSubscription) : Ledger :=
  { l with cause := l.cause.or s.ended }

def answer (l : Ledger) (answer : Answer) : Ledger :=
  { l with
    answers := l.answers ++ [answer]
    silent := l.silent || (l.closed && answer.toOption = some none) }

def report (l : Ledger) : Publication → Ledger
  | .ended reason => { l with reports := l.reports ++ [reason] }
  | _ => l

def close (l : Ledger) : Ledger :=
  { l with closed := true, cut := l.cut || l.cause.isNone }

end Ledger

structure Followed where
  subscription : NativeFrameSubscription
  ledger : Ledger

/-! ## The bus -/

structure BusState where
  latest : Option NativeVideoFrame
  /-- The number of the subscription that is fed. -/
  ordered : Option Nat
  /-- The subscription whose sender the owner is about to drop: the gate is released, the call
  has not returned. -/
  leaving : Option Nat
  alive : Bool
  subscriptions : List Followed
  /-- The frames published since the last `clear`. -/
  sinceClear : List NativeVideoFrame

inductive BusStep where
  | subscribeOrdered
  | publish (frame : NativeVideoFrame) (now : Nat)
  | clear
  | resetOrderedSource
  | dropBus
  /-- The owner's call drops the sender and returns. -/
  | leave
  | close (i : Nat)
  | tryNext (i : Nat) (now : Nat)
  | dropSubscription (i : Nat)
  /-- The fields of a dropped subscription are dropped. -/
  | release (i : Nat)

namespace FrameBus

def new : BusState where
  latest := none
  ordered := none
  leaving := none
  alive := true
  subscriptions := []
  sinceClear := []

def onSubscription (x : BusState) (i : Nat) (f : Followed → Followed) : BusState :=
  { x with subscriptions := x.subscriptions.modify i f }

/-- The owner calls one method after the other. -/
def idle (x : BusState) : Prop := x.alive = true ∧ x.leaving = none

instance (x : BusState) : Decidable (idle x) := by
  unfold idle
  infer_instance

def dropSender (f : Followed) : Followed :=
  { f with subscription := { f.subscription with sender := false } }

def isActive (x : BusState) (i : Nat) : Bool :=
  x.subscriptions[i]?.any fun f => f.subscription.ended = none ∧ f.subscription.accepting = true

/-- `SubscriptionAlreadyActive` changes nothing. The former publisher side is dropped. -/
def subscribeOrdered (x : BusState) : BusState :=
  if x.ordered.any (isActive x) then x
  else
    let x := match x.ordered with
      | none => x
      | some i => onSubscription x i dropSender
    { x with
      ordered := some x.subscriptions.length
      subscriptions := x.subscriptions ++ [⟨.new, .new⟩] }

def publishTo (frame : NativeVideoFrame) (now : Nat) (f : Followed) : Publication × Followed :=
  let out := f.subscription.publishAt frame now
  (out.1, ⟨out.2, (f.ledger.report out.1).observe out.2⟩)

def offer (frame : NativeVideoFrame) (f : Followed) : Followed :=
  ⟨f.subscription, f.ledger.offer frame⟩

/-- The part of `publish` before the gate. -/
def publishLatest (x : BusState) (frame : NativeVideoFrame) : BusState :=
  { x with
    latest := some frame
    sinceClear := x.sinceClear ++ [frame]
    subscriptions := x.subscriptions.map (offer frame) }

def publishOrdered (x : BusState) (frame : NativeVideoFrame) (now : Nat) : BusState :=
  match x.ordered with
  | none => x
  | some i =>
      match x.subscriptions[i]? with
      | none => x
      | some f =>
          let out := publishTo frame now f
          let published : Bool := out.1 = .published
          { onSubscription x i (fun _ => out.2) with
            leaving := if published then none else some i }

def publish (x : BusState) (frame : NativeVideoFrame) (now : Nat) : BusState :=
  publishOrdered (publishLatest x frame) frame now

def terminate (reason : SubscriptionEnd) (f : Followed) : Followed :=
  let subscription := f.subscription.terminate reason
  ⟨subscription, f.ledger.observe subscription⟩

def endOrdered (x : BusState) (reason : SubscriptionEnd) : BusState :=
  match x.ordered with
  | none => x
  | some i => { onSubscription x i (terminate reason) with ordered := none, leaving := some i }

def clear (x : BusState) : BusState :=
  endOrdered { x with latest := none, sinceClear := [] } .reset

def leave (x : BusState) : BusState :=
  match x.leaving with
  | none => x
  | some i => { onSubscription x i dropSender with ordered := none, leaving := none }

def tryNext (now : Nat) (f : Followed) : Followed :=
  if f.ledger.dropped = true then f
  else
    let out := f.subscription.tryNextAt now
    ⟨out.2, (f.ledger.answer out.1).observe out.2⟩

def close (f : Followed) : Followed := ⟨f.subscription.close, f.ledger.close⟩

def dropSubscription (f : Followed) : Followed :=
  if f.ledger.dropped = true then f
  else
    let f := terminate .cancelled f
    { f with ledger := { f.ledger with dropped := true } }

def release (f : Followed) : Followed :=
  if f.ledger.dropped = true then
    { f with subscription := { f.subscription with receiver := false, queue := [] } }
  else f

/-- A call that cannot be made changes nothing: the owner is in another call or gone, or the
subscription is gone. -/
def busStep (x : BusState) : BusStep → BusState
  | .subscribeOrdered => if idle x then subscribeOrdered x else x
  | .publish frame now => if idle x then publish x frame now else x
  | .clear => if idle x then clear x else x
  | .resetOrderedSource => if idle x then endOrdered x .reset else x
  | .dropBus =>
      if idle x then { endOrdered x .publisherStopped with alive := false } else x
  | .leave => leave x
  | .close i => onSubscription x i close
  | .tryNext i now => onSubscription x i (tryNext now)
  | .dropSubscription i => onSubscription x i dropSubscription
  | .release i => onSubscription x i release

end FrameBus

end PicooCamera.FrameHub
