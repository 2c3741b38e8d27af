import PicooCamera.Library.BigEndian

/-!
# Framing of the control stream

A message is a length of four bytes and that many bytes. The decoder buffers
what the network delivers and drains complete messages after each chunk. When a
drain meets an oversize length it answers an error, and the messages that it
had taken from the buffer before are not delivered.
-/

namespace PicooCamera.Transport

open PicooCamera.Library

def maxControlMessageSize : Nat := 64 * 1024

inductive ControlFramingError where
  | messageTooLarge
  deriving DecidableEq, Repr

def encodeControlFrame (message : Bytes) : Except ControlFramingError Bytes :=
  if maxControlMessageSize < message.length then .error .messageTooLarge
  else .ok (putBE 4 message.length ++ message)

/-- What one drain makes of a buffer: the messages in front, and whether it then waits for
the rest of the buffer or meets an oversize length. -/
inductive Drained where
  | waiting (messages : List Bytes) (rest : Bytes)
  | tooLarge (messages : List Bytes) (rest : Bytes)
  deriving DecidableEq, Repr

def Drained.messages : Drained → List Bytes
  | .waiting messages _ => messages
  | .tooLarge messages _ => messages

def Drained.prepend (earlier : List Bytes) : Drained → Drained
  | .waiting messages rest => .waiting (earlier ++ messages) rest
  | .tooLarge messages rest => .tooLarge (earlier ++ messages) rest

/-- The loop of `drain_messages`. Each turn removes at least four bytes. -/
def drainLoop : Nat → Bytes → Drained
  | 0, buffer => .waiting [] buffer
  | fuel + 1, buffer =>
      if buffer.length < 4 then .waiting [] buffer
      else if maxControlMessageSize < peekBE 4 buffer then .tooLarge [] buffer
      else if buffer.length < 4 + peekBE 4 buffer then .waiting [] buffer
      else
        (drainLoop fuel (buffer.drop (4 + peekBE 4 buffer))).prepend
          [(buffer.drop 4).take (peekBE 4 buffer)]

def drainBuffer (buffer : Bytes) : Drained := drainLoop buffer.length buffer

structure ControlFrameDecoder where
  buffer : Bytes
  deriving DecidableEq, Repr

namespace ControlFrameDecoder

def new : ControlFrameDecoder := ⟨[]⟩

def push (decoder : ControlFrameDecoder) (chunk : Bytes) : ControlFrameDecoder :=
  ⟨decoder.buffer ++ chunk⟩

def drainMessages (decoder : ControlFrameDecoder) :
    Except ControlFramingError (List Bytes) × ControlFrameDecoder :=
  match drainBuffer decoder.buffer with
  | .waiting messages rest => (.ok messages, ⟨rest⟩)
  | .tooLarge _ rest => (.error .messageTooLarge, ⟨rest⟩)

end ControlFrameDecoder

/-- How a connection ends up after all chunks: waiting with a decoder, or closed. -/
inductive ControlEnd where
  | waiting (decoder : ControlFrameDecoder)
  | failed
  deriving DecidableEq, Repr

/-- The control read of `run_connection`: push a chunk, drain, deliver; an error ends the
connection. -/
def receiveChunks (decoder : ControlFrameDecoder) : List Bytes → List Bytes × ControlEnd
  | [] => ([], .waiting decoder)
  | chunk :: rest =>
      match (decoder.push chunk).drainMessages with
      | (.ok messages, decoder) =>
          let (later, ending) := receiveChunks decoder rest
          (messages ++ later, ending)
      | (.error _, _) => ([], .failed)

/-! ## The drain of a buffer -/

theorem drainLoop_fuel {fuel more : Nat} {buffer : Bytes} (h : buffer.length ≤ fuel)
    (hmore : buffer.length ≤ more) : drainLoop fuel buffer = drainLoop more buffer := by
  induction fuel generalizing more buffer with
  | zero =>
      have hempty : buffer = [] := List.eq_nil_of_length_eq_zero (Nat.le_zero.mp h)
      cases more with
      | zero => rfl
      | succ more => simp [drainLoop, hempty]
  | succ fuel ih =>
      cases more with
      | zero =>
          have hempty : buffer = [] := List.eq_nil_of_length_eq_zero (Nat.le_zero.mp hmore)
          simp [drainLoop, hempty]
      | succ more =>
          simp only [drainLoop]
          by_cases hshort : buffer.length < 4
          · rw [if_pos hshort, if_pos hshort]
          · have hlength : (buffer.drop (4 + peekBE 4 buffer)).length ≤ buffer.length - 4 := by
              rw [List.length_drop]
              omega
            rw [ih (by omega) (show (buffer.drop (4 + peekBE 4 buffer)).length ≤ more by omega)]

theorem drainBuffer_eq (buffer : Bytes) :
    drainBuffer buffer =
      if buffer.length < 4 then .waiting [] buffer
      else if maxControlMessageSize < peekBE 4 buffer then .tooLarge [] buffer
      else if buffer.length < 4 + peekBE 4 buffer then .waiting [] buffer
      else
        (drainBuffer (buffer.drop (4 + peekBE 4 buffer))).prepend
          [(buffer.drop 4).take (peekBE 4 buffer)] := by
  by_cases hshort : buffer.length < 4
  · have hpeel : drainLoop buffer.length buffer = .waiting [] buffer := by
      cases hlength : buffer.length with
      | zero => rfl
      | succ fuel => rw [drainLoop, if_pos hshort]
    rw [if_pos hshort, drainBuffer, hpeel]
  · obtain ⟨fuel, hfuel⟩ : ∃ fuel, buffer.length = fuel + 1 := ⟨buffer.length - 1, by omega⟩
    have hrest : drainLoop fuel (buffer.drop (4 + peekBE 4 buffer)) =
        drainBuffer (buffer.drop (4 + peekBE 4 buffer)) := by
      apply drainLoop_fuel _ (Nat.le_refl _)
      rw [List.length_drop]
      omega
    rw [drainBuffer, hfuel, drainLoop, hrest, hfuel]

theorem prepend_waiting {earlier : List Bytes} {d : Drained} {messages : List Bytes}
    {rest : Bytes} (h : d = .waiting messages rest) :
    d.prepend earlier = .waiting (earlier ++ messages) rest := by
  rw [h, Drained.prepend]

theorem peekBE_append {buffer more : Bytes} (h : 4 ≤ buffer.length) :
    peekBE 4 (buffer ++ more) = peekBE 4 buffer := by
  rw [peekBE, peekBE, List.take_append_of_le_length h]

@[simp] theorem prepend_prepend (first second : List Bytes) (d : Drained) :
    (d.prepend second).prepend first = d.prepend (first ++ second) := by
  cases d <;> simp [Drained.prepend]

@[simp] theorem prepend_nil (d : Drained) : d.prepend [] = d := by
  cases d <;> rfl

theorem drainBuffer_append {buffer : Bytes} {messages : List Bytes} {rest : Bytes}
    (h : drainBuffer buffer = .waiting messages rest) (more : Bytes) :
    drainBuffer (buffer ++ more) = (drainBuffer (rest ++ more)).prepend messages := by
  induction hlength : buffer.length using Nat.strong_induction_on generalizing buffer messages with
  | _ n ih =>
      rw [drainBuffer_eq] at h
      by_cases hshort : buffer.length < 4
      · rw [if_pos hshort] at h
        cases h
        rw [prepend_nil]
      by_cases hlarge : maxControlMessageSize < peekBE 4 buffer
      · rw [if_neg hshort, if_pos hlarge] at h
        cases h
      by_cases hpartial : buffer.length < 4 + peekBE 4 buffer
      · rw [if_neg hshort, if_neg hlarge, if_pos hpartial] at h
        cases h
        rw [prepend_nil]
      rw [if_neg hshort, if_neg hlarge, if_neg hpartial] at h
      have hfour : 4 ≤ buffer.length := Nat.le_of_not_lt hshort
      have hframe : 4 + peekBE 4 buffer ≤ buffer.length := Nat.le_of_not_lt hpartial
      cases hdrop : drainBuffer (buffer.drop (4 + peekBE 4 buffer)) with
      | tooLarge later tail =>
          rw [hdrop] at h
          cases h
      | waiting later tail =>
          rw [prepend_waiting hdrop] at h
          cases h
          have hsmaller : (buffer.drop (4 + peekBE 4 buffer)).length < n := by
            rw [List.length_drop]
            omega
          have htail := ih _ hsmaller hdrop rfl
          have hlong : ¬(buffer ++ more).length < 4 := by
            rw [List.length_append]
            omega
          have hwhole : ¬(buffer ++ more).length < 4 + peekBE 4 buffer := by
            rw [List.length_append]
            omega
          rw [drainBuffer_eq (buffer ++ more), peekBE_append hfour, if_neg hlong, if_neg hlarge,
            if_neg hwhole, List.drop_append_of_le_length hframe, htail, prepend_prepend,
            List.drop_append_of_le_length hfour, List.take_append_of_le_length (by
              rw [List.length_drop]
              omega)]

theorem drainBuffer_rest {buffer : Bytes} {messages : List Bytes} {rest : Bytes}
    (h : drainBuffer buffer = .waiting messages rest) : drainBuffer rest = .waiting [] rest := by
  induction hlength : buffer.length using Nat.strong_induction_on generalizing buffer messages with
  | _ n ih =>
      have hself := h
      rw [drainBuffer_eq] at h
      by_cases hshort : buffer.length < 4
      · rw [if_pos hshort] at h
        cases h
        exact hself
      by_cases hlarge : maxControlMessageSize < peekBE 4 buffer
      · rw [if_neg hshort, if_pos hlarge] at h
        cases h
      by_cases hpartial : buffer.length < 4 + peekBE 4 buffer
      · rw [if_neg hshort, if_neg hlarge, if_pos hpartial] at h
        cases h
        exact hself
      rw [if_neg hshort, if_neg hlarge, if_neg hpartial] at h
      cases hdrop : drainBuffer (buffer.drop (4 + peekBE 4 buffer)) with
      | tooLarge later tail =>
          rw [hdrop] at h
          cases h
      | waiting later tail =>
          rw [prepend_waiting hdrop] at h
          cases h
          apply ih _ _ hdrop rfl
          rw [List.length_drop]
          omega

end PicooCamera.Transport
