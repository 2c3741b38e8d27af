import PicooCamera.Transport.ControlFraming

/-!
# Control framing under any chunking

A drained buffer is the frames of its messages followed by what is left. Hence
a stream without an oversize length is delivered alike under every chunking. A
stream with one is delivered in full exactly where a chunk ends behind its last
message and before the oversize length is complete.
-/

namespace PicooCamera.Transport

open PicooCamera.Library

def frameOf (message : Bytes) : Bytes := putBE 4 message.length ++ message

def framesOf (messages : List Bytes) : Bytes := (messages.map frameOf).flatten

@[simp] theorem framesOf_nil : framesOf [] = [] := rfl

@[simp] theorem framesOf_cons (message : Bytes) (messages : List Bytes) :
    framesOf (message :: messages) = frameOf message ++ framesOf messages := rfl

@[simp] theorem framesOf_append (first second : List Bytes) :
    framesOf (first ++ second) = framesOf first ++ framesOf second := by
  simp [framesOf]

theorem maxControlMessageSize_lt : maxControlMessageSize < 256 ^ 4 := by decide

theorem drainBuffer_frame {message : Bytes} (h : message.length ≤ maxControlMessageSize)
    (rest : Bytes) :
    drainBuffer (frameOf message ++ rest) = (drainBuffer rest).prepend [message] := by
  have hwire : message.length < 256 ^ 4 := Nat.lt_of_le_of_lt h maxControlMessageSize_lt
  have hshape : frameOf message ++ rest = putBE 4 message.length ++ (message ++ rest) := by
    rw [frameOf, List.append_assoc]
  have hpeek : peekBE 4 (frameOf message ++ rest) = message.length := by
    rw [hshape, peekBE_putBE_append hwire]
  have hbody : (frameOf message ++ rest).drop 4 = message ++ rest := by
    rw [hshape, drop_putBE_append]
  have hlength : (frameOf message ++ rest).length = 4 + message.length + rest.length := by
    rw [hshape]
    simp [Nat.add_assoc]
  rw [drainBuffer_eq, hpeek, if_neg (by omega), if_neg (by omega), if_neg (by omega),
    ← List.drop_drop, hbody, List.drop_left, List.take_left]

theorem drainBuffer_frames {messages : List Bytes}
    (h : ∀ message ∈ messages, message.length ≤ maxControlMessageSize) (rest : Bytes) :
    drainBuffer (framesOf messages ++ rest) = (drainBuffer rest).prepend messages := by
  induction messages with
  | nil => rw [framesOf_nil, List.nil_append, prepend_nil]
  | cons message messages ih =>
      have htail := ih fun m hm => h m (List.mem_cons_of_mem _ hm)
      rw [framesOf_cons, List.append_assoc, drainBuffer_frame (h message (by simp)), htail,
        prepend_prepend, List.singleton_append]

/-- What a drain leaves in the buffer. -/
def Drained.rest : Drained → Bytes
  | .waiting _ rest => rest
  | .tooLarge _ rest => rest

@[simp] theorem prepend_messages (earlier : List Bytes) (d : Drained) :
    (d.prepend earlier).messages = earlier ++ d.messages := by
  cases d <;> rfl

@[simp] theorem prepend_rest (earlier : List Bytes) (d : Drained) :
    (d.prepend earlier).rest = d.rest := by
  cases d <;> rfl

theorem drainBuffer_decompose (buffer : Bytes) :
    buffer = framesOf (drainBuffer buffer).messages ++ (drainBuffer buffer).rest ∧
      ∀ message ∈ (drainBuffer buffer).messages, message.length ≤ maxControlMessageSize := by
  induction hlength : buffer.length using Nat.strong_induction_on generalizing buffer with
  | _ n ih =>
      rw [drainBuffer_eq]
      by_cases hshort : buffer.length < 4
      · rw [if_pos hshort]
        simp [Drained.messages, Drained.rest]
      by_cases hlarge : maxControlMessageSize < peekBE 4 buffer
      · rw [if_neg hshort, if_pos hlarge]
        simp [Drained.messages, Drained.rest]
      by_cases hpartial : buffer.length < 4 + peekBE 4 buffer
      · rw [if_neg hshort, if_neg hlarge, if_pos hpartial]
        simp [Drained.messages, Drained.rest]
      rw [if_neg hshort, if_neg hlarge, if_neg hpartial, prepend_messages, prepend_rest]
      have hsmaller : (buffer.drop (4 + peekBE 4 buffer)).length < n := by
        rw [List.length_drop]
        omega
      obtain ⟨hrest, hsizes⟩ := ih _ hsmaller _ rfl
      have hbody : ((buffer.drop 4).take (peekBE 4 buffer)).length = peekBE 4 buffer := by
        rw [List.length_take, List.length_drop]
        omega
      have hframe : frameOf ((buffer.drop 4).take (peekBE 4 buffer)) =
          buffer.take (4 + peekBE 4 buffer) := by
        rw [frameOf, hbody, putBE_peekBE (Nat.le_of_not_lt hshort), List.take_add]
      constructor
      · rw [List.singleton_append, framesOf_cons, hframe, List.append_assoc, ← hrest,
          List.take_append_drop]
      · intro message hmessage
        rw [List.singleton_append, List.mem_cons] at hmessage
        cases hmessage with
        | inl heq =>
            rw [heq, hbody]
            exact Nat.le_of_not_lt hlarge
        | inr hlater => exact hsizes message hlater

theorem oversize_of_tooLarge {buffer rest : Bytes} {messages : List Bytes}
    (h : drainBuffer buffer = .tooLarge messages rest) :
    4 ≤ rest.length ∧ maxControlMessageSize < peekBE 4 rest := by
  induction hlength : buffer.length using Nat.strong_induction_on generalizing buffer messages with
  | _ n ih =>
      rw [drainBuffer_eq] at h
      by_cases hshort : buffer.length < 4
      · rw [if_pos hshort] at h
        cases h
      by_cases hlarge : maxControlMessageSize < peekBE 4 buffer
      · rw [if_neg hshort, if_pos hlarge] at h
        cases h
        exact ⟨Nat.le_of_not_lt hshort, hlarge⟩
      by_cases hpartial : buffer.length < 4 + peekBE 4 buffer
      · rw [if_neg hshort, if_neg hlarge, if_pos hpartial] at h
        cases h
      rw [if_neg hshort, if_neg hlarge, if_neg hpartial] at h
      cases hdrop : drainBuffer (buffer.drop (4 + peekBE 4 buffer)) with
      | waiting later tail =>
          rw [hdrop] at h
          cases h
      | tooLarge later tail =>
          rw [hdrop] at h
          cases h
          apply ih _ _ hdrop rfl
          rw [List.length_drop]
          omega

/-! ## The prefixes of a stream with an oversize length -/

/-- Behind some complete messages, `offset` bytes in all, the stream has an oversize length. -/
def OversizeAt (stream : Bytes) (offset : Nat) : Prop :=
  ∃ messages tail, stream = framesOf messages ++ tail ∧
    (∀ message ∈ messages, message.length ≤ maxControlMessageSize) ∧
    offset = (framesOf messages).length ∧ 4 ≤ tail.length ∧
    maxControlMessageSize < peekBE 4 tail

/-- A chunk ends behind the last message and before the oversize length is complete. -/
def SplitBeforeOversize (chunks : List Bytes) : Prop :=
  ∀ offset, OversizeAt chunks.flatten offset →
    ∃ before after, chunks = before ++ after ∧ offset ≤ before.flatten.length ∧
      before.flatten.length < offset + 4

theorem drainBuffer_oversize {tail : Bytes} (hheader : 4 ≤ tail.length)
    (hlarge : maxControlMessageSize < peekBE 4 tail) (more : Bytes) :
    drainBuffer (tail ++ more) = .tooLarge [] (tail ++ more) := by
  have hlong : ¬(tail ++ more).length < 4 := by
    rw [List.length_append]
    omega
  rw [drainBuffer_eq, peekBE_append hheader, if_neg hlong, if_pos hlarge]

theorem oversizeAt_iff (stream : Bytes) (offset : Nat) :
    OversizeAt stream offset ↔ ∃ messages tail,
      drainBuffer stream = .tooLarge messages tail ∧ offset = (framesOf messages).length := by
  constructor
  · rintro ⟨messages, tail, rfl, hsizes, rfl, hheader, hlarge⟩
    have htail := drainBuffer_oversize hheader hlarge []
    rw [List.append_nil] at htail
    refine ⟨messages, tail, ?_, rfl⟩
    rw [drainBuffer_frames hsizes, htail, Drained.prepend, List.append_nil]
  · rintro ⟨messages, tail, hdrain, rfl⟩
    obtain ⟨hparts, hsizes⟩ := drainBuffer_decompose stream
    obtain ⟨hheader, hlarge⟩ := oversize_of_tooLarge hdrain
    rw [hdrain] at hparts hsizes
    exact ⟨messages, tail, hparts, hsizes, rfl, hheader, hlarge⟩

section Prefix

variable {buffer more rest : Bytes} {messages : List Bytes}

theorem drain_prefix_tooLarge (h : drainBuffer (buffer ++ more) = .tooLarge messages rest)
    (hlong : (framesOf messages).length + 4 ≤ buffer.length) :
    ∃ tail, drainBuffer buffer = .tooLarge messages tail := by
  obtain ⟨hwhole, hsizes⟩ := drainBuffer_decompose (buffer ++ more)
  rw [h] at hwhole hsizes
  simp only [Drained.messages, Drained.rest] at hwhole hsizes
  obtain ⟨hheader, hoversize⟩ := oversize_of_tooLarge h
  have htake : buffer = framesOf messages ++ buffer.drop (framesOf messages).length := by
    have hfront : buffer.take (framesOf messages).length = framesOf messages := by
      have hleft := congrArg (List.take (framesOf messages).length) hwhole
      rw [List.take_append_of_le_length (by omega), List.take_left] at hleft
      exact hleft
    calc buffer = buffer.take (framesOf messages).length ++
          buffer.drop (framesOf messages).length := (List.take_append_drop _ _).symm
      _ = framesOf messages ++ buffer.drop (framesOf messages).length := by rw [hfront]
  have hdrop : buffer.drop (framesOf messages).length ++ more = rest := by
    have hright := congrArg (List.drop (framesOf messages).length) hwhole
    rw [List.drop_append_of_le_length (by omega), List.drop_left] at hright
    exact hright
  have hfour : 4 ≤ (buffer.drop (framesOf messages).length).length := by
    rw [List.length_drop]
    omega
  have hpeek : maxControlMessageSize < peekBE 4 (buffer.drop (framesOf messages).length) := by
    rw [← hdrop, peekBE_append hfour] at hoversize
    exact hoversize
  have htail : drainBuffer (buffer.drop (framesOf messages).length) =
      .tooLarge [] (buffer.drop (framesOf messages).length) := by
    rw [drainBuffer_eq, if_neg (Nat.not_lt.mpr hfour), if_pos hpeek]
  refine ⟨buffer.drop (framesOf messages).length, ?_⟩
  rw [htake, drainBuffer_frames hsizes, ← htake, htail]
  simp [Drained.prepend]

/-- A buffer in which nothing can be drained ends before the first message does, if there
is one. -/
theorem messages_nil_of_long (h : drainBuffer (buffer ++ more) = .tooLarge messages rest)
    (hidle : drainBuffer buffer = .waiting [] buffer)
    (hlong : (framesOf messages).length ≤ buffer.length) : messages = [] := by
  obtain ⟨hwhole, hsizes⟩ := drainBuffer_decompose (buffer ++ more)
  rw [h] at hwhole hsizes
  simp only [Drained.messages, Drained.rest] at hwhole hsizes
  have hfront : buffer.take (framesOf messages).length = framesOf messages := by
    have hleft := congrArg (List.take (framesOf messages).length) hwhole
    rw [List.take_append_of_le_length hlong, List.take_left] at hleft
    exact hleft
  have hdrained : (drainBuffer buffer).messages =
      messages ++ (drainBuffer (buffer.drop (framesOf messages).length)).messages := by
    rw [← prepend_messages, ← drainBuffer_frames hsizes]
    conv_lhs => rw [← List.take_append_drop (framesOf messages).length buffer, hfront]
  rw [hidle] at hdrained
  simp only [Drained.messages] at hdrained
  exact (List.append_eq_nil_iff.mp hdrained.symm).1

end Prefix

/-! ## Receiving chunk by chunk -/

theorem receiveChunks_cons_waiting {decoder : ControlFrameDecoder} {chunk : Bytes}
    {rest : List Bytes} {messages : List Bytes} {tail : Bytes}
    (h : drainBuffer (decoder.buffer ++ chunk) = .waiting messages tail) :
    receiveChunks decoder (chunk :: rest) =
      (messages ++ (receiveChunks ⟨tail⟩ rest).1, (receiveChunks ⟨tail⟩ rest).2) := by
  simp only [receiveChunks, ControlFrameDecoder.drainMessages, ControlFrameDecoder.push, h]

theorem receiveChunks_cons_tooLarge {decoder : ControlFrameDecoder} {chunk : Bytes}
    {rest : List Bytes} {messages : List Bytes} {tail : Bytes}
    (h : drainBuffer (decoder.buffer ++ chunk) = .tooLarge messages tail) :
    receiveChunks decoder (chunk :: rest) = ([], .failed) := by
  simp only [receiveChunks, ControlFrameDecoder.drainMessages, ControlFrameDecoder.push, h]

theorem receiveChunks_waiting (decoder : ControlFrameDecoder) {chunks : List Bytes}
    {messages : List Bytes} {rest : Bytes}
    (hidle : drainBuffer decoder.buffer = .waiting [] decoder.buffer)
    (h : drainBuffer (decoder.buffer ++ chunks.flatten) = .waiting messages rest) :
    receiveChunks decoder chunks = (messages, .waiting ⟨rest⟩) := by
  induction chunks generalizing decoder messages with
  | nil =>
      rw [List.flatten_nil, List.append_nil, hidle] at h
      cases h
      rfl
  | cons chunk chunks ih =>
      rw [List.flatten_cons, ← List.append_assoc] at h
      cases hchunk : drainBuffer (decoder.buffer ++ chunk) with
      | tooLarge early tail =>
          exfalso
          obtain ⟨hparts, hsizes⟩ := drainBuffer_decompose (decoder.buffer ++ chunk)
          obtain ⟨hheader, hoversize⟩ := oversize_of_tooLarge hchunk
          rw [hchunk] at hparts hsizes
          simp only [Drained.messages, Drained.rest] at hparts hsizes
          rw [hparts, List.append_assoc, drainBuffer_frames hsizes,
            drainBuffer_oversize hheader hoversize] at h
          cases h
      | waiting early tail =>
          rw [drainBuffer_append hchunk] at h
          cases hlater : drainBuffer (tail ++ chunks.flatten) with
          | tooLarge later last =>
              rw [hlater] at h
              cases h
          | waiting later last =>
              rw [hlater] at h
              cases h
              rw [receiveChunks_cons_waiting hchunk,
                ih ⟨tail⟩ (drainBuffer_rest hchunk) hlater]

/-- A stream with an oversize length ends the connection; all its messages are delivered
exactly where a chunk ends between them and the oversize length. -/
theorem receiveChunks_tooLarge (decoder : ControlFrameDecoder) {chunks : List Bytes}
    {messages : List Bytes} {rest : Bytes}
    (hidle : drainBuffer decoder.buffer = .waiting [] decoder.buffer)
    (h : drainBuffer (decoder.buffer ++ chunks.flatten) = .tooLarge messages rest) :
    (receiveChunks decoder chunks).2 = .failed ∧
      ((receiveChunks decoder chunks).1 = messages ↔
        ∃ before after, chunks = before ++ after ∧
          (framesOf messages).length ≤ decoder.buffer.length + before.flatten.length ∧
          decoder.buffer.length + before.flatten.length < (framesOf messages).length + 4) := by
  induction chunks generalizing decoder messages with
  | nil =>
      rw [List.flatten_nil, List.append_nil, hidle] at h
      cases h
  | cons chunk chunks ih =>
      rw [List.flatten_cons, ← List.append_assoc] at h
      have hshort : messages = [] → decoder.buffer.length < 4 := by
        rintro rfl
        by_contra hlong
        rw [List.append_assoc] at h
        obtain ⟨tail, htail⟩ := drain_prefix_tooLarge h (by simpa using hlong)
        rw [hidle] at htail
        cases htail
      have hempty : (framesOf messages).length ≤ decoder.buffer.length → messages = [] := by
        intro hlong
        rw [List.append_assoc] at h
        exact messages_nil_of_long h hidle hlong
      by_cases hover : (framesOf messages).length + 4 ≤ (decoder.buffer ++ chunk).length
      · -- the chunk completes the oversize length
        obtain ⟨tail, htail⟩ := drain_prefix_tooLarge h hover
        rw [receiveChunks_cons_tooLarge htail]
        refine ⟨rfl, ?_⟩
        constructor
        · rintro rfl
          exact ⟨[], chunk :: chunks, rfl, by simp, by simpa using hshort rfl⟩
        · rintro ⟨before, after, hsplit, hlow, hhigh⟩
          cases before with
          | nil => exact (hempty (by simpa using hlow)).symm
          | cons first before =>
              rw [List.cons_append] at hsplit
              cases hsplit
              rw [List.flatten_cons, List.length_append] at hhigh
              rw [List.length_append] at hover
              omega
      · -- the oversize length is complete in a later chunk
        cases hchunk : drainBuffer (decoder.buffer ++ chunk) with
        | tooLarge early tail =>
            exfalso
            obtain ⟨hparts, hsizes⟩ := drainBuffer_decompose (decoder.buffer ++ chunk)
            obtain ⟨hheader, hoversize⟩ := oversize_of_tooLarge hchunk
            rw [hchunk] at hparts hsizes
            simp only [Drained.messages, Drained.rest] at hparts hsizes
            rw [hparts, List.append_assoc, drainBuffer_frames hsizes,
              drainBuffer_oversize hheader hoversize] at h
            simp only [Drained.prepend, List.append_nil] at h
            cases h
            rw [hparts, List.length_append] at hover
            omega
        | waiting early tail =>
            have hparts := (drainBuffer_decompose (decoder.buffer ++ chunk)).1
            rw [hchunk] at hparts
            simp only [Drained.messages, Drained.rest] at hparts
            have hlength := congrArg List.length hparts
            rw [List.length_append, List.length_append] at hlength
            rw [drainBuffer_append hchunk] at h
            cases hlater : drainBuffer (tail ++ chunks.flatten) with
            | waiting later last =>
                rw [hlater] at h
                cases h
            | tooLarge later last =>
                rw [hlater] at h
                cases h
                obtain ⟨hend, hall⟩ :=
                  ih ⟨tail⟩ (drainBuffer_rest hchunk) hlater
                rw [receiveChunks_cons_waiting hchunk]
                refine ⟨hend, ?_⟩
                rw [List.append_cancel_left_eq, hall]
                simp only [framesOf_append, List.length_append] at hempty hshort hover ⊢
                constructor
                · rintro ⟨before, after, rfl, hlow, hhigh⟩
                  refine ⟨chunk :: before, after, rfl, ?_, ?_⟩
                  · rw [List.flatten_cons, List.length_append]
                    omega
                  · rw [List.flatten_cons, List.length_append]
                    omega
                · rintro ⟨before, after, hsplit, hlow, hhigh⟩
                  cases before with
                  | nil =>
                      have hnone := hempty (by simpa using hlow)
                      obtain ⟨rfl, rfl⟩ := List.append_eq_nil_iff.mp hnone
                      refine ⟨[], chunks, rfl, by simp, ?_⟩
                      simp only [framesOf_nil, List.length_nil] at hlength hover ⊢
                      simp only [List.flatten_nil, List.length_nil]
                      omega
                  | cons first before =>
                      rw [List.cons_append] at hsplit
                      cases hsplit
                      rw [List.flatten_cons, List.length_append] at hlow hhigh
                      exact ⟨before, after, rfl, by omega, by omega⟩

theorem idle_new : drainBuffer ControlFrameDecoder.new.buffer =
    .waiting [] ControlFrameDecoder.new.buffer := rfl

theorem receiveChunks_front (decoder : ControlFrameDecoder) (chunks : List Bytes) :
    (receiveChunks decoder chunks).1 <+:
      (drainBuffer (decoder.buffer ++ chunks.flatten)).messages := by
  induction chunks generalizing decoder with
  | nil => exact List.nil_prefix
  | cons chunk chunks ih =>
      rw [List.flatten_cons, ← List.append_assoc]
      cases hchunk : drainBuffer (decoder.buffer ++ chunk) with
      | tooLarge early tail =>
          rw [receiveChunks_cons_tooLarge hchunk]
          exact List.nil_prefix
      | waiting early tail =>
          rw [receiveChunks_cons_waiting hchunk, drainBuffer_append hchunk, prepend_messages,
            List.prefix_append_right_inj]
          exact ih ⟨tail⟩

/-- Every complete message in front of an invalid length or a partial frame is delivered. -/
def DeliversComplete (chunks : List Bytes) : Prop :=
  ∀ messages tail, chunks.flatten = framesOf messages ++ tail →
    (∀ message ∈ messages, message.length ≤ maxControlMessageSize) →
    messages <+: (receiveChunks ControlFrameDecoder.new chunks).1

theorem deliversComplete_iff_messages (chunks : List Bytes) :
    DeliversComplete chunks ↔
      (receiveChunks ControlFrameDecoder.new chunks).1 =
        (drainBuffer chunks.flatten).messages := by
  obtain ⟨hparts, hsizes⟩ := drainBuffer_decompose chunks.flatten
  constructor
  · intro hcomplete
    have hfront := receiveChunks_front ControlFrameDecoder.new chunks
    rw [ControlFrameDecoder.new, List.nil_append] at hfront
    have hwhole := hcomplete _ _ hparts hsizes
    exact List.IsPrefix.eq_of_length_le hfront hwhole.length_le
  · intro heq messages tail hstream hmessages
    rw [heq, hstream, drainBuffer_frames hmessages, prepend_messages]
    exact List.prefix_append _ _

/-- A chunking delivers every complete message of the stream exactly where it splits the
stream before an oversize length. -/
theorem deliversComplete_iff (chunks : List Bytes) :
    DeliversComplete chunks ↔ SplitBeforeOversize chunks := by
  rw [deliversComplete_iff_messages]
  cases h : drainBuffer chunks.flatten with
  | waiting messages rest =>
      have hreceived := receiveChunks_waiting ControlFrameDecoder.new idle_new h
      have hnone : SplitBeforeOversize chunks := by
        intro offset hoversize
        obtain ⟨early, tail, hdrain, -⟩ := (oversizeAt_iff _ _).mp hoversize
        rw [h] at hdrain
        cases hdrain
      rw [hreceived]
      simp [Drained.messages, hnone]
  | tooLarge messages rest =>
      have hreceived := (receiveChunks_tooLarge ControlFrameDecoder.new idle_new h).2
      have hoffset : ∀ offset, OversizeAt chunks.flatten offset ↔
          (framesOf messages).length = offset := by
        intro offset
        rw [oversizeAt_iff, h]
        constructor
        · rintro ⟨early, tail, hdrain, rfl⟩
          cases hdrain
          rfl
        · rintro rfl
          exact ⟨messages, rest, rfl, rfl⟩
      simp only [SplitBeforeOversize, hoffset, forall_eq', Drained.messages, hreceived]
      simp [ControlFrameDecoder.new]

theorem ending_eq (chunks : List Bytes) :
    (receiveChunks ControlFrameDecoder.new chunks).2 =
      match drainBuffer chunks.flatten with
      | .waiting _ rest => .waiting ⟨rest⟩
      | .tooLarge _ _ => .failed := by
  cases h : drainBuffer chunks.flatten with
  | waiting messages rest =>
      rw [receiveChunks_waiting ControlFrameDecoder.new idle_new h]
  | tooLarge messages rest =>
      exact (receiveChunks_tooLarge ControlFrameDecoder.new idle_new h).1

theorem encodeControlFrame_ok {message frame : Bytes}
    (h : encodeControlFrame message = .ok frame) :
    message.length ≤ maxControlMessageSize ∧ frame = frameOf message := by
  unfold encodeControlFrame at h
  by_cases hlarge : maxControlMessageSize < message.length
  · rw [if_pos hlarge] at h
    cases h
  · rw [if_neg hlarge] at h
    cases h
    exact ⟨Nat.le_of_not_lt hlarge, rfl⟩

theorem receiveChunks_encoded {messages frames chunks : List Bytes}
    (h : List.Forall₂ (fun message frame => encodeControlFrame message = .ok frame) messages
      frames) (hstream : chunks.flatten = frames.flatten) :
    receiveChunks ControlFrameDecoder.new chunks = (messages, .waiting ControlFrameDecoder.new) := by
  have hframes : frames.flatten = framesOf messages ∧
      ∀ message ∈ messages, message.length ≤ maxControlMessageSize := by
    clear hstream
    induction h with
    | nil => simp
    | cons hhead _ ih =>
        obtain ⟨hsize, rfl⟩ := encodeControlFrame_ok hhead
        refine ⟨by rw [List.flatten_cons, ih.1, framesOf_cons], ?_⟩
        intro message hmessage
        cases List.mem_cons.mp hmessage with
        | inl heq => exact heq ▸ hsize
        | inr htail => exact ih.2 message htail
  have hdrain : drainBuffer chunks.flatten = .waiting messages [] := by
    have hall := drainBuffer_frames hframes.2 []
    rw [List.append_nil] at hall
    rw [hstream, hframes.1, hall]
    simp [drainBuffer, drainLoop, Drained.prepend]
  rw [receiveChunks_waiting ControlFrameDecoder.new idle_new hdrain]
  rfl

/-! ## Two chunkings of one stream -/

/-- What framing promises of two ways to split a stream. -/
structure ChunkingsAgree (first second : List Bytes) : Prop where
  same : receiveChunks ControlFrameDecoder.new first = receiveChunks ControlFrameDecoder.new second
  complete : DeliversComplete first ∧ DeliversComplete second
  encoded : ∀ messages frames,
    List.Forall₂ (fun message frame => encodeControlFrame message = .ok frame) messages frames →
    first.flatten = frames.flatten →
    receiveChunks ControlFrameDecoder.new first = (messages, .waiting ControlFrameDecoder.new)

/-- Two chunkings of a stream are received alike and in full exactly where each splits it
before an oversize length. -/
theorem chunkings_agree_iff {first second : List Bytes} (h : first.flatten = second.flatten) :
    ChunkingsAgree first second ↔ SplitBeforeOversize first ∧ SplitBeforeOversize second := by
  constructor
  · rintro ⟨-, ⟨hfirst, hsecond⟩, -⟩
    exact ⟨(deliversComplete_iff first).mp hfirst, (deliversComplete_iff second).mp hsecond⟩
  · rintro ⟨hfirst, hsecond⟩
    have hone := (deliversComplete_iff first).mpr hfirst
    have htwo := (deliversComplete_iff second).mpr hsecond
    refine ⟨?_, ⟨hone, htwo⟩, fun messages frames hframes => receiveChunks_encoded hframes⟩
    have hmessages : (receiveChunks ControlFrameDecoder.new first).1 =
        (receiveChunks ControlFrameDecoder.new second).1 := by
      rw [(deliversComplete_iff_messages first).mp hone,
        (deliversComplete_iff_messages second).mp htwo, h]
    have hending : (receiveChunks ControlFrameDecoder.new first).2 =
        (receiveChunks ControlFrameDecoder.new second).2 := by
      rw [ending_eq first, ending_eq second, h]
    exact Prod.ext hmessages hending

/-- A message of one byte and an oversize length. -/
def oversizeStream : Bytes := [0, 0, 0, 1, 7, 255, 255, 255, 255]

theorem chunkings_agree_iff_sample :
    ChunkingsAgree [oversizeStream.take 5, oversizeStream.drop 5]
      [oversizeStream.take 6, oversizeStream.drop 6] ↔
    SplitBeforeOversize [oversizeStream.take 5, oversizeStream.drop 5] ∧
      SplitBeforeOversize [oversizeStream.take 6, oversizeStream.drop 6] :=
  chunkings_agree_iff (by decide)

/-- In one chunk the message is lost, in two it is delivered. -/
theorem oversize_in_chunk_loses :
    [oversizeStream].flatten = [oversizeStream.take 5, oversizeStream.drop 5].flatten ∧
      receiveChunks ControlFrameDecoder.new [oversizeStream] = ([], .failed) ∧
      receiveChunks ControlFrameDecoder.new [oversizeStream.take 5, oversizeStream.drop 5] =
        ([[7]], .failed) ∧
      ¬ChunkingsAgree [oversizeStream] [oversizeStream.take 5, oversizeStream.drop 5] := by
  have hone : receiveChunks ControlFrameDecoder.new [oversizeStream] = ([], .failed) := by decide
  have htwo : receiveChunks ControlFrameDecoder.new
      [oversizeStream.take 5, oversizeStream.drop 5] = ([[7]], .failed) := by decide
  refine ⟨by decide, hone, htwo, ?_⟩
  intro hagree
  have hsame := hagree.same
  rw [hone, htwo] at hsame
  cases hsame

end PicooCamera.Transport
