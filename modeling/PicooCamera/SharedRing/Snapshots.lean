import PicooCamera.SharedRing.Exclusion

/-!
# Snapshots

What the producer has written is known at each of its steps, and what a
consumer has read holds as long as it has its lease. So a view shows the
arguments of one publish call.
-/

namespace PicooCamera.SharedRing

open PicooCamera.Library RingMemory

/-! ## What one publish call writes -/

theorem fromWire_signalBit (kind : SharedFrameKind) :
    SharedFrameKind.fromWire kind.signalBit = some kind := by
  cases kind <;> rfl

def PlainWrite.Holds (slot : RingSlot) : PlainWrite → Prop
  | .field name value => slot.plain name = value
  | .pixel i value => slot.pixels i = value

theorem mem_writes_field {a : PublishCall} {name : PlainField} {value : Nat} :
    .field name value ∈ a.writes ↔ value = a.plain name := by
  unfold PublishCall.writes
  rw [List.mem_append, List.mem_map, List.mem_map]
  constructor
  · rintro (⟨name', _, heq⟩ | ⟨_, _, heq⟩)
    · cases heq
      rfl
    · cases heq
  · rintro rfl
    refine Or.inl ⟨name, ?_, rfl⟩
    cases name <;> decide

theorem mem_writes_pixel {a : PublishCall} {i : Nat} {value : UInt8} :
    .pixel i value ∈ a.writes ↔ a.nv12[i]? = some value := by
  unfold PublishCall.writes
  rw [List.mem_append, List.mem_map, List.mem_map]
  constructor
  · rintro (⟨_, _, heq⟩ | ⟨byte, hbyte, heq⟩)
    · cases heq
    · cases heq
      exact List.mem_zipIdx_iff_getElem?.mp hbyte
  · intro hvalue
    exact Or.inr ⟨(value, i), List.mem_zipIdx_iff_getElem?.mpr hvalue, rfl⟩

theorem holds_apply {a : PublishCall} {w w' : PlainWrite} {slot : RingSlot} (hw : w ∈ a.writes)
    (hw' : w' ∈ a.writes) (h : w' = w ∨ w'.Holds slot) : w'.Holds (w.apply slot) := by
  cases w with
  | field name value =>
      cases w' with
      | field name' value' =>
          change Function.update slot.plain name value name' = value'
          by_cases heq : name' = name
          · subst heq
            rw [Function.update_self, mem_writes_field.mp hw, mem_writes_field.mp hw']
          · rw [Function.update_of_ne heq]
            refine h.resolve_left fun hsame => heq ?_
            cases hsame
            rfl
      | pixel i value' => exact h.resolve_left nofun
  | pixel i value =>
      cases w' with
      | field name' value' => exact h.resolve_left nofun
      | pixel i' value' =>
          change Function.update slot.pixels i value i' = value'
          by_cases heq : i' = i
          · subst heq
            rw [Function.update_self]
            exact Option.some.inj ((mem_writes_pixel.mp hw).symm.trans (mem_writes_pixel.mp hw'))
          · rw [Function.update_of_ne heq]
            refine h.resolve_left fun hsame => heq ?_
            cases hsame
            rfl

/-- The slot shows what the call was given. -/
structure Shows (slot : RingSlot) (a : PublishCall) : Prop where
  plain : slot.plain = a.plain
  pixels : ∀ i value, a.nv12[i]? = some value → slot.pixels i = value

theorem shows_of_writes {slot : RingSlot} {a : PublishCall}
    (h : ∀ w ∈ a.writes, w.Holds slot) : Shows slot a := by
  constructor
  · funext name
    exact h (.field name (a.plain name)) (mem_writes_field.mpr rfl)
  · intro i value hvalue
    exact h (.pixel i value) (mem_writes_pixel.mpr hvalue)

theorem Shows.congr {slot slot' : RingSlot} {a : PublishCall} (h : Shows slot a)
    (hplain : slot'.plain = slot.plain) (hpixels : slot'.pixels = slot.pixels) :
    Shows slot' a := by
  refine ⟨hplain.trans h.plain, ?_⟩
  intro i value hvalue
  rw [hpixels]
  exact h.pixels i value hvalue

theorem Shows.bytes {slot : RingSlot} {a : PublishCall} (h : Shows slot a) :
    (List.range a.nv12.length).map slot.pixels = a.nv12 := by
  apply List.ext_getElem
  · rw [List.length_map, List.length_range]
  · intro i _ hi
    rw [List.getElem_map, List.getElem_range]
    exact h.pixels i _ (List.getElem?_eq_getElem hi)

/-! ## The slots that are done -/

/-- The sequence of the call that is number `k`, as the release build counts. -/
def sequenceOf (k : Nat) : Nat := (k + 1) % 2 ^ 64

/-- What a completed call leaves in its slot. -/
structure Displays (slot : RingSlot) (pub : Publication) : Prop where
  sequence : slot.sequence = pub.sequence
  generation : slot.contentGeneration = pub.call.generation
  shows : Shows slot pub.call

theorem Displays.congr {slot slot' : RingSlot} {pub : Publication} (h : Displays slot pub)
    (hsame : SameContent slot' slot) : Displays slot' pub :=
  ⟨hsame.sequence.trans h.sequence, hsame.contentGeneration.trans h.generation,
    h.shows.congr hsame.plain hsame.pixels⟩

/-- A slot that is done holds a completed call. -/
def Complete (completed : List Publication) (slot : RingSlot) : Prop :=
  slot.readyState = .done → ∃ pub ∈ completed, Displays slot pub

theorem Complete.congr {completed : List Publication} {slot slot' : RingSlot}
    (h : Complete completed slot) (hsame : SameContent slot' slot) :
    Complete completed slot' := by
  intro hdone
  rw [hsame.readyState] at hdone
  obtain ⟨pub, hpub, hdisplays⟩ := h hdone
  exact ⟨pub, hpub, hdisplays.congr hsame⟩

theorem Complete.append {completed : List Publication} {slot : RingSlot}
    (h : Complete completed slot) (more : List Publication) :
    Complete (completed ++ more) slot := by
  intro hdone
  obtain ⟨pub, hpub, hdisplays⟩ := h hdone
  exact ⟨pub, List.mem_append_left _ hpub, hdisplays⟩

theorem complete_of_not_done {completed : List Publication} {slot : RingSlot}
    (h : slot.readyState ≠ .done) : Complete completed slot :=
  fun hdone => absurd hdone h

/-! ## The producer -/

/-- What is known of the producer's slot and of its sequence, by where the call stands. The
second argument is the number of the calls that marked their slot. -/
def ProducerSound (m : RingMemory) (count : Nat) : ProducerState → Prop
  | .write a index left => (m.slots index).readyState = .writing ∧ left <:+ a.writes ∧
      ∀ w ∈ a.writes, w ∈ left ∨ w.Holds (m.slots index)
  | .loadLatest a index => (m.slots index).readyState = .writing ∧ Shows (m.slots index) a
  | .storeGeneration a index sequence => (m.slots index).readyState = .writing ∧
      Shows (m.slots index) a ∧ sequence = sequenceOf count
  | .storeSequence a index sequence => (m.slots index).readyState = .writing ∧
      Shows (m.slots index) a ∧ sequence = sequenceOf count ∧
        (m.slots index).contentGeneration = a.generation
  | .storeReady a index sequence => (m.slots index).readyState = .writing ∧
      Shows (m.slots index) a ∧ sequence = sequenceOf count ∧
        (m.slots index).contentGeneration = a.generation ∧ (m.slots index).sequence = sequence
  | .storeLease a index sequence => (m.slots index).readyState = .done ∧
      (m.slots index).contentGeneration = a.generation ∧ (m.slots index).sequence = sequence
  | _ => True

/-- The call whose slot is marked, and whose answer is still to come. -/
def unanswered : ProducerState → List (PublishCall × Nat)
  | .storeLease a _ sequence | .storeLatest a _ sequence | .storeWriteIndex a _ sequence =>
      [(a, sequence)]
  | _ => []

/-- The number of calls that have stored the latest sequence. -/
def stored (count : Nat) : ProducerState → Nat
  | .storeLease _ _ _ | .storeLatest _ _ _ => count - 1
  | _ => count

/-- The calls that returned `Published`, with their sequences. -/
def publishedAnswers (answers : List (PublishCall × RingPublishResult)) :
    List (PublishCall × Nat) :=
  answers.filterMap fun entry =>
    match entry.2 with
    | .published sequence => some (entry.1, sequence)
    | _ => none

def Publication.entry (pub : Publication) : PublishCall × Nat := (pub.call, pub.sequence)

structure ProducerInvariant (s : RingState) : Prop where
  complete : ∀ i, Complete s.completed (s.memory.slots i)
  sound : ProducerSound s.memory s.completed.length s.producer
  latest : s.memory.latestSequence = stored s.completed.length s.producer % 2 ^ 64
  numbered : s.completed.map Publication.sequence = (List.range s.completed.length).map sequenceOf
  answers : publishedAnswers s.answers ++ unanswered s.producer =
    s.completed.map Publication.entry

section Producer

variable {capacity : FrameCapacity} {m : RingMemory} {s : RingState} {count : Nat}

theorem publishedAnswers_append (answers more : List (PublishCall × RingPublishResult)) :
    publishedAnswers (answers ++ more) = publishedAnswers answers ++ publishedAnswers more :=
  List.filterMap_append

theorem complete_updateSlot {completed : List Publication} {index : Nat} {f : RingSlot → RingSlot}
    (h : ∀ i, Complete completed (m.slots i)) (hself : Complete completed (f (m.slots index)))
    (i : Nat) : Complete completed ((m.updateSlot index f).slots i) := by
  by_cases hi : i = index
  · subst hi
    rw [updateSlot_self]
    exact hself
  · rw [updateSlot_of_ne hi]
    exact h i

theorem readyState_apply (w : PlainWrite) (slot : RingSlot) :
    (w.apply slot).readyState = slot.readyState := by
  cases w <;> rfl

theorem unanswered_of_early {p : ProducerState} (h : isEarly p = true) : unanswered p = [] := by
  cases p <;> first | rfl | cases h

theorem stored_of_early {p : ProducerState} (h : isEarly p = true) : stored count p = count := by
  cases p <;> first | rfl | cases h

theorem marksDone_of_early (h : isEarly s.producer = true) : Ring.marksDone s = [] := by
  unfold Ring.marksDone
  split
  · rename_i hp
    rw [hp] at h
    cases h
  · rfl

theorem publishedAnswers_refused {a : PublishCall} {result : RingPublishResult}
    (h : ∀ sequence, result ≠ .published sequence) : publishedAnswers [(a, result)] = [] := by
  cases result with
  | published sequence => exact absurd rfl (h sequence)
  | _ => rfl

theorem stepProducer_of_unmarked (h : Ring.marksDone s = []) :
    Ring.stepProducer capacity s = { s with
      memory := (producerStep capacity s.memory s.producer).memory
      producer := (producerStep capacity s.memory s.producer).next
      admitted := Ring.signalAtAdmission s
      answers := s.answers ++ (producerStep capacity s.memory s.producer).answer.toList } := by
  unfold Ring.stepProducer
  rw [h, List.append_nil]

theorem ProducerInvariant.unmarked (h : ProducerInvariant s) {out : ProducerOutcome}
    (hout : producerStep capacity s.memory s.producer = out) (hmarks : Ring.marksDone s = [])
    (hcomplete : ∀ i, Complete s.completed (out.memory.slots i))
    (hsound : ProducerSound out.memory s.completed.length out.next)
    (hlatest : out.memory.latestSequence = stored s.completed.length out.next % 2 ^ 64)
    (hanswers : publishedAnswers out.answer.toList ++ unanswered out.next =
      unanswered s.producer) :
    ProducerInvariant (Ring.stepProducer capacity s) := by
  rw [stepProducer_of_unmarked hmarks, hout]
  refine ⟨hcomplete, hsound, hlatest, h.numbered, ?_⟩
  dsimp only
  rw [publishedAnswers_append, List.append_assoc, hanswers, h.answers]

theorem ProducerInvariant.mark (h : ProducerInvariant s) {a : PublishCall}
    {index sequence admitted : Nat} (hp : s.producer = .storeReady a index sequence) :
    ProducerInvariant { s with
      memory := s.memory.updateSlot index (setReady .done)
      producer := .storeLease a index sequence
      admitted := admitted
      completed := s.completed ++ [⟨a, sequence, s.admitted, s.memory.contentGeneration⟩]
      answers := s.answers ++ [] } := by
  have hsound := h.sound
  have hlatest := h.latest
  have hanswers := h.answers
  rw [hp] at hsound hlatest hanswers
  obtain ⟨-, hshows, hnumber, hgeneration, hsequence⟩ := hsound
  constructor
  · apply complete_updateSlot fun i => (h.complete i).append _
    intro _
    exact ⟨_, List.mem_append_right _ (List.mem_singleton_self _), hsequence, hgeneration,
      hshows.congr rfl rfl⟩
  · dsimp only [ProducerSound]
    rw [updateSlot_self]
    exact ⟨rfl, hgeneration, hsequence⟩
  · dsimp only [stored]
    rw [List.length_append]
    exact hlatest
  · dsimp only
    rw [List.map_append, h.numbered, List.length_append, List.length_singleton, List.range_succ,
      List.map_append, List.map_singleton, List.map_singleton, hnumber]
  · dsimp only [unanswered] at hanswers ⊢
    rw [List.append_nil] at hanswers
    rw [List.map_append, ← hanswers, List.append_nil]
    rfl

theorem write_sound {a : PublishCall} {index : Nat} {w : PlainWrite} {left : List PlainWrite}
    (h : ProducerSound m count (.write a index (w :: left))) :
    ProducerSound (m.updateSlot index w.apply) count (.write a index left) := by
  obtain ⟨hready, hsuffix, hwritten⟩ := h
  have hmem : w ∈ a.writes := hsuffix.subset List.mem_cons_self
  refine ⟨?_, (List.suffix_cons w left).trans hsuffix, ?_⟩
  · rw [updateSlot_self, readyState_apply]
    exact hready
  · intro w' hw'
    rw [updateSlot_self]
    rcases hwritten w' hw' with hleft | hholds
    · rcases List.mem_cons.mp hleft with rfl | hleft
      · exact Or.inr (holds_apply hmem hw' (Or.inl rfl))
      · exact Or.inl hleft
    · exact Or.inr (holds_apply hmem hw' (Or.inr hholds))

theorem written_shows {a : PublishCall} {index : Nat}
    (h : ProducerSound m count (.write a index [])) :
    (m.slots index).readyState = .writing ∧ Shows (m.slots index) a := by
  obtain ⟨hready, -, hwritten⟩ := h
  refine ⟨hready, shows_of_writes fun w hw => ?_⟩
  exact (hwritten w hw).resolve_left List.not_mem_nil

theorem ProducerInvariant.last_sequence (h : ProducerInvariant s) {a : PublishCall}
    {sequence : Nat} (hlast : unanswered s.producer = [(a, sequence)]) :
    ∃ count, s.completed.length = count + 1 ∧ sequence = sequenceOf count := by
  have hanswers := congrArg (List.map Prod.snd) h.answers
  have hentry : s.completed.map (Prod.snd ∘ Publication.entry) =
      (List.range s.completed.length).map sequenceOf := h.numbered
  rw [hlast, List.map_append, List.map_map, hentry] at hanswers
  cases hcount : s.completed.length with
  | zero =>
      rw [hcount] at hanswers
      exact absurd hanswers (by simp)
  | succ count =>
      rw [hcount, List.range_succ, List.map_append] at hanswers
      refine ⟨count, rfl, ?_⟩
      exact (List.cons.inj (List.append_inj_right' hanswers rfl)).1

theorem ProducerInvariant.producer (h : ProducerInvariant s) :
    ProducerInvariant (Ring.stepProducer capacity s) := by
  obtain ⟨m, p, admitted, readers, invalidators, completed, answers⟩ := s
  have hsound := h.sound
  have hlatest := h.latest
  have hcomplete := h.complete
  dsimp only at hsound hlatest hcomplete
  have hwriting : ∀ {index : Nat} {f : RingSlot → RingSlot},
      (f (m.slots index)).readyState = .writing → ∀ i,
        Complete completed ((m.updateSlot index f).slots i) := by
    intro index f hready
    refine complete_updateSlot hcomplete (complete_of_not_done ?_)
    rw [hready]
    decide
  have hcounter : ∀ {index count : Nat} (i : Nat),
      Complete completed ((m.updateSlot index (setReaderCount count)).slots i) := fun i =>
    (hcomplete i).congr (sameContent_updateSlot (sameContent_setReaderCount _) i)
  have hmove := @producerStep_move capacity m p
  generalize hout : producerStep capacity m p = out at hmove
  cases hmove with
  | idle => exact h.unmarked hout rfl hcomplete trivial hlatest rfl
  | refused a result hearly hresult =>
      have hanswers : publishedAnswers [(a, result)] ++ [] = unanswered p := by
        rw [publishedAnswers_refused hresult, unanswered_of_early hearly]
        rfl
      refine h.unmarked hout (marksDone_of_early hearly) hcomplete trivial ?_ hanswers
      rw [stored_of_early hearly] at hlatest
      exact hlatest
  | generation a hnonzero hcurrent => exact h.unmarked hout rfl hcomplete trivial hlatest rfl
  | kindGeneration a => exact h.unmarked hout rfl hcomplete trivial hlatest rfl
  | kindSignal a hkind hfits => exact h.unmarked hout rfl hcomplete trivial hlatest rfl
  | loadWriteIndex a => exact h.unmarked hout rfl hcomplete trivial hlatest rfl
  | claimed a start offset hfree => exact h.unmarked hout rfl hcounter trivial hlatest rfl
  | skipped a start offset => exact h.unmarked hout rfl hcomplete trivial hlatest rfl
  | markWriting a index =>
      refine h.unmarked hout rfl (hwriting rfl) ⟨?_, List.suffix_refl _, fun w hw => Or.inl hw⟩
        hlatest rfl
      change ((m.updateSlot index (setReady .writing)).slots index).readyState = .writing
      rw [updateSlot_self]
      rfl
  | write a index w left =>
      refine h.unmarked hout rfl (hwriting ?_) (write_sound hsound) hlatest rfl
      rw [readyState_apply]
      exact hsound.1
  | written a index hcurrent =>
      exact h.unmarked hout rfl hcomplete (written_shows hsound) hlatest rfl
  | stale a index hstale => exact h.unmarked hout rfl hcomplete trivial hlatest rfl
  | abortReady a index =>
      refine h.unmarked hout rfl (complete_updateSlot hcomplete ?_) trivial hlatest rfl
      exact complete_of_not_done nofun
  | abortLease a index => exact h.unmarked hout rfl hcounter trivial hlatest rfl
  | loadLatest a index =>
      refine h.unmarked hout rfl hcomplete ⟨hsound.1, hsound.2, ?_⟩ hlatest rfl
      rw [hlatest]
      exact Nat.mod_add_mod _ _ _
  | storeGeneration a index sequence =>
      obtain ⟨hready, hshows, hnumber⟩ := hsound
      refine h.unmarked hout rfl (hwriting hready) ?_ hlatest rfl
      change ProducerSound (m.updateSlot index (setContentGeneration a.generation)) _
        (.storeSequence a index sequence)
      dsimp only [ProducerSound]
      rw [updateSlot_self]
      exact ⟨hready, hshows.congr rfl rfl, hnumber, rfl⟩
  | storeSequence a index sequence =>
      obtain ⟨hready, hshows, hnumber, hgeneration⟩ := hsound
      refine h.unmarked hout rfl (hwriting hready) ?_ hlatest rfl
      change ProducerSound (m.updateSlot index (setSequence sequence)) _
        (.storeReady a index sequence)
      dsimp only [ProducerSound]
      rw [updateSlot_self]
      exact ⟨hready, hshows.congr rfl rfl, hnumber, hgeneration, rfl⟩
  | storeReady a index sequence => exact h.mark rfl
  | storeLease a index sequence => exact h.unmarked hout rfl hcounter trivial hlatest rfl
  | storeLatest a index sequence =>
      obtain ⟨count, hcount, hnumber⟩ := h.last_sequence rfl
      refine h.unmarked hout rfl hcomplete trivial ?_ rfl
      change sequence = completed.length % 2 ^ 64
      rw [hnumber, hcount]
      rfl
  | storeWriteIndex a index sequence => exact h.unmarked hout rfl hcomplete trivial hlatest rfl

end Producer

end PicooCamera.SharedRing
