import PicooCamera.Pairing.Handshake

/-!
# What a transcript binds

Every field is written behind its length, so the bytes that are hashed name one
transcript, and the bytes that are signed name one phase and one hash.
-/

namespace PicooCamera.Pairing

open PicooCamera.Library

theorem utf8_injective : Function.Injective utf8 := by
  intro s t h
  unfold utf8 at h
  rw [String.toUTF8_eq_toByteArray, String.toUTF8_eq_toByteArray] at h
  apply String.toByteArray_inj.mp
  apply ByteArray.ext
  apply Array.toList_inj.mp
  exact h

theorem fieldBytes_append_inj {a b rest rest' : Bytes} (ha : a.length < 2 ^ 32)
    (hb : b.length < 2 ^ 32) (h : fieldBytes a ++ rest = fieldBytes b ++ rest') :
    a = b ∧ rest = rest' := by
  unfold fieldBytes at h
  rw [List.append_assoc, List.append_assoc] at h
  obtain ⟨hlength, hvalue⟩ := List.append_inj h (by simp)
  have hsame : a.length = b.length :=
    putBE_injective (w := 4) (by norm_num; omega) (by norm_num; omega) hlength
  exact List.append_inj hvalue hsame

namespace PairingTranscript

variable {crypto : Cryptography} {a b : PairingTranscript} {digest : Bytes}

/-- `hash` returns the digest: the checks pass, and `append_field` does not panic on a field.
The generation is a `u64`. -/
structure Accepted (crypto : Cryptography) (t : PairingTranscript) (digest : Bytes) : Prop where
  hashed : t.hash crypto = .ok digest
  senderId : (utf8 t.senderId).length < 2 ^ 32
  receiverId : (utf8 t.receiverId).length < 2 ^ 32
  connectionGeneration : t.connectionGeneration < 2 ^ 64

theorem Accepted.length_eq (h : a.Accepted crypto digest) (check : String × Bytes)
    (hmem : check ∈ a.lengthChecks) : check.2.length = 32 := by
  have hhashed := h.hashed
  unfold hash at hhashed
  cases hfind : a.lengthChecks.find? fun check => check.2.length ≠ 32 with
  | none => simpa using List.find?_eq_none.mp hfind _ hmem
  | some check =>
      rw [hfind] at hhashed
      cases hhashed

theorem Accepted.present (h : a.Accepted crypto digest) :
    (utf8 a.protocol).length ≤ 255 ∧ digest = crypto.sha256 a.encoded := by
  have hhashed := h.hashed
  unfold hash at hhashed
  cases hfind : a.lengthChecks.find? fun check => check.2.length ≠ 32 with
  | none =>
      rw [hfind] at hhashed
      dsimp only at hhashed
      split at hhashed
      · cases hhashed
      · rename_i hpresent
        refine ⟨?_, (Except.ok.inj hhashed).symm⟩
        by_contra hlong
        exact hpresent (.inr (.inl (Nat.lt_of_not_le hlong)))
  | some check =>
      rw [hfind] at hhashed
      cases hhashed

theorem Accepted.short (h : a.Accepted crypto digest) :
    (utf8 a.protocol).length < 2 ^ 32 ∧ a.senderPublicKey.length < 2 ^ 32 ∧
      a.senderNonce.length < 2 ^ 32 ∧ a.receiverPublicKey.length < 2 ^ 32 ∧
      a.receiverNonce.length < 2 ^ 32 ∧ a.channelBinding.length < 2 ^ 32 := by
  have hprotocol := h.present.1
  have hsenderKey := h.length_eq ("sender public key", a.senderPublicKey) (by simp [lengthChecks])
  have hsenderNonce := h.length_eq ("sender nonce", a.senderNonce) (by simp [lengthChecks])
  have hreceiverKey := h.length_eq ("receiver public key", a.receiverPublicKey) (by simp [lengthChecks])
  have hreceiverNonce := h.length_eq ("receiver nonce", a.receiverNonce) (by simp [lengthChecks])
  have hbinding := h.length_eq ("TLS exporter", a.channelBinding) (by simp [lengthChecks])
  dsimp only at *
  omega

theorem encoded_inj {digest' : Bytes} (ha : a.Accepted crypto digest)
    (hb : b.Accepted crypto digest') (h : a.encoded = b.encoded) : a = b := by
  obtain ⟨haProtocol, haSenderKey, haSenderNonce, haReceiverKey, haReceiverNonce, haBinding⟩ :=
    ha.short
  obtain ⟨hbProtocol, hbSenderKey, hbSenderNonce, hbReceiverKey, hbReceiverNonce, hbBinding⟩ :=
    hb.short
  unfold encoded at h
  simp only [List.append_assoc] at h
  have h := (List.append_right_inj _).mp h
  obtain ⟨hprotocol, h⟩ := fieldBytes_append_inj haProtocol hbProtocol h
  have h := (List.append_right_inj _).mp h
  obtain ⟨hsenderId, h⟩ := fieldBytes_append_inj ha.senderId hb.senderId h
  obtain ⟨hsenderKey, h⟩ := fieldBytes_append_inj haSenderKey hbSenderKey h
  obtain ⟨hsenderNonce, h⟩ := fieldBytes_append_inj haSenderNonce hbSenderNonce h
  obtain ⟨hreceiverId, h⟩ := fieldBytes_append_inj ha.receiverId hb.receiverId h
  obtain ⟨hreceiverKey, h⟩ := fieldBytes_append_inj haReceiverKey hbReceiverKey h
  obtain ⟨hreceiverNonce, h⟩ := fieldBytes_append_inj haReceiverNonce hbReceiverNonce h
  obtain ⟨hbinding, h⟩ := fieldBytes_append_inj haBinding hbBinding h
  have hgeneration : a.connectionGeneration = b.connectionGeneration := by
    have hagen := ha.connectionGeneration
    have hbgen := hb.connectionGeneration
    exact putBE_injective (w := 8) (by norm_num; omega) (by norm_num; omega) h
  cases a
  cases b
  simp only [mk.injEq]
  exact ⟨utf8_injective hprotocol, utf8_injective hsenderId, hsenderKey, hsenderNonce,
    utf8_injective hreceiverId, hreceiverKey, hreceiverNonce, hbinding, hgeneration⟩

end PairingTranscript

theorem transcriptPhaseMessage_inj {transcriptHash transcriptHash' phase phase' : Bytes}
    (hphase : phase.length < 2 ^ 32) (hphase' : phase'.length < 2 ^ 32)
    (h : transcriptPhaseMessage transcriptHash phase =
      transcriptPhaseMessage transcriptHash' phase') :
    phase = phase' ∧ transcriptHash = transcriptHash' := by
  unfold transcriptPhaseMessage at h
  rw [List.append_assoc, List.append_assoc] at h
  exact fieldBytes_append_inj hphase hphase' ((List.append_right_inj _).mp h)

/-- What the identity signs verifies under its key for the signed message only. -/
def Unforgeable (crypto : Cryptography) (identity : DeviceIdentity) : Prop :=
  ∀ signed message, crypto.verify identity.publicKey message
    (crypto.sign identity.signingKey signed) = true → message = signed

/-- The hash tells the two transcripts apart if their bytes differ. -/
def CollisionFree (crypto : Cryptography) (a b : PairingTranscript) : Prop :=
  crypto.sha256 a.encoded = crypto.sha256 b.encoded → a.encoded = b.encoded

/-- Of two accepted transcripts and two phases: equal bytes come from equal transcripts, equal
phase messages from equal phases and hashes, and what is signed for one transcript and phase
does not verify for another. -/
theorem pairing_transcript_binding {crypto : Cryptography} {a b : PairingTranscript}
    {digest digest' phase phase' : Bytes} (ha : a.Accepted crypto digest)
    (hb : b.Accepted crypto digest') (hphase : phase.length < 2 ^ 32)
    (hphase' : phase'.length < 2 ^ 32) :
    (a.encoded = b.encoded → a = b) ∧
      (∀ transcriptHash transcriptHash',
        transcriptPhaseMessage transcriptHash phase =
          transcriptPhaseMessage transcriptHash' phase' →
        phase = phase' ∧ transcriptHash = transcriptHash') ∧
      (∀ identity, Unforgeable crypto identity → CollisionFree crypto a b →
        a ≠ b ∨ phase ≠ phase' →
        verifyTranscriptPhase crypto identity.publicKey digest' phase'
          (signTranscriptPhase crypto identity digest phase) = false) := by
  refine ⟨PairingTranscript.encoded_inj ha hb,
    fun _ _ => transcriptPhaseMessage_inj hphase hphase', ?_⟩
  intro identity hunforgeable hcollision hdiffer
  by_contra hverified
  have hverified := Bool.not_eq_false _ |>.mp hverified
  unfold verifyTranscriptPhase Cryptography.verifyIdentitySignature at hverified
  rw [Bool.and_eq_true] at hverified
  have hmessage := hunforgeable _ _ hverified.2
  obtain ⟨hsame, hdigest⟩ := transcriptPhaseMessage_inj hphase' hphase hmessage
  rw [ha.present.2, hb.present.2] at hdigest
  have hequal := PairingTranscript.encoded_inj ha hb (hcollision hdigest.symm)
  exact hdiffer.elim (fun hne => hne hequal) (fun hne => hne hsame.symm)

/-! ## A transcript of two connections -/

def firstTranscript : PairingTranscript where
  protocol := "p"
  senderId := "s"
  senderPublicKey := List.replicate 32 1
  senderNonce := List.replicate 32 2
  receiverId := "r"
  receiverPublicKey := List.replicate 32 3
  receiverNonce := List.replicate 32 4
  channelBinding := List.replicate 32 5
  connectionGeneration := 1

def secondTranscript : PairingTranscript := { firstTranscript with connectionGeneration := 2 }

def firstDigest : Bytes := List.replicate 32 1

def secondDigest : Bytes := List.replicate 32 2

def firstMessage : Bytes := transcriptPhaseMessage firstDigest serverHelloPhase

/-- A hash and a signature scheme that do on the two transcripts what they should. -/
def twoTranscripts : Cryptography where
  sha256 bytes := if bytes = firstTranscript.encoded then firstDigest else secondDigest
  validKey _ := true
  verify _ message signature := message = firstMessage && signature = List.replicate signatureLen 9
  sign _ message := if message = firstMessage then List.replicate signatureLen 9 else []
  lowercase := id

theorem unforgeable_twoTranscripts (identity : DeviceIdentity) :
    Unforgeable twoTranscripts identity := by
  intro signed message hverified
  unfold twoTranscripts at hverified
  dsimp only at hverified
  rw [Bool.and_eq_true, decide_eq_true_eq, decide_eq_true_eq] at hverified
  obtain ⟨hmessage, hsignature⟩ := hverified
  by_cases hsigned : signed = firstMessage
  · rw [hmessage, hsigned]
  · rw [if_neg hsigned] at hsignature
    cases hsignature

theorem pairing_transcript_binding_of_two :
    verifyTranscriptPhase twoTranscripts (List.replicate 32 3) secondDigest serverHelloPhase
      (signTranscriptPhase twoTranscripts ⟨"r", "r", [], List.replicate 32 3⟩ firstDigest
        serverHelloPhase) = false := by
  have hfirst : firstTranscript.Accepted twoTranscripts firstDigest :=
    ⟨by decide +kernel, by decide +kernel, by decide +kernel, by decide +kernel⟩
  have hsecond : secondTranscript.Accepted twoTranscripts secondDigest :=
    ⟨by decide +kernel, by decide +kernel, by decide +kernel, by decide +kernel⟩
  have hphase : serverHelloPhase.length < 2 ^ 32 := by decide +kernel
  have hcollision : CollisionFree twoTranscripts firstTranscript secondTranscript := by
    intro hsame
    have hdiffer : twoTranscripts.sha256 firstTranscript.encoded ≠
        twoTranscripts.sha256 secondTranscript.encoded := by decide +kernel
    exact absurd hsame hdiffer
  exact (pairing_transcript_binding hfirst hsecond hphase hphase).2.2
    ⟨"r", "r", [], List.replicate 32 3⟩ (unforgeable_twoTranscripts _) hcollision
    (.inl (by decide +kernel))

end PicooCamera.Pairing
