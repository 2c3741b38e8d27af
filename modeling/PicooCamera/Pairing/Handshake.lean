import PicooCamera.Library.BigEndian

/-!
# The channel-bound pairing transcript

Both endpoints serialize the same facts of one connection, hash them, and sign
the hash once for each phase. The hash, the signature scheme and the Unicode
tables behind `str::to_lowercase` are taken as given.
-/

namespace PicooCamera.Pairing

open PicooCamera.Library

structure Cryptography where
  sha256 : Bytes → Bytes
  /-- Whether 32 bytes are a point that Ed25519 accepts as a verifying key. -/
  validKey : Bytes → Bool
  /-- `verify publicKey message signature`. -/
  verify : Bytes → Bytes → Bytes → Bool
  /-- `sign signingKey message`. -/
  sign : Bytes → Bytes → Bytes
  /-- `str::to_lowercase`. -/
  lowercase : String → String

def publicKeyLen : Nat := 32

def signatureLen : Nat := 64

def utf8 (text : String) : Bytes := text.toUTF8.data.toList

def hexDigit (n : Nat) : Char := Nat.digitChar n

def hexEncode (bytes : Bytes) : String :=
  String.ofList (bytes.flatMap fun byte =>
    [hexDigit (byte.toNat / 16), hexDigit (byte.toNat % 16)])

structure DeviceIdentity where
  deviceId : String
  deviceName : String
  signingKey : Bytes
  publicKey : Bytes
  deriving DecidableEq, Repr

inductive PairingHandshakeError where
  | invalidSignature
  | invalidTranscript (message : String)
  | random (message : String)
  deriving DecidableEq, Repr

namespace Cryptography

variable (crypto : Cryptography)

def deriveDeviceId (publicKey : Bytes) : String :=
  "picoo-" ++ hexEncode
    ((crypto.sha256 (utf8 "picoo-camera device identity\x00" ++ publicKey)).take 16)

/-- Full SHA-256 hex fingerprint of a device public key. -/
def publicKeyFingerprint (publicKey : Bytes) : String := hexEncode (crypto.sha256 publicKey)

def verifyIdentitySignature (publicKey message signature : Bytes) : Bool :=
  publicKey.length = publicKeyLen && signature.length = signatureLen &&
    crypto.validKey publicKey && crypto.verify publicKey message signature

end Cryptography

/-! ## The transcript -/

def transcriptDomain : Bytes := utf8 "picoo-camera pairing transcript\x00"

def signatureDomain : Bytes := utf8 "picoo-camera identity proof\x00"

/-- `append_field`: a length of four bytes, then the value. -/
def fieldBytes (value : Bytes) : Bytes := putBE 4 value.length ++ value

structure PairingTranscript where
  protocol : String
  senderId : String
  senderPublicKey : Bytes
  senderNonce : Bytes
  receiverId : String
  receiverPublicKey : Bytes
  receiverNonce : Bytes
  channelBinding : Bytes
  connectionGeneration : Nat
  deriving DecidableEq, Repr

namespace PairingTranscript

def lengthChecks (t : PairingTranscript) : List (String × Bytes) :=
  [("sender public key", t.senderPublicKey), ("sender nonce", t.senderNonce),
    ("receiver public key", t.receiverPublicKey), ("receiver nonce", t.receiverNonce),
    ("TLS exporter", t.channelBinding)]

def encoded (t : PairingTranscript) : Bytes :=
  transcriptDomain ++ fieldBytes (utf8 t.protocol) ++ fieldBytes (utf8 "Ed25519") ++
    fieldBytes (utf8 t.senderId) ++ fieldBytes t.senderPublicKey ++ fieldBytes t.senderNonce ++
    fieldBytes (utf8 t.receiverId) ++ fieldBytes t.receiverPublicKey ++
    fieldBytes t.receiverNonce ++ fieldBytes t.channelBinding ++
    putBE 8 t.connectionGeneration

def hash (crypto : Cryptography) (t : PairingTranscript) :
    Except PairingHandshakeError Bytes :=
  match t.lengthChecks.find? fun check => check.2.length ≠ 32 with
  | some (name, _) => .error (.invalidTranscript (name ++ " must contain 32 bytes"))
  | none =>
      if t.protocol = "" ∨ 255 < (utf8 t.protocol).length ∨ t.senderId = "" ∨
          t.receiverId = "" ∨ t.connectionGeneration = 0 then
        .error (.invalidTranscript "device ids and connection generation must be present")
      else .ok (crypto.sha256 t.encoded)

/-- Six decimal digits, with leading zeros. -/
def shortCodeOf (digest : Bytes) : String :=
  let digits := (Nat.toDigits 10 (getBE (digest.take 4) % 1000000))
  String.ofList (List.replicate (6 - digits.length) '0' ++ digits)

end PairingTranscript

/-! ## Phase signatures -/

def serverHelloPhase : Bytes := utf8 "server-hello"
def senderConfirmPhase : Bytes := utf8 "sender-confirm"
def pairingApprovalPhase : Bytes := utf8 "receiver-approval"
def pairingCommitPhase : Bytes := utf8 "sender-commit"
def pairingCompletePhase : Bytes := utf8 "receiver-complete"

def transcriptPhaseMessage (transcriptHash phase : Bytes) : Bytes :=
  signatureDomain ++ fieldBytes phase ++ transcriptHash

def signTranscriptPhase (crypto : Cryptography) (identity : DeviceIdentity)
    (transcriptHash phase : Bytes) : Bytes :=
  crypto.sign identity.signingKey (transcriptPhaseMessage transcriptHash phase)

def verifyTranscriptPhase (crypto : Cryptography)
    (publicKey transcriptHash phase signature : Bytes) : Bool :=
  crypto.verifyIdentitySignature publicKey (transcriptPhaseMessage transcriptHash phase)
    signature

end PicooCamera.Pairing
