import TcplsBasics.Ports.Msgs.Enums

/-!
# Errors and fatal alerts (`error.rs`)

`rustls::Error`, with the `PeerMisbehaved` reasons the modelled handshake
steps and the deframer return, and the alert they send first.  A failing
handshake step sends at most one fatal alert and then returns its error;
`Fatal` is the pair, so a model of such a step returns `Except Fatal _`.
-/

namespace TcplsBasics.Ports.Errors

open TcplsBasics.Ports.Msgs.Enums

/-- `PeerMisbehaved`, the reasons the modelled steps give. -/
inductive PeerMisbehaved where
  | disallowedEncryptedExtension
  | duplicateEncryptedExtensions
  | duplicateServerHelloExtensions
  | illegalTlsInnerPlaintext
  | keyEpochWithPendingFragment
  | messageInterleavedWithHandshakeMessage
  | missingQuicTransportParameters
  | offeredEmptyApplicationProtocol
  | pskExtensionMustBeLast
  | rejectedEarlyDataInterleavedWithHandshakeMessage
  | selectedUnofferedApplicationProtocol
  | selectedUnofferedCompression
  | tooMuchEarlyDataReceived
  | unsolicitedEncryptedExtension
  | unsolicitedServerHelloExtension
deriving DecidableEq, Repr

/-- `PeerIncompatible`, the reasons the modelled steps give. -/
inductive PeerIncompatible where
  | noCipherSuitesInCommon
  | supportedVersionsExtensionRequired
  | tls12NotOffered
  | tls12NotOfferedOrEnabled
  | tls13RequiredForQuic
deriving DecidableEq, Repr

/-- `Error`, the variants the modelled steps return. -/
inductive Error where
  | badMaxFragmentSize
  | corruptMessage
  | corruptMessagePayload (typ : ContentType)
  | decryptError
  | encryptError
  | general (msg : String)
  | noApplicationProtocol
  | peerIncompatible (why : PeerIncompatible)
  | peerMisbehaved (why : PeerMisbehaved)
  | peerSentOversizedRecord
deriving DecidableEq, Repr

/-- A failed step: the fatal alert it sent, if any, and the error it returned. -/
structure Fatal where
  alert : Option AlertDescription
  error : Error
deriving DecidableEq, Repr

/-- `CommonState::illegal_param`. -/
def illegalParam (why : PeerMisbehaved) : Fatal := ⟨some .illegalParameter, .peerMisbehaved why⟩

/-- `CommonState::missing_extension`. -/
def missingExtension (why : PeerMisbehaved) : Fatal := ⟨some .missingExtension, .peerMisbehaved why⟩

end TcplsBasics.Ports.Errors
