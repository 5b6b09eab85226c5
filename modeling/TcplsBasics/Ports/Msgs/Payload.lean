import TcplsBasics.Ports.Msgs.RoundTrip.Handshake
import TcplsBasics.Ports.Conn.CloseNotify
import TcplsBasics.Ports.HashHs

/-!
# Messages with decoded payloads (`msgs/message.rs`, `msgs/alert.rs`, `msgs/ccs.rs`)

A `PlainMessage` becomes a `Message` through `MessagePayload::new`, which
decodes the payload by the record's content type.  Application data is kept
as it is; an alert, a handshake message or a ChangeCipherSpec must take every
byte of the payload, or the record is `CorruptMessagePayload` of its type.  A
handshake message keeps the bytes it was read from beside the parsed message,
and `From<Message> for PlainMessage` sends those bytes again.

`Message` and `MessagePayload` are the ones the transcript hash reads
(`HashHs`); the functions of `message.rs` on them are added here.

A message whose handshake payload is in the form `read_version` takes
back, stored with its own encoding as `MessagePayload::handshake` stores it,
comes back from its plaintext.

`AlertLevel` and `AlertDescription` are `u8` enums with an `Unknown` arm:
`Unknown(1)` goes out as the byte of `Warning` and comes back as `Warning`,
so an alert comes back only when its level and description are canonical.

## Main results

* `tryFrom_ofMessage`: a message in that form comes back from its plaintext.
-/

namespace TcplsBasics.Ports.Msgs.Payload

open TcplsBasics.Verified.Codec TcplsBasics.Ports.Msgs.Enums

/-! ## Alerts and ChangeCipherSpec -/

/-- `AlertMessagePayload`. -/
structure AlertMessagePayload where
  level : AlertLevel
  description : AlertDescription
deriving DecidableEq, Repr

namespace AlertMessagePayload

/-- `AlertMessagePayload::encode`. -/
def encode (a : AlertMessagePayload) : List UInt8 := [a.level.getU8, a.description.getU8]

/-- `AlertMessagePayload::read`: a level byte, then a description byte. -/
def read : Decoder AlertMessagePayload
  | level :: description :: rest => some (⟨AlertLevel.ofU8 level, AlertDescription.ofU8 description⟩, rest)
  | _ => none

/-- An alert whose level and description read back from their bytes. -/
def Canonical (a : AlertMessagePayload) : Prop := a.level.Canonical ∧ a.description.Canonical

theorem roundTrip_read : RoundTrip encode read AlertMessagePayload.Canonical := by
  rintro ⟨level, description⟩ r ⟨hlevel, hdescription⟩
  simp only [encode, read, List.cons_append, List.nil_append]
  rw [hlevel, hdescription]

end AlertMessagePayload

/-- `ChangeCipherSpecPayload`. -/
structure ChangeCipherSpecPayload where
deriving DecidableEq, Repr

namespace ChangeCipherSpecPayload

/-- `ChangeCipherSpecPayload::encode`. -/
def encode (_ : ChangeCipherSpecPayload) : List UInt8 := [1]

/-- `ChangeCipherSpecPayload::read`: the byte `1`, and nothing after it. -/
def read : Decoder ChangeCipherSpecPayload
  | typ :: rest => if typ = 1 ∧ rest = [] then some (⟨⟩, rest) else none
  | [] => none

theorem read_encode (x : ChangeCipherSpecPayload) : read x.encode = some (x, []) := rfl

end ChangeCipherSpecPayload

end TcplsBasics.Ports.Msgs.Payload

/-! ## Payloads and messages -/

namespace TcplsBasics.Ports.HashHs

open TcplsBasics.Verified.Codec TcplsBasics.Ports.Errors TcplsBasics.Ports.Msgs.Enums
open TcplsBasics.Ports.Msgs.Handshake TcplsBasics.Ports.Msgs.Payload TcplsBasics.Ports.Conn.CloseNotify

namespace MessagePayload

/-- `MessagePayload::encode`: a handshake message goes out as the bytes it holds. -/
def encode : MessagePayload → List UInt8
  | .alert level description => AlertMessagePayload.encode ⟨level, description⟩
  | .handshake _ encoded => encoded
  | .changeCipherSpec => ChangeCipherSpecPayload.encode ⟨⟩
  | .applicationData x => x

/-- `MessagePayload::new`: the payload decoded by the record's type, every
byte of it, at the record's version. -/
def new (validDnsName : List UInt8 → Bool) (typ : ContentType) (vers : Nat) (payload : List UInt8) :
    Except Error MessagePayload :=
  match typ with
  | .applicationData => .ok (.applicationData payload)
  | _ =>
    let parsed : Option MessagePayload :=
      match typ with
      | .alert => (readWhole AlertMessagePayload.read payload).map fun a => .alert a.level a.description
      | .handshake => (readWhole (HandshakeMessagePayload.readVersion validDnsName vers) payload).map
          fun parsed => .handshake parsed payload
      | .changeCipherSpec => (readWhole ChangeCipherSpecPayload.read payload).map fun _ => .changeCipherSpec
      | _ => none
    match parsed with
    | some p => .ok p
    | none => .error (.corruptMessagePayload typ)

/-- `MessagePayload::content_type`. -/
def contentType : MessagePayload → ContentType
  | .alert _ _ => .alert
  | .handshake _ _ => .handshake
  | .changeCipherSpec => .changeCipherSpec
  | .applicationData _ => .applicationData

end MessagePayload

/-- `Message::build_alert`. -/
def Message.buildAlert (level : AlertLevel) (desc : AlertDescription) : Message :=
  ⟨ProtocolVersion.tlsv1_2, .alert level desc⟩

/-- `Message::try_from(PlainMessage)`. -/
def Message.tryFrom (validDnsName : List UInt8 → Bool) (plain : Msgs.Message.PlainMessage) :
    Except Error Message := do
  let payload ← MessagePayload.new validDnsName plain.typ plain.version plain.payload
  pure ⟨plain.version, payload⟩

/-- A message `try_from` takes back from its plaintext: an alert whose level
and description are canonical, and a handshake payload in the form
`read_version` takes back at the message's version, stored with its own
encoding. -/
def Message.Wf (validDnsName : List UInt8 → Bool) (m : Message) : Prop :=
  match m.payload with
  | .alert level description => level.Canonical ∧ description.Canonical
  | .handshake parsed encoded => encoded = parsed.encode ∧ parsed.Wf validDnsName m.version
  | _ => True

end TcplsBasics.Ports.HashHs

namespace TcplsBasics.Ports.Msgs.Message

open TcplsBasics.Ports.HashHs

/-- `PlainMessage::from(Message)`: application data as it is, any other payload encoded. -/
def PlainMessage.ofMessage (msg : Message) : PlainMessage :=
  ⟨msg.payload.contentType, msg.version,
    match msg.payload with
    | .applicationData payload => payload
    | _ => msg.payload.encode⟩

end TcplsBasics.Ports.Msgs.Message

namespace TcplsBasics.Ports.Msgs.Payload

open TcplsBasics.Verified.Codec TcplsBasics.Ports.Errors TcplsBasics.Ports.Msgs.Enums
open TcplsBasics.Ports.Msgs.Handshake TcplsBasics.Ports.Msgs.Message TcplsBasics.Ports.HashHs
open TcplsBasics.Ports.Conn.CloseNotify

/-! ## From messages to plaintexts and back -/

theorem ofMessage_eq (m : Message) :
    PlainMessage.ofMessage m = ⟨m.payload.contentType, m.version, m.payload.encode⟩ := by
  obtain ⟨version, payload⟩ := m
  cases payload <;> rfl

/-- `MessagePayload::new` decodes the encoding of a payload in form under its
own type. -/
theorem new_encode (validDnsName : List UInt8 → Bool) {m : Message} (h : m.Wf validDnsName) :
    MessagePayload.new validDnsName m.payload.contentType m.version m.payload.encode = .ok m.payload := by
  obtain ⟨version, payload⟩ := m
  cases payload with
  | alert level description =>
    simp [MessagePayload.new, MessagePayload.contentType, MessagePayload.encode,
      AlertMessagePayload.roundTrip_read.readWhole (x := ⟨level, description⟩) h]
  | handshake parsed encoded =>
    obtain ⟨rfl, hwf⟩ := h
    simp [MessagePayload.new, MessagePayload.contentType, MessagePayload.encode,
      (HandshakeMessagePayload.roundTrip_readVersion validDnsName version).readWhole hwf]
  | changeCipherSpec =>
    simp [MessagePayload.new, MessagePayload.contentType, MessagePayload.encode,
      readWhole_of_eq (ChangeCipherSpecPayload.read_encode ⟨⟩)]
  | applicationData x => rfl

/-- **A message comes back from its plaintext.**  `Message::try_from` of the
plaintext `From<Message>` makes is the message itself, for every message
whose alert level and description are canonical and whose handshake payload
is in the form `read_version` takes back at the message's version, stored
with its own encoding. -/
theorem tryFrom_ofMessage (validDnsName : List UInt8 → Bool) {m : Message} (h : m.Wf validDnsName) :
    Message.tryFrom validDnsName (PlainMessage.ofMessage m) = .ok m := by
  rw [ofMessage_eq, Message.tryFrom]
  dsimp only
  rw [new_encode validDnsName h]
  rfl

/-- A fatal alert with a description that has no name comes back from its plaintext. -/
theorem tryFrom_ofMessage_unknown_alert :
    (⟨ProtocolVersion.tlsv1_2, .alert .fatal (.unknown 0x99)⟩ : Message).Wf (fun _ => true) ∧
      Message.tryFrom (fun _ => true) (PlainMessage.ofMessage ⟨ProtocolVersion.tlsv1_2, .alert .fatal (.unknown 0x99)⟩) =
        .ok ⟨ProtocolVersion.tlsv1_2, .alert .fatal (.unknown 0x99)⟩ := by
  have h : (⟨ProtocolVersion.tlsv1_2, .alert .fatal (.unknown 0x99)⟩ : Message).Wf (fun _ => true) :=
    ⟨by decide, by decide⟩
  exact ⟨h, tryFrom_ofMessage _ h⟩

/-- `Unknown(1)` is not canonical: it goes out as the byte of `Warning` and comes back as `Warning`. -/
example : Message.tryFrom (fun _ => true) (PlainMessage.ofMessage ⟨ProtocolVersion.tlsv1_2, .alert (.unknown 1) .closeNotify⟩) =
    .ok ⟨ProtocolVersion.tlsv1_2, .alert .warning .closeNotify⟩ := rfl

end TcplsBasics.Ports.Msgs.Payload

