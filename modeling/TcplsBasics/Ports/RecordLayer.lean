import TcplsBasics.Ports.Conn.Send

/-!
# The read half of the record layer (`record_layer.rs`)

`RecordLayer::decrypt_incoming` opens a record with the current decrypter
and read sequence number.  Until keys are active it hands the record back as
plaintext.  A record that fails to decrypt while trial decryption is on
(early data the server rejected) is dropped, as `Ok(None)`, and counted
against `trial_decryption_len`.

The write half, with the sequence limits, is modelled with the send path in
`Conn.Send`; the decrypter is a parameter, as the encrypter is there.

## Main results

* `length_le_of_decryptIncoming`: with a decrypter that never lengthens a
  record, no plaintext `decrypt_incoming` returns is longer than its record.
-/

namespace TcplsBasics.Ports.RecordLayer

open TcplsBasics.Ports.Errors TcplsBasics.Ports.Msgs.Message TcplsBasics.Ports.Conn.Send

/-- `DirectionState`. -/
inductive DirectionState where
  | invalid
  | prepared
  | active
deriving DecidableEq, Repr

/-- The fields of `RecordLayer` that `decrypt_incoming` reads and writes. -/
structure ReadRecordLayer where
  readSeq : Nat
  decryptState : DirectionState
  trialDecryptionLen : Option Nat
deriving DecidableEq, Repr

/-- `InvalidMessageDecrypter`, which `RecordLayer::new` starts with. -/
def invalidMessageDecrypter : MessageDecrypter := fun _ _ => .error .decryptError

/-- `RecordLayer::new`, read half. -/
def ReadRecordLayer.new : ReadRecordLayer := ⟨0, .invalid, none⟩

/-- `Decrypted`. -/
structure Decrypted where
  wantCloseBeforeDecrypt : Bool
  plaintext : PlainMessage
deriving DecidableEq, Repr

/-- `RecordLayer::doing_trial_decryption`: whether `requested` bytes still fit
in the trial budget, which is then debited. -/
def ReadRecordLayer.doingTrialDecryption (rl : ReadRecordLayer) (requested : Nat) :
    Bool × ReadRecordLayer :=
  match rl.trialDecryptionLen with
  | some value =>
    if requested ≤ value then (true, { rl with trialDecryptionLen := some (value - requested) })
    else (false, rl)
  | none => (false, rl)

/-- `RecordLayer::decrypt_incoming`.  The guard of the trial-decryption arm
debits the budget only when it holds. -/
def ReadRecordLayer.decryptIncoming (dec : MessageDecrypter) (rl : ReadRecordLayer)
    (encr : OpaqueMessage) : Except Error (Option Decrypted) × ReadRecordLayer :=
  if rl.decryptState ≠ .active then (.ok (some ⟨false, encr.intoPlainMessage⟩), rl)
  else
    let wantCloseBeforeDecrypt := decide (rl.readSeq = seqSoftLimit)
    match dec encr rl.readSeq with
    | .ok plaintext =>
      (.ok (some ⟨wantCloseBeforeDecrypt, plaintext⟩), { rl with readSeq := rl.readSeq + 1 })
    | .error .decryptError =>
      match rl.doingTrialDecryption encr.payload.length with
      | (true, rl') => (.ok none, rl')
      | (false, _) => (.error .decryptError, rl)
    | .error e => (.error e, rl)

/-- A decrypter that never returns a plaintext longer than its record. -/
def Shortening (dec : MessageDecrypter) : Prop :=
  ∀ m seq p, dec m seq = .ok p → p.payload.length ≤ m.payload.length

/-- `decrypt_incoming` of the record `m`, at `rl`, returns no plaintext longer than `m`. -/
def ShortAt (dec : MessageDecrypter) (rl : ReadRecordLayer) (m : OpaqueMessage) : Prop :=
  ∀ d rl', rl.decryptIncoming dec m = (.ok (some d), rl') → d.plaintext.payload.length ≤ m.payload.length

theorem length_le_of_decryptIncoming {dec : MessageDecrypter} (hdec : Shortening dec)
    {rl rl' : ReadRecordLayer} {m : OpaqueMessage} {d : Decrypted}
    (h : rl.decryptIncoming dec m = (.ok (some d), rl')) :
    d.plaintext.payload.length ≤ m.payload.length := by
  unfold ReadRecordLayer.decryptIncoming at h
  split_ifs at h with hstate
  · cases h
    exact Nat.le_refl _
  · -- only a successful decryption returns a plaintext
    split at h
    · next plaintext hp =>
      cases h
      exact hdec m rl.readSeq plaintext hp
    · split at h <;> cases h
    · cases h

theorem Shortening.shortAt {dec : MessageDecrypter} (hdec : Shortening dec) (rl : ReadRecordLayer)
    (m : OpaqueMessage) : ShortAt dec rl m :=
  fun _ _ h => length_le_of_decryptIncoming hdec h

end TcplsBasics.Ports.RecordLayer
