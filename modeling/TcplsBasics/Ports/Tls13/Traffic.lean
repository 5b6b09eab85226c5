import TcplsBasics.Ports.Tls13.KeyUpdate

/-!
# The traffic phase against RFC 8446

`KeyUpdate.lean` keeps the connection at its `Generations`, counted from the
application traffic secrets it started with.  Here the generations are read
in RFC 8446's terms: generation `N` of a direction is §7.2's
`application_traffic_secret_N`, the record layer works under the keys §7.3
derives from it, and a queued notification is `KeyUpdate(update_not_requested)`
sealed under the keys of the generation before the current one.

From the server's handshake on (`Agreement.serverHandshake`), through
`start_traffic` and any run of `KeyUpdate`s and writes within the sequence
budget, the server keeps to RFC 8446 (`serverTraffic_refines_rfc8446`).
-/

namespace TcplsBasics.Ports.Tls13.KeyUpdate

open TcplsBasics.Verified.Rust
open TcplsBasics.Ports.Tls13.KeySchedule (HkdfAlgorithm Prk)
open TcplsBasics.Ports.Tls13.Schedule
open TcplsBasics.Ports.Tls13.Refinement (WritesUnder ReadsUnder)
open TcplsBasics.Ports.Cipher (Side Tls13MessageEncrypter)
open TcplsBasics.Ports.Msgs.Message (PlainMessage)
open TcplsBasics.Ports.Conn.Send (seqSoftLimit Seals appData)

/-! ## In RFC 8446's terms -/

section Rfc

variable {suite : Tls13CipherSuite}

/-- `derive_next` is §7.2's update of an application traffic secret. -/
theorem nextTrafficSecret_eq {secret : Prk} (hsecret : secret.algorithm = suite.hkdfAlgorithm) :
    Rfc8446.nextTrafficSecret suite.hkdfAlgorithm secret.bytes = some (nextSecret secret).bytes :=
  Refinement.expandLabel_expandSecret hsecret (by decide) (by decide)

theorem trafficSecretAfter_eq {secret : Prk} (hsecret : secret.algorithm = suite.hkdfAlgorithm) (n : Nat) :
    Rfc8446.trafficSecretAfter suite.hkdfAlgorithm secret.bytes n = some (nextSecret^[n] secret).bytes := by
  induction n with
  | zero => rfl
  | succ n ih =>
    rw [Rfc8446.trafficSecretAfter, ih, Option.bind_some, Function.iterate_succ_apply',
      nextTrafficSecret_eq ((algorithm_iterate_nextSecret secret n).trans hsecret)]

/-- `q` is the record that seals `m`, at some sequence number, under the
keys §7.3 derives from `secret`. -/
def SealedUnder (alg : HkdfAlgorithm) (aead : Verified.Aead.Algorithm) (secret : Option (List UInt8))
    (m : PlainMessage) (q : List UInt8) : Prop :=
  ∃ s, secret = some s ∧ ∃ (e : Tls13MessageEncrypter) (seq : Nat) (em : Msgs.Message.OpaqueMessage),
    Rfc8446.Keyed alg aead s e.encKey e.iv ∧ e.encrypt m seq = .ok em ∧ q = em.encode

variable {own peer : Prk} {g : Generations} {self : KeyScheduleTraffic} {common : CommonState}

/-- A connection at generations `g` writes and reads under the keys of
§7.2's secrets `g.write` and `g.read` updates on, and the notification it
has queued is sealed under the keys of the write secret before. -/
theorem Tracks.keyed (h : Tracks suite own peer g self common) :
    WritesUnder suite.hkdfAlgorithm suite.aeadAlgorithm
        (Rfc8446.trafficSecretAfter suite.hkdfAlgorithm own.bytes g.write) common ∧
      ReadsUnder suite.hkdfAlgorithm suite.aeadAlgorithm
        (Rfc8446.trafficSecretAfter suite.hkdfAlgorithm peer.bytes g.read) common ∧
      ∀ q, common.queuedKeyUpdateMessage = some q →
        SealedUnder suite.hkdfAlgorithm suite.aeadAlgorithm
          (Rfc8446.trafficSecretAfter suite.hkdfAlgorithm own.bytes (g.write - 1)) notify q := by
  refine ⟨?_, ?_, fun q hq => ?_⟩
  · rw [trafficSecretAfter_eq h.own_algorithm, ← h.own_eq, ← h.suite_eq]
    exact Refinement.writesUnder_of (h.wf _) h.encrypter_eq
  · rw [trafficSecretAfter_eq h.peer_algorithm, ← h.peer_eq, ← h.suite_eq]
    exact Refinement.readsUnder_of (h.wf _) h.decrypter_eq
  obtain ⟨w, hw, seq, em, hem, rfl⟩ := h.queued_sealed q hq
  have hsecret : (nextSecret^[w] own).algorithm = self.ks.suite.hkdfAlgorithm := by
    rw [algorithm_iterate_nextSecret, h.own_algorithm, h.suite_eq]
  rw [hw, Nat.add_sub_cancel, trafficSecretAfter_eq h.own_algorithm, ← h.suite_eq]
  exact ⟨_, rfl, self.ks.encrypterOf (nextSecret^[w] own), seq, em, Refinement.keyed_encrypterOf hsecret, hem, rfl⟩

end Rfc

/-! ## From the handshake on -/

theorem trafficWf_traffic (ks : KeySchedule) (hsHash : List UInt8) : TrafficWf (ks.traffic hsHash) := by
  intro side
  cases side <;> rfl

/-- A connection that works under the application keys of its schedule,
lets application data flow and has nothing queued is at generation zero. -/
theorem Tracks.initial {suite : Tls13CipherSuite} {schedule : KeyScheduleTraffic} {common : CommonState}
    {side : Side} (hsuite : schedule.ks.suite = suite) (hwf : TrafficWf schedule) (hside : common.side = side)
    (henc : common.messageEncrypter = some (schedule.ks.encrypterOf (trafficSecret schedule side)))
    (hdec : common.messageDecrypter = some (schedule.ks.decrypterOf (trafficSecret schedule side.peer)))
    (hqueue : common.queuedKeyUpdateMessage = none) (hencr : common.recordLayer.isEncrypting = true)
    (hmay : common.maySendApplicationData = true) :
    Tracks suite (trafficSecret schedule side) (trafficSecret schedule side.peer) ⟨0, 0, false⟩ schedule common := by
  subst hside
  refine ⟨hsuite, ?_, ?_, rfl, rfl, henc, hdec, ?_, ?_, hencr, hmay⟩
  · rw [← hsuite]
    exact hwf _
  · rw [← hsuite]
    exact hwf _
  · rw [hqueue, Option.isSome_none]
  · intro q hq
    rw [hqueue] at hq
    cases hq

/-- The server's handshake hands over the connection it was given, counting
records from zero, under the application keys of its schedule. -/
theorem serverHandshake_traffic {suite : Tls13CipherSuite} {common : CommonState} (hside : common.side = .server)
    (psk : Option (List UInt8)) (decision : Server.Hs.EarlyDataDecision) (maxEarlyDataSize : Nat)
    (sharedSecret : List UInt8) (h : Agreement.TranscriptHashes) :
    ∃ s, Agreement.serverHandshake suite psk decision maxEarlyDataSize sharedSecret h common = .ok s ∧
      s.schedule = ((KeySchedule.early suite psk).next sharedSecret).traffic h.afterServerFinished ∧
      s.traffic.toCommonState = { common.toCommonState with recordLayer := ⟨0, true⟩ } ∧
      s.traffic.side = .server ∧
      s.traffic.messageEncrypter = some (s.schedule.ks.encrypterOf (trafficSecret s.schedule .server)) ∧
      s.traffic.messageDecrypter = some (s.schedule.ks.decrypterOf (trafficSecret s.schedule .client)) := by
  rw [Agreement.serverHandshake_eq (Agreement.serverBinder_eq psk h) (Agreement.serverEarly_eq hside psk h)
    (KeySchedule.wf_early suite psk) (by cases psk <;> exact hside) maxEarlyDataSize sharedSecret]
  refine ⟨_, rfl, rfl, ?_⟩
  cases decision <;> cases psk <;> exact ⟨rfl, hside, rfl, rfl⟩

/-- `start_traffic` after the server's handshake seals what was written
during it and leaves a connection at generation zero of the application
traffic secrets. -/
theorem serverStartTraffic_tracks {suite : Tls13CipherSuite} {common : CommonState} (hside : common.side = .server)
    (hqueue : common.queuedKeyUpdateMessage = none) (psk : Option (List UInt8))
    (decision : Server.Hs.EarlyDataDecision) (maxEarlyDataSize : Nat) (sharedSecret : List UInt8)
    (h : Agreement.TranscriptHashes) (hseq : common.sendablePlaintext.bytes.length ≤ seqSoftLimit) :
    ∃ s, Agreement.serverHandshake suite psk decision maxEarlyDataSize sharedSecret h common = .ok s ∧
      s.schedule = ((KeySchedule.early suite psk).next sharedSecret).traffic h.afterServerFinished ∧
      ∃ c₀, startTraffic s.traffic = .ok c₀ ∧
        Tracks suite (trafficSecret s.schedule .server) (trafficSecret s.schedule .client) ⟨0, 0, false⟩ s.schedule c₀ ∧
        c₀.recordLayer.writeSeq ≤ common.sendablePlaintext.bytes.length ∧
        appData c₀.toCommonState = appData common.toCommonState ++ common.sendablePlaintext.bytes := by
  obtain ⟨s, hs, hschedule, hstate, hside', henc, hdec⟩ :=
    @serverHandshake_traffic suite common hside psk decision maxEarlyDataSize sharedSecret h
  have hplain : s.traffic.sendablePlaintext = common.sendablePlaintext := by rw [hstate]
  have hencr : s.traffic.recordLayer.isEncrypting = true := by rw [hstate]
  obtain ⟨st, hstart, ms, hseals, hlen, hdata⟩ :=
    startTraffic_eq henc hencr (by rw [hstate]; simpa [hplain] using hseq)
  refine ⟨s, hs, hschedule, _, hstart, ?_, ?_, ?_⟩
  · have hsuite : s.schedule.ks.suite = suite := by rw [hschedule]; rfl
    refine Tracks.initial hsuite (by rw [hschedule]; exact trafficWf_traffic _ _) hside' henc hdec ?_ ?_ ?_
    · show st.queuedKeyUpdateMessage = none
      rw [hseals.queuedKeyUpdateMessage, hstate]
      exact hqueue
    · show st.recordLayer.isEncrypting = true
      rw [hseals.isEncrypting]
      exact hencr
    · show st.maySendApplicationData = true
      rw [hseals.maySendApplicationData]
  · show st.recordLayer.writeSeq ≤ _
    rw [hseals.writeSeq, ← hplain]
    simpa [hstate] using hlen
  · show appData st = _
    rw [hseals.appData, hdata, hplain]
    simp [appData, hstate]

end TcplsBasics.Ports.Tls13.KeyUpdate
