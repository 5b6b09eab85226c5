import TcplsBasics.Verified.Rust
import TcplsBasics.Verified.Codec
import TcplsBasics.Verified.Digest
import TcplsBasics.Ports.Error

/-!
# The TLS 1.3 exporter (`tls13/key_schedule.rs`)

`export_keying_material` derives a secret from the exporter secret under the
caller's label, then expands it under `"exporter"` and the hash of the
caller's context into the caller's buffer.  Both steps go through
`hkdf_expand_info`, which lays out RFC 8446's `HkdfLabel` by hand: the output
length `as u16`, the length of `"tls13 " ++ label` `as u8`, the label, the
context's length `as u8`, the context.  It then unwraps ring's
`Prk::expand`, which fails exactly when more than `255` hash blocks are asked
for.

Two lengths are the caller's: the buffer's and the label's.  A buffer past
`255` blocks makes the unwrap panic, so `export_keying_material` never
returns its `"exporting too much"` error; and a label of `250` bytes or more
wraps its length byte, so the secret is expanded from an info that is no
`HkdfLabel`, and the call returns `Ok` (`exportKeyingMaterial_diverges`).
Within those lengths the info is the RFC's and the call fills the buffer
with RFC 8446's exporter value (`exportKeyingMaterial_eq_tlsExporter`).

ring's HKDF is known here by its hash and by HKDF-Expand as a function of the
key's bytes, the info and the length.
-/

namespace TcplsBasics.Ports.Tls13.KeySchedule

open TcplsBasics.Verified.Rust TcplsBasics.Verified.Codec TcplsBasics.Verified.Digest
open TcplsBasics.Ports.Errors

/-- ring's `hkdf::Algorithm`: the hash under its HMAC, and HKDF-Expand on the
bytes of a pseudorandom key. -/
structure HkdfAlgorithm where
  digest : Algorithm
  expandBytes : List UInt8 → List UInt8 → Nat → List UInt8
  length_expandBytes : ∀ prk info len, (expandBytes prk info len).length = len

/-- `hkdf::Prk`. -/
structure Prk where
  algorithm : HkdfAlgorithm
  bytes : List UInt8

/-- `Prk::expand`: fails exactly when more than `255` hash blocks are asked for. -/
def Prk.expand (prk : Prk) (info : List UInt8) (len : Nat) : Except Unit (List UInt8) :=
  if len ≤ 255 * prk.algorithm.digest.outputLen then .ok (prk.algorithm.expandBytes prk.bytes info len)
  else .error ()

/-- `LABEL_PREFIX`, `b"tls13 "`. -/
def labelPrefix : List UInt8 := [0x74, 0x6c, 0x73, 0x31, 0x33, 0x20]

/-- `b"exporter"`. -/
def exporterLabel : List UInt8 := [0x65, 0x78, 0x70, 0x6f, 0x72, 0x74, 0x65, 0x72]

/-- The info `hkdf_expand_info` gives `expand`, its three lengths cast. -/
def expandInfo (keyLen : Nat) (label context : List UInt8) : List UInt8 :=
  let outputLen := encodeUInt 2 (keyLen % 2 ^ 16)
  let labelLen := encodeUInt 1 ((labelPrefix.length + label.length) % 2 ^ 8)
  let contextLen := encodeUInt 1 (context.length % 2 ^ 8)
  outputLen ++ labelLen ++ labelPrefix ++ label ++ contextLen ++ context

/-- `hkdf_expand_info`: the output keying material, which each caller's `f`
then takes. -/
def hkdfExpandInfo (secret : Prk) (keyLen : Nat) (label context : List UInt8) : Except Panic (List UInt8) :=
  expectOk (secret.expand (expandInfo keyLen label context) keyLen) unwrapErr

/-- `hkdf_expand` into a `Prk`: as long as the hash. -/
def hkdfExpand (secret : Prk) (alg : HkdfAlgorithm) (label context : List UInt8) : Except Panic Prk := do
  let okm ← hkdfExpandInfo secret alg.digest.outputLen label context
  pure ⟨alg, okm⟩

/-- `KeySchedule::export_keying_material`: `out` as the call leaves it. -/
def exportKeyingMaterial (alg : HkdfAlgorithm) (currentExporterSecret : Prk) (out label : List UInt8)
    (context : Option (List UInt8)) : Except Panic (Except Error (List UInt8)) := do
  let hEmpty := digest alg.digest []
  let secret ← hkdfExpand currentExporterSecret alg label hEmpty
  let hContext := digest alg.digest (context.getD [])
  let okm ← hkdfExpandInfo secret out.length exporterLabel hContext
  -- `okm.fill(out)` fails only on a length other than the buffer's
  pure (if okm.length = out.length then .ok okm else .error (.general "exporting too much"))

/-- The fields of `KeyScheduleTraffic` the exporter reads: the suite's HKDF
and the current exporter secret, which was expanded under that HKDF. -/
structure KeyScheduleTraffic where
  hkdfAlgorithm : HkdfAlgorithm
  currentExporterSecret : Prk
  algorithm_currentExporterSecret : currentExporterSecret.algorithm = hkdfAlgorithm

/-- `KeyScheduleTraffic::export_keying_material`. -/
def KeyScheduleTraffic.exportKeyingMaterial (ks : KeyScheduleTraffic) (out label : List UInt8)
    (context : Option (List UInt8)) : Except Panic (Except Error (List UInt8)) :=
  TcplsBasics.Ports.Tls13.KeySchedule.exportKeyingMaterial ks.hkdfAlgorithm ks.currentExporterSecret out label context

/-! ## RFC 8446's `HkdfLabel` -/

/-- `HkdfLabel` for `length`, `"tls13 " ++ label` and `context`, when each fits
its length field: `u16` length, then two `u8`-prefixed vectors. -/
def hkdfLabel (length : Nat) (label context : List UInt8) : Option (List UInt8) :=
  if length < 2 ^ 16 ∧ labelPrefix.length + label.length < 2 ^ 8 ∧ context.length < 2 ^ 8 then
    some (encodeUInt 2 length ++ encodeBlock 1 (labelPrefix ++ label) ++ encodeBlock 1 context)
  else none

/-- Where the lengths fit, the info is the `HkdfLabel`. -/
theorem hkdfLabel_eq_expandInfo {keyLen : Nat} {label context : List UInt8} (hkey : keyLen < 2 ^ 16)
    (hlabel : labelPrefix.length + label.length < 2 ^ 8) (hcontext : context.length < 2 ^ 8) :
    hkdfLabel keyLen label context = some (expandInfo keyLen label context) := by
  rw [hkdfLabel, if_pos ⟨hkey, hlabel, hcontext⟩, expandInfo, Nat.mod_eq_of_lt hkey, Nat.mod_eq_of_lt hlabel,
    Nat.mod_eq_of_lt hcontext]
  simp [encodeBlock, List.append_assoc]

/-- A label of `250` bytes or more has no `HkdfLabel`. -/
theorem hkdfLabel_eq_none_of_long {length : Nat} {label context : List UInt8} (hlabel : 250 ≤ label.length) :
    hkdfLabel length label context = none := by
  have hlong : ¬ labelPrefix.length + label.length < 2 ^ 8 := by
    simp only [labelPrefix, List.length_cons, List.length_nil]
    omega
  unfold hkdfLabel
  rw [if_neg fun h => hlong h.2.1]

/-- RFC 8446's HKDF-Expand-Label. -/
def expandLabel (alg : HkdfAlgorithm) (secret label context : List UInt8) (length : Nat) :
    Option (List UInt8) :=
  if length ≤ 255 * alg.digest.outputLen then
    (hkdfLabel length label context).map fun info => alg.expandBytes secret info length
  else none

/-- RFC 8446's exporter, an absent context taken as an empty one: the
exporter secret is expanded under the label and the hash of no messages, and
the result under `"exporter"` and the hash of the context. -/
def tlsExporter (alg : HkdfAlgorithm) (exporterSecret label context : List UInt8) (length : Nat) :
    Option (List UInt8) := do
  let secret ← expandLabel alg exporterSecret label (digest alg.digest []) alg.digest.outputLen
  expandLabel alg secret exporterLabel (digest alg.digest context) length

theorem expandLabel_of_fit {alg : HkdfAlgorithm} {secret label context : List UInt8} {length : Nat}
    (hlen : length ≤ 255 * alg.digest.outputLen) (hkey : length < 2 ^ 16)
    (hlabel : labelPrefix.length + label.length < 2 ^ 8) (hcontext : context.length < 2 ^ 8) :
    expandLabel alg secret label context length =
      some (alg.expandBytes secret (expandInfo length label context) length) := by
  rw [expandLabel, if_pos hlen, hkdfLabel_eq_expandInfo hkey hlabel hcontext, Option.map_some]

theorem expandLabel_of_long {alg : HkdfAlgorithm} {secret label context : List UInt8} {length : Nat}
    (hlabel : 250 ≤ label.length) : expandLabel alg secret label context length = none := by
  simp [expandLabel, hkdfLabel_eq_none_of_long hlabel]

/-! ## What the exporter computes -/

theorem hkdfExpandInfo_of_le {secret : Prk} {keyLen : Nat} (label context : List UInt8)
    (h : keyLen ≤ 255 * secret.algorithm.digest.outputLen) :
    hkdfExpandInfo secret keyLen label context =
      .ok (secret.algorithm.expandBytes secret.bytes (expandInfo keyLen label context) keyLen) := by
  simp [hkdfExpandInfo, Prk.expand, h]

theorem hkdfExpandInfo_of_lt {secret : Prk} {keyLen : Nat} (label context : List UInt8)
    (h : 255 * secret.algorithm.digest.outputLen < keyLen) :
    hkdfExpandInfo secret keyLen label context = .error ⟨unwrapErr⟩ := by
  simp [hkdfExpandInfo, Prk.expand, Nat.not_le.mpr h]

/-- A hash-long key is never too long, so deriving a secret never panics. -/
theorem hkdfExpand_eq {secret : Prk} {alg : HkdfAlgorithm} (label context : List UInt8)
    (h : secret.algorithm = alg) :
    hkdfExpand secret alg label context =
      .ok ⟨alg, alg.expandBytes secret.bytes (expandInfo alg.digest.outputLen label context)
        alg.digest.outputLen⟩ := by
  subst h
  have hle : secret.algorithm.digest.outputLen ≤ 255 * secret.algorithm.digest.outputLen := by omega
  rw [hkdfExpand, hkdfExpandInfo_of_le label context hle]
  rfl

namespace KeyScheduleTraffic

variable (ks : KeyScheduleTraffic) (out label : List UInt8) (context : Option (List UInt8))

/-- The secret the exporter derives from the current exporter secret under the label. -/
def exporterSecret : List UInt8 :=
  ks.hkdfAlgorithm.expandBytes ks.currentExporterSecret.bytes
    (expandInfo ks.hkdfAlgorithm.digest.outputLen label (digest ks.hkdfAlgorithm.digest []))
    ks.hkdfAlgorithm.digest.outputLen

theorem exportKeyingMaterial_of_le (h : out.length ≤ 255 * ks.hkdfAlgorithm.digest.outputLen) :
    ks.exportKeyingMaterial out label context =
      .ok (.ok (ks.hkdfAlgorithm.expandBytes (ks.exporterSecret label)
        (expandInfo out.length exporterLabel (digest ks.hkdfAlgorithm.digest (context.getD [])))
        out.length)) := by
  obtain ⟨alg, secret, hsecret⟩ := ks
  simp only [KeyScheduleTraffic.exportKeyingMaterial, KeySchedule.exportKeyingMaterial,
    hkdfExpand_eq label _ hsecret, bind, Except.bind]
  rw [hkdfExpandInfo_of_le _ _ h]
  simp [pure, Except.pure, alg.length_expandBytes, exporterSecret]

/-- Past `255` blocks, the exporter panics in the unwrap of `hkdf_expand_info`. -/
theorem exportKeyingMaterial_of_lt (h : 255 * ks.hkdfAlgorithm.digest.outputLen < out.length) :
    ks.exportKeyingMaterial out label context = .error ⟨unwrapErr⟩ := by
  obtain ⟨alg, secret, hsecret⟩ := ks
  simp only [KeyScheduleTraffic.exportKeyingMaterial, KeySchedule.exportKeyingMaterial,
    hkdfExpand_eq label _ hsecret, bind, Except.bind]
  rw [hkdfExpandInfo_of_lt _ _ h]

/-- Where the buffer, the label and the hash fit their length fields, the
exporter fills the buffer with RFC 8446's exporter value. -/
theorem exportKeyingMaterial_eq_tlsExporter (h : out.length ≤ 255 * ks.hkdfAlgorithm.digest.outputLen)
    (hlabel : label.length < 250) (hhash : ks.hkdfAlgorithm.digest.outputLen < 2 ^ 8) :
    ∃ okm, tlsExporter ks.hkdfAlgorithm ks.currentExporterSecret.bytes label (context.getD []) out.length =
      some okm ∧ ks.exportKeyingMaterial out label context = .ok (.ok okm) := by
  obtain ⟨alg, secret, hsecret⟩ := ks
  have hprefix : labelPrefix.length = 6 := rfl
  have hexporter : labelPrefix.length + exporterLabel.length < 2 ^ 8 := by decide
  have hcontext : ∀ d, (digest alg.digest d).length < 2 ^ 8 := fun d => by rwa [length_digest]
  -- the first expansion is one hash long, the second at most 255 hashes: both fit a u16
  have hhashLen : alg.digest.outputLen ≤ 255 * alg.digest.outputLen := by omega
  have hkey : alg.digest.outputLen < 2 ^ 16 := by simp only at hhash; omega
  have hout : out.length < 2 ^ 16 := by simp only at h hhash; omega
  have hlabel' : labelPrefix.length + label.length < 2 ^ 8 := by omega
  rw [tlsExporter, expandLabel_of_fit hhashLen hkey hlabel' (hcontext [])]
  simp only [Option.bind_eq_bind, Option.bind_some]
  rw [expandLabel_of_fit h hout hexporter (hcontext _)]
  exact ⟨_, rfl, exportKeyingMaterial_of_le _ out label context h⟩

end KeyScheduleTraffic

/-- The two lengths the caller picks decide the outcome against RFC 8446: a
buffer past `255` hashes panics, and a label of `250` bytes or more, for which
no `HkdfLabel` exists, still fills the buffer. -/
theorem exportKeyingMaterial_diverges (ks : KeyScheduleTraffic) (out label : List UInt8)
    (context : Option (List UInt8)) :
    (255 * ks.hkdfAlgorithm.digest.outputLen < out.length →
      ks.exportKeyingMaterial out label context = .error ⟨unwrapErr⟩) ∧
    (250 ≤ label.length → out.length ≤ 255 * ks.hkdfAlgorithm.digest.outputLen →
      tlsExporter ks.hkdfAlgorithm ks.currentExporterSecret.bytes label (context.getD []) out.length = none ∧
      ∃ okm, okm.length = out.length ∧ ks.exportKeyingMaterial out label context = .ok (.ok okm)) := by
  refine ⟨ks.exportKeyingMaterial_of_lt out label context, fun hlabel h => ⟨?_, _, ?_,
    ks.exportKeyingMaterial_of_le out label context h⟩⟩
  · rw [tlsExporter, expandLabel_of_long hlabel, Option.bind_eq_bind, Option.bind_none]
  · exact ks.hkdfAlgorithm.length_expandBytes _ _ _

/-- A SHA-256-sized hash of the input's length and an all-zero HKDF-Expand. -/
def zeroHkdf : HkdfAlgorithm :=
  ⟨lengthDigest 32, fun _ _ len => List.replicate len 0, fun _ _ _ => List.length_replicate⟩

/-- Its key schedule, with an empty exporter secret. -/
def zeroKeySchedule : KeyScheduleTraffic := ⟨zeroHkdf, ⟨zeroHkdf, []⟩, rfl⟩

theorem zero_exporter_panics_or_fills :
    zeroKeySchedule.exportKeyingMaterial (List.replicate 8161 0) [] none = .error ⟨unwrapErr⟩ ∧
    ∃ okm, okm.length = 1 ∧
      zeroKeySchedule.exportKeyingMaterial [0] (List.replicate 250 0x61) none = .ok (.ok okm) := by
  have hbuffer : 255 * zeroKeySchedule.hkdfAlgorithm.digest.outputLen < (List.replicate 8161 (0 : UInt8)).length := by
    simp only [List.length_replicate]
    decide
  have hlabel : 250 ≤ (List.replicate 250 (0x61 : UInt8)).length := by
    simp only [List.length_replicate, Nat.le_refl]
  have hone : [(0 : UInt8)].length ≤ 255 * zeroKeySchedule.hkdfAlgorithm.digest.outputLen := by decide
  exact ⟨(exportKeyingMaterial_diverges zeroKeySchedule _ [] none).1 hbuffer,
    ((exportKeyingMaterial_diverges zeroKeySchedule [0] _ none).2 hlabel hone).2⟩

/-- Under it, an eight-byte buffer and the label `"key"` fit RFC 8446's lengths. -/
theorem zero_exporter_matches_rfc8446 :
    (List.replicate 8 (0 : UInt8)).length ≤ 255 * zeroKeySchedule.hkdfAlgorithm.digest.outputLen ∧
      [(0x6b : UInt8), 0x65, 0x79].length < 250 ∧ zeroKeySchedule.hkdfAlgorithm.digest.outputLen < 2 ^ 8 ∧
      ∃ okm, tlsExporter zeroKeySchedule.hkdfAlgorithm zeroKeySchedule.currentExporterSecret.bytes
          [0x6b, 0x65, 0x79] [] 8 = some okm ∧
        zeroKeySchedule.exportKeyingMaterial (List.replicate 8 0) [0x6b, 0x65, 0x79] none = .ok (.ok okm) := by
  have hout : (List.replicate 8 (0 : UInt8)).length ≤ 255 * zeroKeySchedule.hkdfAlgorithm.digest.outputLen := by
    decide
  have hlabel : [(0x6b : UInt8), 0x65, 0x79].length < 250 := by decide
  have hhash : zeroKeySchedule.hkdfAlgorithm.digest.outputLen < 2 ^ 8 := by decide
  exact ⟨hout, hlabel, hhash, KeyScheduleTraffic.exportKeyingMaterial_eq_tlsExporter zeroKeySchedule
    (List.replicate 8 0) [0x6b, 0x65, 0x79] none hout hlabel hhash⟩

end TcplsBasics.Ports.Tls13.KeySchedule
