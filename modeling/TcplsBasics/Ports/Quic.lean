import TcplsBasics.Verified.Bytes
import TcplsBasics.Ports.Error

/-!
# QUIC header protection (`quic.rs`)

`HeaderProtectionKey::encrypt_in_place` and `decrypt_in_place` are one
function, `xor_in_place`, that draws a five-byte mask from a sample of the
payload and XORs its first byte into the low bits of the header's first byte
(four of them in a long header, five in a short one) and the rest into the
packet number, as many bytes of it as the unprotected first byte says the
packet number has.  The header-form bit that chooses between four and five
bits is itself never masked, and the unprotected first byte is the one before
masking when protecting and the one after unmasking when removing protection;
so both directions agree on what they mask, and each undoes the other
(`headerProtection_roundTrip`).

The mask is ring's, known only as a function of the sample that fails on a
sample of the wrong length.  The call's effect on `*first` and
`packet_number` is returned beside its result, and an error returns them
unchanged.
-/

namespace TcplsBasics.Ports.Quic

open TcplsBasics.Verified.Bytes TcplsBasics.Ports.Errors

/-- ring's `quic::HeaderProtectionKey`: five bytes of mask for every sample of
`sampleLen` bytes. -/
structure HeaderProtectionKey where
  sampleLen : Nat
  mask : List UInt8 → Vector UInt8 5

/-- `quic::HeaderProtectionKey::new_mask`. -/
def HeaderProtectionKey.newMask (key : HeaderProtectionKey) (sample : List UInt8) :
    Except Unit (Vector UInt8 5) :=
  if sample.length = key.sampleLen then .ok (key.mask sample) else .error ()

/-- `LONG_HEADER_FORM`. -/
def longHeaderForm : UInt8 := 0x80

/-- The `bits` of the first byte that are masked: four in a long header, five
in a short one. -/
def headerBits (first : UInt8) : UInt8 :=
  match first &&& longHeaderForm == longHeaderForm with
  | true => 0x0f
  | false => 0x1f

/-- `for (dst, m) in packet_number.iter_mut().zip(pn_mask).take(pn_len) { *dst ^= m }`. -/
def xorTake : List UInt8 → List UInt8 → Nat → List UInt8
  | dst :: dsts, m :: ms, n + 1 => (dst ^^^ m) :: xorTake dsts ms n
  | dsts, _, _ => dsts

/-- `HeaderProtectionKey::xor_in_place`: the result, with `*first` and
`packet_number` as the call leaves them. -/
def xorInPlace (key : HeaderProtectionKey) (sample : List UInt8) (first : UInt8)
    (packetNumber : List UInt8) (masked : Bool) : Except Error Unit × UInt8 × List UInt8 :=
  match key.newMask sample with
  | .error _ => (.error (.general "sample of invalid length"), first, packetNumber)
  | .ok mask =>
    -- `mask.split_first().unwrap()` cannot fail on five bytes
    let firstMask := mask[0]
    let pnMask := mask.toList.tail
    if packetNumber.length > pnMask.length then
      (.error (.general "packet number too long"), first, packetNumber)
    else
      let bits := headerBits first
      let firstPlain := match masked with
        | true => first ^^^ (firstMask &&& bits)
        | false => first
      let pnLen := (firstPlain &&& 0x03).toNat + 1
      (.ok (), first ^^^ (firstMask &&& bits), xorTake packetNumber pnMask pnLen)

/-- `HeaderProtectionKey::encrypt_in_place`. -/
def encryptInPlace (key : HeaderProtectionKey) (sample : List UInt8) (first : UInt8)
    (packetNumber : List UInt8) : Except Error Unit × UInt8 × List UInt8 :=
  xorInPlace key sample first packetNumber false

/-- `HeaderProtectionKey::decrypt_in_place`. -/
def decryptInPlace (key : HeaderProtectionKey) (sample : List UInt8) (first : UInt8)
    (packetNumber : List UInt8) : Except Error Unit × UInt8 × List UInt8 :=
  xorInPlace key sample first packetNumber true

/-- `pn_len`: the packet number length an unprotected first byte gives. -/
def packetNumberLength (first : UInt8) : Nat := (first &&& 0x03).toNat + 1

/-- What a call may change: the masked bits of the first byte, and the first
`pn_len` bytes of the packet number, `pn_len` being read off the unprotected
first byte `plain`. -/
def MasksOnly (plain first first' : UInt8) (packetNumber packetNumber' : List UInt8) : Prop :=
  first' &&& ~~~(headerBits first) = first &&& ~~~(headerBits first) ∧
    packetNumber'.length = packetNumber.length ∧
    packetNumber'.drop (packetNumberLength plain) = packetNumber.drop (packetNumberLength plain)

/-! ## The masks -/

/-- The header-form bit is not among the masked bits. -/
theorem headerBits_and_longHeaderForm (first : UInt8) : headerBits first &&& longHeaderForm = 0 := by
  unfold headerBits
  split <;> decide

/-- Masking keeps the header form, so the masked byte masks the same bits. -/
theorem headerBits_xor (first x : UInt8) : headerBits (first ^^^ (x &&& headerBits first)) = headerBits first := by
  have hform := xor_and_of_and_eq_zero (headerBits_and_longHeaderForm first) first x
  unfold headerBits at hform ⊢
  rw [hform]

/-- Only the masked bits of the first byte change. -/
theorem xor_headerBits_and_not (first x : UInt8) :
    (first ^^^ (x &&& headerBits first)) &&& ~~~(headerBits first) = first &&& ~~~(headerBits first) :=
  xor_and_of_and_eq_zero UInt8.and_not_self first x

theorem xorTake_xorTake : ∀ (dsts ms : List UInt8) (n : Nat), xorTake (xorTake dsts ms n) ms n = dsts
  | _ :: dsts, _ :: ms, n + 1 => by
    rw [xorTake, xorTake, xorTake_xorTake dsts ms n, xor_xor_cancel_right]
  | [], _, _ => by simp [xorTake]
  | _ :: _, [], _ => by simp [xorTake]
  | _ :: _, _ :: _, 0 => by simp [xorTake]

@[simp] theorem length_xorTake : ∀ (dsts ms : List UInt8) (n : Nat), (xorTake dsts ms n).length = dsts.length
  | _ :: dsts, _ :: ms, n + 1 => by simp [xorTake, length_xorTake dsts ms n]
  | [], _, _ => by simp [xorTake]
  | _ :: _, [], _ => by simp [xorTake]
  | _ :: _, _ :: _, 0 => by simp [xorTake]

/-- Only the first `n` bytes change. -/
theorem drop_xorTake : ∀ (dsts ms : List UInt8) (n : Nat), (xorTake dsts ms n).drop n = dsts.drop n
  | _ :: dsts, _ :: ms, n + 1 => by simp [xorTake, drop_xorTake dsts ms n]
  | [], _, _ => by simp [xorTake]
  | _ :: _, [], _ => by simp [xorTake]
  | _ :: _, _ :: _, 0 => by simp [xorTake]

/-! ## The calls -/

theorem HeaderProtectionKey.newMask_of_length {key : HeaderProtectionKey} {sample : List UInt8}
    (h : sample.length = key.sampleLen) : key.newMask sample = .ok (key.mask sample) :=
  if_pos h

theorem HeaderProtectionKey.newMask_of_ne {key : HeaderProtectionKey} {sample : List UInt8}
    (h : sample.length ≠ key.sampleLen) : key.newMask sample = .error () :=
  if_neg h

section Calls

variable {key : HeaderProtectionKey} {sample : List UInt8} (first : UInt8) (packetNumber : List UInt8)

theorem xorInPlace_of_error {u : Unit} (h : key.newMask sample = .error u) (masked : Bool) :
    xorInPlace key sample first packetNumber masked =
      (.error (.general "sample of invalid length"), first, packetNumber) := by
  simp only [xorInPlace, h]

theorem xorInPlace_of_long {mask : Vector UInt8 5} (h : key.newMask sample = .ok mask)
    (hlong : 4 < packetNumber.length) (masked : Bool) :
    xorInPlace key sample first packetNumber masked =
      (.error (.general "packet number too long"), first, packetNumber) := by
  have hpn : mask.toList.tail.length = 4 := by simp
  simp only [xorInPlace, h, hpn, gt_iff_lt, hlong, if_true]

theorem encryptInPlace_of_fit {mask : Vector UInt8 5} (h : key.newMask sample = .ok mask)
    (hfit : packetNumber.length ≤ 4) :
    encryptInPlace key sample first packetNumber =
      (.ok (), first ^^^ (mask[0] &&& headerBits first),
        xorTake packetNumber mask.toList.tail (packetNumberLength first)) := by
  have hpn : mask.toList.tail.length = 4 := by simp
  simp only [encryptInPlace, xorInPlace, h, hpn, gt_iff_lt, Nat.not_lt.mpr hfit, if_false]
  rfl

theorem decryptInPlace_of_fit {mask : Vector UInt8 5} (h : key.newMask sample = .ok mask)
    (hfit : packetNumber.length ≤ 4) :
    decryptInPlace key sample first packetNumber =
      (.ok (), first ^^^ (mask[0] &&& headerBits first),
        xorTake packetNumber mask.toList.tail (packetNumberLength (first ^^^ (mask[0] &&& headerBits first)))) := by
  have hpn : mask.toList.tail.length = 4 := by simp
  simp only [decryptInPlace, xorInPlace, h, hpn, gt_iff_lt, Nat.not_lt.mpr hfit, if_false]
  rfl

/-- A call that fails leaves the header as it was. -/
theorem xorInPlace_of_ne_ok (masked : Bool) (h : (xorInPlace key sample first packetNumber masked).1 ≠ .ok ()) :
    (xorInPlace key sample first packetNumber masked).2 = (first, packetNumber) := by
  cases hmask : key.newMask sample with
  | error u => rw [xorInPlace_of_error first packetNumber hmask]
  | ok mask =>
    by_cases hlong : 4 < packetNumber.length
    · rw [xorInPlace_of_long first packetNumber hmask hlong]
    · -- past both checks the call succeeds
      exfalso
      apply h
      cases masked
      · exact congrArg Prod.fst (encryptInPlace_of_fit first packetNumber hmask (by omega))
      · exact congrArg Prod.fst (decryptInPlace_of_fit first packetNumber hmask (by omega))

/-- Removing protection after adding it, with the same sample, gives the
header back, or the same error with the header untouched. -/
theorem decryptInPlace_encryptInPlace :
    decryptInPlace key sample (encryptInPlace key sample first packetNumber).2.1
        (encryptInPlace key sample first packetNumber).2.2 =
      ((encryptInPlace key sample first packetNumber).1, first, packetNumber) := by
  cases hmask : key.newMask sample with
  | error u =>
    rw [encryptInPlace, xorInPlace_of_error first packetNumber hmask, decryptInPlace,
      xorInPlace_of_error first packetNumber hmask]
  | ok mask =>
    by_cases hlong : 4 < packetNumber.length
    · rw [encryptInPlace, xorInPlace_of_long first packetNumber hmask hlong, decryptInPlace,
        xorInPlace_of_long first packetNumber hmask hlong]
    · have hfit : packetNumber.length ≤ 4 := by omega
      rw [encryptInPlace_of_fit first packetNumber hmask hfit]
      dsimp only
      rw [decryptInPlace_of_fit _ _ hmask (by rw [length_xorTake]; exact hfit), headerBits_xor,
        xor_xor_cancel_right, xorTake_xorTake]

/-- Adding protection after removing it, with the same sample, gives the
header back, or the same error with the header untouched. -/
theorem encryptInPlace_decryptInPlace :
    encryptInPlace key sample (decryptInPlace key sample first packetNumber).2.1
        (decryptInPlace key sample first packetNumber).2.2 =
      ((decryptInPlace key sample first packetNumber).1, first, packetNumber) := by
  cases hmask : key.newMask sample with
  | error u =>
    rw [decryptInPlace, xorInPlace_of_error first packetNumber hmask, encryptInPlace,
      xorInPlace_of_error first packetNumber hmask]
  | ok mask =>
    by_cases hlong : 4 < packetNumber.length
    · rw [decryptInPlace, xorInPlace_of_long first packetNumber hmask hlong, encryptInPlace,
        xorInPlace_of_long first packetNumber hmask hlong]
    · have hfit : packetNumber.length ≤ 4 := by omega
      rw [decryptInPlace_of_fit first packetNumber hmask hfit]
      dsimp only
      rw [encryptInPlace_of_fit _ _ hmask (by rw [length_xorTake]; exact hfit), headerBits_xor,
        xor_xor_cancel_right, xorTake_xorTake]

/-- Adding protection masks only the low bits of the first byte and the first
`pn_len` bytes of the packet number, `pn_len` read off the plain first byte. -/
theorem encryptInPlace_masksOnly (h : (encryptInPlace key sample first packetNumber).1 = .ok ()) :
    MasksOnly first first (encryptInPlace key sample first packetNumber).2.1 packetNumber
      (encryptInPlace key sample first packetNumber).2.2 := by
  cases hmask : key.newMask sample with
  | error u =>
    rw [encryptInPlace, xorInPlace_of_error first packetNumber hmask] at h
    cases h
  | ok mask =>
    by_cases hlong : 4 < packetNumber.length
    · rw [encryptInPlace, xorInPlace_of_long first packetNumber hmask hlong] at h
      cases h
    · rw [encryptInPlace_of_fit first packetNumber hmask (by omega)]
      exact ⟨xor_headerBits_and_not first _, length_xorTake _ _ _, drop_xorTake _ _ _⟩

/-- Removing protection unmasks only the low bits of the first byte and the
first `pn_len` bytes of the packet number, `pn_len` read off the first byte it
leaves. -/
theorem decryptInPlace_masksOnly (h : (decryptInPlace key sample first packetNumber).1 = .ok ()) :
    MasksOnly (decryptInPlace key sample first packetNumber).2.1 first
      (decryptInPlace key sample first packetNumber).2.1 packetNumber
      (decryptInPlace key sample first packetNumber).2.2 := by
  cases hmask : key.newMask sample with
  | error u =>
    rw [decryptInPlace, xorInPlace_of_error first packetNumber hmask] at h
    cases h
  | ok mask =>
    by_cases hlong : 4 < packetNumber.length
    · rw [decryptInPlace, xorInPlace_of_long first packetNumber hmask hlong] at h
      cases h
    · rw [decryptInPlace_of_fit first packetNumber hmask (by omega)]
      exact ⟨xor_headerBits_and_not first _, length_xorTake _ _ _, drop_xorTake _ _ _⟩

end Calls

/-- **Header protection is undone by its inverse.**  For every key, sample,
first byte and packet number: with a sample of the key's length and at most
four packet-number bytes, adding protection XORs the mask's first byte into
the masked bits of the first byte and the rest into the first `pn_len` bytes
of the packet number, `pn_len` read off the unprotected first byte, and
removing it does the same with `pn_len` read off the byte it unmasks; a
sample of another length, or a longer packet number, is refused with the
header untouched.  Removing protection after adding it, and adding it after
removing it, give back the first byte and the packet number, or the same
error; a call that succeeds changes only those bits and bytes, and a call
that fails changes nothing. -/
theorem headerProtection_roundTrip (key : HeaderProtectionKey) (sample : List UInt8) (first : UInt8)
    (packetNumber : List UInt8) :
    let enc := encryptInPlace key sample first packetNumber
    let dec := decryptInPlace key sample first packetNumber
    let mask := key.mask sample
    (sample.length = key.sampleLen → packetNumber.length ≤ 4 →
      enc = (.ok (), first ^^^ (mask[0] &&& headerBits first),
        xorTake packetNumber mask.toList.tail (packetNumberLength first)) ∧
      dec = (.ok (), first ^^^ (mask[0] &&& headerBits first),
        xorTake packetNumber mask.toList.tail (packetNumberLength (first ^^^ (mask[0] &&& headerBits first))))) ∧
    (sample.length ≠ key.sampleLen →
      enc = (.error (.general "sample of invalid length"), first, packetNumber) ∧
      dec = (.error (.general "sample of invalid length"), first, packetNumber)) ∧
    (sample.length = key.sampleLen → 4 < packetNumber.length →
      enc = (.error (.general "packet number too long"), first, packetNumber) ∧
      dec = (.error (.general "packet number too long"), first, packetNumber)) ∧
    decryptInPlace key sample enc.2.1 enc.2.2 = (enc.1, first, packetNumber) ∧
    encryptInPlace key sample dec.2.1 dec.2.2 = (dec.1, first, packetNumber) ∧
    (enc.1 = .ok () → MasksOnly first first enc.2.1 packetNumber enc.2.2) ∧
    (dec.1 = .ok () → MasksOnly dec.2.1 first dec.2.1 packetNumber dec.2.2) ∧
    (enc.1 ≠ .ok () → enc.2 = (first, packetNumber)) ∧
    (dec.1 ≠ .ok () → dec.2 = (first, packetNumber)) := by
  intro enc dec mask
  refine ⟨fun hlen hfit => ?_, fun hlen => ?_, fun hlen hlong => ?_,
    decryptInPlace_encryptInPlace first packetNumber, encryptInPlace_decryptInPlace first packetNumber,
    encryptInPlace_masksOnly first packetNumber, decryptInPlace_masksOnly first packetNumber,
    xorInPlace_of_ne_ok first packetNumber false, xorInPlace_of_ne_ok first packetNumber true⟩
  · have hmask := HeaderProtectionKey.newMask_of_length hlen
    exact ⟨encryptInPlace_of_fit first packetNumber hmask hfit, decryptInPlace_of_fit first packetNumber hmask hfit⟩
  · have hmask := HeaderProtectionKey.newMask_of_ne hlen
    exact ⟨xorInPlace_of_error first packetNumber hmask false, xorInPlace_of_error first packetNumber hmask true⟩
  · have hmask := HeaderProtectionKey.newMask_of_length hlen
    exact ⟨xorInPlace_of_long first packetNumber hmask hlong false, xorInPlace_of_long first packetNumber hmask hlong true⟩

end TcplsBasics.Ports.Quic
