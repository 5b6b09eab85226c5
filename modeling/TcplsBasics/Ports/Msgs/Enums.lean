import Mathlib
import TcplsBasics.Verified.Codec

/-!
# Content types, alerts, versions and cipher suites (`msgs/enums.rs`, `enums.rs`)

`ContentType` is an `enum_builder!` enum: a byte with no name of its own
reads as `Unknown(byte)`, and `Unknown(b)` encodes as `b`, so
`Unknown(0x17)` and `ApplicationData` go out as the same byte.  That is why
`ContentType` is an inductive type here and not a byte, and so are
`AlertLevel` and `AlertDescription`.

## Main results

* `ContentType.ofU8_getU8`, `ContentType.getU8_ofU8`: the byte code of a content type.
* `EnumU16.read_encode`: a two-byte enum reads back as the value its code
  names, and `EnumU16.canonical_unknown_iff`: an `Unknown` reads back as
  itself exactly when its code has no name.

The two-byte enums, `ProtocolVersion` and `CipherSuite` among them, are one
type family `EnumU16` over the list of named codes, in the macro's order.
-/

namespace TcplsBasics.Ports.Msgs.Enums

/-- `ContentType`. -/
inductive ContentType where
  | changeCipherSpec
  | alert
  | handshake
  | applicationData
  | heartbeat
  | unknown (x : UInt8)
deriving DecidableEq, Repr

namespace ContentType

/-- `ContentType::get_u8`. -/
def getU8 : ContentType → UInt8
  | .changeCipherSpec => 0x14
  | .alert => 0x15
  | .handshake => 0x16
  | .applicationData => 0x17
  | .heartbeat => 0x18
  | .unknown x => x

/-- `ContentType::from(u8)`. -/
def ofU8 (x : UInt8) : ContentType :=
  if x = 0x14 then .changeCipherSpec
  else if x = 0x15 then .alert
  else if x = 0x16 then .handshake
  else if x = 0x17 then .applicationData
  else if x = 0x18 then .heartbeat
  else .unknown x

/-- Whether the type is `Unknown(_)`. -/
def isUnknown : ContentType → Bool
  | .unknown _ => true
  | _ => false

/-- A type reads back from its byte unless it is an `Unknown` of a named byte. -/
def Canonical (t : ContentType) : Prop := ofU8 t.getU8 = t

instance (t : ContentType) : Decidable t.Canonical := inferInstanceAs (Decidable (_ = _))

@[simp] theorem getU8_ofU8 (x : UInt8) : (ofU8 x).getU8 = x := by
  unfold ofU8
  split_ifs <;> simp_all [getU8]

theorem ofU8_getU8 {t : ContentType} (h : t.Canonical) : ofU8 t.getU8 = t := h

end ContentType

/-! ## Alerts -/

/-- `AlertLevel`. -/
inductive AlertLevel where
  | warning
  | fatal
  | unknown (x : UInt8)
deriving DecidableEq, Repr

namespace AlertLevel

/-- `AlertLevel::get_u8`. -/
def getU8 : AlertLevel → UInt8
  | .warning => 0x01
  | .fatal => 0x02
  | .unknown x => x

/-- `AlertLevel::from(u8)`. -/
def ofU8 (x : UInt8) : AlertLevel :=
  if x = 0x01 then .warning
  else if x = 0x02 then .fatal
  else .unknown x

/-- A level reads back from its byte unless it is an `Unknown` of a named byte. -/
def Canonical (l : AlertLevel) : Prop := ofU8 l.getU8 = l

instance (l : AlertLevel) : Decidable l.Canonical := inferInstanceAs (Decidable (_ = _))

end AlertLevel

/-- `AlertDescription`. -/
inductive AlertDescription where
  | closeNotify
  | unexpectedMessage
  | badRecordMac
  | decryptionFailed
  | recordOverflow
  | decompressionFailure
  | handshakeFailure
  | noCertificate
  | badCertificate
  | unsupportedCertificate
  | certificateRevoked
  | certificateExpired
  | certificateUnknown
  | illegalParameter
  | unknownCA
  | accessDenied
  | decodeError
  | decryptError
  | exportRestriction
  | protocolVersion
  | insufficientSecurity
  | internalError
  | inappropriateFallback
  | userCanceled
  | noRenegotiation
  | missingExtension
  | unsupportedExtension
  | certificateUnobtainable
  | unrecognisedName
  | badCertificateStatusResponse
  | badCertificateHashValue
  | unknownPSKIdentity
  | certificateRequired
  | noApplicationProtocol
  | unknown (x : UInt8)
deriving DecidableEq, Repr

namespace AlertDescription

/-- `AlertDescription::get_u8`. -/
def getU8 : AlertDescription → UInt8
  | .closeNotify => 0x00
  | .unexpectedMessage => 0x0a
  | .badRecordMac => 0x14
  | .decryptionFailed => 0x15
  | .recordOverflow => 0x16
  | .decompressionFailure => 0x1e
  | .handshakeFailure => 0x28
  | .noCertificate => 0x29
  | .badCertificate => 0x2a
  | .unsupportedCertificate => 0x2b
  | .certificateRevoked => 0x2c
  | .certificateExpired => 0x2d
  | .certificateUnknown => 0x2e
  | .illegalParameter => 0x2f
  | .unknownCA => 0x30
  | .accessDenied => 0x31
  | .decodeError => 0x32
  | .decryptError => 0x33
  | .exportRestriction => 0x3c
  | .protocolVersion => 0x46
  | .insufficientSecurity => 0x47
  | .internalError => 0x50
  | .inappropriateFallback => 0x56
  | .userCanceled => 0x5a
  | .noRenegotiation => 0x64
  | .missingExtension => 0x6d
  | .unsupportedExtension => 0x6e
  | .certificateUnobtainable => 0x6f
  | .unrecognisedName => 0x70
  | .badCertificateStatusResponse => 0x71
  | .badCertificateHashValue => 0x72
  | .unknownPSKIdentity => 0x73
  | .certificateRequired => 0x74
  | .noApplicationProtocol => 0x78
  | .unknown x => x

/-- The named descriptions and their bytes, in the macro's order. -/
def named : List (AlertDescription × UInt8) :=
  [(.closeNotify, 0x00), (.unexpectedMessage, 0x0a), (.badRecordMac, 0x14),
    (.decryptionFailed, 0x15), (.recordOverflow, 0x16), (.decompressionFailure, 0x1e),
    (.handshakeFailure, 0x28), (.noCertificate, 0x29), (.badCertificate, 0x2a),
    (.unsupportedCertificate, 0x2b), (.certificateRevoked, 0x2c), (.certificateExpired, 0x2d),
    (.certificateUnknown, 0x2e), (.illegalParameter, 0x2f), (.unknownCA, 0x30),
    (.accessDenied, 0x31), (.decodeError, 0x32), (.decryptError, 0x33), (.exportRestriction, 0x3c),
    (.protocolVersion, 0x46), (.insufficientSecurity, 0x47), (.internalError, 0x50),
    (.inappropriateFallback, 0x56), (.userCanceled, 0x5a), (.noRenegotiation, 0x64),
    (.missingExtension, 0x6d), (.unsupportedExtension, 0x6e), (.certificateUnobtainable, 0x6f),
    (.unrecognisedName, 0x70), (.badCertificateStatusResponse, 0x71),
    (.badCertificateHashValue, 0x72), (.unknownPSKIdentity, 0x73), (.certificateRequired, 0x74),
    (.noApplicationProtocol, 0x78)]

/-- `AlertDescription::from(u8)`: the macro's `match`, first name first. -/
def ofU8 (x : UInt8) : AlertDescription :=
  match named.find? (fun p => p.2 == x) with
  | some p => p.1
  | none => .unknown x

/-- A description reads back from its byte unless it is an `Unknown` of a named byte. -/
def Canonical (d : AlertDescription) : Prop := ofU8 d.getU8 = d

instance (d : AlertDescription) : Decidable d.Canonical := inferInstanceAs (Decidable (_ = _))

end AlertDescription

/-! ## Two-byte enums -/

/-- An `enum_builder!` enum over `u16` whose named values have the codes
`codes`, in the order the macro lists them: the `i`-th name, or `Unknown(x)`. -/
inductive EnumU16 (codes : List UInt16) where
  | named (i : Fin codes.length)
  | unknown (x : UInt16)
deriving DecidableEq, Repr

namespace EnumU16

open TcplsBasics.Verified.Codec

variable {codes : List UInt16}

/-- `get_u16`. -/
def getU16 : EnumU16 codes → UInt16
  | .named i => codes.get i
  | .unknown x => x

/-- `From<u16>`: the first name with that code, as the macro's `match` picks it. -/
def ofU16 (x : UInt16) : EnumU16 codes :=
  match codes.finIdxOf? x with
  | some i => .named i
  | none => .unknown x

/-- `Codec::encode`: the code, big-endian. -/
def encode (t : EnumU16 codes) : List UInt8 := encodeUInt 2 t.getU16.toNat

/-- `Codec::read`: a `u16`, then `From<u16>`. -/
def read : Decoder (EnumU16 codes) := fun b =>
  (readUInt 2 b).map fun p => (ofU16 (UInt16.ofNat p.1), p.2)

/-- A value reads back from its code unless it is an `Unknown` of a named code. -/
def Canonical (t : EnumU16 codes) : Prop := ofU16 t.getU16 = t

instance (t : EnumU16 codes) : Decidable t.Canonical := inferInstanceAs (Decidable (_ = _))

@[simp] theorem getU16_ofU16 (x : UInt16) : (ofU16 x : EnumU16 codes).getU16 = x := by
  unfold ofU16
  split
  · rename_i i hi
    exact (List.finIdxOf?_eq_some_iff.mp hi).1
  · rfl

/-- Everything `From<u16>` builds is canonical, so everything `read` returns is. -/
theorem canonical_ofU16 (x : UInt16) : (ofU16 x : EnumU16 codes).Canonical := by
  rw [Canonical, getU16_ofU16]

/-- `Unknown(x)` is canonical exactly when `x` has no name. -/
theorem canonical_unknown_iff {x : UInt16} : (unknown x : EnumU16 codes).Canonical ↔ x ∉ codes := by
  unfold Canonical ofU16
  split
  · rename_i i hi
    simp only [getU16] at hi
    simp only [reduceCtorEq, false_iff, not_not]
    rw [← (List.finIdxOf?_eq_some_iff.mp hi).1]
    exact List.getElem_mem i.isLt
  · rename_i hnone
    simpa [getU16] using List.finIdxOf?_eq_none_iff.mp hnone

/-- A two-byte enum reads back as the value its code names. -/
theorem read_encode (t : EnumU16 codes) (r : List UInt8) :
    read (t.encode ++ r) = some ((ofU16 t.getU16 : EnumU16 codes), r) := by
  have hlt : t.getU16.toNat < 256 ^ 2 := t.getU16.toNat_lt
  simp only [read, encode, readUInt_encodeUInt hlt, Option.map_some, UInt16.ofNat_toNat]

end EnumU16

/-- `ProtocolVersion`'s codes: `SSLv2` to `TLSv1_3`, then `DTLSv1_0` to `DTLSv1_3`. -/
def protocolVersionCodes : List UInt16 :=
  [0x0200, 0x0300, 0x0301, 0x0302, 0x0303, 0x0304, 0xfeff, 0xfefd, 0xfefc]

/-- `ProtocolVersion`. -/
abbrev ProtocolVersion := EnumU16 protocolVersionCodes

/-- `ProtocolVersion::TLSv1_2`. -/
def ProtocolVersion.tlsv1_2 : ProtocolVersion := .named ⟨4, by decide⟩

/-- `CipherSuite`'s codes, from `TLS_NULL_WITH_NULL_NULL` to `SSL_RSA_FIPS_WITH_3DES_EDE_CBC_SHA`. -/
def cipherSuiteCodes : List UInt16 :=
  [0x0000, 0x0001, 0x0002, 0x0003, 0x0004, 0x0005, 0x0006, 0x0007, 0x0008, 0x0009,
    0x000a, 0x000b, 0x000c, 0x000d, 0x000e, 0x000f, 0x0010, 0x0011, 0x0012, 0x0013,
    0x0014, 0x0015, 0x0016, 0x0017, 0x0018, 0x0019, 0x001a, 0x001b, 0x001c, 0x001d,
    0x001e, 0x001f, 0x0020, 0x0021, 0x0022, 0x0023, 0x0024, 0x0025, 0x0026, 0x0027,
    0x0028, 0x0029, 0x002a, 0x002b, 0x002c, 0x002d, 0x002e, 0x002f, 0x0030, 0x0031,
    0x0032, 0x0033, 0x0034, 0x0035, 0x0036, 0x0037, 0x0038, 0x0039, 0x003a, 0x003b,
    0x003c, 0x003d, 0x003e, 0x003f, 0x0040, 0x0041, 0x0042, 0x0043, 0x0044, 0x0045,
    0x0046, 0x0047, 0x0048, 0x0049, 0x004a, 0x004b, 0x004c, 0x004d, 0x004e, 0x004f,
    0x0050, 0x0051, 0x0052, 0x0053, 0x0054, 0x0055, 0x0056, 0x0057, 0x0058, 0x0059,
    0x005a, 0x005b, 0x005c, 0x0060, 0x0061, 0x0062, 0x0063, 0x0064, 0x0065, 0x0066,
    0x0067, 0x0068, 0x0069, 0x006a, 0x006b, 0x006c, 0x006d, 0x0072, 0x0073, 0x0074,
    0x0077, 0x0078, 0x0079, 0x007c, 0x007d, 0x007e, 0x0080, 0x0081, 0x0082, 0x0083,
    0x0084, 0x0085, 0x0086, 0x0087, 0x0088, 0x0089, 0x008a, 0x008b, 0x008c, 0x008d,
    0x008e, 0x008f, 0x0090, 0x0091, 0x0092, 0x0093, 0x0094, 0x0095, 0x0096, 0x0097,
    0x0098, 0x0099, 0x009a, 0x009b, 0x009c, 0x009d, 0x009e, 0x009f, 0x00a0, 0x00a1,
    0x00a2, 0x00a3, 0x00a4, 0x00a5, 0x00a6, 0x00a7, 0x00a8, 0x00a9, 0x00aa, 0x00ab,
    0x00ac, 0x00ad, 0x00ae, 0x00af, 0x00b0, 0x00b1, 0x00b2, 0x00b3, 0x00b4, 0x00b5,
    0x00b6, 0x00b7, 0x00b8, 0x00b9, 0x00ba, 0x00bb, 0x00bc, 0x00bd, 0x00be, 0x00bf,
    0x00c0, 0x00c1, 0x00c2, 0x00c3, 0x00c4, 0x00c5, 0x00ff, 0x1301, 0x1302, 0x1303,
    0x1304, 0x1305, 0xc001, 0xc002, 0xc003, 0xc004, 0xc005, 0xc006, 0xc007, 0xc008,
    0xc009, 0xc00a, 0xc00b, 0xc00c, 0xc00d, 0xc00e, 0xc00f, 0xc010, 0xc011, 0xc012,
    0xc013, 0xc014, 0xc015, 0xc016, 0xc017, 0xc018, 0xc019, 0xc01a, 0xc01b, 0xc01c,
    0xc01d, 0xc01e, 0xc01f, 0xc020, 0xc021, 0xc022, 0xc023, 0xc024, 0xc025, 0xc026,
    0xc027, 0xc028, 0xc029, 0xc02a, 0xc02b, 0xc02c, 0xc02d, 0xc02e, 0xc02f, 0xc030,
    0xc031, 0xc032, 0xc033, 0xc034, 0xc035, 0xc036, 0xc037, 0xc038, 0xc039, 0xc03a,
    0xc03b, 0xc03c, 0xc03d, 0xc03e, 0xc03f, 0xc040, 0xc041, 0xc042, 0xc043, 0xc044,
    0xc045, 0xc046, 0xc047, 0xc048, 0xc049, 0xc04a, 0xc04b, 0xc04c, 0xc04d, 0xc04e,
    0xc04f, 0xc050, 0xc051, 0xc052, 0xc053, 0xc054, 0xc055, 0xc056, 0xc057, 0xc058,
    0xc059, 0xc05a, 0xc05b, 0xc05c, 0xc05d, 0xc05e, 0xc05f, 0xc060, 0xc061, 0xc062,
    0xc063, 0xc064, 0xc065, 0xc066, 0xc067, 0xc068, 0xc069, 0xc06a, 0xc06b, 0xc06c,
    0xc06d, 0xc06e, 0xc06f, 0xc070, 0xc071, 0xc072, 0xc073, 0xc074, 0xc075, 0xc076,
    0xc077, 0xc078, 0xc079, 0xc07a, 0xc07b, 0xc07c, 0xc07d, 0xc07e, 0xc07f, 0xc080,
    0xc081, 0xc082, 0xc083, 0xc084, 0xc085, 0xc086, 0xc087, 0xc088, 0xc089, 0xc08a,
    0xc08b, 0xc08c, 0xc08d, 0xc08e, 0xc08f, 0xc090, 0xc091, 0xc092, 0xc093, 0xc094,
    0xc095, 0xc096, 0xc097, 0xc098, 0xc099, 0xc09a, 0xc09b, 0xc09c, 0xc09d, 0xc09e,
    0xc09f, 0xc0a0, 0xc0a1, 0xc0a2, 0xc0a3, 0xc0a4, 0xc0a5, 0xc0a6, 0xc0a7, 0xc0a8,
    0xc0a9, 0xc0aa, 0xc0ab, 0xc0ac, 0xc0ad, 0xc0ae, 0xc0af, 0xcca8, 0xcca9, 0xccaa,
    0xccab, 0xccac, 0xccad, 0xccae, 0xfefe, 0xfeff]

/-- `CipherSuite`. -/
abbrev CipherSuite := EnumU16 cipherSuiteCodes

end TcplsBasics.Ports.Msgs.Enums
