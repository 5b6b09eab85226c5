import TcplsBasics.Verified.Rust

/-!
# Ticket ages (`msgs/persist.rs`, `client/hs.rs`, `client/tls13.rs`)

A TLS 1.3 client keeps what a `NewSessionTicket` told it in a
`Tls13ClientSessionValue`: the time it was received (`epoch`), the
lifetime, capped at `MAX_TICKET_LIFETIME` by `ClientSessionCommon::new`, and
`age_add`.  `find_session` takes the value back out of the store only while
`Retrieved::has_expired` is false, and the ClientHello then carries
`obfuscated_ticket_age`: the age in milliseconds plus `age_add`, modulo
`2^32`.

A lifetime of zero means "never expires" to `has_expired`, and nothing caps
the age of such a ticket.  The milliseconds are `age_secs as u32 * 1000`, a
`u32` product, which overflows once the ticket is `4294968` seconds old,
about 49.7 days (`zeroLifetime_ticketAge_overflows`).  With any other
lifetime the age is at most the lifetime, at most a week, and the product
fits (`findSession_ticketAge`).

The integers are `Nat`s: `saturating_sub` is `Nat` subtraction, `as u32` is
`% 2 ^ 32`, and the multiplication checks for overflow as a debug build does.
The store is the value it returns, and `TimeBase::now()` the time it read.
-/

namespace TcplsBasics.Ports.Msgs.Persist

open TcplsBasics.Verified.Rust

/-- `MAX_TICKET_LIFETIME`. -/
def maxTicketLifetime : Nat := 7 * 24 * 60 * 60

/-- The fields of `ClientSessionCommon` the age and the expiry read. -/
structure ClientSessionCommon where
  epoch : Nat
  lifetimeSecs : Nat
deriving DecidableEq, Repr

/-- `ClientSessionCommon::new`, at the time `time_now`. -/
def ClientSessionCommon.new (timeNow lifetimeSecs : Nat) : ClientSessionCommon :=
  ⟨timeNow, min lifetimeSecs maxTicketLifetime⟩

/-- The fields of `Tls13ClientSessionValue` the age reads. -/
structure Tls13ClientSessionValue where
  ageAdd : Nat
  common : ClientSessionCommon
deriving DecidableEq, Repr

/-- `Tls13ClientSessionValue::new`. -/
def Tls13ClientSessionValue.new (timeNow lifetimeSecs ageAdd : Nat) : Tls13ClientSessionValue :=
  ⟨ageAdd, .new timeNow lifetimeSecs⟩

/-- The fields of `NewSessionTicketPayloadTLS13` the session value keeps. -/
structure NewSessionTicketPayloadTls13 where
  lifetime : Nat
  ageAdd : Nat
deriving DecidableEq, Repr

/-- The value `handle_new_ticket_tls13` stores: `nst.lifetime` as it came. -/
def handleNewTicketTls13 (timeNow : Nat) (nst : NewSessionTicketPayloadTls13) :
    Tls13ClientSessionValue :=
  .new timeNow nst.lifetime nst.ageAdd

/-- `Retrieved<T>`. -/
structure Retrieved (T : Type) where
  value : T
  retrievedAt : Nat
deriving DecidableEq, Repr

namespace Retrieved

/-- `Retrieved::has_expired`: a lifetime of zero never expires. -/
def hasExpired (r : Retrieved Tls13ClientSessionValue) : Bool :=
  r.value.common.lifetimeSecs != 0 &&
    decide (saturatingAdd 64 r.value.common.epoch r.value.common.lifetimeSecs < r.retrievedAt)

/-- `Retrieved::obfuscated_ticket_age`. -/
def obfuscatedTicketAge (r : Retrieved Tls13ClientSessionValue) : Except Panic Nat := do
  let ageSecs := r.retrievedAt - r.value.common.epoch
  let ageMillis ← checkedMul 32 (ageSecs % 2 ^ 32) 1000
  pure ((ageMillis + r.value.ageAdd) % 2 ^ 32)

end Retrieved

/-- `find_session` on the TLS 1.3 value the store returned, at `now`. -/
def findSession (resuming : Tls13ClientSessionValue) (now : Nat) :
    Option (Retrieved Tls13ClientSessionValue) :=
  let retrieved : Retrieved Tls13ClientSessionValue := ⟨resuming, now⟩
  match retrieved.hasExpired with
  | false => some retrieved
  | true => none

/-! ## What the expiry bounds -/

namespace Retrieved

variable {r : Retrieved Tls13ClientSessionValue}

/-- A ticket with a lifetime, not yet expired, is no older than its lifetime. -/
theorem age_le_lifetime (hl : r.value.common.lifetimeSecs ≠ 0) (h : r.hasExpired = false) :
    r.retrievedAt - r.value.common.epoch ≤ r.value.common.lifetimeSecs := by
  have hlive : ¬ saturatingAdd 64 r.value.common.epoch r.value.common.lifetimeSecs < r.retrievedAt := by
    simpa [hasExpired, hl] using h
  have hsat := saturatingAdd_le 64 r.value.common.epoch r.value.common.lifetimeSecs
  omega

/-- A ticket without a lifetime never expires. -/
theorem hasExpired_of_lifetime_zero (hl : r.value.common.lifetimeSecs = 0) : r.hasExpired = false := by
  simp [hasExpired, hl]

/-- When the milliseconds fit in a `u32`, the age is the true age plus
`age_add`, modulo `2^32`. -/
theorem obfuscatedTicketAge_of_lt (h : (r.retrievedAt - r.value.common.epoch) * 1000 < 2 ^ 32) :
    r.obfuscatedTicketAge =
      .ok (((r.retrievedAt - r.value.common.epoch) * 1000 + r.value.ageAdd) % 2 ^ 32) := by
  have hfit : (r.retrievedAt - r.value.common.epoch) % 2 ^ 32 = r.retrievedAt - r.value.common.epoch :=
    Nat.mod_eq_of_lt (by omega)
  rw [obfuscatedTicketAge]
  simp only [hfit, checkedMul_eq_ok h, ok_bind]
  rfl

/-- From `4294968` seconds on, counted modulo `2^32`, the milliseconds do not
fit in a `u32`. -/
theorem obfuscatedTicketAge_overflows (h : 4294968 ≤ (r.retrievedAt - r.value.common.epoch) % 2 ^ 32) :
    r.obfuscatedTicketAge = .error ⟨"attempt to multiply with overflow"⟩ := by
  rw [obfuscatedTicketAge]
  simp only [checkedMul_eq_error (show 2 ^ 32 ≤ (r.retrievedAt - r.value.common.epoch) % 2 ^ 32 * 1000 by
    omega)]
  rfl

end Retrieved

theorem findSession_eq_some {resuming : Tls13ClientSessionValue} {now : Nat}
    {r : Retrieved Tls13ClientSessionValue} (h : findSession resuming now = some r) :
    r = ⟨resuming, now⟩ ∧ r.hasExpired = false := by
  unfold findSession at h
  dsimp only at h
  split at h
  · cases h
    exact ⟨rfl, ‹_›⟩
  · cases h

theorem findSession_of_not_expired {resuming : Tls13ClientSessionValue} {now : Nat}
    (h : (⟨resuming, now⟩ : Retrieved Tls13ClientSessionValue).hasExpired = false) :
    findSession resuming now = some ⟨resuming, now⟩ := by
  simp only [findSession, h]

/-- **A ticket with a lifetime reports its age exactly.**  A ticket stored
from a `NewSessionTicket` with a lifetime other than zero, whenever
`find_session` returns it, is at most `MAX_TICKET_LIFETIME` seconds old: its
age in milliseconds fits in a `u32`, and the age sent is that plus
`age_add`, modulo `2^32`. -/
theorem findSession_ticketAge (timeNow now : Nat) (nst : NewSessionTicketPayloadTls13)
    (hl : nst.lifetime ≠ 0) {r : Retrieved Tls13ClientSessionValue}
    (h : findSession (handleNewTicketTls13 timeNow nst) now = some r) :
    (now - timeNow) * 1000 < 2 ^ 32 ∧
      r.obfuscatedTicketAge = .ok (((now - timeNow) * 1000 + nst.ageAdd) % 2 ^ 32) := by
  obtain ⟨rfl, hlive⟩ := findSession_eq_some h
  -- the stored lifetime is the ticket's, capped at a week
  have hpos : min nst.lifetime maxTicketLifetime ≠ 0 := by
    unfold maxTicketLifetime
    omega
  have hage := Retrieved.age_le_lifetime hpos hlive
  change now - timeNow ≤ min nst.lifetime maxTicketLifetime at hage
  have hweek : min nst.lifetime maxTicketLifetime ≤ 604800 := Nat.min_le_right _ _
  have hfit : (now - timeNow) * 1000 < 2 ^ 32 := by omega
  exact ⟨hfit, Retrieved.obfuscatedTicketAge_of_lt hfit⟩

/-- A ticket of an hour, received at `1700000000` and used `1000` seconds later. -/
theorem hour_ticket_age_sent :
    (⟨3600, 0x12345678⟩ : NewSessionTicketPayloadTls13).lifetime ≠ 0 ∧
      findSession (handleNewTicketTls13 1700000000 ⟨3600, 0x12345678⟩) 1700001000 =
        some ⟨handleNewTicketTls13 1700000000 ⟨3600, 0x12345678⟩, 1700001000⟩ ∧
      (1700001000 - 1700000000) * 1000 < 2 ^ 32 ∧
      (⟨handleNewTicketTls13 1700000000 ⟨3600, 0x12345678⟩, 1700001000⟩ :
          Retrieved Tls13ClientSessionValue).obfuscatedTicketAge =
        .ok (((1700001000 - 1700000000) * 1000 + 0x12345678) % 2 ^ 32) := by
  have hl : (⟨3600, 0x12345678⟩ : NewSessionTicketPayloadTls13).lifetime ≠ 0 := by decide
  have h : findSession (handleNewTicketTls13 1700000000 ⟨3600, 0x12345678⟩) 1700001000 =
      some ⟨handleNewTicketTls13 1700000000 ⟨3600, 0x12345678⟩, 1700001000⟩ := by
    decide
  exact ⟨hl, h, findSession_ticketAge 1700000000 1700001000 ⟨3600, 0x12345678⟩ hl h⟩

/-- **A ticket without a lifetime outlives the `u32` milliseconds.**  A ticket
stored from a `NewSessionTicket` whose lifetime is zero never expires, so
`find_session` still returns it once it is `4294968` seconds old (counted
modulo `2^32`); its age in milliseconds is then at least `2^32`, and
`age_secs as u32 * 1000` overflows. -/
theorem zeroLifetime_ticketAge_overflows (timeNow now : Nat) (nst : NewSessionTicketPayloadTls13)
    (hl : nst.lifetime = 0) (hage : 4294968 ≤ (now - timeNow) % 2 ^ 32) :
    ∃ r, findSession (handleNewTicketTls13 timeNow nst) now = some r ∧
      2 ^ 32 ≤ (now - timeNow) * 1000 ∧
      r.obfuscatedTicketAge = .error ⟨"attempt to multiply with overflow"⟩ := by
  have hzero : (handleNewTicketTls13 timeNow nst).common.lifetimeSecs = 0 := by
    simp [handleNewTicketTls13, Tls13ClientSessionValue.new, ClientSessionCommon.new, hl]
  have hlive := Retrieved.hasExpired_of_lifetime_zero (r := ⟨handleNewTicketTls13 timeNow nst, now⟩) hzero
  refine ⟨_, findSession_of_not_expired hlive, ?_, Retrieved.obfuscatedTicketAge_overflows hage⟩
  have hmod := Nat.mod_le (now - timeNow) (2 ^ 32)
  omega

/-- A ticket with no lifetime, received at `1700000000` and used `4294968`
seconds later. -/
theorem fifty_day_old_ticket_overflows :
    (⟨0, 0x12345678⟩ : NewSessionTicketPayloadTls13).lifetime = 0 ∧
      4294968 ≤ (1704294968 - 1700000000) % 2 ^ 32 ∧
      ∃ r, findSession (handleNewTicketTls13 1700000000 ⟨0, 0x12345678⟩) 1704294968 = some r ∧
        2 ^ 32 ≤ (1704294968 - 1700000000) * 1000 ∧
        r.obfuscatedTicketAge = .error ⟨"attempt to multiply with overflow"⟩ :=
  ⟨rfl, by decide, zeroLifetime_ticketAge_overflows 1700000000 1704294968 ⟨0, 0x12345678⟩ rfl (by decide)⟩

end TcplsBasics.Ports.Msgs.Persist
