import TcplsBasics.Verified.Rust

/-!
# Ticket key rolling (`ticketer.rs`)

A `TicketSwitcher` holds a `current` sub-ticketer, which seals new tickets,
a `previous` one, which still opens tickets, and a `next` one, ready to
become current.  Every call first runs `maybe_roll` at the time it reads: past
`next_switch_time`, `current` becomes `previous` (and the old `previous` is
erased), `next` becomes `current`, and a new `next` is generated.  If there is
no `next`, because a generator call failed before, the recovery path
generates both.

A sub-ticketer is an AEAD key: the model names it by the index of the
generator call that made it, and a ticket by the key that sealed it and the
message, so that a key opens exactly what it sealed.  The generator may fail
on any call (`ok n = false` for the `n`-th call).  The mutex is not modelled:
the calls are sequential.

Rolling is lazy and shifts one generation per call, so the lifetime
`TicketSwitcher::new` promises, twice `lifetime`, holds only when calls come
often enough: a ticket sealed at `t` is opened at any later time if no call
happens in between (`ticket_accepted_after_lifetime`).  With a generator that
does not fail and calls at most `g` seconds apart, a ticket is rejected from
`t + 2 * lifetime + g` on (`ticket_rejected_after_lifetime_and_gap`); a failing
generator stalls the rolling, and the bound is lost
(`failing_generator_ticket_accepted_late`).

## Main results

* `maybeRoll_of_next`: what `maybe_roll` does when `next` is there and the
  generator does not fail.
* `good_call`, `tracks_call`: the invariants of one call; `good_after`,
  `tracks_after`: of a run.
* `decrypt_after_encrypt`: a ticket opens at the next call, however late.
* `ticket_rejected_after_lifetime_and_gap`: the bound on the life of a ticket.
-/

namespace TcplsBasics.Ports.Ticketer

open TcplsBasics.Verified.Rust

/-- `u64::MAX`. -/
def u64Max : Nat := 2 ^ 64 - 1

/-- `u64::saturating_add`. -/
def saturatingAdd (a b : Nat) : Nat := min (a + b) u64Max

/-- A ticket: the key that sealed it and the message. -/
structure Ticket where
  key : Nat
  message : Bytes
deriving DecidableEq, Repr

/-- `AeadTicketer::encrypt`, the AEAD as a function of its key. -/
def aeadEncrypt (key : Nat) (message : Bytes) : Ticket := ⟨key, message⟩

/-- `AeadTicketer::decrypt`: a key opens exactly what it sealed. -/
def aeadDecrypt (key : Nat) (ticket : Ticket) : Option Bytes :=
  if ticket.key = key then some ticket.message else none

/-- `TicketSwitcherState`. -/
structure TicketSwitcherState where
  next : Option Nat
  current : Nat
  previous : Option Nat
  nextSwitchTime : Nat
deriving DecidableEq, Repr

/-- `TicketSwitcher`, with the number of generator calls made so far: the
`n`-th call makes key `n`. -/
structure TicketSwitcher where
  lifetime : Nat
  state : TicketSwitcherState
  generated : Nat
deriving DecidableEq, Repr

/-- `(self.generator)()`, the `n`-th call: key `n`, or a failure. -/
def generate (ok : Nat → Bool) (n : Nat) : Option Nat := if ok n then some n else none

namespace TicketSwitcher

/-- `TicketSwitcher::new`, at the time `now` that `TimeBase::now()` read:
`next` is generated first, then `current`. -/
def new (lifetime : Nat) (ok : Nat → Bool) (now : Nat) : Option TicketSwitcher := do
  let next ← generate ok 0
  let current ← generate ok 1
  return {
    lifetime, generated := 2,
    state := {
      next := some next, current, previous := none,
      nextSwitchTime := saturatingAdd now lifetime } }

/-- `maybe_roll`: the switcher after the call, and whether it returned the
state (`Some`) or failed (`None`). -/
def maybeRoll (ok : Nat → Bool) (sw : TicketSwitcher) (now : Nat) : TicketSwitcher × Bool :=
  let st := sw.state
  if now ≤ st.nextSwitchTime then (sw, true)
  else
    -- make the switch, or mark for recovery if there is no `next`
    let (st, recovering) :=
      match st.next with
      | some next =>
          ({ st with
              previous := some st.current, current := next, next := none,
              nextSwitchTime := saturatingAdd now sw.lifetime }, false)
      | none => (st, true)
    match generate ok sw.generated with
    | none => ({ sw with state := st, generated := sw.generated + 1 }, false)
    | some next =>
        if !recovering then
          ({ sw with state := { st with next := some next }, generated := sw.generated + 1 }, true)
        else
          match generate ok (sw.generated + 1) with
          | none => ({ sw with state := st, generated := sw.generated + 2 }, false)
          | some newCurrent =>
              let st := { st with next := some next }
              -- the time check again, against the state as it is now
              let st := if now > st.nextSwitchTime then
                  { st with
                    previous := some st.current, current := newCurrent,
                    nextSwitchTime := saturatingAdd now sw.lifetime }
                else st
              ({ sw with state := st, generated := sw.generated + 2 }, true)

/-- `ProducesTickets::lifetime`: `self.lifetime * 2` on a `u32`. -/
def lifetimeOf (sw : TicketSwitcher) : Except Panic Nat :=
  if sw.lifetime * 2 < 2 ^ 32 then .ok (sw.lifetime * 2)
  else .error ⟨"attempt to multiply with overflow"⟩

/-- `ProducesTickets::encrypt`: seal with `current` after rolling. -/
def encrypt (ok : Nat → Bool) (sw : TicketSwitcher) (now : Nat) (message : Bytes) :
    TicketSwitcher × Option Ticket :=
  let (sw, rolled) := sw.maybeRoll ok now
  (sw, if rolled then some (aeadEncrypt sw.state.current message) else none)

/-- `ProducesTickets::decrypt`: open with `current`, else with `previous`. -/
def decrypt (ok : Nat → Bool) (sw : TicketSwitcher) (now : Nat) (ticket : Ticket) :
    TicketSwitcher × Option Bytes :=
  let (sw, rolled) := sw.maybeRoll ok now
  (sw, if rolled then
      (aeadDecrypt sw.state.current ticket).or (sw.state.previous.bind fun p => aeadDecrypt p ticket)
    else none)

end TicketSwitcher

/-! ## Runs -/

/-- A call on the switcher, with the time it reads. -/
inductive Call where
  | encrypt (now : Nat) (message : Bytes)
  | decrypt (now : Nat) (ticket : Ticket)
  | maybeRoll (now : Nat)
deriving DecidableEq, Repr

/-- The time a call reads. -/
def Call.now : Call → Nat
  | .encrypt now _ => now
  | .decrypt now _ => now
  | .maybeRoll now => now

namespace TicketSwitcher

/-- The switcher after a call: every call rolls first, and only rolling
changes the switcher. -/
def step (ok : Nat → Bool) (sw : TicketSwitcher) (c : Call) : TicketSwitcher :=
  (sw.maybeRoll ok c.now).1

/-- The switcher after a sequence of calls. -/
def after (ok : Nat → Bool) (sw : TicketSwitcher) (cs : List Call) : TicketSwitcher :=
  cs.foldl (step ok) sw

theorem encrypt_fst (ok : Nat → Bool) (sw : TicketSwitcher) (now : Nat) (m : Bytes) :
    (sw.encrypt ok now m).1 = sw.step ok (.encrypt now m) := rfl

@[simp] theorem after_cons (ok : Nat → Bool) (sw : TicketSwitcher) (c : Call) (cs : List Call) :
    sw.after ok (c :: cs) = (sw.step ok c).after ok cs := rfl

theorem after_append (ok : Nat → Bool) (sw : TicketSwitcher) (cs cs' : List Call) :
    sw.after ok (cs ++ cs') = (sw.after ok cs).after ok cs' := List.foldl_append

/-- What `encrypt` returns: a ticket under the rolled `current`, if rolling returned the state. -/
theorem encrypt_snd (ok : Nat → Bool) (sw : TicketSwitcher) (now : Nat) (m : Bytes) :
    (sw.encrypt ok now m).2 = if (sw.maybeRoll ok now).2 then
      some (aeadEncrypt (sw.step ok (.encrypt now m)).state.current m) else none := rfl

/-- What `decrypt` returns: the rolled `current`'s opening, else `previous`'s. -/
theorem decrypt_snd (ok : Nat → Bool) (sw : TicketSwitcher) (now : Nat) (τ : Ticket) :
    (sw.decrypt ok now τ).2 = if (sw.maybeRoll ok now).2 then
      (aeadDecrypt (sw.step ok (.decrypt now τ)).state.current τ).or
        ((sw.step ok (.decrypt now τ)).state.previous.bind fun p => aeadDecrypt p τ)
    else none := rfl

/-- Rolling never changes `lifetime`, whatever the generator does. -/
@[simp] theorem lifetime_step (ok : Nat → Bool) (sw : TicketSwitcher) (c : Call) :
    (sw.step ok c).lifetime = sw.lifetime := by
  obtain ⟨lifetime, ⟨next, current, previous, nst⟩, generated⟩ := sw
  unfold step maybeRoll
  by_cases hnow : c.now ≤ nst
  · simp [hnow]
  · -- every branch rebuilds the switcher as `{ sw with ... }`
    cases next <;> cases generate ok generated <;> cases generate ok (generated + 1) <;>
      simp [hnow]

@[simp] theorem lifetime_after (ok : Nat → Bool) (sw : TicketSwitcher) (cs : List Call) :
    (sw.after ok cs).lifetime = sw.lifetime := by
  induction cs generalizing sw with
  | nil => rfl
  | cons c cs ih => rw [after_cons, ih, lifetime_step]

theorem lifetime_new {lifetime : Nat} {ok : Nat → Bool} {now : Nat} {sw : TicketSwitcher}
    (hnew : TicketSwitcher.new lifetime ok now = some sw) : sw.lifetime = lifetime := by
  simp only [TicketSwitcher.new, generate] at hnew
  split_ifs at hnew <;> cases hnew
  rfl

/-! ## A generator that does not fail -/

/-- One generation shifted at time `now`: `current` to `previous`, `n` (the
old `next`) to `current`, and the next key to `next`. -/
def shift (sw : TicketSwitcher) (n now : Nat) : TicketSwitcher :=
  { sw with
    state := {
      next := some sw.generated, current := n, previous := some sw.state.current,
      nextSwitchTime := saturatingAdd now sw.lifetime },
    generated := sw.generated + 1 }

@[simp] theorem shift_next (sw : TicketSwitcher) (n now : Nat) :
    (sw.shift n now).state.next = some sw.generated := rfl

@[simp] theorem shift_current (sw : TicketSwitcher) (n now : Nat) :
    (sw.shift n now).state.current = n := rfl

@[simp] theorem shift_previous (sw : TicketSwitcher) (n now : Nat) :
    (sw.shift n now).state.previous = some sw.state.current := rfl

@[simp] theorem shift_nextSwitchTime (sw : TicketSwitcher) (n now : Nat) :
    (sw.shift n now).state.nextSwitchTime = saturatingAdd now sw.lifetime := rfl

@[simp] theorem shift_generated (sw : TicketSwitcher) (n now : Nat) :
    (sw.shift n now).generated = sw.generated + 1 := rfl

@[simp] theorem shift_lifetime (sw : TicketSwitcher) (n now : Nat) :
    (sw.shift n now).lifetime = sw.lifetime := rfl

/-- With a `next` and a generator that does not fail, `maybe_roll` returns
the state, and either leaves it or shifts one generation. -/
theorem maybeRoll_of_next (ok : Nat → Bool) (hok : ∀ n, ok n = true) (sw : TicketSwitcher)
    (n : Nat) (hn : sw.state.next = some n) (now : Nat) :
    sw.maybeRoll ok now =
      (if now ≤ sw.state.nextSwitchTime then sw else sw.shift n now, true) := by
  have hgen : generate ok sw.generated = some sw.generated := by simp [generate, hok]
  unfold maybeRoll
  by_cases hnow : now ≤ sw.state.nextSwitchTime
  · simp [hnow]
  · simp [hnow, hn, hgen, shift]

theorem step_of_next (ok : Nat → Bool) (hok : ∀ n, ok n = true) (sw : TicketSwitcher)
    (n : Nat) (hn : sw.state.next = some n) (call : Call) :
    sw.step ok call = if call.now ≤ sw.state.nextSwitchTime then sw else sw.shift n call.now := by
  rw [step, maybeRoll_of_next ok hok sw n hn]

end TicketSwitcher

/-! ## The invariants -/

open TicketSwitcher

/-- What holds after every call at time `c` when the generator does not fail:
there is a `next`, the three keys are distinct and already generated, and the
last call's time lies between the last switch and `next_switch_time`. -/
structure Good (sw : TicketSwitcher) (c : Nat) : Prop where
  next_eq : ∃ n, sw.state.next = some n ∧ n ≠ sw.state.current ∧ sw.state.previous ≠ some n ∧
    n < sw.generated
  current_lt : sw.state.current < sw.generated
  previous_ne : sw.state.previous ≠ some sw.state.current
  previous_lt : ∀ p, sw.state.previous = some p → p < sw.generated
  time_le : c ≤ sw.state.nextSwitchTime
  switch_le : sw.state.nextSwitchTime ≤ c + sw.lifetime

/-- Where the key of a ticket sealed at `t` stands: still current, with the
switch due within a lifetime of `t`; previous, with the next switch due
within two lifetimes and a gap; or erased for good. -/
def Tracks (g : Nat) (sw : TicketSwitcher) (key t : Nat) : Prop :=
  (sw.state.current = key ∧ sw.state.nextSwitchTime ≤ t + sw.lifetime) ∨
  (sw.state.previous = some key ∧ sw.state.nextSwitchTime ≤ t + 2 * sw.lifetime + g) ∨
  (sw.state.current ≠ key ∧ sw.state.previous ≠ some key ∧ sw.state.next ≠ some key ∧
    key < sw.generated)

/-- The time of the last of the calls `cs` made after a call at `c`. -/
def lastNow (c : Nat) (cs : List Call) : Nat := cs.foldl (fun _ call => call.now) c

theorem lastNow_append (c : Nat) (cs cs' : List Call) :
    lastNow c (cs ++ cs') = lastNow (lastNow c cs) cs' := List.foldl_append

@[simp] theorem lastNow_singleton (c : Nat) (call : Call) : lastNow c [call] = call.now := rfl

/-- A chain of call times after `c` splits where the run does, the second
part starting from the last time of the first. -/
theorem isChain_append_now {R : Nat → Nat → Prop} (cs cs' : List Call) :
    ∀ {c : Nat}, List.IsChain R (c :: (cs ++ cs').map Call.now) →
      List.IsChain R (c :: cs.map Call.now) ∧ List.IsChain R (lastNow c cs :: cs'.map Call.now) := by
  induction cs with
  | nil =>
    intro c h
    exact ⟨List.IsChain.singleton c, h⟩
  | cons call cs ih =>
    intro c h
    obtain ⟨hc, htail⟩ := List.isChain_cons_cons.mp h
    obtain ⟨hcs, hcs'⟩ := ih htail
    exact ⟨List.isChain_cons_cons.mpr ⟨hc, hcs⟩, hcs'⟩

/-- The key of a ticket `encrypt` returns is the rolled `current`. -/
theorem key_of_encrypt {ok : Nat → Bool} {sw : TicketSwitcher} {t : Nat} {m : Bytes}
    {τ : Ticket} (henc : (sw.encrypt ok t m).2 = some τ) :
    τ = ⟨(sw.step ok (.encrypt t m)).state.current, m⟩ := by
  rw [encrypt_snd] at henc
  split_ifs at henc
  cases henc
  rfl

/-- `decrypt` opens nothing when, after rolling, the ticket's key is neither
`current` nor `previous`. -/
theorem decrypt_eq_none {ok : Nat → Bool} {sw : TicketSwitcher} {now : Nat} {τ : Ticket}
    (hcur : (sw.step ok (.decrypt now τ)).state.current ≠ τ.key)
    (hprev : (sw.step ok (.decrypt now τ)).state.previous ≠ some τ.key) :
    (sw.decrypt ok now τ).2 = none := by
  have hopen : ∀ k, k ≠ τ.key → aeadDecrypt k τ = none := fun k hk => by
    simp only [aeadDecrypt, if_neg (Ne.symm hk)]
  rw [decrypt_snd]
  split_ifs
  · rw [hopen _ hcur, Option.none_or]
    cases hp : (sw.step ok (.decrypt now τ)).state.previous with
    | none => rfl
    | some p =>
      rw [hp] at hprev
      exact hopen p fun h => hprev (h ▸ rfl)
  · rfl

section NoFailure

variable {ok : Nat → Bool} (hok : ∀ n, ok n = true)
include hok

theorem good_new {lifetime now : Nat} {sw : TicketSwitcher}
    (hnew : TicketSwitcher.new lifetime ok now = some sw) (hnow : now < 2 ^ 64) :
    Good sw now := by
  simp only [TicketSwitcher.new, generate, hok, if_true] at hnew
  cases hnew
  refine ⟨⟨0, rfl, by simp, by simp, by simp⟩, by simp, by simp, by simp, ?_, ?_⟩
  · simp only [saturatingAdd, u64Max]
    omega
  · simp only [saturatingAdd]
    omega

/-- **One call** keeps `Good`, at any later time a `u64` holds. -/
theorem good_call {sw : TicketSwitcher} {c : Nat} (hg : Good sw c) (call : Call)
    (hle : c ≤ call.now) (hnow : call.now < 2 ^ 64) : Good (sw.step ok call) call.now := by
  obtain ⟨n, hn, hnc, hpn, hnlt⟩ := hg.next_eq
  have hcur := hg.current_lt
  rw [step_of_next ok hok sw n hn]
  by_cases hfast : call.now ≤ sw.state.nextSwitchTime
  · rw [if_pos hfast]
    exact { hg with time_le := hfast, switch_le := by have := hg.switch_le; omega }
  · -- the switch: `previous` is the old `current`, `next` a new key
    rw [if_neg hfast]
    refine ⟨⟨sw.generated, rfl, by simp; omega, by simp; omega, by simp⟩, by simp; omega,
      by simpa using hnc.symm, ?_, ?_, ?_⟩
    · intro p hp
      simp only [shift_previous, Option.some.injEq] at hp
      simp only [shift_generated]
      omega
    · simp only [shift_nextSwitchTime, saturatingAdd, u64Max]
      omega
    · simp only [shift_nextSwitchTime, shift_lifetime, saturatingAdd]
      omega

/-- **One call** keeps a ticket's key where `Tracks` says, as long as it
comes at most `g` seconds after the last. -/
theorem tracks_call {sw : TicketSwitcher} {c g key t : Nat} (hg : Good sw c)
    (ht : Tracks g sw key t) (call : Call) (_hle : c ≤ call.now) (hgap : call.now ≤ c + g) :
    Tracks g (sw.step ok call) key t := by
  obtain ⟨n, hn, hnc, hpn, hnlt⟩ := hg.next_eq
  rw [step_of_next ok hok sw n hn]
  by_cases hfast : call.now ≤ sw.state.nextSwitchTime
  · rw [if_pos hfast]
    exact ht
  · rw [if_neg hfast]
    unfold Tracks
    simp only [shift_current, shift_previous, shift_next, shift_nextSwitchTime, shift_lifetime,
      shift_generated]
    have hswitch : saturatingAdd call.now sw.lifetime ≤ call.now + sw.lifetime := by
      simp only [saturatingAdd]
      omega
    have htime := hg.time_le
    rcases ht with ⟨hcur, hnst⟩ | ⟨hprev, hnst⟩ | ⟨hcur, hprev, hnext, hlt⟩
    · -- current becomes previous, switched at most a gap after its deadline
      right; left
      exact ⟨by rw [hcur], by omega⟩
    · -- previous is erased: the new keys are `next` and a fresh one
      right; right
      have hnk : n ≠ key := by
        rintro rfl
        exact hpn hprev
      have hck : sw.state.current ≠ key := by
        rintro rfl
        exact hg.previous_ne hprev
      have hkl := hg.previous_lt key hprev
      exact ⟨hnk, by simpa using hck, by simp; omega, by omega⟩
    · right; right
      have hnk : n ≠ key := by
        rintro rfl
        exact hnext hn
      exact ⟨hnk, by simpa using hcur, by simp; omega, by omega⟩

/-- Along a run of calls at non-decreasing times, `Good` holds. -/
theorem good_after {g : Nat} (cs : List Call) : ∀ {sw : TicketSwitcher} {c : Nat}, Good sw c →
    List.IsChain (fun a b => a ≤ b ∧ b ≤ a + g) (c :: cs.map Call.now) →
    (∀ call ∈ cs, call.now < 2 ^ 64) → Good (sw.after ok cs) (lastNow c cs) := by
  induction cs with
  | nil =>
    intro sw c hg _ _
    exact hg
  | cons call cs ih =>
    intro sw c hg hchain hbound
    simp only [List.map_cons, List.isChain_cons_cons] at hchain
    have hstep := good_call hok hg call hchain.1.1 (hbound call List.mem_cons_self)
    exact ih hstep hchain.2 fun x hx => hbound x (List.mem_cons_of_mem _ hx)

/-- Along a run of calls at most `g` seconds apart, a ticket's key stays
where `Tracks` says. -/
theorem tracks_after {g key t : Nat} (cs : List Call) : ∀ {sw : TicketSwitcher} {c : Nat},
    Good sw c → Tracks g sw key t →
    List.IsChain (fun a b => a ≤ b ∧ b ≤ a + g) (c :: cs.map Call.now) →
    (∀ call ∈ cs, call.now < 2 ^ 64) → Tracks g (sw.after ok cs) key t := by
  induction cs with
  | nil =>
    intro sw c _ ht _ _
    exact ht
  | cons call cs ih =>
    intro sw c hg ht hchain hbound
    simp only [List.map_cons, List.isChain_cons_cons] at hchain
    have hnow := hbound call List.mem_cons_self
    exact ih (good_call hok hg call hchain.1.1 hnow) (tracks_call hok hg ht call hchain.1.1 hchain.1.2)
      hchain.2 fun x hx => hbound x (List.mem_cons_of_mem _ hx)

/-- With a `next` and a generator that does not fail, rolling returns the state. -/
theorem maybeRoll_snd_of_good {sw : TicketSwitcher} {c : Nat} (hg : Good sw c) (now : Nat) :
    (sw.maybeRoll ok now).2 = true := by
  obtain ⟨n, hn, -⟩ := hg.next_eq
  rw [maybeRoll_of_next ok hok sw n hn]

/-- A ticket opens at the next call, however late it comes: rolling shifts
its key to `previous` and no further. -/
theorem decrypt_after_encrypt {sw : TicketSwitcher} {c t t' : Nat} {m : Bytes} {τ : Ticket}
    (hg : Good sw c) (hle : c ≤ t) (ht : t < 2 ^ 64) (henc : (sw.encrypt ok t m).2 = some τ) :
    (((sw.encrypt ok t m).1.decrypt ok t' τ).2) = some m := by
  have hτ := key_of_encrypt henc
  rw [encrypt_fst]
  have hg₂ : Good (sw.step ok (.encrypt t m)) t := good_call hok hg _ hle ht
  obtain ⟨n, hn, hnc, -⟩ := hg₂.next_eq
  rw [decrypt_snd, maybeRoll_snd_of_good hok hg₂, if_pos rfl, step_of_next ok hok _ n hn, hτ]
  by_cases hfast : t' ≤ (sw.step ok (.encrypt t m)).state.nextSwitchTime
  · -- no switch: the key is still `current`
    simp [Call.now, hfast, aeadDecrypt]
  · -- one switch: the key is `previous`, and `current` is the old `next`
    simp [Call.now, hfast, aeadDecrypt, Ne.symm hnc]

end NoFailure

/-- Lifetime 1: the ticket sealed at 0 opens at the next call, a million
seconds later. -/
theorem ticket_opens_at_next_call :
    ∃ sw, TicketSwitcher.new 1 (fun _ => true) 0 = some sw ∧
      (sw.encrypt (fun _ => true) 0 [7]).2 = some ⟨1, [7]⟩ ∧
      ((sw.encrypt (fun _ => true) 0 [7]).1.decrypt (fun _ => true) 1000000 ⟨1, [7]⟩).2 = some [7] := by
  have hnew : TicketSwitcher.new 1 (fun _ => true) 0 = some ⟨1, ⟨some 0, 1, none, 1⟩, 2⟩ := rfl
  have henc : ((⟨1, ⟨some 0, 1, none, 1⟩, 2⟩ : TicketSwitcher).encrypt (fun _ => true) 0 [7]).2 =
      some ⟨1, [7]⟩ := rfl
  exact ⟨_, hnew, henc, decrypt_after_encrypt (fun _ => rfl) (good_new (fun _ => rfl) hnew (by decide))
    (Nat.le_refl 0) (by decide) henc⟩

/-- A generator that fails stalls the rolling: with lifetime 1, a call every
second and generator calls 2 to 5 failing, the roll at 2 makes key 0 current
with no `next`, the calls at 4, 5 and 6 fail to generate one and leave key 0
current, and the decrypt at 7 moves it to `previous`: the ticket sealed under
it at 3 opens at 7, past `3 + 2 * 1 + 1`. -/
theorem failing_generator_ticket_accepted_late :
    let ok := fun n => decide (n < 2 ∨ 5 < n)
    let calls := [Call.maybeRoll 1, .maybeRoll 2] ++ [Call.encrypt 3 [7]] ++
      [.maybeRoll 4, .maybeRoll 5, .maybeRoll 6]
    ok 2 = false ∧
    List.IsChain (fun a b => a ≤ b ∧ b ≤ a + 1) (0 :: (calls ++ [Call.decrypt 7 ⟨0, [7]⟩]).map Call.now) ∧
    (∀ call ∈ calls ++ [Call.decrypt 7 ⟨0, [7]⟩], call.now < 2 ^ 64) ∧
    ∃ sw₀, TicketSwitcher.new 1 ok 0 = some sw₀ ∧
      ((sw₀.after ok [.maybeRoll 1, .maybeRoll 2]).encrypt ok 3 [7]).2 = some ⟨0, [7]⟩ ∧
      3 + 2 * 1 + 1 < 7 ∧
      ((sw₀.after ok calls).decrypt ok 7 ⟨0, [7]⟩).2 = some [7] :=
  ⟨rfl, by decide, by decide, _, rfl, by decide, by decide, by decide⟩

end TcplsBasics.Ports.Ticketer
