import SessionChat.Storage.Outbox

/-!
# The port of an outbox owner (`crates/session-transport/src/outbox_port.rs`)

What the delivery coordinator sees of the store that owns the Welcomes: a lease with
the exact bytes it covers, and one report for each lease. A port is a record of
functions on the owner's state; the lease type is the owner's own.
-/

set_option autoImplicit false

namespace SessionChat.Transport

open Storage

/-- One owner-store lease and its delivery material. -/
structure LeasedWelcome (L : Type) where
  lease : L
  welcomeEnvelope : Bytes
  depositEndpoint : Bytes
  outboxExpiresAtUnixSeconds : Nat
deriving DecidableEq

/-- The delivery material without the lease. -/
def LeasedWelcome.material {L : Type} (w : LeasedWelcome L) : Bytes × Bytes × Nat :=
  (w.welcomeEnvelope, w.depositEndpoint, w.outboxExpiresAtUnixSeconds)

/-- Sole-owner port consumed by the deposit-only coordinator. -/
structure WelcomeOutboxPort (σ L : Type) where
  /-- Leases the next exact eligible Welcome, or reports that no work exists. -/
  leaseNext : σ → Nat → Nat → Except OutboxPortError (Option (LeasedWelcome L)) × σ
  /-- Records adapter acceptance. -/
  reportAccepted : σ → L → Nat → Except OutboxPortError Unit × σ
  /-- Releases one failed exact lease. -/
  reportFailed : σ → L → Except OutboxPortError Unit × σ

end SessionChat.Transport
