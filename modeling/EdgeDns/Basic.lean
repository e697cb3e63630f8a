import Mathlib.Data.List.Basic
import Mathlib.Algebra.Group.Nat.Basic

/-!
# The data of the client queries handler

The values `client_queries_handler.rs` and `pending_query.rs` pass around, with the
fields the handler reads or writes and nothing else. Every collaborator outside the
two files – the codec, the cache, the jump hasher, the configuration – enters through
`EdgeDns.Env`, as the values the handler gets back from it.

Two kinds of numbers need care: the handler's counters are of these kinds, and what the
theorems say of the counters turns on how each kind overflows.

* `waiting_clients_count` is an `AtomicUsize`: `fetch_add` and `fetch_sub` wrap modulo
  `2 ^ 64` (`EdgeDns.usizeWrappingAdd`, `EdgeDns.usizeWrappingSub`), and whether a
  `fetch_sub` ever wraps is a theorem, not an assumption;
* `pending_queries_count` is a `u64` updated with `saturating_add` and
  `saturating_sub` (`EdgeDns.u64SaturatingAdd`, `EdgeDns.u64SaturatingSub`).

Some fields are *ghost*: the identity of a client query (its position in the stream of
arrivals) and of a pending entry (the channel it was created with). The program has
these identities as the objects themselves; the model names them, so that a claim about
"the same client" or "the same entry" can be stated.
-/

namespace EdgeDns

/-! ### Machine words -/

/-- `AtomicUsize::fetch_add` on a 64-bit target: the stored value after the addition. -/
def usizeWrappingAdd (a b : Nat) : Nat := (a + b) % 2 ^ 64

/-- `AtomicUsize::fetch_sub` on a 64-bit target: the stored value after the
subtraction, which wraps below zero. -/
def usizeWrappingSub (a b : Nat) : Nat := (a + 2 ^ 64 - b % 2 ^ 64) % 2 ^ 64

/-- `u64::saturating_add`. -/
def u64SaturatingAdd (a b : Nat) : Nat := min (a + b) (2 ^ 64 - 1)

/-- `u64::saturating_sub`: natural subtraction already stops at zero. -/
def u64SaturatingSub (a b : Nat) : Nat := a - b

/-- An addition that stays below `2 ^ 64` does not wrap. -/
theorem usizeWrappingAdd_of_lt {a b : Nat} (h : a + b < 2 ^ 64) : usizeWrappingAdd a b = a + b :=
  Nat.mod_eq_of_lt h

/-- A subtraction of at most the stored value does not wrap. -/
theorem usizeWrappingSub_of_le {a b : Nat} (ha : a < 2 ^ 64) (h : b ≤ a) :
    usizeWrappingSub a b = a - b := by
  unfold usizeWrappingSub
  omega

/-! ### Upstream servers -/

/-- A configured upstream server (`UpstreamServer`), with the fields the core touches. -/
structure UpstreamServer where
  /-- The address it is reached at, and its key in the registry. -/
  socketAddr : Nat
  /-- Attempts sent to it and not yet settled (`u64`, saturating). -/
  pendingQueriesCount : Nat
  /-- The consecutive failures `record_failure` has counted. -/
  failures : Nat
  /-- When a probe was last sent to it, if ever. -/
  lastProbeTs : Option Nat
deriving DecidableEq, Repr

/-- One candidate upstream of a client query (`UpstreamServerForQuery`). -/
structure UpstreamServerForQuery where
  /-- The address naming a server of the registry. -/
  socketAddr : Nat
deriving DecidableEq, Repr

/-! ### Questions, client queries and pending entries -/

/-- A normalized question. `key` is `normalized_question.key()`, the fingerprint the
codec computes; `qname` is what the jump hasher hashes. The two are independent here:
the codec lower-cases the name for the key and the hasher reads it as received. -/
structure NormalizedQuestion where
  /-- The fingerprint (`NormalizedQuestionKey`). -/
  key : Nat
  /-- The question name, as the jump hasher reads it. -/
  qname : Nat
  /-- The client's transaction id. -/
  tid : Nat
deriving DecidableEq, Repr

/-- A client query waiting for a response. -/
structure ClientQuery where
  /-- Which arrival it is: its position in the stream the handler consumes. Ghost. -/
  id : Nat
  /-- The question asked. -/
  normalizedQuestion : NormalizedQuestion
  /-- The upstreams this query may be routed to, indexed by server index. -/
  upstreamServersForQuery : List UpstreamServerForQuery
deriving DecidableEq, Repr

/-- The key of the pending table (`PendingQueryKey`). -/
structure PendingQueryKey where
  /-- The question's fingerprint. -/
  normalizedQuestionKey : Nat
  /-- Reserved for policy extensions; the handler always writes `(0, 0)`. -/
  customHash : Nat × Nat
deriving DecidableEq, Repr

/-- The table key of a question, as both `fut_process_client_query` and `fut_retry_query`
build it. -/
def NormalizedQuestion.pendingQueryKey (nq : NormalizedQuestion) : PendingQueryKey :=
  ⟨nq.key, (0, 0)⟩

/-- An outstanding upstream attempt shared by the client queries attached to it
(`PendingQuery`). -/
structure PendingQuery where
  /-- The attached client queries, in arrival order. -/
  clientQueries : List ClientQuery
  /-- The server index of the current attempt. -/
  upstreamServerIdx : Nat
  /-- The offline server probed alongside the first attempt, if any. -/
  probedSocketAddr : Option Nat
  /-- The sending half of the current attempt's completion channel, named by its channel. -/
  doneTx : Nat
  /-- Which entry this is: the channel it was created with. Ghost. -/
  inst : Nat
deriving DecidableEq, Repr

/-! ### The handler's collaborators -/

/-- `LoadBalancingMode`. -/
inductive LoadBalancingMode where
  /-- Always the first live server. -/
  | fallback
  /-- The jump-hash slot of the question name, one further on a retry. -/
  | uniform
  /-- One of the two least-loaded live servers, by transaction id parity. -/
  | p2
deriving DecidableEq, Repr

/-- The jump hasher. `slot key n` is `JumpHasher::slot(&key, n)`, with `n` the `u32` it is
called with; it answers a `u32`, and a slot below `n` when there is one. -/
structure JumpHasher where
  /-- `JumpHasher::slot`. -/
  slot : Nat → Nat → Nat
  /-- The slot is one of the `n` buckets. -/
  slot_lt : ∀ key n, 0 < n → slot key n < n
  /-- The slot is a `u32`. -/
  slot_lt_u32 : ∀ key n, slot key n < 2 ^ 32

/-- The configuration options the handler reads. -/
structure Config where
  /-- `max_waiting_clients`, a `usize`. -/
  maxWaitingClients : Nat
  /-- The option is a `usize`. -/
  maxWaitingClients_lt : maxWaitingClients < 2 ^ 64
  /-- `lbmode`. -/
  lbmode : LoadBalancingMode
  /-- The number of consecutive failures at which `record_failure` takes a server
  offline. -/
  upstreamMaxFailures : Nat

/-- Everything the handler consults and does not own: the configuration, the jump
hasher, the cache, the SERVFAIL builder and the probe spacing. -/
structure Env where
  /-- The configuration. -/
  config : Config
  /-- The handler's jump hasher. -/
  jumphasher : JumpHasher
  /-- `cache.get2`: the packet of a cached entry for the question, expired or not. -/
  cache : NormalizedQuestion → Option Nat
  /-- `dns::build_servfail_packet`: a SERVFAIL packet, or none when the codec fails. -/
  buildServfailPacket : NormalizedQuestion → Option Nat
  /-- `UPSTREAM_PROBES_DELAY_MS`. -/
  upstreamProbesDelayMs : Nat

/-! ### What the handler does to the outside world

These are ghost records of the model's runs: the responses the core produces, the
clients it abandons and the packets it sends. -/

/-- The response the core produces for a client it cannot serve from upstream. -/
inductive Reply where
  /-- A stale cache entry's packet. -/
  | stale (packet : Nat)
  /-- A synthesized SERVFAIL packet. -/
  | servfail (packet : Nat)
  /-- The SERVFAIL could not be built: the client is dropped silently. -/
  | dropped
deriving DecidableEq, Repr

/-- Why a client query was abandoned without a response. -/
inductive Abandon where
  /-- `cap_pending_queries` evicted its entry. -/
  | evicted
  /-- The backend chosen for it is not in the registry. -/
  | notConfigured
deriving DecidableEq, Repr

/-- A packet sent upstream. -/
inductive Send where
  /-- The first attempt of the entry `inst`, sent by `fut_process_client_query`. -/
  | primary (inst addr : Nat)
  /-- A retry of the entry `inst`, sent by `fut_retry_query`. -/
  | retry (inst addr : Nat)
  /-- A probe to a server, sent by `maybe_send_probe_to_offline_servers`. -/
  | probe (addr : Nat)
deriving DecidableEq, Repr

end EdgeDns
