import EdgeDns.Registry
import Mathlib.Data.List.Sort

/-!
# The load balancer

`pick_upstream` as the source computes it. The source reads `upstream_servers_live`,
which is not in scope in that method; the model passes the live list in, as the
registry's `EdgeDns.Registry.live`, which is what the spec (§9) asks an implementer to
do. `new_pending_query` wraps the choice: it also builds the query packet and draws an
outbound socket, and the model leaves both out, since neither reaches the state the
handler keeps.

The three policies index three lists, and every one of those indexings is in bounds by
construction – each is written with the fact that makes it so:

* `upstream_servers_live[0]` and `upstream_servers_live[i]`: the list is not empty, and
  the Uniform slot is below its length (`EdgeDns.uniformSlot_lt`), from the jump hasher's
  range and its `u32` result even when `live_count as u32` wraps;
* `upstream_servers[i]` in the P2 branch: a live index names a configured server
  (`EdgeDns.Registry.live_lt`);
* `busy_map[i]`: the sorted map is as long as the live list, and the P2 position is `0`
  for one server and below `2` otherwise (`EdgeDns.p2Slot_lt`).

What the handler needs of the choice is `EdgeDns.pickUpstream_spec`: an error exactly
when the live list is empty, and otherwise a live index.
-/

namespace EdgeDns

/-! ### The three positions -/

/-- The Uniform position: the jump-hash slot of the name over `live_count as u32`
buckets, one further round the live list on a retry. -/
def uniformSlot (jh : JumpHasher) (qname n : Nat) (isRetry : Bool) : Nat :=
  if isRetry then (jh.slot qname (n % 2 ^ 32) + 1) % n else jh.slot qname (n % 2 ^ 32)

/-- The Uniform position is a position of the live list. -/
theorem uniformSlot_lt (jh : JumpHasher) (qname : Nat) {n : Nat} (isRetry : Bool) (hn : 0 < n) :
    uniformSlot jh qname n isRetry < n := by
  unfold uniformSlot
  split
  · exact Nat.mod_lt _ hn
  · by_cases h : n < 2 ^ 32
    · have := jh.slot_lt qname (n % 2 ^ 32) (by omega)
      omega
    · have := jh.slot_lt_u32 qname (n % 2 ^ 32)
      omega

/-- `busy_map`: every live index with its server's pending count, in live-list order. -/
def busyMap (r : Registry) : List (Nat × Nat) :=
  r.live.attach.map fun i => (i.1, (r.servers.get ⟨i.1, r.live_lt i.1 i.2⟩).pendingQueriesCount)

/-- `busy_map.sort_by_key(|x| x.1)`. Rust's sort is stable, and a stable sort by a key has
only one possible result; the one written here is insertion sort. -/
def sortByKey (m : List (Nat × Nat)) : List (Nat × Nat) :=
  m.insertionSort fun a b => a.2 ≤ b.2

/-- The P2 position within the sorted map: the only entry, or the parity of the
transaction id, flipped on a retry. -/
def p2Slot (tid : Nat) (isRetry : Bool) (len : Nat) : Nat :=
  if len = 1 then 0 else (tid + (isRetry.toNat &&& 1)) &&& 1

/-- The P2 position is a position of the sorted map. -/
theorem p2Slot_lt (tid : Nat) (isRetry : Bool) {len : Nat} (h : 0 < len) :
    p2Slot tid isRetry len < len := by
  unfold p2Slot
  split
  · omega
  · rw [Nat.and_one_is_mod]
    omega

@[simp] theorem map_fst_busyMap (r : Registry) : (busyMap r).map Prod.fst = r.live := by
  simp [busyMap]

theorem length_sortByKey_busyMap (r : Registry) : (sortByKey (busyMap r)).length = r.live.length := by
  unfold sortByKey
  rw [(List.perm_insertionSort _ _).length_eq, ← map_fst_busyMap, List.length_map]

/-! ### The choice -/

/-- `NormalizedQuestion::pick_upstream`, with the live list read from the registry. -/
def pickUpstream (nq : NormalizedQuestion) (r : Registry) (jh : JumpHasher) (isRetry : Bool)
    (lbmode : LoadBalancingMode) : Except String Nat :=
  if h : r.live.length = 0 then .error "All upstream servers are down" else
  match lbmode with
  | .fallback => .ok (r.live.get ⟨0, Nat.pos_of_ne_zero h⟩)
  | .uniform =>
    .ok (r.live.get ⟨uniformSlot jh nq.qname r.live.length isRetry,
      uniformSlot_lt jh nq.qname isRetry (Nat.pos_of_ne_zero h)⟩)
  | .p2 =>
    .ok ((sortByKey (busyMap r)).get ⟨p2Slot nq.tid isRetry (sortByKey (busyMap r)).length,
      p2Slot_lt _ _ (by rw [length_sortByKey_busyMap]; omega)⟩).1

/-- `NormalizedQuestion::new_pending_query`: the server index of a new attempt. The query
packet and the outbound socket it also returns are left out. -/
def newPendingQuery (env : Env) (r : Registry) (nq : NormalizedQuestion) (isRetry : Bool) :
    Except String Nat :=
  pickUpstream nq r env.jumphasher isRetry env.config.lbmode

/-- An entry of the sorted P2 map names a live server. -/
theorem mem_live_of_mem_sortByKey {r : Registry} {x : Nat × Nat}
    (h : x ∈ sortByKey (busyMap r)) : x.1 ∈ r.live := by
  rw [← map_fst_busyMap]
  exact List.mem_map_of_mem _ ((List.perm_insertionSort _ _).subset h)

/-- **The choice fails exactly when no server is live, and otherwise names a live
server.** -/
theorem pickUpstream_spec (nq : NormalizedQuestion) (r : Registry) (jh : JumpHasher)
    (isRetry : Bool) (lbmode : LoadBalancingMode) :
    (r.live = [] ∧ pickUpstream nq r jh isRetry lbmode = .error "All upstream servers are down") ∨
      (r.live ≠ [] ∧ ∃ i ∈ r.live, pickUpstream nq r jh isRetry lbmode = .ok i) := by
  by_cases h : r.live.length = 0
  · exact .inl ⟨List.length_eq_zero.mp h, by simp [pickUpstream, h]⟩
  · refine .inr ⟨fun he => h (by simp [he]), ?_⟩
    simp only [pickUpstream, h, dite_false]
    cases lbmode
    · exact ⟨_, List.get_mem _ _ _, rfl⟩
    · exact ⟨_, List.get_mem _ _ _, rfl⟩
    · exact ⟨_, mem_live_of_mem_sortByKey (List.get_mem _ _ _), rfl⟩

theorem pickUpstream_mem {nq : NormalizedQuestion} {r : Registry} {jh : JumpHasher}
    {isRetry : Bool} {lbmode : LoadBalancingMode} {i : Nat}
    (h : pickUpstream nq r jh isRetry lbmode = .ok i) : i ∈ r.live := by
  rcases pickUpstream_spec nq r jh isRetry lbmode with ⟨-, he⟩ | ⟨-, j, hj, he⟩
  · rw [he] at h
    cases h
  · rw [he] at h
    cases h
    exact hj

/-- The server index of a new attempt names a configured server. -/
theorem newPendingQuery_lt {env : Env} {r : Registry} {nq : NormalizedQuestion} {isRetry : Bool}
    {i : Nat} (h : newPendingQuery env r nq isRetry = .ok i) : i < r.servers.length :=
  r.live_lt i (pickUpstream_mem h)

/-- One step round a list of two or more positions leaves the position. -/
theorem succ_mod_ne_self {a n : Nat} (ha : a < n) (hn : 2 ≤ n) : (a + 1) % n ≠ a := by
  rcases Nat.lt_or_ge (a + 1) n with h | h
  · rw [Nat.mod_eq_of_lt h]
    omega
  · rw [show a + 1 = n by omega, Nat.mod_self]
    omega

/-- **A Uniform retry leaves the first attempt's server**: over one live list of at least
two servers, the retry's position is the first attempt's plus one, round the list, and
the list has no repeated server. -/
theorem pickUpstream_uniform_retry_ne {nq : NormalizedQuestion} {r : Registry} {jh : JumpHasher}
    {i j : Nat} (hn : 2 ≤ r.live.length)
    (hfirst : pickUpstream nq r jh false .uniform = .ok j)
    (hretry : pickUpstream nq r jh true .uniform = .ok i) : i ≠ j := by
  have h : r.live.length ≠ 0 := by omega
  simp only [pickUpstream, h, uniformSlot, dite_false, Bool.false_eq_true, if_false, if_true,
    Except.ok.injEq] at hfirst hretry
  subst hfirst hretry
  intro heq
  exact succ_mod_ne_self (uniformSlot_lt jh nq.qname false (by omega)) hn
    (Fin.val_eq_of_eq (r.live_nodup.get_inj_iff.mp heq))

end EdgeDns
