import EdgeDns.Basic
import Mathlib.Data.List.Nodup

/-!
# The upstream registry

The registry is what `upstream_servers_arc` and `upstream_servers_live_arc` hold between
them: the configured servers, and the list of the indices of those currently live. A
server index is a position in the configured list; the handler looks a server up by
address (`EdgeDns.Registry.find`), and the load balancer reads it by index.

The live list carries its two facts in its type: every index in it names a configured
server (`EdgeDns.Registry.live_lt`), and none appears twice
(`EdgeDns.Registry.live_nodup`). Every operation below keeps them, so no later proof
establishes them again.

`record_failure` and `record_success` belong to `upstream_server.rs`, which is not among
the sources. They are modelled from the spec (§4.1): a failure is counted, and at the
configured threshold the server leaves the live list; a success clears the count and
puts the server back on the list if it is not there.
-/

namespace EdgeDns

/-- The registry of upstream servers and the live list beside it. -/
structure Registry where
  /-- The configured servers, in server-index order. -/
  servers : List UpstreamServer
  /-- The indices of the live servers. -/
  live : List Nat
  /-- Every live index names a configured server. -/
  live_lt : ∀ i ∈ live, i < servers.length
  /-- No server is live twice. -/
  live_nodup : live.Nodup

namespace Registry

/-- `upstream_servers.get(&addr)`: the index of the server with that address. -/
def find (r : Registry) (addr : Nat) : Option Nat :=
  r.servers.findIdx? fun srv => srv.socketAddr = addr

/-- Updates server `j` in place, under the registry's write lock. -/
def modifyServer (r : Registry) (j : Nat) (f : UpstreamServer → UpstreamServer) : Registry where
  servers := r.servers.modify f j
  live := r.live
  live_lt := by simpa only [List.length_modify] using r.live_lt
  live_nodup := r.live_nodup

/-- `pending_queries_count = pending_queries_count.saturating_add(1)` on server `j`. -/
def incPending (r : Registry) (j : Nat) : Registry :=
  r.modifyServer j fun srv =>
    { srv with pendingQueriesCount := u64SaturatingAdd srv.pendingQueriesCount 1 }

/-- `pending_queries_count = pending_queries_count.saturating_sub(1)` on server `j`. -/
def decPending (r : Registry) (j : Nat) : Registry :=
  r.modifyServer j fun srv =>
    { srv with pendingQueriesCount := u64SaturatingSub srv.pendingQueriesCount 1 }

/-- Takes server `j` off the live list. -/
def dropLive (r : Registry) (j : Nat) : Registry where
  servers := r.servers
  live := r.live.filter (· ≠ j)
  live_lt := fun i hi => r.live_lt i (List.mem_of_mem_filter hi)
  live_nodup := r.live_nodup.filter _

/-- One more consecutive failure on server `j`. -/
def countFailure (r : Registry) (j : Nat) : Registry :=
  r.modifyServer j fun srv => { srv with failures := srv.failures + 1 }

/-- Modelled from the spec: `UpstreamServer::record_failure` (`upstream_server.rs`, not
among the sources). One more consecutive failure is counted on server `j`, and when the
count reaches `maxFailures` the server leaves the live list. -/
def recordFailure (r : Registry) (maxFailures j : Nat) : Registry :=
  if (r.servers.get? j).any fun srv => maxFailures ≤ srv.failures + 1 then
    (r.countFailure j).dropLive j
  else r.countFailure j

/-- Modelled from the spec: `UpstreamServer::record_success` (`upstream_server.rs`, not
among the sources), on the response path outside this core. The failure count of
server `i` is cleared, and the server joins the live list if it is not on it. -/
def recordSuccess (r : Registry) (i : Nat) (h : i < r.servers.length) : Registry where
  servers := r.servers.modify (fun srv => { srv with failures := 0 }) i
  live := if i ∈ r.live then r.live else r.live ++ [i]
  live_lt := by
    rw [List.length_modify]
    split_ifs
    · exact r.live_lt
    · simpa [or_imp, forall_and] using ⟨r.live_lt, h⟩
  live_nodup := by
    split_ifs with hi
    · exact r.live_nodup
    · simpa [List.nodup_append, hi] using r.live_nodup

/-! ### What the operations keep -/

@[simp] theorem live_modifyServer (r : Registry) (j : Nat) (f : UpstreamServer → UpstreamServer) :
    (r.modifyServer j f).live = r.live := rfl

@[simp] theorem length_modifyServer (r : Registry) (j : Nat)
    (f : UpstreamServer → UpstreamServer) :
    (r.modifyServer j f).servers.length = r.servers.length :=
  List.length_modify f j r.servers

@[simp] theorem live_incPending (r : Registry) (j : Nat) : (r.incPending j).live = r.live := rfl

@[simp] theorem live_decPending (r : Registry) (j : Nat) : (r.decPending j).live = r.live := rfl

@[simp] theorem length_incPending (r : Registry) (j : Nat) :
    (r.incPending j).servers.length = r.servers.length :=
  length_modifyServer ..

@[simp] theorem length_decPending (r : Registry) (j : Nat) :
    (r.decPending j).servers.length = r.servers.length :=
  length_modifyServer ..

@[simp] theorem length_recordFailure (r : Registry) (m j : Nat) :
    (r.recordFailure m j).servers.length = r.servers.length := by
  unfold recordFailure
  split_ifs <;> simp [dropLive, countFailure]

@[simp] theorem length_recordSuccess (r : Registry) (i : Nat) (h : i < r.servers.length) :
    (r.recordSuccess i h).servers.length = r.servers.length :=
  List.length_modify ..

/-- A failure only ever takes servers off the live list. -/
theorem live_recordFailure_sublist (r : Registry) (m j : Nat) :
    (r.recordFailure m j).live.Sublist r.live := by
  unfold recordFailure
  split_ifs
  · exact List.filter_sublist _
  · exact List.Sublist.refl _

/-! ### Lookups and pending counts -/

theorem findIdx?_modify {α : Type} {p : α → Bool} {f : α → α} (hf : ∀ x, p (f x) = p x) :
    ∀ (l : List α) (n i : Nat), (l.modify f n).findIdx? p i = l.findIdx? p i
  | [], _, _ => by simp
  | _ :: _, 0, _ => by simp [hf]
  | _ :: l, n + 1, _ => by simp [findIdx?_modify hf l n]

/-- An update in place that keeps the server's address keeps every lookup. -/
theorem find_modifyServer (r : Registry) (j : Nat) {f : UpstreamServer → UpstreamServer}
    (hf : ∀ srv, (f srv).socketAddr = srv.socketAddr) (a : Nat) :
    (r.modifyServer j f).find a = r.find a :=
  findIdx?_modify (by simp [hf]) _ _ _

@[simp] theorem find_incPending (r : Registry) (j a : Nat) : (r.incPending j).find a = r.find a := by
  refine find_modifyServer r j ?_ a
  exact fun _ => rfl

@[simp] theorem find_decPending (r : Registry) (j a : Nat) : (r.decPending j).find a = r.find a := by
  refine find_modifyServer r j ?_ a
  exact fun _ => rfl

@[simp] theorem find_recordFailure (r : Registry) (m j a : Nat) :
    (r.recordFailure m j).find a = r.find a := by
  have : (r.countFailure j).find a = r.find a := by
    refine find_modifyServer r j ?_ a
    exact fun _ => rfl
  unfold recordFailure
  split_ifs
  · exact this
  · exact this

@[simp] theorem find_recordSuccess (r : Registry) (i : Nat) (h : i < r.servers.length) (a : Nat) :
    (r.recordSuccess i h).find a = r.find a := by
  refine find_modifyServer r i ?_ a
  exact fun _ => rfl

/-- The index `find` returns names a server at that address. -/
theorem find_eq_some {r : Registry} {a j : Nat} (h : r.find a = some j) :
    ∃ hj : j < r.servers.length, r.servers[j].socketAddr = a := by
  obtain ⟨hj, hp, -⟩ := List.findIdx?_eq_some_iff_getElem.mp h
  exact ⟨hj, of_decide_eq_true hp⟩

/-- The pending count of server `j`, if it is configured. -/
def pendingCount (r : Registry) (j : Nat) : Option Nat :=
  (r.servers.get? j).map UpstreamServer.pendingQueriesCount

theorem pendingCount_modifyServer (r : Registry) (j : Nat) (f : UpstreamServer → UpstreamServer)
    (i : Nat) : (r.modifyServer j f).pendingCount i =
      if j = i then (r.servers.get? i).map fun srv => (f srv).pendingQueriesCount
      else r.pendingCount i := by
  simp only [pendingCount, modifyServer, List.get?_eq_getElem?, List.getElem?_modify]
  split <;> simp [Option.map_map, Function.comp_def]

@[simp] theorem pendingCount_incPending (r : Registry) (j i : Nat) :
    (r.incPending j).pendingCount i =
      if j = i then (r.pendingCount i).map (u64SaturatingAdd · 1) else r.pendingCount i := by
  rw [incPending, pendingCount_modifyServer]
  simp [pendingCount, Option.map_map, Function.comp_def]

@[simp] theorem pendingCount_decPending (r : Registry) (j i : Nat) :
    (r.decPending j).pendingCount i =
      if j = i then (r.pendingCount i).map (u64SaturatingSub · 1) else r.pendingCount i := by
  rw [decPending, pendingCount_modifyServer]
  simp [pendingCount, Option.map_map, Function.comp_def]

@[simp] theorem pendingCount_recordFailure (r : Registry) (m j : Nat) :
    (r.recordFailure m j).pendingCount = r.pendingCount := by
  have hc : (r.countFailure j).pendingCount = r.pendingCount := by
    funext i
    rw [countFailure, pendingCount_modifyServer]
    split
    · subst j
      rfl
    · rfl
  unfold recordFailure
  split_ifs
  · exact hc
  · exact hc

@[simp] theorem pendingCount_recordSuccess (r : Registry) (i : Nat) (h : i < r.servers.length) :
    (r.recordSuccess i h).pendingCount = r.pendingCount := by
  funext k
  simp only [pendingCount, recordSuccess, List.get?_eq_getElem?, List.getElem?_modify]
  split <;> simp [Option.map_map, Function.comp_def]

end Registry

end EdgeDns
