import EdgeDns.Steps

/-!
# Where a Uniform retry goes

In Uniform mode the first attempt takes the jump-hash slot of the name over the live
list, and a retry the slot after it, each computed over the live list as it is when the
attempt is made. Over one live list of two servers or more the two differ
(`EdgeDns.pickUpstream_uniform_retry_ne`). So a retry leaves the server of the attempt
that timed out whenever that server is no longer live, or is the one the first-attempt
choice names over the live list at the retry – as it is when the list has not changed in
between (`EdgeDns.uniform_retry_avoids_failed_upstream`).

When a server joins the list between the two attempts, the slot can move with it. With
three servers configured and two of them live, take a name that jump-hashes to the first
of two buckets and to the third of three – jump hashing moves a third of all names to
the new bucket when a third is added. A retry made after the third server came back
goes to the server that just timed out (`EdgeDns.uniform_retry_repeats_failed_upstream`).
-/

namespace EdgeDns

/-! ### A retry leaves the failed server -/

/-- **A Uniform retry leaves the failed server** when the live list at the retry has two
servers or more and the failed one is either off the list or the first-attempt choice
over it. `fut_retry_query` then either returns early or retries the entry on another
server index. -/
theorem uniform_retry_avoids_failed_upstream {env : Env} {s s' : State}
    {nq : NormalizedQuestion} {ups : List UpstreamServerForQuery} {pq : PendingQuery}
    (hmode : env.config.lbmode = .uniform) (h : futRetryQuery env s nq ups = some s')
    (hget : s.pendingQueries.get nq.pendingQueryKey = some pq)
    (hn : 2 ≤ s.registry.live.length)
    (hfailed : pq.upstreamServerIdx ∉ s.registry.live ∨
      newPendingQuery env s.registry nq false = .ok pq.upstreamServerIdx) :
    s' = s ∨ ∃ idx u j, newPendingQuery env s.registry nq true = .ok idx ∧
      idx ≠ pq.upstreamServerIdx ∧ s' = retryPendingQuery s nq.pendingQueryKey pq idx u j := by
  cases futRetryQuery_cases h with
  | unchanged => exact .inl rfl
  | @retried pq' idx _ u' j hget' _ _ hidx _ _ =>
    obtain rfl : pq' = pq := Option.some.inj (hget'.symm.trans hget)
    refine .inr ⟨idx, u', j, hidx, fun he => ?_, rfl⟩
    rcases hfailed with hnot | hfirst
    · exact hnot (he ▸ pickUpstream_mem hidx)
    · rw [newPendingQuery, hmode] at hidx hfirst
      exact pickUpstream_uniform_retry_ne hn hfirst hidx he

/-! ### A server that comes back moves the slot -/

/-- Three servers, at addresses `1`, `2` and `3`; the first two live. -/
def Registry.twoOfThree : Registry :=
  ⟨[⟨1, 0, 0, none⟩, ⟨2, 0, 0, none⟩, ⟨3, 0, 0, none⟩], [0, 1], by decide, by decide⟩

/-- A jump hasher that puts every name in the first of two buckets and the third of
three. -/
def JumpHasher.movesAtThree : JumpHasher where
  slot _ n := if n ≤ 2 then 0 else 2
  slot_lt _ n hn := by dsimp only; split <;> omega
  slot_lt_u32 _ n := by dsimp only; split <;> decide

/-- The resolver of the run below: Uniform balancing over `EdgeDns.Registry.twoOfThree`,
with a failure threshold the run does not reach. -/
def uniformEnv : Env :=
  ⟨⟨1, by decide, .uniform, 10⟩, .movesAtThree, fun _ => none, fun _ => some 0, 1000⟩

/-- The retry of a client query whose candidates are the three servers, over the stable
live list `[0, 1]`, moves from server `0` to server `1`. -/
theorem uniform_retry_avoids_failed_upstream_stable_list :
    ∃ s s' pq, run uniformEnv (State.init .twoOfThree)
        [.arrive ⟨0, 0, 0⟩ [⟨1⟩, ⟨2⟩, ⟨3⟩] 0 0] = some s ∧
      futRetryQuery uniformEnv s ⟨0, 0, 0⟩ [⟨1⟩, ⟨2⟩, ⟨3⟩] = some s' ∧
      s.pendingQueries.get (NormalizedQuestion.pendingQueryKey ⟨0, 0, 0⟩) = some pq ∧
      2 ≤ s.registry.live.length ∧
      (pq.upstreamServerIdx ∉ s.registry.live ∨
        newPendingQuery uniformEnv s.registry ⟨0, 0, 0⟩ false = .ok pq.upstreamServerIdx) ∧
      (s' = s ∨ ∃ idx u j, newPendingQuery uniformEnv s.registry ⟨0, 0, 0⟩ true = .ok idx ∧
        idx ≠ pq.upstreamServerIdx ∧
        s' = retryPendingQuery s (NormalizedQuestion.pendingQueryKey ⟨0, 0, 0⟩) pq idx u j) := by
  refine ⟨_, _, _, rfl, rfl, rfl, by decide, .inr rfl, ?_⟩
  exact @uniform_retry_avoids_failed_upstream _ _ _ _ [⟨1⟩, ⟨2⟩, ⟨3⟩] _ rfl rfl rfl (by decide)
    (.inr rfl)

/-- **A retry can go back to the server that timed out.** The first attempt goes to
server `0` over the live list `[0, 1]`; server `2` then comes back, and the retry, over
`[0, 1, 2]`, takes the slot after the third: server `0` again. -/
theorem uniform_retry_repeats_failed_upstream :
    ∃ s, run uniformEnv (State.init .twoOfThree)
        [.arrive ⟨0, 0, 0⟩ [⟨1⟩, ⟨2⟩, ⟨3⟩] 0 0, .recordSuccess 2, .wake 0] = some s ∧
      s.registry.live = [0, 1, 2] ∧ s.sends = [.probe 1, .primary 0 1, .retry 0 1] :=
  ⟨_, rfl, rfl, rfl⟩

end EdgeDns
