import EdgeDns.Handler

/-!
# How P2 breaks ties

In P2 mode `pick_upstream` pairs every live index with its server's pending count, sorts
the pairs with `sort_by_key(|x| x.1)`, and takes position `((tid + is_retry) & 1)` of the
result – or position `0` when one server is live. The sort is stable and its key is the
load alone, so among servers of equal load the sorted map keeps the order of the live
list. That is the whole tie-break: by load, and then by position in the live list
(`EdgeDns.pickUpstream_p2_lexBefore`), so the choice is always one of the two
least-loaded live servers.

The live list is not kept in index order. A server that comes back joins it at the end
(`EdgeDns.Registry.recordSuccess`), so once both of two servers have failed and server
`1` recovers first, the list reads `[1, 0]`; with equal loads the first attempt then goes
to server `1`, where a tie-break by ascending index would give server `0`
(`EdgeDns.p2_tie_follows_live_order`). The two tie-breaks agree whenever the live list is
ascending.

The stability argument is done once, for any key and tie-break
(`EdgeDns.sorted_insertionSort_lexBefore`): insertion by key of a list already in
tie-break order leaves it sorted by key and then by tie-break, and in such a list the
entry at position `k` has exactly `k` entries before it
(`EdgeDns.countP_lexBefore_get`).
-/

namespace EdgeDns

/-! ### Sorting by a key, ties by a second key -/

section LexBefore

variable {α : Type} (key tie : α → Nat)

/-- `a` comes before `b` by `key`, and among equal keys by `tie`. -/
def LexBefore (a b : α) : Prop := key a < key b ∨ key a = key b ∧ tie a < tie b

instance : DecidableRel (LexBefore key tie) := fun _ _ => inferInstanceAs (Decidable (_ ∨ _))

variable {key tie}

theorem LexBefore.trans {a b c : α} (hab : LexBefore key tie a b) (hbc : LexBefore key tie b c) :
    LexBefore key tie a c := by
  unfold LexBefore at *
  omega

theorem LexBefore.asymm {a b : α} (hab : LexBefore key tie a b) : ¬ LexBefore key tie b a := by
  unfold LexBefore at *
  omega

/-- Inserting by key an element whose tie-break is below every other keeps a list sorted
by key and tie-break: it goes before every element of its key. -/
theorem sorted_orderedInsert_lexBefore {a : α} :
    ∀ {l : List α}, l.Sorted (LexBefore key tie) → (∀ b ∈ l, tie a < tie b) →
      (l.orderedInsert (fun x y => key x ≤ key y) a).Sorted (LexBefore key tie)
  | [], _, _ => List.sorted_singleton a
  | b :: l, hs, ht => by
    have hb := List.sorted_cons.mp hs
    simp only [List.orderedInsert]
    split_ifs with hab
    · have hab' : LexBefore key tie a b := by
        have := ht b (List.mem_cons_self _ _)
        unfold LexBefore
        omega
      refine List.sorted_cons.mpr ⟨fun c hc => ?_, hs⟩
      rcases List.mem_cons.mp hc with rfl | hc
      · exact hab'
      · exact hab'.trans (hb.1 c hc)
    · refine List.sorted_cons.mpr ⟨fun c hc => ?_,
        sorted_orderedInsert_lexBefore hb.2 fun c hc => ht c (List.mem_cons_of_mem _ hc)⟩
      rcases (List.mem_orderedInsert _).mp hc with rfl | hc
      · exact .inl (by omega)
      · exact hb.1 c hc

/-- **Insertion sort by key is stable**: a list in ascending tie-break order comes out
sorted by key, and among equal keys by tie-break. -/
theorem sorted_insertionSort_lexBefore :
    ∀ {l : List α}, l.Pairwise (fun a b => tie a < tie b) →
      (l.insertionSort fun x y => key x ≤ key y).Sorted (LexBefore key tie)
  | [], _ => List.sorted_nil
  | a :: l, h => by
    rw [List.pairwise_cons] at h
    exact sorted_orderedInsert_lexBefore (sorted_insertionSort_lexBefore h.2)
      fun b hb => h.1 b ((List.perm_insertionSort _ _).subset hb)

/-- In a list sorted by key and tie-break, the entry at position `k` has exactly `k`
entries before it. -/
theorem countP_lexBefore_get :
    ∀ {l : List α}, l.Sorted (LexBefore key tie) → ∀ k : Fin l.length,
      l.countP (fun x => LexBefore key tie x (l.get k)) = k
  | [], _, k => k.elim0
  | a :: l, hs, ⟨0, _⟩ => by
    have ha := List.sorted_cons.mp hs
    refine List.countP_eq_zero.mpr fun x hx => ?_
    rcases List.mem_cons.mp hx with rfl | hx
    · simp [LexBefore]
    · simpa using (ha.1 x hx).asymm
  | a :: l, hs, ⟨k + 1, hk⟩ => by
    have ha := List.sorted_cons.mp hs
    have hlt : k < l.length := Nat.lt_of_succ_lt_succ hk
    have hbefore : LexBefore key tie a l[k] := ha.1 _ (List.getElem_mem hlt)
    simp only [List.get_cons_succ, List.countP_cons, countP_lexBefore_get ha.2 ⟨k, hlt⟩]
    simp [hbefore]

end LexBefore

/-! ### The P2 choice -/

/-- The load P2 reads for server `j`: its pending count. -/
def Registry.load (r : Registry) (j : Nat) : Nat := (r.pendingCount j).getD 0

theorem busyMap_eq (r : Registry) : busyMap r = r.live.map fun j => (j, r.load j) := by
  conv_rhs => rw [← List.attach_map_subtype_val r.live, List.map_map]
  refine List.map_congr_left fun i _ => ?_
  simp [Registry.load, Registry.pendingCount, List.getElem?_eq_getElem (r.live_lt i.1 i.2)]

/-- A list without repetitions is in ascending order of positions. -/
theorem pairwise_indexOf_of_nodup : ∀ {l : List Nat}, l.Nodup →
    l.Pairwise fun i j => l.indexOf i < l.indexOf j
  | [], _ => List.Pairwise.nil
  | c :: t, h => by
    obtain ⟨hc, ht⟩ := List.nodup_cons.mp h
    have hne {j : Nat} (hj : j ∈ t) : c ≠ j := fun he => hc (he ▸ hj)
    refine List.pairwise_cons.mpr ⟨fun j hj => ?_, (pairwise_indexOf_of_nodup ht).imp_of_mem
      fun hi hj hlt => ?_⟩
    · rw [List.indexOf_cons_self, List.indexOf_cons_ne _ (hne hj)]
      exact Nat.succ_pos _
    · rw [List.indexOf_cons_ne _ (hne hi), List.indexOf_cons_ne _ (hne hj)]
      exact Nat.succ_lt_succ hlt

/-- The P2 position is `0` or `1`. -/
theorem p2Slot_le_one (tid : Nat) (isRetry : Bool) (len : Nat) : p2Slot tid isRetry len ≤ 1 := by
  unfold p2Slot
  split
  · omega
  · rw [Nat.and_one_is_mod]
    omega

/-- The entry at position `k` of the sorted busy map has `k` live servers before it, by
load and then by any tie-break the live list is in ascending order of. -/
theorem countP_lexBefore_sortByKey (r : Registry) {tie : Nat → Nat}
    (htie : r.live.Pairwise fun i j => tie i < tie j) (k : Fin (sortByKey (busyMap r)).length) :
    r.live.countP (fun j => LexBefore r.load tie j ((sortByKey (busyMap r)).get k).1) = k := by
  have hs : (sortByKey (busyMap r)).Sorted (LexBefore Prod.snd fun x => tie x.1) :=
    sorted_insertionSort_lexBefore (by rw [busyMap_eq, List.pairwise_map]; exact htie)
  have hrank := countP_lexBefore_get hs k
  have hmem : (sortByKey (busyMap r)).get k ∈ busyMap r :=
    (List.perm_insertionSort _ _).subset (List.get_mem _ _ _)
  generalize (sortByKey (busyMap r)).get k = x at hrank hmem
  unfold sortByKey at hrank
  rw [(List.perm_insertionSort _ _).countP_eq] at hrank
  rw [busyMap_eq] at hmem
  obtain ⟨i, -, rfl⟩ := List.mem_map.mp hmem
  rw [← hrank, busyMap_eq, List.countP_map]
  rfl

/-- **What P2 returns.** Over every non-empty live list, every load and every `tid` and
retry flag, P2 returns a live server with exactly `((tid + is_retry) & 1)` live servers
before it – `0` when it is the only one – in the order by load and then by position in
the live list. So it is one of the two least-loaded live servers, and when the live list
is ascending the ties go by ascending server index. -/
theorem pickUpstream_p2_lexBefore (nq : NormalizedQuestion) (r : Registry) (jh : JumpHasher)
    (isRetry : Bool) (hlive : r.live ≠ []) :
    ∃ i ∈ r.live, pickUpstream nq r jh isRetry .p2 = .ok i ∧
      r.live.countP (fun j => LexBefore r.load (fun j => r.live.indexOf j) j i) =
        p2Slot nq.tid isRetry r.live.length ∧
      r.live.countP (fun j => r.load j < r.load i) ≤ 1 ∧
      (r.live.Sorted (· < ·) →
        r.live.countP (fun j => LexBefore r.load id j i) = p2Slot nq.tid isRetry r.live.length) := by
  have hlen : r.live.length ≠ 0 := fun h => hlive (List.length_eq_zero.mp h)
  have hk : p2Slot nq.tid isRetry (sortByKey (busyMap r)).length < (sortByKey (busyMap r)).length :=
    p2Slot_lt _ _ (by rw [length_sortByKey_busyMap]; omega)
  have hslot : p2Slot nq.tid isRetry (sortByKey (busyMap r)).length =
      p2Slot nq.tid isRetry r.live.length := by rw [length_sortByKey_busyMap]
  have hrank := countP_lexBefore_sortByKey r (pairwise_indexOf_of_nodup r.live_nodup) ⟨_, hk⟩
  refine ⟨_, mem_live_of_mem_sortByKey (List.get_mem _ _ hk),
    by simp only [pickUpstream, hlen, dite_false], ?_⟩
  rw [← hslot]
  refine ⟨hrank, ?_, fun hsorted => countP_lexBefore_sortByKey r hsorted ⟨_, hk⟩⟩
  calc _ ≤ _ := List.countP_mono_left fun j _ h => decide_eq_true (Or.inl (of_decide_eq_true h))
    _ = _ := hrank
    _ ≤ 1 := p2Slot_le_one _ _ _

/-- Two configured servers, at addresses `1` and `2`, both live and idle. -/
def Registry.pair : Registry :=
  ⟨[⟨1, 0, 0, none⟩, ⟨2, 0, 0, none⟩], [0, 1], by decide, by decide⟩

/-- P2 over the two idle servers of `EdgeDns.Registry.pair`. -/
theorem pickUpstream_p2_lexBefore_pair :
    Registry.pair.live ≠ [] ∧
      ∃ i ∈ Registry.pair.live, pickUpstream ⟨0, 0, 0⟩ .pair .firstBucket false .p2 = .ok i ∧
        Registry.pair.live.countP
            (fun j => LexBefore Registry.pair.load (fun j => Registry.pair.live.indexOf j) j i) =
          p2Slot 0 false Registry.pair.live.length ∧
        Registry.pair.live.countP (fun j => Registry.pair.load j < Registry.pair.load i) ≤ 1 ∧
        (Registry.pair.live.Sorted (· < ·) →
          Registry.pair.live.countP (fun j => LexBefore Registry.pair.load id j i) =
            p2Slot 0 false Registry.pair.live.length) :=
  ⟨by decide, pickUpstream_p2_lexBefore ⟨0, 0, 0⟩ .pair .firstBucket false (by decide)⟩

/-! ### A server that comes back goes to the end of the live list -/

/-- **The tie goes by live-list order, not by server index.** Over the two servers of
`EdgeDns.Registry.pair`, with a failure threshold of one, a query's first attempt to
server `0` and its retry to server `1` both time out, and both servers answer again,
server `1` first. The servers are idle and the live list reads `[1, 0]`; P2's first
attempt for the next question takes position `0` of the load order and gets server `1`,
which has a server before it by load and then index. -/
theorem p2_tie_follows_live_order :
    ∃ s, run (smallEnv .p2 10 1 (by decide)) (State.init .pair)
        [.arrive ⟨0, 0, 0⟩ [⟨1⟩, ⟨2⟩] 0 0, .wake 0, .wake 0, .recordSuccess 1,
          .recordSuccess 0] = some s ∧
      s.registry.live = [1, 0] ∧ s.registry.load 0 = 0 ∧ s.registry.load 1 = 0 ∧
      pickUpstream ⟨1, 0, 0⟩ s.registry .firstBucket false .p2 = .ok 1 ∧
      p2Slot 0 false s.registry.live.length = 0 ∧
      s.registry.live.countP (fun j => LexBefore s.registry.load id j 1) = 1 :=
  ⟨_, rfl, rfl, rfl, rfl, rfl, rfl, by decide⟩

end EdgeDns
