import TestSequencer.Invariants

/-!
# `node_map_` during a test: lookups and `idle`

* `lookups_never_fail` — every alias `ConfigureNodes`, `IntroducePeers` and `RunTraffic` look
  up (lines 288, 335, 379) is in `node_map_`, so their `QCHECK`s never abort; no step removes
  an entry of `node_map_`; and a placement's keys lie in the snapshot it was made from.
* `idle_discipline` — a node whose `idle` is false is marked by the one `RunTraffic` in
  progress, is a key of its placement, and its completion has not been taken; when
  `RunTraffic` returns, OK or not, every node of its placement is idle; with no `RunTraffic`
  in progress every node is idle.
* `cancelTraffic_idles_running_node` — `CancelTraffic` can leave a node idle while a
  `RunTraffic` RPC it did not cancel is outstanding there: when the cancel fails (line 134
  sets `idle` whatever the status), and when the cancel is read between lines 382 and 383
  of a concurrent `RunTraffic`, before the RPC it should cancel exists.
-/

set_option autoImplicit false

namespace Distbench

/-! ## Lookups -/

/-- What the lookups of a test rely on. -/
structure LookupsSafe (s : Sys) : Prop where
  /-- The keys of every call's `node_service_map` are registered. -/
  placed : ∀ c, ∀ k ∈ (s.calls c).nodeServiceMap.keys, k ∈ s.registry.nodeMap.keys
  /-- No `QCHECK(it != node_map_.end())` fails. -/
  no_abort : ∀ a, step s a ≠ .panic .nodeNotFound
  /-- No step removes an entry of `node_map_`. -/
  keys_kept : ∀ a s' events, step s a = .ok s' events →
    ∀ k ∈ s.registry.nodeMap.keys, k ∈ s'.registry.nodeMap.keys

/-- **The `QCHECK`s of the phases never fail**, over every interleaving of the system. -/
theorem lookups_never_fail {requests : Nat → List DistributedSystemDescription} {s : Sys}
    (h : Reachable requests s) :
    LookupsSafe s ∧
      ∀ test snapshot nsm, placeServices test snapshot = .ok nsm →
        ∀ k ∈ nsm.keys, k ∈ snapshot := by
  have hi := reachable_inv h
  refine ⟨⟨fun c => (hi.calls c).placed, fun a hpanic => ?_,
    fun _ _ _ hs _ hk => step_keys hs hk⟩, fun _ _ _ hp _ hk => placeServices_keys_subset hp hk⟩
  obtain h' | ⟨h', -⟩ := step_panic hi hpanic <;> cases h'

/-- Node `h0` registers as `node0`, and call 0 runs one test on it up to marking `node0` busy
in `RunTraffic`, every node answering OK. -/
theorem lookups_never_fail_busy_node :
    ∃ s events, exec (Sys.init fun _ => [⟨[⟨"A", 1⟩], ProtoMap.empty⟩])
        [.registerNode ⟨"h0", 7, ""⟩ true,
         .run 0, .run 0, .run 0, .run 0, .run 0, .run 0, .run 0, .run 0, .run 0,
         .run 0, .complete 0 0 .OK ProtoMap.empty, .run 0,
         .run 0, .complete 0 0 .OK ProtoMap.empty, .run 0,
         .run 0, .run 0] = .ok s events ∧
      (s.calls 0).pc = .issueRunTraffic 0 0 "node0" ∧ LookupsSafe s ∧
      ∀ test snapshot nsm, placeServices test snapshot = .ok nsm →
        ∀ k ∈ nsm.keys, k ∈ snapshot := by
  refine ⟨_, _, rfl, rfl, lookups_never_fail (@reachable_of_exec
    (fun _ => [⟨[⟨"A", 1⟩], ProtoMap.empty⟩]) _ _
    [.registerNode ⟨"h0", 7, ""⟩ true,
     .run 0, .run 0, .run 0, .run 0, .run 0, .run 0, .run 0, .run 0, .run 0,
     .run 0, .complete 0 0 .OK ProtoMap.empty, .run 0,
     .run 0, .complete 0 0 .OK ProtoMap.empty, .run 0,
     .run 0, .run 0] _ .init rfl)⟩

/-! ## `idle` -/

theorem Pc.installed_of_inRunTraffic {p : Pc} (h : p.inRunTraffic = true) :
    Interlock.Installed p.phase := by
  cases p <;> simp_all [Pc.inRunTraffic, Pc.phase, Interlock.Installed]

/-- A pending `RunTraffic` RPC is to a key of the call's placement. -/
theorem RunTrafficPending.mem_keys {nodeMap : StdMap Node} {cl : Call} {n : String}
    (hc : CallInv nodeMap cl) (h : RunTrafficPending cl n) : n ∈ cl.nodeServiceMap.keys := by
  rcases h with ⟨i, j, hpc⟩ | ⟨hr, tag, -, rpc, hs, rfl⟩
  · exact List.getElem?_mem (hc.issuing i j n hpc)
  · exact hc.slots hr tag rpc hs

/-- The `idle` flags of `node_map_`. -/
structure IdleDiscipline (s : Sys) : Prop where
  /-- A busy node is marked by the one `RunTraffic` in progress, is a key of its placement, and
  its completion has not been taken. -/
  busy : ∀ n node, s.registry.nodeMap.find? n = some node → node.idle = false →
    ∃ c, RunTrafficPending (s.calls c) n ∧ n ∈ (s.calls c).nodeServiceMap.keys ∧
      ∀ d, (s.calls d).pc.inRunTraffic = true → d = c
  /-- When `RunTraffic` returns, OK or not, every node of its placement is idle. -/
  returned : ∀ c i s' events, (s.calls c).pc = .runTrafficDrain i →
    step s (.run c) = .ok s' events → ∀ n ∈ (s.calls c).nodeServiceMap.keys,
      ∃ node, s'.registry.nodeMap.find? n = some node ∧ node.idle = true
  /-- With no `RunTraffic` in progress, every node is idle. -/
  all_idle : (∀ c, (s.calls c).pc.inRunTraffic = false) →
    ∀ n node, s.registry.nodeMap.find? n = some node → node.idle = true

/-- **`idle` is false only under a `RunTraffic` in progress**, over every interleaving of the
system. -/
theorem idle_discipline {requests : Nat → List DistributedSystemDescription} {s : Sys}
    (h : Reachable requests s) : IdleDiscipline s := by
  have hi := reachable_inv h
  have hl := Interlock.inv_reachable (Sys.interlock_reachable h)
  have hone : ∀ c d, (s.calls c).pc.inRunTraffic = true → (s.calls d).pc.inRunTraffic = true →
      c = d := fun c d hc hd =>
    hl.installed_unique (Pc.installed_of_inRunTraffic hc) (Pc.installed_of_inRunTraffic hd)
  refine ⟨fun n node hn hidle => ?_, fun c i s' events hpc hstep n hn => ?_,
    fun hnone n node hn => ?_⟩
  · obtain ⟨c, hc⟩ := hi.busy n node hn hidle
    exact ⟨c, hc, hc.mem_keys (hi.calls c), fun d hd => hone d c hd hc.inRunTraffic⟩
  · simp only [step, runCall, hpc] at hstep
    split_ifs at hstep with h0 <;> cases hstep
    -- both returns leave `node_map_` as it was
    all_goals
      obtain ⟨node, hnode⟩ :=
        Option.isSome_iff_exists.mp (StdMap.find?_isSome.mpr ((hi.calls c).placed n hn))
      refine ⟨node, by simpa [Sys.finishSequence] using hnode, ?_⟩
      by_contra hidle
      obtain ⟨d, hd⟩ := hi.busy n node hnode (by simpa using hidle)
      obtain rfl := hone d c hd.inRunTraffic (by simp [hpc, Pc.inRunTraffic])
      exact hd.outstanding (by simp [hpc]) ((hi.calls d).drained h0)
  · by_contra hidle
    obtain ⟨c, hc⟩ := hi.busy n node hn (by simpa using hidle)
    exact absurd hc.inRunTraffic (by simp [hnone c])

/-- The same schedule: `node0` is busy under call 0's `RunTraffic`. -/
theorem idle_discipline_busy_node :
    ∃ s events, exec (Sys.init fun _ => [⟨[⟨"A", 1⟩], ProtoMap.empty⟩])
        [.registerNode ⟨"h0", 7, ""⟩ true,
         .run 0, .run 0, .run 0, .run 0, .run 0, .run 0, .run 0, .run 0, .run 0,
         .run 0, .complete 0 0 .OK ProtoMap.empty, .run 0,
         .run 0, .complete 0 0 .OK ProtoMap.empty, .run 0,
         .run 0, .run 0] = .ok s events ∧
      (s.registry.nodeMap.find? "node0").map Node.idle = some false ∧ IdleDiscipline s := by
  refine ⟨_, _, rfl, rfl, idle_discipline (@reachable_of_exec
    (fun _ => [⟨[⟨"A", 1⟩], ProtoMap.empty⟩]) _ _
    [.registerNode ⟨"h0", 7, ""⟩ true,
     .run 0, .run 0, .run 0, .run 0, .run 0, .run 0, .run 0, .run 0, .run 0,
     .run 0, .complete 0 0 .OK ProtoMap.empty, .run 0,
     .run 0, .complete 0 0 .OK ProtoMap.empty, .run 0,
     .run 0, .run 0] _ .init rfl)⟩

/-- From the same state (call 0 has marked `node0` busy at line 382), call 1 arrives and its
`CancelTraffic` finds `node0` busy. If the cancel fails, line 134 still sets `idle`; if it is
issued and answered before call 0 reaches line 383, it cancels nothing. Either way `node0` is
idle while call 0's `RunTraffic` RPC to it is outstanding, with no OK `CancelTraffic` to
`node0` issued after that RPC. -/
theorem cancelTraffic_idles_running_node :
    ∃ s₀ events₀, exec (Sys.init fun _ => [⟨[⟨"A", 1⟩], ProtoMap.empty⟩])
        [.registerNode ⟨"h0", 7, ""⟩ true,
         .run 0, .run 0, .run 0, .run 0, .run 0, .run 0, .run 0, .run 0, .run 0,
         .run 0, .complete 0 0 .OK ProtoMap.empty, .run 0,
         .run 0, .complete 0 0 .OK ProtoMap.empty, .run 0,
         .run 0, .run 0] = .ok s₀ events₀ ∧
      (∃ s, exec s₀ [.run 0, .run 1, .run 1, .run 1, .complete 1 0 .CANCELLED ProtoMap.empty] =
          .ok s [.issued 0 .runTraffic 0 "node0", .issued 1 .cancelTraffic 0 "node0",
            .completed 1 .cancelTraffic 0 "node0" .CANCELLED] ∧
        (s.registry.nodeMap.find? "node0").map Node.idle = some true ∧
        RunTrafficPending (s.calls 0) "node0") ∧
      (∃ s, exec s₀ [.run 1, .run 1, .run 1, .complete 1 0 .OK ProtoMap.empty, .run 0] =
          .ok s [.issued 1 .cancelTraffic 0 "node0", .completed 1 .cancelTraffic 0 "node0" .OK,
            .issued 0 .runTraffic 0 "node0"] ∧
        (s.registry.nodeMap.find? "node0").map Node.idle = some true ∧
        RunTrafficPending (s.calls 0) "node0") :=
  ⟨_, _, rfl, ⟨_, rfl, rfl, .inr ⟨rfl, 0, by decide, _, rfl, rfl⟩⟩,
    ⟨_, rfl, rfl, .inr ⟨rfl, 0, by decide, _, rfl, rfl⟩⟩⟩

end Distbench
