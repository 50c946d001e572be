import TestSequencer.FanOutRuns

/-!
# What `ret.MergeFrom` leaves

The drain loops of `ConfigureNodes` and `RunTraffic` merge every response they take into `ret`
(lines 305 and 397), in the order `cq` hands the completions back. `MergeFrom` on a map field
inserts each entry of the argument, replacing an entry with the same key; `mergedResponses` is
that loop.

* `ProtoMap.find?` — the value a map field holds for a key.
* `mergedResponses_last_wins` — for every completion order, `ret` holds for each key the value
  of the last response taken that has the key, and nothing for a key no response has; so when
  no two responses share a key, every order in which `cq` hands the completions back gives the
  same `ret`, key by key.
* `FanOutsComplete`, `fanOuts_complete` — from every reachable state, each of the four fan-outs
  of a call runs to its verdict, with `ret` read key by key: the value of the last response
  taken that has the key.
-/

set_option autoImplicit false

namespace Distbench

variable {V : Type}

theorem findEntry_setEntries (k k' : String) (v : V) :
    ∀ l : List (String × V),
      findEntry k' (setEntries k v l) = if k' = k then some v else findEntry k' l
  | [] => rfl
  | (a, w) :: t => by
    by_cases ha : a = k
    · subst ha; by_cases h : k' = a <;> simp [setEntries, findEntry, h]
    · by_cases h : k' = a
      · subst h; simp [setEntries, findEntry, ha]
      · simp [setEntries, findEntry, ha, h, findEntry_setEntries k k' v t]

theorem mem_keys_of_findEntry {k : String} :
    ∀ {l : List (String × V)}, (findEntry k l).isSome → k ∈ l.map Prod.fst
  | [], h => by simp [findEntry] at h
  | (a, w) :: t, h => by
    unfold findEntry at h
    split_ifs at h with ha
    · simp [ha]
    · exact List.mem_cons_of_mem _ (mem_keys_of_findEntry h)

namespace ProtoMap

/-- `m.find(k)`: the value the map holds for `k`. -/
def find? (m : ProtoMap V) (k : String) : Option V := findEntry k m.entries

theorem find?_set (m : ProtoMap V) (k k' : String) (v : V) :
    (m.set k v).find? k' = if k' = k then some v else m.find? k' :=
  findEntry_setEntries k k' v m.entries

theorem mem_keys_of_find? {m : ProtoMap V} {k : String} (h : (m.find? k).isSome) :
    k ∈ m.keys :=
  mem_keys_of_findEntry h

/-- Inserting entries with distinct keys one after the other. -/
theorem find?_foldl_set (k : String) :
    ∀ (l : List (String × V)), (l.map Prod.fst).Nodup → ∀ m : ProtoMap V,
      (l.foldl (fun acc e => acc.set e.1 e.2) m).find? k = (findEntry k l).or (m.find? k)
  | [], _, m => rfl
  | (a, v) :: l, hn, m => by
    obtain ⟨ha, hl⟩ := List.nodup_cons.mp hn
    rw [List.foldl_cons, find?_foldl_set k l hl, find?_set]
    by_cases hk : k = a
    · subst hk; simp [findEntry, findEntry_eq_none ha]
    · simp [findEntry, hk]

/-- `MergeFrom`: the argument's entry wins. -/
theorem find?_mergeFrom (m other : ProtoMap V) (k : String) :
    (m.mergeFrom other).find? k = (other.find? k).or (m.find? k) :=
  find?_foldl_set k other.entries other.nodup m

end ProtoMap

theorem find?_foldl_mergeFrom (responses : Nat → ProtoMap String) (k : String) :
    ∀ (order : List Nat) (m : ProtoMap String),
      (order.foldl (fun m t => m.mergeFrom (responses t)) m).find? k =
        (order.reverse.findSome? fun t => (responses t).find? k).or (m.find? k)
  | [], m => rfl
  | t :: order, m => by
    rw [List.foldl_cons, find?_foldl_mergeFrom responses k order, ProtoMap.find?_mergeFrom,
      List.reverse_cons, List.findSome?_append, Option.or_assoc]
    cases h : (responses t).find? k <;> simp [List.findSome?_cons, h]

/-- For each key, the value of the last response taken that has it. -/
theorem find?_mergedResponses (responses : Nat → ProtoMap String) (order : List Nat)
    (k : String) :
    (mergedResponses responses order).find? k =
      order.reverse.findSome? fun t => (responses t).find? k := by
  rw [mergedResponses, find?_foldl_mergeFrom]
  exact Option.or_none

/-- Two orders of the same items that hold at most one value find the same one. -/
theorem findSome?_eq_of_perm {α β : Type} {g : α → Option β} {l₁ l₂ : List α}
    (hp : l₁.Perm l₂) (hu : ∀ a ∈ l₁, ∀ b ∈ l₁, (g a).isSome → (g b).isSome → g a = g b) :
    l₁.findSome? g = l₂.findSome? g := by
  cases h₁ : l₁.findSome? g with
  | none =>
    exact (List.findSome?_eq_none_iff.mpr fun x hx =>
      List.findSome?_eq_none_iff.mp h₁ x (hp.mem_iff.mpr hx)).symm
  | some v =>
    obtain ⟨a, ha, hga⟩ := List.exists_of_findSome?_eq_some h₁
    have hs : (l₂.findSome? g).isSome :=
      List.findSome?_isSome_iff.mpr ⟨a, hp.mem_iff.mp ha, by simp [hga]⟩
    obtain ⟨w, h₂⟩ := Option.isSome_iff_exists.mp hs
    obtain ⟨b, hb, hgb⟩ := List.exists_of_findSome?_eq_some h₂
    rw [h₂, ← hga, ← hgb]
    exact hu a ha b (hp.mem_iff.mpr hb) (by simp [hga]) (by simp [hgb])

/-- When no two responses share a key, the order does not matter. -/
theorem mergedResponses_perm {responses : Nat → ProtoMap String} {order order' : List Nat}
    (hp : order.Perm order')
    (hd : ∀ t ∈ order, ∀ t' ∈ order, t ≠ t' → ∀ k ∈ (responses t).keys, k ∉ (responses t').keys)
    (k : String) :
    (mergedResponses responses order).find? k = (mergedResponses responses order').find? k := by
  rw [find?_mergedResponses, find?_mergedResponses]
  refine findSome?_eq_of_perm ((List.reverse_perm _).trans (hp.trans (List.reverse_perm _).symm))
    fun a ha b hb hsa hsb => ?_
  by_cases hab : a = b
  · rw [hab]
  · exact absurd (ProtoMap.mem_keys_of_find? hsb) (hd a (List.mem_reverse.mp ha) b
      (List.mem_reverse.mp hb) hab k (ProtoMap.mem_keys_of_find? hsa))

/-- **`ret` is last-writer-wins**, whatever order `cq` hands the completions back in: the
merged `ret` of `ConfigureNodes` or `RunTraffic` holds for each key the value of the last
response taken that has the key, and nothing for a key that no response has. So when no two
responses share a key, every order of the same completions gives the same `ret`, key by key. -/
theorem mergedResponses_last_wins (responses : Nat → ProtoMap String) (order : List Nat) :
    (∀ k, (mergedResponses responses order).find? k =
      order.reverse.findSome? fun t => (responses t).find? k) ∧
    ∀ order', order.Perm order' →
      (∀ t ∈ order, ∀ t' ∈ order, t ≠ t' → ∀ k ∈ (responses t).keys, k ∉ (responses t').keys) →
      ∀ k, (mergedResponses responses order').find? k = (mergedResponses responses order).find? k :=
  ⟨find?_mergedResponses responses order, fun _ hp hd k => (mergedResponses_perm hp hd k).symm⟩

/-- Two nodes answer with disjoint endpoint maps, in either order. -/
theorem mergedResponses_last_wins_two_nodes :
    [0, 1].Perm [1, 0] ∧
      (∀ t ∈ [0, 1], ∀ t' ∈ [0, 1], t ≠ t' →
        ∀ k ∈ ((fun t : Nat => if t = 0 then (⟨[("A/0", "h0:1")], by decide⟩ : ProtoMap String)
            else ⟨[("B/0", "h1:1")], by decide⟩) t).keys,
          k ∉ ((fun t : Nat => if t = 0 then (⟨[("A/0", "h0:1")], by decide⟩ : ProtoMap String)
            else ⟨[("B/0", "h1:1")], by decide⟩) t').keys) ∧
      (mergedResponses (fun t => if t = 0 then ⟨[("A/0", "h0:1")], by decide⟩
          else ⟨[("B/0", "h1:1")], by decide⟩) [1, 0]).find? "A/0" =
        (mergedResponses (fun t => if t = 0 then ⟨[("A/0", "h0:1")], by decide⟩
          else ⟨[("B/0", "h1:1")], by decide⟩) [0, 1]).find? "A/0" :=
  ⟨List.Perm.swap 1 0 [], by decide,
    (mergedResponses_last_wins _ [0, 1]).2 [1, 0] (List.Perm.swap 1 0 []) (by decide) "A/0"⟩

/-! ## The four fan-outs of a call -/

/-- **The four fan-outs of call `c` from `s`**, `cq` returning the tags in `order` with
`ok == true`, the RPC on tag `t` ending with `codes t` and answering `responses t`: each
fan-out `c` can start from `s` runs to its verdict (`FanOutRun`), `ret` then holding for each
key the value of the last response taken that has it; and `IntroducePeers` or `RunTraffic`
starts only after the phase before it has taken every completion, none of them failed. -/
structure FanOutsComplete (s : Sys) (c : Nat) (order : List Nat) (codes : Nat → StatusCode)
    (responses : Nat → ProtoMap String) : Prop where
  configureNodes : ∀ i, (s.calls c).pc = .configureNodes i → s.lockFree = true →
    order.Perm (List.range (s.calls c).nodeServiceMap.size) →
    FanOutRun codes responses s c .configureNode 1 (s.calls c).nodeServiceMap.size
      ((s.calls c).nodeServiceMap.entries.map
        (slotFor s.registry.nodeMap StdSet.toList ProtoMap.empty))
      (issuedEvents c .configureNode (s.calls c).nodeServiceMap) order
      (Verdict codes order (fun cl => cl.pc = .introducePeers i ∧
        ∀ k, cl.serviceMap.find? k = order.reverse.findSome? fun t => (responses t).find? k)
        "Unknown GRPC error2")
  introducePeers : ∀ i, (s.calls c).pc = .introducePeers i → s.lockFree = true →
    order.Perm (List.range (s.calls c).nodeServiceMap.size) →
    FanOutRun codes responses s c .introducePeers 1 (s.calls c).nodeServiceMap.size
      ((s.calls c).nodeServiceMap.entries.map
        (slotFor s.registry.nodeMap (fun _ => []) (s.calls c).serviceMap))
      (issuedEvents c .introducePeers (s.calls c).nodeServiceMap) order
      (Verdict codes order (fun cl => cl.pc = .runTraffic i) "Unknown GRPC error")
  runTraffic : ∀ i, (s.calls c).pc = .runTraffic i → s.writer = none →
    order.Perm (List.range (s.calls c).nodeServiceMap.size) →
    FanOutRun codes responses s c .runTraffic (2 * (s.calls c).nodeServiceMap.size + 2)
      (s.calls c).nodeServiceMap.size
      ((s.calls c).nodeServiceMap.keys.map (trafficRpc (stubOf s.registry.nodeMap)))
      ((s.calls c).nodeServiceMap.keys.enum.flatMap fun e =>
        [.markedBusy c e.2, .issued c .runTraffic e.1 e.2]) order
      (Verdict codes order (fun cl => cl.pc = .checkCancelled (i + 1) ∧
        ∃ logs : ServiceLogs, cl.testResults = (s.calls c).testResults ++
            [⟨(s.calls c).test, (s.calls c).serviceMap, logs⟩] ∧
          ∀ k, logs.find? k = order.reverse.findSome? fun t => (responses t).find? k)
        "Unknown GRPC error2")
  cancelTraffic : (s.calls c).pc = .start → s.writer = none →
    order.Perm (List.range (cancelTargets s.registry.nodeMap.entries).length) →
    FanOutRun codes responses s c .cancelTraffic (s.registry.nodeMap.size + 2)
      s.registry.nodeMap.size (cancelTargets s.registry.nodeMap.entries)
      ((cancelTargets s.registry.nodeMap.entries).enum.map fun e =>
        .issued c .cancelTraffic e.1 e.2.node) order
      (fun cl => cl.pc = .lockEntry)
  ordered : PhaseGate (s.calls c)

/-- **Every fan-out completes** from every reachable state: every written slot lies inside
the vector, each target gets one RPC on its own stub, the drain loop takes each completion
once and leaves right after the last, the verdicts are OK exactly when every RPC was, with
`ret` holding for each key the last value a response taken gave it; and the phases of a
`DoRunTest` follow one another. -/
theorem fanOuts_complete {requests : Nat → List DistributedSystemDescription} {s : Sys}
    (h : Reachable requests s) (c : Nat) (order : List Nat) (codes : Nat → StatusCode)
    (responses : Nat → ProtoMap String) : FanOutsComplete s c order codes responses :=
  have hk := ((reachable_inv h).calls c).placed
  ⟨fun _ hpc hlock horder => (configureNodes_run responses hpc hlock hk horder).mono
      fun _ hv => hv.mono fun _ h => ⟨h.1, fun k => by rw [h.2, find?_mergedResponses]⟩,
    fun _ hpc hlock horder => introducePeers_run responses hpc hlock hk horder,
    fun _ hpc hw horder => (runTraffic_run responses hpc hw hk horder).mono
      fun _ hv => hv.mono fun _ h => ⟨h.1, _, h.2, find?_mergedResponses responses order⟩,
    fun hpc hw horder => cancelTraffic_run responses hpc hw horder,
    reachable_phaseGate h c⟩

/-- One node and one test of one instance: after registration and nine steps the call is about
to run `ConfigureNodes` on a one-entry `node_service_map`, with `mutex_` free. -/
theorem fanOuts_complete_one_node :
    ∃ s events, exec (Sys.init fun _ => [⟨[⟨"A", 1⟩], ProtoMap.empty⟩])
        (.registerNode ⟨"h0", 7, ""⟩ true :: List.replicate 9 (.run 0)) = .ok s events ∧
      (s.calls 0).pc = .configureNodes 0 ∧ s.lockFree = true ∧
      (s.calls 0).nodeServiceMap.size = 1 ∧
      FanOutsComplete s 0 [0] (fun _ => .OK) (fun _ => ProtoMap.empty) :=
  ⟨_, _, rfl, rfl, rfl, rfl, fanOuts_complete
    (@reachable_of_exec (fun _ => [⟨[⟨"A", 1⟩], ProtoMap.empty⟩]) _ _
      (.registerNode ⟨"h0", 7, ""⟩ true :: List.replicate 9 (.run 0)) _ .init rfl) 0 [0] _ _⟩

end Distbench
