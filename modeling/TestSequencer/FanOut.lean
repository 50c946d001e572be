import TestSequencer.Placement
import TestSequencer.Registry

/-!
# Fan-out calls: `ConfigureNodes`, `IntroducePeers`, `RunTraffic`, `CancelTraffic`

Every fan-out has the same locals: the vector `pending_rpcs`, sized before the dispatch
loop, the counter `rpc_count`, the completion queue `cq` and the `status` of the last failed
RPC. The dispatch loop writes `pending_rpcs[rpc_count++]` and issues one RPC whose tag is
that slot; the drain loop takes tags from `cq` until `rpc_count` is zero.

* `FanOut.issue` — one iteration of a dispatch loop; `Fault.slotOutOfRange` when
  `rpc_count` is past the end of the vector.
* `FanOut.finish` — one iteration of a drain loop with `ok == true`.
* `dispatchAll` — the dispatch loops of `ConfigureNodes` and `IntroducePeers` (one RPC per
  key of `node_service_map`, `Fault.nodeNotFound` when the `QCHECK` fails).
* `configureNodes` — the whole of `ConfigureNodes`, with the order in which `cq` returns the
  tags and the answer of each node as arguments.

`configureNodes_requests`: after a successful placement each requested instance goes in
exactly one request, to its node's stub, and the merged map of an OK result has exactly the
requested instances as keys.

The completion queue returns only issued tags, each once with `ok == true` (that is how a
client `Finish` tag completes); a `Next` with `ok == false` changes no state and is left out.
-/

set_option autoImplicit false

namespace Distbench

/-- How the sequencer process aborts. -/
inductive Fault where
  /-- A `QCHECK(it != node_map_.end())` fails. -/
  | nodeNotFound
  /-- `pending_rpcs[rpc_count]` is past the end of the vector. -/
  | slotOutOfRange
  /-- `running_test_sequence_context_->IsCancelled()` on a null pointer. -/
  | nullContext
  deriving DecidableEq, Repr

/-- A written entry of `pending_rpcs`: the node the RPC went to, the stub it was issued on, and
its request: the services of a `ConfigureNode` request (line 288) and the endpoint map of an
`IntroducePeers` request (`rpc_state.request = service_map`, line 334). The other fan-outs send
neither and leave both empty. -/
structure PendingRpc where
  node : String
  stub : Option Stub
  services : List String
  serviceMap : ServiceEndpointMap
  deriving DecidableEq, Repr

/-- The locals of one fan-out call. `outstanding` holds the tags issued whose completion
`cq.Next` has not returned yet. -/
structure FanOut where
  pendingRpcs : List (Option PendingRpc)
  rpcCount : Nat
  outstanding : List Nat
  status : StatusCode
  deriving DecidableEq, Repr

namespace FanOut

/-- `std::vector<PendingRpc> pending_rpcs(size); int rpc_count = 0;`. -/
def init (size : Nat) : FanOut := ⟨List.replicate size none, 0, [], .OK⟩

/-- `auto& rpc_state = pending_rpcs[rpc_count]; ++rpc_count; ... Finish(..., &rpc_state)`. -/
def issue (f : FanOut) (rpc : PendingRpc) : Except Fault FanOut :=
  if f.rpcCount < f.pendingRpcs.length then
    .ok { f with
      pendingRpcs := f.pendingRpcs.set f.rpcCount (some rpc)
      rpcCount := f.rpcCount + 1
      outstanding := f.outstanding ++ [f.rpcCount] }
  else .error .slotOutOfRange

/-- `--rpc_count; if (!finished_rpc->status.ok()) status = finished_rpc->status;`. -/
def finish (f : FanOut) (tag : Nat) (code : StatusCode) : FanOut :=
  { f with
    rpcCount := f.rpcCount - 1
    outstanding := f.outstanding.erase tag
    status := if code = .OK then f.status else code }

/-- The entry a tag points to. -/
def slot (f : FanOut) (tag : Nat) : Option PendingRpc := (f.pendingRpcs[tag]?).join

@[simp] theorem init_rpcCount (size : Nat) : (init size).rpcCount = 0 := rfl
@[simp] theorem init_outstanding (size : Nat) : (init size).outstanding = [] := rfl
@[simp] theorem slot_init (size tag : Nat) : (init size).slot tag = none := by
  simp only [init, slot, List.getElem?_replicate]; split <;> rfl

@[simp] theorem finish_rpcCount (f : FanOut) (tag : Nat) (code : StatusCode) :
    (f.finish tag code).rpcCount = f.rpcCount - 1 := rfl
@[simp] theorem finish_outstanding (f : FanOut) (tag : Nat) (code : StatusCode) :
    (f.finish tag code).outstanding = f.outstanding.erase tag := rfl
@[simp] theorem slot_finish (f : FanOut) (tag : Nat) (code : StatusCode) :
    (f.finish tag code).slot = f.slot := rfl

/-- What an `issue` that stays in the vector does. -/
theorem issue_ok {f f' : FanOut} {rpc : PendingRpc} (h : f.issue rpc = .ok f') :
    f'.rpcCount = f.rpcCount + 1 ∧ f'.outstanding = f.outstanding ++ [f.rpcCount] ∧
      f'.slot f.rpcCount = some rpc ∧ ∀ tag, tag ≠ f.rpcCount → f'.slot tag = f.slot tag := by
  unfold issue at h
  split_ifs at h with hlt
  cases h
  refine ⟨rfl, rfl, by simp [slot, List.getElem?_set, hlt], fun tag ht => ?_⟩
  simp [slot, List.getElem?_set, Ne.symm ht]

end FanOut

/-- The stub `node_map_` holds for a node. -/
def stubOf (nodeMap : StdMap Node) (node : String) : Option Stub :=
  (nodeMap.find? node).bind Node.stub

/-- One iteration of the dispatch loop of `ConfigureNodes` (lines 280-292) or
`IntroducePeers` (lines 331-339): find the node (`QCHECK`), issue on its stub. -/
def dispatchOne (nodeMap : StdMap Node) (services : StdSet → List String)
    (serviceMap : ServiceEndpointMap) (f : FanOut) (e : String × StdSet) : Except Fault FanOut :=
  match nodeMap.find? e.1 with
  | none => .error .nodeNotFound
  | some node => f.issue ⟨e.1, node.stub, services e.2, serviceMap⟩

/-- The dispatch loop over `node_service_map`. Its request carries `services` of the node's
services (all of them for `ConfigureNode`, none for `IntroducePeers`) and the endpoint map
`serviceMap` (the empty map for `ConfigureNode`, `service_map` for `IntroducePeers`). -/
def dispatchAll (nodeMap : StdMap Node) (nsm : StdMap StdSet) (services : StdSet → List String)
    (serviceMap : ServiceEndpointMap) : Except Fault FanOut :=
  nsm.entries.foldlM (dispatchOne nodeMap services serviceMap) (FanOut.init nsm.size)

/-- The slot the dispatch loop writes for an entry of `node_service_map`. -/
def slotFor (nodeMap : StdMap Node) (services : StdSet → List String)
    (serviceMap : ServiceEndpointMap) (e : String × StdSet) : PendingRpc :=
  ⟨e.1, stubOf nodeMap e.1, services e.2, serviceMap⟩

/-- The `ConfigureNode` request of a slot (lines 285-288). -/
def configureRequest (test : DistributedSystemDescription) (rpc : PendingRpc) :
    NodeServiceConfig :=
  ⟨test, rpc.services⟩

/-- One iteration of the drain loop of `ConfigureNodes` (lines 294-306). -/
def configureComplete (st : FanOut × ServiceEndpointMap) (tag : Nat) (code : StatusCode)
    (response : ServiceEndpointMap) : FanOut × ServiceEndpointMap :=
  (st.1.finish tag code, st.2.mergeFrom response)

/-- Lines 308-312. -/
def configureResult (st : FanOut × ServiceEndpointMap) : Except Status ServiceEndpointMap :=
  if st.1.status = .OK then .ok st.2 else .error ⟨.INVALID_ARGUMENT, "Unknown GRPC error2"⟩

/-- One iteration of the drain loop of `ConfigureNodes`, the node of the slot answering with
`answer`. -/
def configureStep (test : DistributedSystemDescription)
    (answer : NodeServiceConfig → Option Stub → StatusCode × ServiceEndpointMap)
    (st : FanOut × ServiceEndpointMap) (tag : Nat) : FanOut × ServiceEndpointMap :=
  match st.1.slot tag with
  | none => st
  | some rpc =>
    let reply := answer (configureRequest test rpc) rpc.stub
    configureComplete st tag reply.1 reply.2

/-- `TestSequencer::ConfigureNodes`: the tags come back from `cq` in the order `order`, and
each node answers its request with `answer`. -/
def configureNodes (nodeMap : StdMap Node) (nsm : StdMap StdSet)
    (test : DistributedSystemDescription)
    (answer : NodeServiceConfig → Option Stub → StatusCode × ServiceEndpointMap)
    (order : List Nat) : Except Fault (Except Status ServiceEndpointMap) := do
  let f ← dispatchAll nodeMap nsm StdSet.toList ProtoMap.empty
  return configureResult (order.foldl (configureStep test answer) (f, ProtoMap.empty))

/-! ## The dispatch loop -/

theorem foldlM_dispatchOne (nodeMap : StdMap Node) (services : StdSet → List String)
    (serviceMap : ServiceEndpointMap) :
    ∀ (l : List (String × StdSet)) (done : List PendingRpc) (r : Nat) (out : List Nat)
      (st : StatusCode), (∀ e ∈ l, e.1 ∈ nodeMap.keys) → l.length ≤ r →
      l.foldlM (dispatchOne nodeMap services serviceMap)
          ⟨done.map some ++ List.replicate r none, done.length, out, st⟩ =
        .ok ⟨(done ++ l.map (slotFor nodeMap services serviceMap)).map some ++
            List.replicate (r - l.length) none,
          done.length + l.length, out ++ List.range' done.length l.length, st⟩
  | [], done, r, out, st, _, _ => by simp [pure, Except.pure]
  | e :: l, done, r, out, st, hk, hr => by
    obtain ⟨node, hnode⟩ : ∃ node, nodeMap.find? e.1 = some node :=
      Option.isSome_iff_exists.mp (StdMap.find?_isSome.mpr (hk e (List.mem_cons_self _ _)))
    obtain ⟨r, rfl⟩ : ∃ r', r = r' + 1 := ⟨r - 1, by simp at hr; omega⟩
    have hstep : dispatchOne nodeMap services serviceMap
        ⟨done.map some ++ List.replicate (r + 1) none, done.length, out, st⟩ e =
        .ok ⟨(done ++ [slotFor nodeMap services serviceMap e]).map some ++
            List.replicate r none,
          (done ++ [slotFor nodeMap services serviceMap e]).length, out ++ [done.length], st⟩ := by
      simp [dispatchOne, hnode, FanOut.issue, slotFor, stubOf, List.replicate_succ]
    have ih := foldlM_dispatchOne nodeMap services serviceMap l
      (done ++ [slotFor nodeMap services serviceMap e]) r
      (out ++ [done.length]) st (fun e' he' => hk e' (List.mem_cons_of_mem _ he'))
      (by simp at hr; omega)
    simp only [List.foldlM_cons, hstep, bind, Except.bind, ih]
    simp [List.range'_succ]
    omega

theorem dispatchAll_eq {nodeMap : StdMap Node} {nsm : StdMap StdSet}
    {services : StdSet → List String} {serviceMap : ServiceEndpointMap}
    (hk : ∀ k ∈ nsm.keys, k ∈ nodeMap.keys) :
    dispatchAll nodeMap nsm services serviceMap =
      .ok ⟨nsm.entries.map (some ∘ slotFor nodeMap services serviceMap), nsm.size,
        List.range nsm.size, .OK⟩ := by
  have := foldlM_dispatchOne nodeMap services serviceMap nsm.entries [] nsm.size [] .OK
    (fun e he => hk e.1 (List.mem_map_of_mem _ he)) le_rfl
  simp only [List.map_nil, List.nil_append, List.length_nil, List.replicate, Nat.sub_self,
    List.append_nil, Nat.zero_add, List.range'_eq_map_range, List.map_id', StdMap.size] at this
  simpa [dispatchAll, FanOut.init, StdMap.size, List.map_map, List.range_eq_range'] using this

theorem slot_dispatched (nodeMap : StdMap Node) (nsm : StdMap StdSet)
    (services : StdSet → List String) (serviceMap : ServiceEndpointMap) (i : Nat) :
    FanOut.slot ⟨nsm.entries.map (some ∘ slotFor nodeMap services serviceMap), nsm.size,
      List.range nsm.size, .OK⟩ i = (nsm.entries[i]?).map (slotFor nodeMap services serviceMap) := by
  simp only [FanOut.slot, List.getElem?_map]
  cases nsm.entries[i]? <;> rfl

/-! ## The drain loop of `ConfigureNodes` -/

theorem configureStep_slot (test : DistributedSystemDescription)
    (answer : NodeServiceConfig → Option Stub → StatusCode × ServiceEndpointMap)
    (st : FanOut × ServiceEndpointMap) (tag : Nat) :
    (configureStep test answer st tag).1.slot = st.1.slot := by
  unfold configureStep; split <;> rfl

/-- The endpoint map the drain loop merges: every answer to a tag it took. -/
theorem mem_keys_foldl_configureStep (test : DistributedSystemDescription)
    (answer : NodeServiceConfig → Option Stub → StatusCode × ServiceEndpointMap) (k : String) :
    ∀ (order : List Nat) (st : FanOut × ServiceEndpointMap),
      k ∈ (order.foldl (configureStep test answer) st).2.keys ↔
        k ∈ st.2.keys ∨ ∃ tag ∈ order, ∃ rpc, st.1.slot tag = some rpc ∧
          k ∈ (answer (configureRequest test rpc) rpc.stub).2.keys
  | [], st => by simp
  | tag :: order, st => by
    rw [List.foldl_cons, mem_keys_foldl_configureStep test answer k order, configureStep_slot]
    have h2 : k ∈ (configureStep test answer st tag).2.keys ↔ k ∈ st.2.keys ∨
        ∃ rpc, st.1.slot tag = some rpc ∧
          k ∈ (answer (configureRequest test rpc) rpc.stub).2.keys := by
      unfold configureStep
      split <;> simp_all [configureComplete]
    rw [h2]
    simp only [List.mem_cons, or_and_right, exists_or, exists_eq_left, or_assoc]

/-- A service placed on a node sits in that node's entry of `node_service_map`. -/
theorem mem_servicesOf_entry {nsm : StdMap StdSet} {b x : String} (h : x ∈ servicesOf nsm b) :
    ∃ (i : Nat) (v : StdSet), nsm.entries[i]? = some (b, v) ∧ x ∈ v.toList := by
  cases hv : nsm.find? b with
  | none => simp [servicesOf, hv] at h
  | some v =>
    obtain ⟨i, hi⟩ := List.mem_iff_getElem?.mp (StdMap.find?_mem hv)
    exact ⟨i, v, hi, by simpa [servicesOf, hv] using h⟩

/-- **`ConfigureNodes` after a successful placement.** Each requested instance is sent in
exactly one request, on the stub `node_map_` holds for the node it was placed on; and when
every node answers with the names of its request, an OK result merges exactly the requested
instances, in whatever order the answers arrive. -/
theorem configureNodes_requests (test : DistributedSystemDescription) (snapshot : List String)
    (nodeMap : StdMap Node) (nsm : StdMap StdSet)
    (answer : NodeServiceConfig → Option Stub → StatusCode × ServiceEndpointMap)
    (order : List Nat)
    (hplace : placeServices test snapshot = .ok nsm)
    (hgrow : ∀ k ∈ snapshot, k ∈ nodeMap.keys)
    (horder : order.Perm (List.range nsm.size))
    (hanswer : ∀ req stub k, k ∈ (answer req stub).2.keys ↔ k ∈ req.services) :
    ∃ f, dispatchAll nodeMap nsm StdSet.toList ProtoMap.empty = .ok f ∧
      (∀ x ∈ requestedInstances test.services,
        ∃! i, ∃ rpc, f.slot i = some rpc ∧ x ∈ rpc.services) ∧
      (∀ i rpc, f.slot i = some rpc →
        rpc.stub = stubOf nodeMap rpc.node ∧
          configureRequest test rpc = ⟨test, servicesOf nsm rpc.node⟩) ∧
      (∀ ret, configureNodes nodeMap nsm test answer order = .ok (.ok ret) →
        ∀ k, k ∈ ret.keys ↔ k ∈ requestedInstances test.services) := by
  have hk : ∀ k ∈ nsm.keys, k ∈ nodeMap.keys := fun k hk =>
    hgrow k (placeServices_keys_subset hplace hk)
  -- a written slot is the slot of an entry of `node_service_map`
  have hslot : ∀ i rpc, FanOut.slot
      ⟨nsm.entries.map (some ∘ slotFor nodeMap StdSet.toList ProtoMap.empty), nsm.size,
        List.range nsm.size, .OK⟩ i = some rpc →
      ∃ e, nsm.entries[i]? = some e ∧ rpc = slotFor nodeMap StdSet.toList ProtoMap.empty e := by
    intro i rpc h
    rw [slot_dispatched] at h
    obtain ⟨e, he, rfl⟩ := Option.map_eq_some'.mp h
    exact ⟨e, he, rfl⟩
  have hentry : ∀ e ∈ nsm.entries, servicesOf nsm e.1 = e.2.toList := fun e he => by
    simp [servicesOf, StdMap.find?_of_mem he]
  refine ⟨_, dispatchAll_eq hk, fun x hx => ?_, fun i rpc h => ?_, fun ret h k => ?_⟩
  · obtain ⟨b, hb, hu⟩ := placeServices_exactly_once hplace hx
    obtain ⟨i, v, hi, hxv⟩ := mem_servicesOf_entry hb
    refine ⟨i, ⟨_, by rw [slot_dispatched, hi]; rfl, hxv⟩, ?_⟩
    rintro j ⟨rpc, hj, hxj⟩
    obtain ⟨e, he, rfl⟩ := hslot j rpc hj
    have hb' : e.1 = b := hu e.1 (by
      show x ∈ servicesOf nsm e.1
      rw [hentry e (List.getElem?_mem he)]; exact hxj)
    have hkj : nsm.keys[j]? = some b := by simp [StdMap.keys, List.getElem?_map, he, hb']
    have hki : nsm.keys[i]? = some b := by simp [StdMap.keys, List.getElem?_map, hi]
    exact getElem?_inj_of_nodup nsm.keys_nodup hkj hki
  · obtain ⟨e, he, rfl⟩ := hslot i rpc h
    exact ⟨rfl, congrArg _ (hentry e (List.getElem?_mem he)).symm⟩
  · simp only [configureNodes, dispatchAll_eq hk, bind, Except.bind, pure, Except.pure,
      Except.ok.injEq, configureResult] at h
    split_ifs at h
    cases h
    rw [mem_keys_foldl_configureStep]
    simp only [ProtoMap.keys_empty, List.not_mem_nil, false_or, hanswer, configureRequest]
    constructor
    · rintro ⟨tag, -, rpc, htag, hkr⟩
      obtain ⟨e, he, rfl⟩ := hslot tag rpc htag
      exact placeServices_services_subset hplace (b := e.1)
        (by rw [hentry e (List.getElem?_mem he)]; exact hkr)
    · intro hx
      obtain ⟨b, hb, -⟩ := placeServices_exactly_once hplace hx
      obtain ⟨i, v, hi, hxv⟩ := mem_servicesOf_entry hb
      have hlt : i < nsm.size := (List.getElem?_eq_some_iff.mp hi).1
      exact ⟨i, horder.mem_iff.mpr (List.mem_range.mpr hlt), _,
        by rw [slot_dispatched, hi]; rfl, hxv⟩

end Distbench
