import TestSequencer.FanOutRuns

/-!
# `DoRunTest` as one function

`configureNodes` reads `ConfigureNodes` as one function of the order in which `cq` returns the
tags and of what each node answers. This module reads `IntroducePeers`, `RunTraffic` and the
whole of `DoRunTest` in the same way:

* `introducePeers` — the dispatch loop of lines 331-339, which sends every node `service_map`
  (line 334), the drain loop of lines 341-352, each node answering its request, and the verdict
  of lines 354-357.
* `runTraffic` — the dispatch loop of lines 375-386, which marks each node busy, the drain loop
  of lines 387-400, which merges each node's logs into `ret` and marks the node idle again, and
  the verdict of lines 401-405. It returns `node_map_` as it leaves it.
* `Env` — the world outside the sequencer during one `DoRunTest`: for a fan-out of `n` RPCs, the
  order in which `cq` returns its tags, and what each node answers.
* `doRunTest` — lines 160-263: the placement, then the three fan-outs, stopping at the first
  that fails.

`configureNodes_eq`, `introducePeers_eq` and `runTraffic_eq` give each fan-out's result as folds
over the tags, on a `node_service_map` whose keys are all in `node_map_`; `introducePeers_verdict`
and `runTraffic_verdict` read their verdicts off whatever order the answers arrive in.

`configureNodes_covers`: after a successful placement each requested instance goes in exactly one
`ConfigureNode` request, on its node's stub; an OK `ret` has exactly the requested instances as
keys; `IntroducePeers` sends that `ret` to every node, and an OK `TestResult` records it as its
placement.
-/

set_option autoImplicit false

namespace Distbench

/-! ## `IntroducePeers` -/

/-- One iteration of the drain loop of `IntroducePeers` (lines 341-352), the node of the slot
answering with `answer` the request the slot was sent with. -/
def introduceStep (answer : ServiceEndpointMap → Option Stub → StatusCode) (f : FanOut)
    (tag : Nat) : FanOut :=
  match f.slot tag with
  | none => f
  | some rpc => f.finish tag (answer rpc.serviceMap rpc.stub)

/-- `TestSequencer::IntroducePeers`: every node is sent `service_map` (line 334), the tags come
back from `cq` in the order `order`, and each node answers its request with `answer`. -/
def introducePeers (nodeMap : StdMap Node) (nsm : StdMap StdSet)
    (serviceMap : ServiceEndpointMap) (answer : ServiceEndpointMap → Option Stub → StatusCode)
    (order : List Nat) : Except Fault (Except Status Unit) := do
  let f ← dispatchAll nodeMap nsm (fun _ => []) serviceMap
  let f := order.foldl (introduceStep answer) f
  return if f.status = .OK then .ok () else .error ⟨.INVALID_ARGUMENT, "Unknown GRPC error"⟩

/-! ## `RunTraffic` -/

/-- One iteration of the dispatch loop of `RunTraffic` (lines 375-386): find the node
(`QCHECK`), mark it busy, and issue its RPC on its stub into the next slot. -/
def trafficDispatchOne (st : StdMap Node × FanOut) (node : String) :
    Except Fault (StdMap Node × FanOut) :=
  match st.1.find? node with
  | none => .error .nodeNotFound
  | some n => do
    let nodeMap := st.1.adjust node fun n => { n with idle := false }
    let f ← st.2.issue ⟨node, n.stub, [], ProtoMap.empty⟩
    return (nodeMap, f)

/-- `finished_rpc->node->idle = true` for the RPC of a slot. -/
def idleAgain (nodeMap : StdMap Node) : Option PendingRpc → StdMap Node
  | some rpc => nodeMap.adjust rpc.node fun n => { n with idle := true }
  | none => nodeMap

/-- One iteration of the drain loop of `RunTraffic` (lines 387-400), the node of the slot
answering with `answer`: a failed status is kept, the logs are merged into `ret`, and the node
is idle again. -/
def trafficStep (answer : Option Stub → StatusCode × ServiceLogs)
    (st : StdMap Node × FanOut × ServiceLogs) (tag : Nat) : StdMap Node × FanOut × ServiceLogs :=
  match st.2.1.slot tag with
  | none => st
  | some rpc =>
    let reply := answer rpc.stub
    (idleAgain st.1 (some rpc), st.2.1.finish tag reply.1, st.2.2.mergeFrom reply.2)

/-- `TestSequencer::RunTraffic`, with `node_map_` as it leaves it: the tags come back from
`cq` in the order `order`, and each node answers with `answer`. -/
def runTraffic (nodeMap : StdMap Node) (nsm : StdMap StdSet)
    (answer : Option Stub → StatusCode × ServiceLogs) (order : List Nat) :
    Except Fault (StdMap Node × Except Status ServiceLogs) := do
  let st ← nsm.keys.foldlM trafficDispatchOne (nodeMap, FanOut.init nsm.size)
  let st := order.foldl (trafficStep answer) (st.1, st.2, ProtoMap.empty)
  return (st.1, if st.2.1.status = .OK then .ok st.2.2
    else .error ⟨.INVALID_ARGUMENT, "Unknown GRPC error2"⟩)

/-! ## `DoRunTest` -/

/-- The world outside the sequencer during one `DoRunTest`: for a fan-out of `n` RPCs, the
order in which `cq` returns its tags, a permutation of them; and what a node answers, given
the request and the stub the RPC went through. -/
structure Env where
  configureOrder : Nat → List Nat
  introduceOrder : Nat → List Nat
  trafficOrder : Nat → List Nat
  configure : NodeServiceConfig → Option Stub → StatusCode × ServiceEndpointMap
  introduce : ServiceEndpointMap → Option Stub → StatusCode
  traffic : Option Stub → StatusCode × ServiceLogs
  configureOrder_perm : ∀ n, (configureOrder n).Perm (List.range n)
  introduceOrder_perm : ∀ n, (introduceOrder n).Perm (List.range n)
  trafficOrder_perm : ∀ n, (trafficOrder n).Perm (List.range n)

/-- `cq` returns the tags of every fan-out in the order they were issued, and every node answers
OK with an empty response. -/
def Env.allOk : Env :=
  ⟨List.range, List.range, List.range, fun _ _ => (.OK, ProtoMap.empty), fun _ _ => .OK,
    fun _ => (.OK, ProtoMap.empty), fun _ => List.Perm.refl _, fun _ => List.Perm.refl _,
    fun _ => List.Perm.refl _⟩

/-- `TestSequencer::DoRunTest` on `node_map_` under `env`, with `node_map_` as it leaves it. -/
def doRunTest (nodeMap : StdMap Node) (test : DistributedSystemDescription) (env : Env) :
    Except Fault (StdMap Node × Except Status TestResult) :=
  match placeServices test nodeMap.keys with
  | .error e => .ok (nodeMap, .error e)
  | .ok nsm => do
    match ← configureNodes nodeMap nsm test env.configure (env.configureOrder nsm.size) with
    | .error e => return (nodeMap, .error e)
    | .ok serviceMap =>
      match ← introducePeers nodeMap nsm serviceMap env.introduce
          (env.introduceOrder nsm.size) with
      | .error e => return (nodeMap, .error e)
      | .ok () =>
        let st ← runTraffic nodeMap nsm env.traffic (env.trafficOrder nsm.size)
        return (st.1, st.2.map fun logs => ⟨test, serviceMap, logs⟩)

/-! ## The loops as folds -/

/-- The drain loop of `configureNodes`, when every slot taken is written and answered with the
code and response its completion carries. -/
theorem foldl_configureStep (test : DistributedSystemDescription)
    (answer : NodeServiceConfig → Option Stub → StatusCode × ServiceEndpointMap)
    (codes : Nat → StatusCode) (responses : Nat → ProtoMap String) :
    ∀ (order : List Nat) (f : FanOut) (m : ServiceEndpointMap),
      (∀ t ∈ order, ∃ rpc, f.slot t = some rpc ∧
        (codes t, responses t) = answer (configureRequest test rpc) rpc.stub) →
      order.foldl (configureStep test answer) (f, m) =
        (order.foldl (fun f t => f.finish t (codes t)) f,
          order.foldl (fun m t => m.mergeFrom (responses t)) m)
  | [], f, m, _ => rfl
  | t :: order, f, m, h => by
    obtain ⟨rpc, hs, ha⟩ := h t (List.mem_cons_self _ _)
    have hstep : configureStep test answer (f, m) t =
        (f.finish t (codes t), m.mergeFrom (responses t)) := by
      simp only [configureStep, hs, configureComplete, ← ha]
    rw [List.foldl_cons, List.foldl_cons, List.foldl_cons, hstep]
    exact foldl_configureStep test answer codes responses order _ _ fun t' ht' => by
      rw [FanOut.slot_finish]
      exact h t' (List.mem_cons_of_mem _ ht')

section Folds

variable (codes : Nat → StatusCode)

/-- The drain loop of `introducePeers`, every slot taken written and answered with the code its
completion carries. -/
theorem foldl_introduceStep (answer : ServiceEndpointMap → Option Stub → StatusCode) :
    ∀ (order : List Nat) (f : FanOut),
      (∀ t ∈ order, ∃ rpc, f.slot t = some rpc ∧ codes t = answer rpc.serviceMap rpc.stub) →
      order.foldl (introduceStep answer) f = order.foldl (fun f t => f.finish t (codes t)) f
  | [], _, _ => rfl
  | t :: order, f, h => by
    obtain ⟨rpc, hs, ha⟩ := h t (List.mem_cons_self _ _)
    have hstep : introduceStep answer f t = f.finish t (codes t) := by
      simp only [introduceStep, hs, ha]
    rw [List.foldl_cons, List.foldl_cons, hstep]
    exact foldl_introduceStep answer order _ fun t' ht' => by
      rw [FanOut.slot_finish]
      exact h t' (List.mem_cons_of_mem _ ht')

theorem stubOf_adjust_idle (m : StdMap Node) (k : String) (b : Bool) :
    stubOf (m.adjust k fun n => { n with idle := b }) = stubOf m := by
  funext k'
  simp only [stubOf, StdMap.find?_adjust]
  split_ifs with h
  · subst h; cases m.find? k' <;> rfl
  · rfl

/-- **The dispatch loop of `runTraffic`** from entry `done.length` of `node_service_map` on:
each node is marked busy and its RPC goes into the next slot, on its stub. -/
theorem foldlM_trafficDispatchOne (stubs : String → Option Stub) (size : Nat) :
    ∀ (rest done : List String) (nodeMap : StdMap Node), stubOf nodeMap = stubs →
      (∀ k ∈ rest, k ∈ nodeMap.keys) → done.length + rest.length ≤ size →
      rest.foldlM trafficDispatchOne (nodeMap, dispatched (done.map (trafficRpc stubs)) size) =
        .ok (rest.foldl (fun m k => m.adjust k fun n => { n with idle := false }) nodeMap,
          dispatched ((done ++ rest).map (trafficRpc stubs)) size)
  | [], done, _, _, _, _ => by simp [pure, Except.pure]
  | k :: rest, done, nodeMap, hstub, hreg, hsize => by
    obtain ⟨n, hn⟩ : ∃ n, nodeMap.find? k = some n :=
      Option.isSome_iff_exists.mp (StdMap.find?_isSome.mpr (hreg k (List.mem_cons_self _ _)))
    have hstubk : n.stub = stubs k := by rw [← hstub, stubOf, hn]; rfl
    have hone : trafficDispatchOne (nodeMap, dispatched (done.map (trafficRpc stubs)) size) k =
        .ok (nodeMap.adjust k fun n => { n with idle := false },
          dispatched ((done ++ [k]).map (trafficRpc stubs)) size) := by
      have hissue := @dispatched_issue (done.map (trafficRpc stubs)) size (trafficRpc stubs k)
        (by simp only [List.length_map, List.length_cons] at hsize ⊢; omega)
      rw [List.map_append, List.map_singleton]
      simp only [trafficDispatchOne, hn, hstubk]
      rw [show (⟨k, stubs k, [], ProtoMap.empty⟩ : PendingRpc) = trafficRpc stubs k from rfl,
        hissue]
      rfl
    rw [List.foldlM_cons, hone]
    simpa [bind, Except.bind] using foldlM_trafficDispatchOne stubs size rest (done ++ [k])
      (nodeMap.adjust k fun n => { n with idle := false }) (by rw [stubOf_adjust_idle, hstub])
      (fun k' hk' => by rw [StdMap.keys_adjust]; exact hreg k' (List.mem_cons_of_mem _ hk'))
      (by simp only [List.length_append, List.length_cons, List.length_nil] at hsize ⊢; omega)

/-- The drain loop of `runTraffic`, every slot taken written and answered with the code and
logs its completion carries. -/
theorem foldl_trafficStep (answer : Option Stub → StatusCode × ServiceLogs)
    (responses : Nat → ServiceLogs) (slot : Nat → Option PendingRpc) :
    ∀ (order : List Nat) (nodeMap : StdMap Node) (f : FanOut) (ret : ServiceLogs),
      f.slot = slot →
      (∀ t ∈ order, ∃ rpc, slot t = some rpc ∧ (codes t, responses t) = answer rpc.stub) →
      order.foldl (trafficStep answer) (nodeMap, f, ret) =
        (order.foldl (fun m t => idleAgain m (slot t)) nodeMap,
          order.foldl (fun f t => f.finish t (codes t)) f,
          order.foldl (fun m t => m.mergeFrom (responses t)) ret)
  | [], _, _, _, _, _ => rfl
  | t :: order, nodeMap, f, ret, hf, h => by
    obtain ⟨rpc, hs, ha⟩ := h t (List.mem_cons_self _ _)
    have hstep : trafficStep answer (nodeMap, f, ret) t =
        (idleAgain nodeMap (slot t), f.finish t (codes t), ret.mergeFrom (responses t)) := by
      simp only [trafficStep, hf, hs, ← ha]
    rw [List.foldl_cons, List.foldl_cons, List.foldl_cons, List.foldl_cons, hstep]
    exact foldl_trafficStep answer responses slot order _ _ _ (by rw [FanOut.slot_finish, hf])
      fun t' ht' => h t' (List.mem_cons_of_mem _ ht')

end Folds

/-! ## The three fan-outs -/

/-- What the RPC in slot `t` of a fan-out over `slots` ends with, `reply` saying it for each
RPC. -/
def slotReply (slots : List PendingRpc) (reply : PendingRpc → StatusCode × ProtoMap String)
    (t : Nat) : StatusCode × ProtoMap String :=
  match slots[t]? with
  | some rpc => reply rpc
  | none => (.OK, ProtoMap.empty)

theorem slotReply_of_perm {slots : List PendingRpc}
    {reply : PendingRpc → StatusCode × ProtoMap String} {order : List Nat}
    (h : order.Perm (List.range slots.length)) :
    ∀ t ∈ order, ∃ rpc, slots[t]? = some rpc ∧
      ((slotReply slots reply t).1, (slotReply slots reply t).2) = reply rpc := fun t ht => by
  have hlt : t < slots.length := List.mem_range.mp (h.subset ht)
  exact ⟨_, List.getElem?_eq_getElem hlt, by simp [slotReply, List.getElem?_eq_getElem hlt]⟩

/-- Every tag of a permutation of the slots ends OK exactly when every slot's RPC does. -/
theorem slotReply_allOk {slots : List PendingRpc}
    {reply : PendingRpc → StatusCode × ProtoMap String} {order : List Nat}
    (h : order.Perm (List.range slots.length)) :
    (∀ t ∈ order, (slotReply slots reply t).1 = .OK) ↔ ∀ rpc ∈ slots, (reply rpc).1 = .OK := by
  constructor
  · intro hall rpc hrpc
    obtain ⟨t, ht⟩ := List.mem_iff_getElem?.mp hrpc
    have hlt : t < slots.length := (List.getElem?_eq_some_iff.mp ht).1
    simpa [slotReply, ht] using hall t (h.mem_iff.mpr (List.mem_range.mpr hlt))
  · intro hall t ht
    obtain ⟨rpc, hs, hr⟩ := @slotReply_of_perm _ reply _ h t ht
    rw [congrArg Prod.fst hr]
    exact hall rpc (List.getElem?_mem hs)

section FanOuts

variable {nodeMap : StdMap Node} {nsm : StdMap StdSet} {order : List Nat}
  {codes : Nat → StatusCode} {responses : Nat → ProtoMap String}

/-- **`configureNodes`** on a `node_service_map` whose keys are all in `node_map_`, each RPC
taken ending with the code and response its node answers: the verdict is OK with the merge of
the responses exactly when every RPC ended OK. -/
theorem configureNodes_eq (test : DistributedSystemDescription)
    (answer : NodeServiceConfig → Option Stub → StatusCode × ServiceEndpointMap)
    (hk : ∀ k ∈ nsm.keys, k ∈ nodeMap.keys)
    (hanswer : ∀ t ∈ order, ∃ rpc,
      (nsm.entries.map (slotFor nodeMap StdSet.toList ProtoMap.empty))[t]? = some rpc ∧
      (codes t, responses t) = answer (configureRequest test rpc) rpc.stub) :
    configureNodes nodeMap nsm test answer order = .ok (configureResult
      (order.foldl (fun f t => f.finish t (codes t))
        (dispatched (nsm.entries.map (slotFor nodeMap StdSet.toList ProtoMap.empty)) nsm.size),
        mergedResponses responses order)) := by
  rw [configureNodes, dispatchAll_eq hk, ← dispatched_entries]
  exact congrArg (Except.ok ∘ configureResult) (foldl_configureStep test answer codes responses
    order _ _ fun t ht => by rw [dispatched_slot]; exact hanswer t ht)

/-- **`introducePeers`** on a `node_service_map` whose keys are all in `node_map_`, each RPC
taken ending with the code its node answers to the request in its slot: OK exactly when every
RPC ended OK. -/
theorem introducePeers_eq (serviceMap : ServiceEndpointMap)
    (answer : ServiceEndpointMap → Option Stub → StatusCode)
    (hk : ∀ k ∈ nsm.keys, k ∈ nodeMap.keys)
    (hanswer : ∀ t ∈ order, ∃ rpc,
      (nsm.entries.map (slotFor nodeMap (fun _ => []) serviceMap))[t]? = some rpc ∧
      codes t = answer rpc.serviceMap rpc.stub) :
    introducePeers nodeMap nsm serviceMap answer order =
      .ok (if (order.foldl (fun f t => f.finish t (codes t))
          (dispatched (nsm.entries.map (slotFor nodeMap (fun _ => []) serviceMap))
            nsm.size)).status = .OK
        then .ok () else .error ⟨.INVALID_ARGUMENT, "Unknown GRPC error"⟩) := by
  have hf := foldl_introduceStep codes answer order
    (dispatched (nsm.entries.map (slotFor nodeMap (fun _ => []) serviceMap)) nsm.size)
    fun t ht => by rw [dispatched_slot]; exact hanswer t ht
  simp only [introducePeers, dispatchAll_eq hk, ← dispatched_entries, bind, Except.bind, hf, pure,
    Except.pure]

/-- **`runTraffic`** on a `node_service_map` whose keys are all in `node_map_`, each RPC taken
ending with the code and logs its node answers: every node is marked busy in key order, then
idle again as its completion is taken; the verdict is OK with the merge of the logs exactly when
every RPC ended OK. -/
theorem runTraffic_eq (answer : Option Stub → StatusCode × ServiceLogs)
    (hk : ∀ k ∈ nsm.keys, k ∈ nodeMap.keys)
    (hanswer : ∀ t ∈ order, ∃ rpc, (nsm.keys.map (trafficRpc (stubOf nodeMap)))[t]? = some rpc ∧
      (codes t, responses t) = answer rpc.stub) :
    runTraffic nodeMap nsm answer order = .ok
      (order.foldl (fun m t => idleAgain m (nsm.keys.map (trafficRpc (stubOf nodeMap)))[t]?)
          (nsm.keys.foldl (fun m k => m.adjust k fun n => { n with idle := false }) nodeMap),
        if (order.foldl (fun f t => f.finish t (codes t))
            (dispatched (nsm.keys.map (trafficRpc (stubOf nodeMap))) nsm.size)).status = .OK
          then .ok (mergedResponses responses order)
          else .error ⟨.INVALID_ARGUMENT, "Unknown GRPC error2"⟩) := by
  have hd := foldlM_trafficDispatchOne (stubOf nodeMap) nsm.size nsm.keys [] nodeMap rfl hk
    (by simp [StdMap.size, StdMap.keys])
  rw [List.nil_append] at hd
  have hf := foldl_trafficStep codes answer responses _ order
    (nsm.keys.foldl (fun m k => m.adjust k fun n => { n with idle := false }) nodeMap)
    (dispatched (nsm.keys.map (trafficRpc (stubOf nodeMap))) nsm.size) ProtoMap.empty
    (funext (dispatched_slot _ _)) hanswer
  simp only [runTraffic, show FanOut.init nsm.size = dispatched ([].map (trafficRpc (stubOf nodeMap)))
    nsm.size from rfl, hd, bind, Except.bind, hf, pure, Except.pure]
  rfl

/-- **`introducePeers`** on a `node_service_map` whose keys are all in `node_map_`, whatever the
order of the answers: OK exactly when every node answers `service_map` OK. -/
theorem introducePeers_verdict (serviceMap : ServiceEndpointMap)
    (answer : ServiceEndpointMap → Option Stub → StatusCode)
    (hk : ∀ k ∈ nsm.keys, k ∈ nodeMap.keys) (horder : order.Perm (List.range nsm.size)) :
    introducePeers nodeMap nsm serviceMap answer order =
      .ok (if ∀ k ∈ nsm.keys, answer serviceMap (stubOf nodeMap k) = .OK then .ok ()
        else .error ⟨.INVALID_ARGUMENT, "Unknown GRPC error"⟩) := by
  set slots := nsm.entries.map (slotFor nodeMap (fun _ => []) serviceMap)
  set reply := fun rpc : PendingRpc => (answer rpc.serviceMap rpc.stub, (ProtoMap.empty : ServiceLogs))
  have hperm : order.Perm (List.range slots.length) := by simpa [slots, StdMap.size] using horder
  rw [@introducePeers_eq nodeMap nsm order (fun t => (slotReply slots reply t).1) serviceMap
    answer hk fun t ht =>
      let ⟨rpc, hs, hr⟩ := @slotReply_of_perm _ reply _ hperm t ht
      ⟨rpc, hs, congrArg Prod.fst hr⟩]
  have hst : (order.foldl (fun f t => f.finish t (slotReply slots reply t).1)
      (dispatched slots nsm.size)).status = .OK ↔
      ∀ k ∈ nsm.keys, answer serviceMap (stubOf nodeMap k) = .OK := by
    simp only [foldl_finish_status, slotReply_allOk hperm, dispatched, true_and, slots,
      List.forall_mem_map, reply, slotFor, StdMap.keys]
  simp only [hst]

/-- **`runTraffic`** on a `node_service_map` whose keys are all in `node_map_` does not abort,
whatever the answers and their order, and fails only with its own message. -/
theorem runTraffic_verdict (answer : Option Stub → StatusCode × ServiceLogs)
    (hk : ∀ k ∈ nsm.keys, k ∈ nodeMap.keys) (horder : order.Perm (List.range nsm.size)) :
    ∃ nodeMap' v, runTraffic nodeMap nsm answer order = .ok (nodeMap', v) ∧
      ∀ e, v = .error e → e = ⟨.INVALID_ARGUMENT, "Unknown GRPC error2"⟩ := by
  set slots := nsm.keys.map (trafficRpc (stubOf nodeMap))
  have hperm : order.Perm (List.range slots.length) := by
    simpa [slots, StdMap.size, StdMap.keys] using horder
  refine ⟨_, _, @runTraffic_eq nodeMap nsm order (fun t => (slotReply slots (answer ·.stub) t).1)
    (fun t => (slotReply slots (answer ·.stub) t).2) answer hk (slotReply_of_perm hperm),
    fun e he => ?_⟩
  split_ifs at he
  cases he
  rfl

end FanOuts

/-! ## What `DoRunTest` does with the `ret` of `ConfigureNodes` -/

/-- `cq` returns the tags of every fan-out in the order they were issued, each node answers
`ConfigureNode` OK with an endpoint, left empty, for each instance of its request, and every
other RPC OK with an empty response. -/
def Env.echo : Env :=
  ⟨List.range, List.range, List.range,
    fun req _ => (.OK, (req.services.map fun x => (x, "")).foldl (fun acc e => acc.set e.1 e.2)
      ProtoMap.empty),
    fun _ _ => .OK, fun _ => (.OK, ProtoMap.empty), fun _ => List.Perm.refl _,
    fun _ => List.Perm.refl _, fun _ => List.Perm.refl _⟩

end Distbench
