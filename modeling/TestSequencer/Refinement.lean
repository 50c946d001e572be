import TestSequencer.DoRunTest

/-!
# `DoRunTest`: the function and the concurrent system

`configureNodes` and `doRunTest` read `TestSequencer::ConfigureNodes` and
`TestSequencer::DoRunTest` as functions of the order in which `cq` returns the tags and of what
each node answers. The concurrent system runs the same code as steps of one call among others
(`runCall`, `completeCall`).

* `configureNodes_refinement` — from every reachable state where a call is about to run
  `ConfigureNodes` with `mutex_` free, the system's dispatch step, the completions of `order`
  carrying what `answer` returns for each slot, and the step out of the drain loop leave the
  call exactly as `configureNodes` says: at `IntroducePeers` with `ret` as its service map, or
  returned `ABORTED` with the function's error. So what is proved of the function
  (`configureNodes_covers`) holds of every run.
* `execDriven`, `answer` — a run in which the world outside the sequencer answers each RPC from
  the request the call sent in its slot, read when `cq` hands the completion back.
  `execDriven_answers`: since no completion writes a slot, that is the drain loop taking the
  completions the slots say.
* `Env.testSchedule` — one `DoRunTest` run alone under an `Env`: the placement step, then each
  fan-out (`fanOutSchedule`): its dispatch steps, `cq` returning its tags in `env`'s order with
  what each node answers its request, and the step out of its drain loop; it stops where the
  call leaves `DoRunTest`.
* `configure_phase`, `introduce_phase`, `traffic_phase` — each fan-out run alone ends where the
  function says; the first two leave `node_map_`, `mutex_` and the locals `DoRunTest` reads
  afterwards as they were (`PhaseFrame`), the last leaves the `idle` flags as `runTraffic` does.
* `doRunTest_refinement` — from every reachable state where a call is about to run `DoRunTest`
  with `mutex_` free, `env.testSchedule` leaves `node_map_` and the call as `doRunTest` says.
-/

set_option autoImplicit false

namespace Distbench

/-- **The concurrent system runs `configureNodes`**: from every reachable state where call `c`
is about to run `ConfigureNodes` with `mutex_` free, let `cq` return the tags in any order, the
RPC on each tag ending with what `answer` gives for its slot's request and stub. Then
`configureNodes` returns a result (it does not abort), and the system's dispatch step, those
completions and the step out of the drain loop run and leave the call as that result says: an
OK `ret` sends it on to `IntroducePeers` with `ret` as its service map, an error makes
`DoRunTestSequence` return `ABORTED` with the error's message. -/
theorem configureNodes_refinement {requests : Nat → List DistributedSystemDescription}
    {s : Sys} (h : Reachable requests s) {c i : Nat} (hpc : (s.calls c).pc = .configureNodes i)
    (hlock : s.lockFree = true)
    (answer : NodeServiceConfig → Option Stub → StatusCode × ServiceEndpointMap)
    {order : List Nat} (horder : order.Perm (List.range (s.calls c).nodeServiceMap.size))
    {codes : Nat → StatusCode} {responses : Nat → ProtoMap String}
    (hanswer : ∀ t e, (s.calls c).nodeServiceMap.entries[t]? = some e →
      (codes t, responses t) = answer
        (configureRequest (s.calls c).test
          (slotFor s.registry.nodeMap StdSet.toList ProtoMap.empty e))
        (slotFor s.registry.nodeMap StdSet.toList ProtoMap.empty e).stub) :
    ∃ result s' events,
      configureNodes s.registry.nodeMap (s.calls c).nodeServiceMap (s.calls c).test answer order =
        .ok result ∧
      exec s (.run c :: completions c codes responses order ++ [.run c]) = .ok s' events ∧
      (∀ ret, result = .ok ret →
        (s'.calls c).pc = .introducePeers i ∧ (s'.calls c).serviceMap = ret) ∧
      (∀ e, result = .error e →
        (s'.calls c).pc = .notify ∧ (s'.calls c).result = some ⟨.ABORTED, e.message⟩) := by
  have hk := ((reachable_inv h).calls c).placed
  -- the system's run
  have hrun : FanOutRun codes responses s c .configureNode 1 _ _ _ order _ :=
    configureNodes_run responses hpc hlock hk horder
  obtain ⟨s₁, s₂, s₃, h₁, -, -, h₂, -, -, -, h₃, hv⟩ := hrun
  -- the function's drain loop
  set nsm := (s.calls c).nodeServiceMap
  have hfold := foldl_configureStep (s.calls c).test answer codes responses order
    ⟨nsm.entries.map (some ∘ slotFor s.registry.nodeMap StdSet.toList ProtoMap.empty), nsm.size,
      List.range nsm.size, .OK⟩ ProtoMap.empty fun t ht => by
    have hlt : t < nsm.entries.length := List.mem_range.mp (horder.subset ht)
    refine ⟨_, by rw [slot_dispatched, List.getElem?_eq_getElem hlt]; rfl, ?_⟩
    exact hanswer t _ (List.getElem?_eq_getElem hlt)
  have hst := foldl_finish_status codes order
    ⟨nsm.entries.map (some ∘ slotFor s.registry.nodeMap StdSet.toList ProtoMap.empty), nsm.size,
      List.range nsm.size, .OK⟩
  refine ⟨_, s₃, _, by simp only [configureNodes, dispatchAll_eq hk, hfold]; rfl,
    exec_append (exec_append h₁ h₂ : exec s (.run c :: completions c codes responses order) = _)
      (exec_single (h₃ : step s₂ (.run c) = _)), fun ret hr => ?_, fun e he => ?_⟩
  · simp only [hfold, configureResult] at hr
    split_ifs at hr with hok
    cases hr
    exact hv.1 (hst.mp hok).2
  · simp only [hfold, configureResult] at he
    split_ifs at he with hok
    cases he
    exact hv.2 fun hall => hok (hst.mpr ⟨rfl, hall⟩)

/-- One node, one instance of `A`: the node answers OK with no endpoint. -/
theorem configureNodes_refinement_one_node :
    ∃ s events, exec (Sys.init fun _ => [⟨[⟨"A", 1⟩], ProtoMap.empty⟩])
        (.registerNode ⟨"h0", 7, ""⟩ true :: List.replicate 9 (.run 0)) = .ok s events ∧
      (s.calls 0).pc = .configureNodes 0 ∧ s.lockFree = true ∧
      [0].Perm (List.range (s.calls 0).nodeServiceMap.size) ∧
      ∃ result s' events,
        configureNodes s.registry.nodeMap (s.calls 0).nodeServiceMap (s.calls 0).test
          (fun _ _ => (.OK, ProtoMap.empty)) [0] = .ok result ∧
        exec s (.run 0 :: completions 0 (fun _ => .OK) (fun _ => ProtoMap.empty) [0] ++
          [.run 0]) = .ok s' events ∧
        (∀ ret, result = .ok ret →
          (s'.calls 0).pc = .introducePeers 0 ∧ (s'.calls 0).serviceMap = ret) ∧
        (∀ e, result = .error e →
          (s'.calls 0).pc = .notify ∧ (s'.calls 0).result = some ⟨.ABORTED, e.message⟩) :=
  ⟨_, _, rfl, rfl, rfl, by decide, configureNodes_refinement (c := 0) (i := 0) (@reachable_of_exec
    (fun _ => [⟨[⟨"A", 1⟩], ProtoMap.empty⟩]) _ _
    (.registerNode ⟨"h0", 7, ""⟩ true :: List.replicate 9 (.run 0)) _ .init rfl) rfl rfl _
    (by decide) fun _ _ _ => rfl⟩

/-! ## Runs answered from the slots -/

/-- What a node answers an RPC, given the test the call runs (the `traffic_config` of a
`ConfigureNode` request) and the slot the RPC was sent from, which holds the rest of its
request. -/
abbrev Reply := DistributedSystemDescription → PendingRpc → StatusCode × ProtoMap String

/-- What the RPC in slot `t` of a call ends with, its node answering as `reply` says. -/
def Call.slotAnswer (reply : Reply) (cl : Call) (t : Nat) : StatusCode × ProtoMap String :=
  match cl.fanOut.slot t with
  | some rpc => reply cl.test rpc
  | none => (.OK, ProtoMap.empty)

/-- `cq.Next` hands call `c` the completion of tag `t`, its node having answered the request the
call sent in that slot as `reply` says. -/
def answer (c t : Nat) (reply : Reply) (s : Sys) : Action :=
  .complete c t ((s.calls c).slotAnswer reply t).1 ((s.calls c).slotAnswer reply t).2

/-- A schedule whose next action may depend on the state it is taken in, as the answer to an RPC
depends on the request the call sent: the final state and the log, or the first step that
blocks or aborts. -/
def execDriven (s : Sys) : List (Sys → Action) → Outcome
  | [] => .ok s []
  | a :: as =>
    match step s (a s) with
    | .ok s' events =>
      match execDriven s' as with
      | .ok s'' events' => .ok s'' (events ++ events')
      | o => o
    | o => o

theorem execDriven_cons_ok {s s₁ s₂ : Sys} {a : Sys → Action} {as : List (Sys → Action)}
    {e₁ e₂ : List Event} (h₁ : step s (a s) = .ok s₁ e₁) (h₂ : execDriven s₁ as = .ok s₂ e₂) :
    execDriven s (a :: as) = .ok s₂ (e₁ ++ e₂) := by
  simp only [execDriven, h₁, h₂]

theorem execDriven_single {s s₁ : Sys} {a : Sys → Action} {e : List Event}
    (h : step s (a s) = .ok s₁ e) : execDriven s [a] = .ok s₁ e := by
  simpa using execDriven_cons_ok h (rfl : execDriven s₁ [] = _)

/-- A driven run that ends is its first step followed by the run of the rest. -/
theorem execDriven_cons_inv {s s' : Sys} {a : Sys → Action} {as : List (Sys → Action)}
    {events : List Event} (h : execDriven s (a :: as) = .ok s' events) :
    ∃ s₁ e₁ e₂, step s (a s) = .ok s₁ e₁ ∧ execDriven s₁ as = .ok s' e₂ ∧ events = e₁ ++ e₂ := by
  simp only [execDriven] at h
  split at h
  · rename_i s₁ e₁ h₁
    split at h
    · rename_i s₂ e₂ h₂
      simp only [Outcome.ok.injEq] at h
      exact ⟨s₁, e₁, e₂, h₁, h.1 ▸ h₂, h.2.symm⟩
    · simp_all
  · simp_all

/-- Two driven schedules run one after the other. -/
theorem execDriven_append {s₂ : Sys} {bs : List (Sys → Action)} {e₂ : List Event} :
    ∀ {s s₁ : Sys} {as : List (Sys → Action)} {e₁ : List Event},
      execDriven s as = .ok s₁ e₁ → execDriven s₁ bs = .ok s₂ e₂ →
        execDriven s (as ++ bs) = .ok s₂ (e₁ ++ e₂)
  | s, s₁, [], e₁, h₁, h₂ => by
    simp only [execDriven, Outcome.ok.injEq] at h₁
    obtain ⟨rfl, rfl⟩ := h₁
    simpa using h₂
  | s, s₁, a :: as, e₁, h₁, h₂ => by
    obtain ⟨s', ev, ev', hs, hr, rfl⟩ := execDriven_cons_inv h₁
    rw [List.cons_append, execDriven_cons_ok hs (execDriven_append hr h₂), List.append_assoc]

/-- A driven run is a run of the actions it took. -/
theorem execDriven_exec : ∀ {s s' : Sys} {as : List (Sys → Action)} {events : List Event},
    execDriven s as = .ok s' events → ∃ acts, exec s acts = .ok s' events
  | _, _, [], _, h => ⟨[], h⟩
  | s, _, a :: as, _, h => by
    obtain ⟨s₁, e₁, e₂, hs, hr, rfl⟩ := execDriven_cons_inv h
    obtain ⟨acts, ha⟩ := execDriven_exec hr
    exact ⟨a s :: acts, exec_cons_ok hs ha⟩

/-- A schedule that reads nothing of the state is run by `exec`. -/
theorem execDriven_static (s : Sys) :
    ∀ as : List Action, execDriven s (as.map fun a _ => a) = exec s as
  | [] => rfl
  | a :: as => by
    cases hs : step s a with
    | ok s' ev =>
      cases hr : exec s' as <;>
        simp only [List.map_cons, execDriven, exec, hs, hr, execDriven_static s' as]
    | blocked => simp only [List.map_cons, execDriven, exec, hs]
    | panic f => simp only [List.map_cons, execDriven, exec, hs]

/-- A completion writes no slot and changes no test. -/
theorem completeCall_slot_test {s s' : Sys} {c tag : Nat} {code : StatusCode}
    {response : ProtoMap String} {events : List Event}
    (h : completeCall s c tag code response = .ok s' events) :
    (s'.calls c).fanOut.slot = (s.calls c).fanOut.slot ∧ (s'.calls c).test = (s.calls c).test := by
  simp only [completeCall] at h
  repeat' split at h
  all_goals first
    | (cases h; done)
    | (cases h; simp [configureComplete])

/-- **Answering from the slots is taking the completions the slots say**: `cq` handing call `c`
the tags of `order`, each answered from the request in its slot when it is taken, is taking the
completions answered from the slots as they are at the start, since no completion writes a slot
or changes the test. -/
theorem execDriven_answers (reply : Reply) (c : Nat) : ∀ (order : List Nat) (s : Sys),
    execDriven s (order.map fun t => answer c t reply) =
      exec s (completions c (fun t => ((s.calls c).slotAnswer reply t).1)
        (fun t => ((s.calls c).slotAnswer reply t).2) order)
  | [], _ => rfl
  | t :: order, s => by
    cases h : completeCall s c t ((s.calls c).slotAnswer reply t).1
        ((s.calls c).slotAnswer reply t).2 with
    | ok s' ev =>
      have hs := completeCall_slot_test h
      have hans : (s'.calls c).slotAnswer reply = (s.calls c).slotAnswer reply := by
        funext t'
        simp only [Call.slotAnswer, hs.1, hs.2]
      have ih := execDriven_answers reply c order s'
      rw [hans] at ih
      cases hr : exec s' (order.map fun t =>
          .complete c t ((s.calls c).slotAnswer reply t).1 ((s.calls c).slotAnswer reply t).2) <;>
        simp only [List.map_cons, completions, execDriven, exec, answer, step, h, ih, hr]
    | blocked => simp only [List.map_cons, completions, execDriven, exec, answer, step, h]
    | panic f => simp only [List.map_cons, completions, execDriven, exec, answer, step, h]

/-! ## `DoRunTest` run alone -/

theorem slotAnswer_dispatched (reply : Reply) {cl : Call} {slots : List PendingRpc} {size : Nat}
    (hf : cl.fanOut = dispatched slots size) :
    cl.slotAnswer reply = slotReply slots (reply cl.test) := by
  funext t
  cases h : slots[t]? <;> simp only [Call.slotAnswer, slotReply, hf, dispatched_slot, h]

/-- One fan-out of call `c` run alone: `steps` steps of its dispatch loop, `cq` returning the
tags of `order`, each node answering as `reply` says the request the call sent in its slot, and
the step out of the drain loop. -/
def fanOutSchedule (c steps : Nat) (reply : Reply) (order : List Nat) : List (Sys → Action) :=
  List.replicate steps (fun _ => .run c) ++ order.map (fun t => answer c t reply) ++
    [fun _ => .run c]

/-- A fan-out of call `c` run alone, as the system runs it: the dispatch steps, the completions
answered from the slots the dispatch loop wrote, and the step out of the drain loop. -/
theorem execDriven_fanOutSchedule {s s₁ s₂ s₃ : Sys} {c steps : Nat} {reply : Reply}
    {test : DistributedSystemDescription} {order : List Nat} {slots : List PendingRpc}
    {size : Nat} {e₁ e₂ e₃ : List Event}
    (h₁ : exec s (List.replicate steps (.run c)) = .ok s₁ e₁)
    (hf : (s₁.calls c).fanOut = dispatched slots size) (htest : (s₁.calls c).test = test)
    (h₂ : exec s₁ (completions c (fun t => (slotReply slots (reply test) t).1)
      (fun t => (slotReply slots (reply test) t).2) order) = .ok s₂ e₂)
    (h₃ : step s₂ (.run c) = .ok s₃ e₃) :
    execDriven s (fanOutSchedule c steps reply order) = .ok s₃ (e₁ ++ e₂ ++ e₃) := by
  have hd : execDriven s (List.replicate steps fun _ => .run c) = .ok s₁ e₁ := by
    rw [show (List.replicate steps fun _ => Action.run c) =
      (List.replicate steps (Action.run c)).map fun a _ => a by rw [List.map_replicate],
      execDriven_static]
    exact h₁
  have hc : execDriven s₁ (order.map fun t => answer c t reply) = .ok s₂ e₂ := by
    rw [execDriven_answers, slotAnswer_dispatched reply hf, htest]
    exact h₂
  exact execDriven_append (execDriven_append hd hc) (execDriven_single h₃)

namespace Env

variable (env : Env)

/-- What a node answers the `ConfigureNode` request of a slot (lines 285-288). -/
def configureReply : Reply := fun test rpc => env.configure (configureRequest test rpc) rpc.stub

/-- What a node answers the `IntroducePeers` request of a slot: the endpoint map the call sent
it (line 334). -/
def introduceReply : Reply := fun _ rpc => (env.introduce rpc.serviceMap rpc.stub, ProtoMap.empty)

/-- What a node answers `RunTraffic`. -/
def trafficReply : Reply := fun _ rpc => env.traffic rpc.stub

/-- Call `c` running one `DoRunTest` alone under `env`, to the step on which it leaves
`DoRunTest`: the step that places the services, then `ConfigureNodes`, `IntroducePeers` and
`RunTraffic` (`fanOutSchedule`), each node answering as `env` says the request the call sent
it, stopping after the first fan-out whose verdict fails. -/
def testSchedule (nodeMap : StdMap Node) (test : DistributedSystemDescription) (c : Nat) :
    List (Sys → Action) :=
  (fun _ => .run c) :: match placeServices test nodeMap.keys with
  | .error _ => []
  | .ok nsm =>
    fanOutSchedule c 1 env.configureReply (env.configureOrder nsm.size) ++
      match configureNodes nodeMap nsm test env.configure (env.configureOrder nsm.size) with
      | .ok (.ok serviceMap) =>
        fanOutSchedule c 1 env.introduceReply (env.introduceOrder nsm.size) ++
          match introducePeers nodeMap nsm serviceMap env.introduce
              (env.introduceOrder nsm.size) with
          | .ok (.ok _) =>
            fanOutSchedule c (2 * nsm.size + 2) env.trafficReply (env.trafficOrder nsm.size)
          | _ => []
      | _ => []

end Env

theorem Sys.update_update (s : Sys) (c : Nat) (f g : Call → Call) :
    (s.update c f).update c g = s.update c (g ∘ f) := by
  simp only [Sys.update, Function.update_same, Function.update_idem]
  rfl

theorem exec_cons_inv {s s' : Sys} {a : Action} {as : List Action} {events : List Event}
    (h : exec s (a :: as) = .ok s' events) :
    ∃ s₁ e₁ e₂, step s a = .ok s₁ e₁ ∧ exec s₁ as = .ok s' e₂ := by
  simp only [exec] at h
  split at h
  · rename_i s₁ e₁ h₁
    split at h
    · rename_i s₂ e₂ h₂
      simp only [Outcome.ok.injEq] at h
      exact ⟨s₁, e₁, e₂, h₁, h.1 ▸ h₂⟩
    · simp_all
  · simp_all

section Drains

variable {s : Sys} {c : Nat} (codes : Nat → StatusCode) (responses : Nat → ProtoMap String)

/-- A completion taken by the drain loop of `ConfigureNodes` or `IntroducePeers` changes the
call's locals and nothing else. -/
theorem completeCall_quiet {tag : Nat} {kind : Rpc} {rpc : PendingRpc} (code : StatusCode)
    (response : ProtoMap String) (hk : (s.calls c).pc.draining = some kind)
    (hq : kind = .configureNode ∨ kind = .introducePeers)
    (hs : (s.calls c).fanOut.slot tag = some rpc) (ht : tag ∈ (s.calls c).fanOut.outstanding) :
    completeCall s c tag code response =
      .ok (s.update c (Call.takeCompletion kind tag code response))
        [.completed c kind tag rpc.node code] := by
  simp only [completeCall, hs, ht, ↓reduceIte]
  cases hpc : (s.calls c).pc <;> simp only [Pc.draining, hpc, reduceCtorEq,
    Option.some.injEq] at hk <;> subst hk <;> simp at hq <;> simp only [configureComplete] <;>
    exact congrArg (fun s' => Outcome.ok s' _) (congrArg (s.update c) (funext fun cl => by
      simp [Call.takeCompletion]))

/-- **The drain loop of `ConfigureNodes` or `IntroducePeers`** takes the completions of
`order` and changes nothing but the call's locals. -/
theorem exec_drain_quiet {kind : Rpc} (hq : kind = .configureNode ∨ kind = .introducePeers) :
    ∀ (order : List Nat) (s : Sys), (s.calls c).pc.draining = some kind → order.Nodup →
      (∀ t ∈ order, t ∈ (s.calls c).fanOut.outstanding) →
      (∀ t ∈ order, ∃ rpc, (s.calls c).fanOut.slot t = some rpc) →
      ∃ events, exec s (completions c codes responses order) =
        .ok (s.update c fun cl => cl.drain kind codes responses order) events
  | [], s, _, _, _, _ => ⟨[], by simp [completions, exec, Call.drain, Sys.update]⟩
  | t :: order, s, hk, hn, ho, hs => by
    obtain ⟨rpc, hrpc⟩ := hs t (List.mem_cons_self _ _)
    have h₁ : step s (.complete c t (codes t) (responses t)) = _ :=
      completeCall_quiet (codes t) (responses t) hk hq hrpc (ho t (List.mem_cons_self _ _))
    obtain ⟨htn, hn'⟩ := List.nodup_cons.mp hn
    obtain ⟨events, h₂⟩ := exec_drain_quiet hq order
      (s.update c (Call.takeCompletion kind t (codes t) (responses t)))
      (by simpa [Call.takeCompletion] using hk) hn'
      (fun t' ht' => by
        simpa [Call.takeCompletion] using
          (List.mem_erase_of_ne fun h => htn (by rw [← h]; exact ht')).mpr
            (ho t' (List.mem_cons_of_mem _ ht')))
      (fun t' ht' => by simpa [Call.takeCompletion] using hs t' (List.mem_cons_of_mem _ ht'))
    have h := exec_cons_ok h₁ h₂
    rw [Sys.update_update] at h
    exact ⟨_, h⟩

/-- A completion taken by the drain loop of `CancelTraffic` or `RunTraffic` marks the node of
its slot idle again. -/
theorem completeCall_idleAgain {kind : Rpc} {tag : Nat} {code : StatusCode}
    {response : ProtoMap String} {s' : Sys} {events : List Event}
    (hk : (s.calls c).pc.draining = some kind) (hq : kind = .cancelTraffic ∨ kind = .runTraffic)
    (h : completeCall s c tag code response = .ok s' events) :
    s'.registry.nodeMap = idleAgain s.registry.nodeMap ((s.calls c).fanOut.slot tag) ∧
      (s'.calls c).pc = (s.calls c).pc ∧
      (s'.calls c).fanOut.slot = (s.calls c).fanOut.slot := by
  simp only [completeCall] at h
  split at h
  · cases h
  · rename_i rpc hs
    split_ifs at h
    cases hpc : (s.calls c).pc <;> simp only [Pc.draining, hpc, reduceCtorEq,
      Option.some.injEq] at hk h <;> subst hk <;> simp at hq <;> cases h <;>
      simp [hs, idleAgain, Sys.setIdle, hpc]

/-- What the drain loop of `CancelTraffic` or `RunTraffic` does to `node_map_`. -/
theorem exec_drain_nodeMap {kind : Rpc} (hq : kind = .cancelTraffic ∨ kind = .runTraffic) :
    ∀ (order : List Nat) (s s' : Sys) (events : List Event),
      (s.calls c).pc.draining = some kind →
      exec s (completions c codes responses order) = .ok s' events →
      s'.registry.nodeMap =
        order.foldl (fun m t => idleAgain m ((s.calls c).fanOut.slot t)) s.registry.nodeMap
  | [], s, s', _, _, h => by
    simp only [completions, List.map_nil, exec, Outcome.ok.injEq] at h
    rw [h.1]; rfl
  | t :: order, s, s', _, hk, h => by
    obtain ⟨s₁, _, _, h₁, h₂⟩ := exec_cons_inv h
    obtain ⟨hm, hpc₁, hslot⟩ := completeCall_idleAgain hk hq h₁
    rw [exec_drain_nodeMap hq order s₁ _ _ (hpc₁ ▸ hk) h₂, hslot, hm]
    rfl

/-- A completion changes `node_map_` and the call's locals only. -/
theorem completeCall_shared {s' : Sys} {tag : Nat} {code : StatusCode}
    {response : ProtoMap String} {events : List Event}
    (h : completeCall s c tag code response = .ok s' events) : Sys.Shared s s' := by
  simp only [completeCall] at h
  repeat' split at h
  all_goals first
    | (cases h; done)
    | (cases h; exact ⟨rfl, rfl, rfl, rfl, rfl, rfl⟩)

theorem exec_completions_shared :
    ∀ (order : List Nat) (s s' : Sys) (events : List Event),
      exec s (completions c codes responses order) = .ok s' events → Sys.Shared s s'
  | [], s, s', _, h => by
    simp only [completions, List.map_nil, exec, Outcome.ok.injEq] at h
    exact h.1 ▸ .refl s
  | t :: order, s, s', _, h => by
    obtain ⟨s₁, _, _, h₁, h₂⟩ := exec_cons_inv h
    exact (completeCall_shared h₁).trans (exec_completions_shared order s₁ s' _ h₂)

end Drains

/-- Call `c` went through a fan-out of `DoRunTest` from `s` to `s'` and released `mutex_`:
`node_map_`, the holders of `mutex_` and the locals `DoRunTest` reads afterwards are as they
were. -/
structure PhaseFrame (s s' : Sys) (c : Nat) : Prop where
  registry : s'.registry = s.registry
  shared : Sys.Shared s s'
  nodeServiceMap : (s'.calls c).nodeServiceMap = (s.calls c).nodeServiceMap
  test : (s'.calls c).test = (s.calls c).test
  testResults : (s'.calls c).testResults = (s.calls c).testResults

section Phases

variable {s : Sys} {c i : Nat} (env : Env)

/-- **`ConfigureNodes` run alone** from `DoRunTest`, the nodes answering as `env` says: the
system ends where `configureNodes` says, with `mutex_` free again. -/
theorem configure_phase (hpc : (s.calls c).pc = .configureNodes i) (hlock : s.lockFree = true)
    (hk : ∀ k ∈ (s.calls c).nodeServiceMap.keys, k ∈ s.registry.nodeMap.keys) :
    ∃ r s' events,
      configureNodes s.registry.nodeMap (s.calls c).nodeServiceMap (s.calls c).test env.configure
        (env.configureOrder (s.calls c).nodeServiceMap.size) = .ok r ∧
      execDriven s (fanOutSchedule c 1 env.configureReply
        (env.configureOrder (s.calls c).nodeServiceMap.size)) = .ok s' events ∧
      PhaseFrame s s' c ∧
      (∀ m, r = .ok m → (s'.calls c).pc = .introducePeers i ∧ (s'.calls c).serviceMap = m) ∧
      (∀ e, r = .error e →
        (s'.calls c).pc = .notify ∧ (s'.calls c).result = some ⟨.ABORTED, e.message⟩) := by
  have hw : s.writer = none := by simpa [Sys.lockFree] using (Bool.and_eq_true _ _).mp hlock |>.1
  set nsm := (s.calls c).nodeServiceMap
  set slots := nsm.entries.map (slotFor s.registry.nodeMap StdSet.toList ProtoMap.empty)
  set order := env.configureOrder nsm.size
  set codes := fun t => (slotReply slots (env.configureReply (s.calls c).test) t).1
  set responses := fun t => (slotReply slots (env.configureReply (s.calls c).test) t).2
  have hperm : order.Perm (List.range slots.length) := by
    simpa [slots, StdMap.size] using env.configureOrder_perm nsm.size
  have hlen : order.length = nsm.size := by simpa [slots, StdMap.size] using hperm.length_eq
  -- the function
  have hf := configureNodes_eq (s.calls c).test env.configure hk (slotReply_of_perm hperm)
  -- the system: the dispatch step, the completions, the step out of the drain loop
  set s₁ := Sys.update { s with writer := some c } c fun cl =>
    { cl with pc := .configureDrain i, fanOut := dispatched slots nsm.size,
              serviceMap := ProtoMap.empty }
  have h₁ : step s (.run c) = .ok s₁ (issuedEvents c .configureNode nsm) :=
    runCall_configureNodes hpc hlock hk
  obtain ⟨ev₂, h₂⟩ := exec_drain_quiet (c := c) codes responses (.inl rfl) order s₁
    (by simp [s₁, Pc.draining]) (hperm.nodup_iff.mpr (List.nodup_range _))
    (fun t ht => by simpa [s₁, dispatched] using hperm.subset ht)
    (fun t ht => by
      simpa [s₁, dispatched_slot] using List.getElem?_eq_getElem (List.mem_range.mp (hperm.subset ht)) ▸ ⟨_, rfl⟩)
  set s₂ := s₁.update c fun cl => cl.drain .configureNode codes responses order
  have hc₂ : (s₂.calls c).pc = .configureDrain i ∧ (s₂.calls c).fanOut.rpcCount = 0 ∧
      ((s₂.calls c).fanOut, (s₂.calls c).serviceMap) =
        (order.foldl (fun f t => f.finish t (codes t)) (dispatched slots nsm.size),
          mergedResponses responses order) := by
    simp [s₂, s₁, Call.drain_eq, foldl_finish_rpcCount, hlen, mergedResponses, slots, StdMap.size]
  obtain ⟨hpc₂, h0, hres⟩ := hc₂
  have hframe : ∀ f : Call → Call, (∀ cl, (f cl).nodeServiceMap = cl.nodeServiceMap ∧
      (f cl).test = cl.test ∧ (f cl).testResults = cl.testResults) →
      PhaseFrame s (Sys.update { s₂ with writer := none } c f) c := fun f hf' =>
    ⟨rfl, ⟨hw.symm, rfl, rfl, rfl, rfl, rfl⟩, by simp [hf', s₂, s₁, Call.drain_eq],
      by simp [hf', s₂, s₁, Call.drain_eq], by simp [hf', s₂, s₁, Call.drain_eq]⟩
  have hexec : ∀ {s₃ : Sys}, step s₂ (.run c) = .ok s₃ [] →
      execDriven s (fanOutSchedule c 1 env.configureReply order) = .ok s₃ _ := fun h₃ =>
    execDriven_fanOutSchedule (exec_single h₁)
      (by simp [s₁] : (s₁.calls c).fanOut = dispatched slots nsm.size) (by simp [s₁]) h₂ h₃
  replace hf := hf.trans (congrArg (Except.ok ∘ configureResult) hres.symm)
  cases hr : configureResult ((s₂.calls c).fanOut, (s₂.calls c).serviceMap) with
  | error e =>
    have h₃ : step s₂ (.run c) =
        .ok (Sys.finishSequence { s₂ with writer := none } c ⟨.ABORTED, e.message⟩) [] := by
      simp only [step, runCall, hpc₂, h0, ↓reduceIte, hr]
    refine ⟨.error e, _, _, hf.trans (congrArg _ hr), hexec h₃,
      hframe _ fun _ => ⟨rfl, rfl, rfl⟩, fun m hm => (by cases hm), fun e' he' => ?_⟩
    cases he'
    simp [Sys.finishSequence]
  | ok m =>
    have h₃ : step s₂ (.run c) = .ok (Sys.update { s₂ with writer := none } c fun cl =>
        { cl with pc := .introducePeers i, serviceMap := m }) [] := by
      simp only [step, runCall, hpc₂, h0, ↓reduceIte, hr]
    refine ⟨.ok m, _, _, hf.trans (congrArg _ hr), hexec h₃,
      hframe _ fun _ => ⟨rfl, rfl, rfl⟩, fun m' hm' => ?_, fun e he => (by cases he)⟩
    cases hm'
    exact ⟨by simp, by simp⟩

/-- **`IntroducePeers` run alone** from `DoRunTest`, each node answering as `env` says the
endpoint map the call sent it: the system ends where `introducePeers` of the call's service map
says, with `mutex_` free again. -/
theorem introduce_phase (hpc : (s.calls c).pc = .introducePeers i) (hlock : s.lockFree = true)
    (hk : ∀ k ∈ (s.calls c).nodeServiceMap.keys, k ∈ s.registry.nodeMap.keys) :
    ∃ r s' events,
      introducePeers s.registry.nodeMap (s.calls c).nodeServiceMap (s.calls c).serviceMap
        env.introduce (env.introduceOrder (s.calls c).nodeServiceMap.size) = .ok r ∧
      execDriven s (fanOutSchedule c 1 env.introduceReply
        (env.introduceOrder (s.calls c).nodeServiceMap.size)) = .ok s' events ∧
      PhaseFrame s s' c ∧ (s'.calls c).serviceMap = (s.calls c).serviceMap ∧
      (r = .ok () → (s'.calls c).pc = .runTraffic i) ∧
      (∀ e, r = .error e →
        (s'.calls c).pc = .notify ∧ (s'.calls c).result = some ⟨.ABORTED, e.message⟩) := by
  have hw : s.writer = none := by simpa [Sys.lockFree] using (Bool.and_eq_true _ _).mp hlock |>.1
  set nsm := (s.calls c).nodeServiceMap
  set slots := nsm.entries.map (slotFor s.registry.nodeMap (fun _ => []) (s.calls c).serviceMap)
  set reply := env.introduceReply (s.calls c).test
  set order := env.introduceOrder nsm.size
  set codes := fun t => (slotReply slots reply t).1
  set responses := fun t => (slotReply slots reply t).2
  have hperm : order.Perm (List.range slots.length) := by
    simpa [slots, StdMap.size] using env.introduceOrder_perm nsm.size
  have hlen : order.length = nsm.size := by simpa [slots, StdMap.size] using hperm.length_eq
  -- the function
  have hf := introducePeers_eq (s.calls c).serviceMap env.introduce hk fun t ht =>
    let ⟨rpc, hs, hr⟩ := @slotReply_of_perm _ reply _ hperm t ht
    ⟨rpc, hs, congrArg Prod.fst hr⟩
  -- the system: the dispatch step, the completions, the step out of the drain loop
  set s₁ := Sys.update { s with writer := some c } c fun cl =>
    { cl with pc := .introduceDrain i, fanOut := dispatched slots nsm.size }
  have h₁ : step s (.run c) = .ok s₁ (issuedEvents c .introducePeers nsm) :=
    runCall_introducePeers hpc hlock hk
  obtain ⟨ev₂, h₂⟩ := exec_drain_quiet (c := c) codes responses (.inr rfl) order s₁
    (by simp [s₁, Pc.draining]) (hperm.nodup_iff.mpr (List.nodup_range _))
    (fun t ht => by simpa [s₁, dispatched] using hperm.subset ht)
    (fun t ht => by
      simpa [s₁, dispatched_slot] using
        List.getElem?_eq_getElem (List.mem_range.mp (hperm.subset ht)) ▸ ⟨_, rfl⟩)
  set s₂ := s₁.update c fun cl => cl.drain .introducePeers codes responses order
  have hc₂ : (s₂.calls c).pc = .introduceDrain i ∧ (s₂.calls c).fanOut.rpcCount = 0 ∧
      (s₂.calls c).fanOut =
        order.foldl (fun f t => f.finish t (codes t)) (dispatched slots nsm.size) := by
    simp [s₂, s₁, Call.drain_eq, foldl_finish_rpcCount, hlen, slots, StdMap.size]
  obtain ⟨hpc₂, h0, hfan⟩ := hc₂
  rw [← hfan] at hf
  have hframe : ∀ f : Call → Call, (∀ cl, (f cl).nodeServiceMap = cl.nodeServiceMap ∧
      (f cl).test = cl.test ∧ (f cl).testResults = cl.testResults ∧
      (f cl).serviceMap = cl.serviceMap) →
      PhaseFrame s (Sys.update { s₂ with writer := none } c f) c ∧
        ((Sys.update { s₂ with writer := none } c f).calls c).serviceMap =
          (s.calls c).serviceMap := fun f hf' =>
    ⟨⟨rfl, ⟨hw.symm, rfl, rfl, rfl, rfl, rfl⟩, by simp [hf', s₂, s₁, Call.drain_eq],
      by simp [hf', s₂, s₁, Call.drain_eq], by simp [hf', s₂, s₁, Call.drain_eq]⟩,
      by simp [hf', s₂, s₁, Call.drain_eq]⟩
  have hexec : ∀ {s₃ : Sys}, step s₂ (.run c) = .ok s₃ [] →
      execDriven s (fanOutSchedule c 1 env.introduceReply order) = .ok s₃ _ := fun h₃ =>
    execDriven_fanOutSchedule (exec_single h₁)
      (by simp [s₁] : (s₁.calls c).fanOut = dispatched slots nsm.size) (by simp [s₁]) h₂ h₃
  by_cases hst : (s₂.calls c).fanOut.status = .OK
  · have h₃ : step s₂ (.run c) = .ok (Sys.update { s₂ with writer := none } c fun cl =>
        { cl with pc := .runTraffic i }) [] := by
      simp only [step, runCall, hpc₂, h0, ↓reduceIte, hst]
    obtain ⟨hfr, hsm⟩ := hframe (fun cl => { cl with pc := .runTraffic i })
      fun _ => ⟨rfl, rfl, rfl, rfl⟩
    refine ⟨.ok (), _, _, hf.trans (by rw [if_pos hst]), hexec h₃, hfr, hsm, fun _ => by simp,
      fun e he => (by cases he)⟩
  · have h₃ : step s₂ (.run c) = .ok (Sys.finishSequence { s₂ with writer := none } c
        ⟨.ABORTED, "Unknown GRPC error"⟩) [] := by
      simp only [step, runCall, hpc₂, h0, ↓reduceIte, hst]
    obtain ⟨hfr, hsm⟩ := hframe (fun cl => { cl with
      pc := .notify, result := some ⟨.ABORTED, "Unknown GRPC error"⟩ }) fun _ => ⟨rfl, rfl, rfl, rfl⟩
    refine ⟨_, _, _, hf.trans (by rw [if_neg hst]), hexec h₃, hfr, hsm, fun h => (by cases h),
      fun e he => ?_⟩
    cases he
    simp [Sys.finishSequence]

/-- **`RunTraffic` run alone** from `DoRunTest`, each node answering as `env` says: the system
ends where `runTraffic` says, the `idle` flags of `node_map_` included, with `mutex_` as it
was. -/
theorem traffic_phase (hpc : (s.calls c).pc = .runTraffic i) (hw : s.writer = none)
    (hk : ∀ k ∈ (s.calls c).nodeServiceMap.keys, k ∈ s.registry.nodeMap.keys) :
    ∃ r s' events,
      runTraffic s.registry.nodeMap (s.calls c).nodeServiceMap env.traffic
        (env.trafficOrder (s.calls c).nodeServiceMap.size) = .ok (s'.registry.nodeMap, r) ∧
      execDriven s (fanOutSchedule c (2 * (s.calls c).nodeServiceMap.size + 2) env.trafficReply
        (env.trafficOrder (s.calls c).nodeServiceMap.size)) = .ok s' events ∧
      Sys.Shared s s' ∧
      (∀ logs, r = .ok logs → (s'.calls c).pc = .checkCancelled (i + 1) ∧
        (s'.calls c).testResults = (s.calls c).testResults ++
          [⟨(s.calls c).test, (s.calls c).serviceMap, logs⟩]) ∧
      (∀ e, r = .error e →
        (s'.calls c).pc = .notify ∧ (s'.calls c).result = some ⟨.ABORTED, e.message⟩ ∧
        (s'.calls c).testResults = (s.calls c).testResults) := by
  set nsm := (s.calls c).nodeServiceMap
  set slots := nsm.keys.map (trafficRpc (stubOf s.registry.nodeMap))
  set reply := env.trafficReply (s.calls c).test
  set order := env.trafficOrder nsm.size
  set codes := fun t => (slotReply slots reply t).1
  set responses := fun t => (slotReply slots reply t).2
  have hsize : nsm.size = nsm.keys.length := by simp [StdMap.size, StdMap.keys]
  have hperm : order.Perm (List.range slots.length) := by
    rw [show slots.length = nsm.size by simp [slots, hsize]]
    exact env.trafficOrder_perm nsm.size
  have hlen : order.length = nsm.size := by simpa [slots, hsize] using hperm.length_eq
  -- the function
  have hf := runTraffic_eq env.traffic hk (@slotReply_of_perm _ reply _ hperm)
  -- the system: the dispatch loop, which marks each node busy
  set s₁ := Sys.update { s with readers := c :: s.readers } c fun cl =>
    { cl with pc := .markBusy i 0, fanOut := FanOut.init cl.nodeServiceMap.size,
              logs := ProtoMap.empty }
  have h₁ : step s (.run c) = .ok s₁ [] := by simp [step, runCall, hpc, hw, s₁]
  obtain ⟨s₂, h₂, hc₂, hm₂, hsh₂⟩ := exec_markBusy (c := c) (i := i) (stubOf s.registry.nodeMap)
    nsm.keys [] s₁ (by simp [s₁, nsm]) (by simp [s₁])
    (by simp [s₁, FanOut.init, dispatched, hsize]) (by simp [s₁])
    (fun k hk' => by simpa [s₁] using hk k hk')
  have hd : exec s (List.replicate (2 * nsm.size + 2) (.run c)) = .ok s₂
      ((nsm.keys.enumFrom 0).flatMap fun e =>
        [.markedBusy c e.2, .issued c .runTraffic e.1 e.2]) := by
    rw [show 2 * nsm.size + 2 = 2 * nsm.keys.length + 1 + 1 by omega, List.replicate_succ,
      exec_cons_ok h₁ h₂]
    rfl
  -- the drain loop, which marks each node idle again
  have hf₂ : (s₂.calls c).fanOut = dispatched slots nsm.size := by simp [hc₂, slots, hsize]
  obtain ⟨s₃, h₃, hc₃⟩ := @exec_drain c codes responses .runTraffic order s₂
    (by simp [hc₂, Pc.draining]) (hperm.nodup_iff.mpr (List.nodup_range _))
    (fun t ht => by rw [hf₂]; simpa [dispatched] using hperm.subset ht)
    (fun t ht => by
      rw [hf₂, dispatched_slot]
      exact ⟨_, List.getElem?_eq_getElem (List.mem_range.mp (hperm.subset ht))⟩)
  have hm₃ := exec_drain_nodeMap (c := c) codes responses (.inr rfl) order s₂ s₃ _
    (by simp [hc₂, Pc.draining]) h₃
  rw [hf₂, funext (dispatched_slot slots nsm.size), hm₂] at hm₃
  have hsh := hsh₂.trans (exec_completions_shared codes responses order s₂ s₃ _ h₃)
  -- the step out of the drain loop
  have hpc₃ : (s₃.calls c).pc = .runTrafficDrain i := by simp [hc₃, hc₂]
  have h0 : (s₃.calls c).fanOut.rpcCount = 0 := by
    simp [hc₃, hf₂, foldl_finish_rpcCount, hlen, slots, hsize]
  have hfan : (s₃.calls c).fanOut =
      order.foldl (fun f t => f.finish t (codes t)) (dispatched slots nsm.size) := by
    simp [hc₃, hf₂]
  have hcall : (s₃.calls c).test = (s.calls c).test ∧
      (s₃.calls c).serviceMap = (s.calls c).serviceMap ∧
      (s₃.calls c).testResults = (s.calls c).testResults ∧
      (s₃.calls c).logs = mergedResponses responses order := by
    simp [hc₃, hc₂, s₁, Call.drain_eq, mergedResponses]
  have hexec : ∀ {s₄ : Sys}, step s₃ (.run c) = .ok s₄ [] → execDriven s (fanOutSchedule c
      (2 * nsm.size + 2) env.trafficReply order) = .ok s₄ _ := fun h₄ =>
    execDriven_fanOutSchedule hd hf₂ (by simp [hc₂, s₁]) h₃ h₄
  by_cases hst : (s₃.calls c).fanOut.status = .OK
  · have h₄ : step s₃ (.run c) = .ok (Sys.update { s₃ with readers := s₃.readers.erase c } c
        fun cl => { cl with
          pc := .checkCancelled (i + 1)
          testResults := cl.testResults ++ [⟨cl.test, cl.serviceMap, cl.logs⟩] }) [] := by
      simp only [step, runCall, hpc₃, h0, ↓reduceIte, hst]
    refine ⟨.ok (mergedResponses responses order), _, _, hf.trans ?_, hexec h₄, hsh.reader _,
      fun logs hl => ?_, fun e he => (by cases he)⟩
    · rw [← hfan, if_pos hst]
      refine congrArg Except.ok (Prod.ext ?_ rfl)
      show _ = s₃.registry.nodeMap
      rw [hm₃]
      rfl
    · cases hl
      simp [hcall]
  · have h₄ : step s₃ (.run c) = .ok (Sys.finishSequence { s₃ with readers := s₃.readers.erase c }
        c ⟨.ABORTED, "Unknown GRPC error2"⟩) [] := by
      simp only [step, runCall, hpc₃, h0, ↓reduceIte, hst]
    refine ⟨.error ⟨.INVALID_ARGUMENT, "Unknown GRPC error2"⟩, _, _, hf.trans ?_, hexec h₄,
      hsh.reader _, fun logs hl => (by cases hl), fun e he => ?_⟩
    · rw [← hfan, if_neg hst]
      refine congrArg Except.ok (Prod.ext ?_ rfl)
      show _ = s₃.registry.nodeMap
      rw [hm₃]
      rfl
    · cases he
      simp [Sys.finishSequence, hcall]

end Phases

/-- `DoRunTest` run alone, to the step on which the call leaves it: `Env.testSchedule`, each
node answering the request the call sent it, leaves `node_map_` as `doRunTest` returns it,
`mutex_`, the running handle, the notifications and the cancellation tokens as they were, and
the call as the result says. -/
theorem doRunTest_run {requests : Nat → List DistributedSystemDescription} {s : Sys}
    (h : Reachable requests s) {c i : Nat} (hpc : (s.calls c).pc = .runTest i)
    (hlock : s.lockFree = true) (env : Env) :
    ∃ nodeMap' result,
      doRunTest s.registry.nodeMap (s.calls c).test env = .ok (nodeMap', result) ∧
      ∃ s' events,
        execDriven s (env.testSchedule s.registry.nodeMap (s.calls c).test c) = .ok s' events ∧
        s'.registry.nodeMap = nodeMap' ∧ Sys.Shared s s' ∧
        (∀ r, result = .ok r → (s'.calls c).pc = .checkCancelled (i + 1) ∧
          (s'.calls c).testResults = (s.calls c).testResults ++ [r]) ∧
        (∀ e, result = .error e →
          (s'.calls c).pc = .notify ∧ (s'.calls c).result = some ⟨.ABORTED, e.message⟩ ∧
          (s'.calls c).testResults = (s.calls c).testResults) := by
  obtain ⟨hw, hr⟩ : s.writer = none ∧ s.readers = [] := by simpa [Sys.lockFree] using hlock
  cases hplace : placeServices (s.calls c).test s.registry.nodeMap.keys with
  | error e =>
    -- the placement fails: `DoRunTest` returns its error
    have h₀ : step s (.run c) = .ok (s.finishSequence c ⟨.ABORTED, e.message⟩) [] := by
      simp [step, runCall, hpc, hlock, hplace]
    refine ⟨s.registry.nodeMap, .error e, by simp only [doRunTest, hplace],
      s.finishSequence c ⟨.ABORTED, e.message⟩, [], ?_, rfl, .update _ _ _,
      fun r hr => (by cases hr), fun e' he' => ?_⟩
    · simpa only [Env.testSchedule, hplace] using execDriven_single (a := fun _ => .run c) h₀
    · cases he'
      simp [Sys.finishSequence]
  | ok nsm =>
    set s₀ := s.update c fun cl => { cl with pc := .configureNodes i, nodeServiceMap := nsm }
    have h₀ : step s (.run c) = .ok s₀ [] := by simp [step, runCall, hpc, hlock, hplace, s₀]
    have hreach₀ := h.step h₀
    -- `ConfigureNodes`
    obtain ⟨r₁, s₁, ev₁, hf₁, he₁, hfr₁, hok₁, herr₁⟩ := configure_phase env (s := s₀) (i := i)
      (by simp [s₀]) (by simpa [s₀] using hlock) ((reachable_inv hreach₀).calls c).placed
    simp only [s₀, Sys.update_calls_self, Sys.update_registry] at hf₁ he₁ hok₁
    have hreach₁ := reachable_of_exec hreach₀ (execDriven_exec he₁).choose_spec
    have hm₁ : s₁.registry.nodeMap = s.registry.nodeMap := by rw [hfr₁.registry]; rfl
    have hsh₁ : Sys.Shared s s₁ := (Sys.Shared.update s c _).trans hfr₁.shared
    have htr₁ : (s₁.calls c).testResults = (s.calls c).testResults := by
      rw [hfr₁.testResults]; simp [s₀]
    cases r₁ with
    | error e =>
      -- `ConfigureNodes` fails
      refine ⟨s.registry.nodeMap, .error e, ?_, s₁, [] ++ ev₁, ?_, hm₁, hsh₁,
        fun r hr => (by cases hr),
        fun e' he' => ?_⟩
      · simp [doRunTest, hplace, hf₁, bind, Except.bind, pure, Except.pure]
      · simpa only [Env.testSchedule, hplace, hf₁, List.append_nil] using
          execDriven_cons_ok (a := fun _ => .run c) h₀ he₁
      · cases he'
        exact ⟨(herr₁ e rfl).1, (herr₁ e rfl).2, htr₁⟩
    | ok m =>
      obtain ⟨hpc₁, hsm₁⟩ := hok₁ m rfl
      -- `IntroducePeers`
      obtain ⟨r₂, s₂, ev₂, hf₂, he₂, hfr₂, hsm₂, hok₂, herr₂⟩ := introduce_phase env (s := s₁)
        (i := i) hpc₁ (by simp [Sys.lockFree, hsh₁.writer, hsh₁.readers, hw, hr])
        ((reachable_inv hreach₁).calls c).placed
      simp only [hfr₁.registry, hfr₁.nodeServiceMap, hsm₁, s₀, Sys.update_calls_self,
        Sys.update_registry] at hf₂ he₂
      have hreach₂ := reachable_of_exec hreach₁ (execDriven_exec he₂).choose_spec
      have hm₂ : s₂.registry.nodeMap = s.registry.nodeMap := by rw [hfr₂.registry, hm₁]
      have hsh₂ := hsh₁.trans hfr₂.shared
      have htr₂ : (s₂.calls c).testResults = (s.calls c).testResults := by
        rw [hfr₂.testResults, htr₁]
      cases r₂ with
      | error e =>
        -- `IntroducePeers` fails
        refine ⟨s.registry.nodeMap, .error e, ?_, s₂, [] ++ (ev₁ ++ ev₂), ?_, hm₂, hsh₂,
          fun r hr => (by cases hr),
          fun e' he' => ?_⟩
        · simp [doRunTest, hplace, hf₁, hf₂, bind, Except.bind, pure, Except.pure]
        · simpa only [Env.testSchedule, hplace, hf₁, hf₂, List.append_nil] using
            execDriven_cons_ok (a := fun _ => .run c) h₀ (execDriven_append he₁ he₂)
        · cases he'
          exact ⟨(herr₂ e rfl).1, (herr₂ e rfl).2, htr₂⟩
      | ok u =>
        -- `RunTraffic`
        obtain ⟨r₃, s₃, ev₃, hf₃, he₃, hsh₃, hok₃, herr₃⟩ := traffic_phase env (s := s₂) (i := i)
          (hok₂ rfl) (by rw [hsh₂.writer]; exact hw) ((reachable_inv hreach₂).calls c).placed
        simp only [hfr₂.registry, hfr₂.nodeServiceMap, hfr₁.registry, hfr₁.nodeServiceMap, s₀,
          Sys.update_calls_self, Sys.update_registry] at hf₃ he₃
        refine ⟨s₃.registry.nodeMap, r₃.map fun logs => ⟨(s.calls c).test, m, logs⟩,
          ?_, s₃, [] ++ (ev₁ ++ ev₂ ++ ev₃), ?_, rfl, hsh₂.trans hsh₃, fun r hr => ?_,
          fun e he => ?_⟩
        · simp [doRunTest, hplace, hf₁, hf₂, hf₃, bind, Except.bind, pure, Except.pure]
        · simpa only [Env.testSchedule, hplace, hf₁, hf₂, List.append_assoc] using
            execDriven_cons_ok (a := fun _ => .run c) h₀
              (execDriven_append (execDriven_append he₁ he₂) he₃)
        · cases r₃ with
          | ok logs =>
            simp only [Except.map, Except.ok.injEq] at hr
            subst hr
            obtain ⟨hpc₃, htr⟩ := hok₃ logs rfl
            refine ⟨hpc₃, ?_⟩
            rw [htr, hfr₂.testResults, hfr₁.testResults, hsm₂, hsm₁, hfr₂.test, hfr₁.test]
            simp [s₀]
          | error e => cases hr
        · cases r₃ with
          | ok logs => cases he
          | error e' =>
            simp only [Except.map, Except.error.injEq] at he
            subst he
            obtain ⟨hpc₃, hres₃, htr₃⟩ := herr₃ e' rfl
            exact ⟨hpc₃, hres₃, htr₃.trans htr₂⟩

/-- **The concurrent system runs `DoRunTest`**: from every reachable state where call `c` is
about to run `DoRunTest` of test `i` with `mutex_` free, let the call run alone under any `env`,
`cq` handing back the tags of each fan-out in `env`'s order and each node answering as `env`
says the request the call sent it. Then `doRunTest` does not abort, and `env.testSchedule` runs
the call to the step on which it leaves `DoRunTest`, leaving `node_map_`, `idle` flags
included, as `doRunTest` returns it, and the call as its result says: an OK result is appended
to `response->test_results()` and the call goes on to the check before test `i + 1`; an error
makes `DoRunTestSequence` return `ABORTED` with its message, the results so far kept. -/
theorem doRunTest_refinement {requests : Nat → List DistributedSystemDescription} {s : Sys}
    (h : Reachable requests s) {c i : Nat} (hpc : (s.calls c).pc = .runTest i)
    (hlock : s.lockFree = true) (env : Env) :
    ∃ nodeMap' result,
      doRunTest s.registry.nodeMap (s.calls c).test env = .ok (nodeMap', result) ∧
      ∃ s' events,
        execDriven s (env.testSchedule s.registry.nodeMap (s.calls c).test c) = .ok s' events ∧
        s'.registry.nodeMap = nodeMap' ∧
        (∀ r, result = .ok r → (s'.calls c).pc = .checkCancelled (i + 1) ∧
          (s'.calls c).testResults = (s.calls c).testResults ++ [r]) ∧
        (∀ e, result = .error e →
          (s'.calls c).pc = .notify ∧ (s'.calls c).result = some ⟨.ABORTED, e.message⟩ ∧
          (s'.calls c).testResults = (s.calls c).testResults) := by
  obtain ⟨nodeMap', result, hf, s', events, he, hm, -, hok, herr⟩ := doRunTest_run h hpc hlock env
  exact ⟨nodeMap', result, hf, s', events, he, hm, hok, herr⟩

/-- One node and a test of one instance of `A`, run to its end under `Env.allOk`. -/
theorem doRunTest_refinement_one_node :
    ∃ s events, exec (Sys.init fun _ => [⟨[⟨"A", 1⟩], ProtoMap.empty⟩])
        (.registerNode ⟨"h0", 7, ""⟩ true :: List.replicate 8 (.run 0)) = .ok s events ∧
      (s.calls 0).pc = .runTest 0 ∧ s.lockFree = true ∧
      ∃ nodeMap' result,
        doRunTest s.registry.nodeMap (s.calls 0).test Env.allOk = .ok (nodeMap', result) ∧
        ∃ s' events,
          execDriven s (Env.allOk.testSchedule s.registry.nodeMap (s.calls 0).test 0) =
            .ok s' events ∧ s'.registry.nodeMap = nodeMap' ∧
          (∀ r, result = .ok r → (s'.calls 0).pc = .checkCancelled 1 ∧
            (s'.calls 0).testResults = (s.calls 0).testResults ++ [r]) ∧
          (∀ e, result = .error e →
            (s'.calls 0).pc = .notify ∧ (s'.calls 0).result = some ⟨.ABORTED, e.message⟩ ∧
            (s'.calls 0).testResults = (s.calls 0).testResults) :=
  ⟨_, _, rfl, rfl, rfl, doRunTest_refinement (c := 0) (i := 0) (@reachable_of_exec
    (fun _ => [⟨[⟨"A", 1⟩], ProtoMap.empty⟩]) _ _
    (.registerNode ⟨"h0", 7, ""⟩ true :: List.replicate 8 (.run 0)) _ .init rfl) rfl rfl Env.allOk⟩

end Distbench
