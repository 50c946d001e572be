import TestSequencer.Messages

/-!
# The registry: `TestSequencer::RegisterNode`

`RegisterNode` validates the registration, then, under the exclusive lock, picks the id
(the id recorded for this payload, or `node_map_.size()`), records a new payload in
`node_id_map_`, builds a stub for `dns:///<hostname>:<port>` and, if the stub was built,
writes `node_map_["node<id>"]`. Whether the stub is built is not decided by the sequencer,
so it is an argument (`stubOk`).

`node_id_map_` is keyed by `request->DebugString()`, the text serialization, which tells
two registrations apart exactly when they differ; the model keys it by the registration.

Results:

* `registerNode_invalid` — an invalid registration changes nothing.
* `registerNode_repeat` — a payload already in `node_id_map_` gets its recorded id back,
  whatever happened in between.
* `registerNode_unknown_records` — a failed stub build still records a new payload's id.
* `registerAll_keeps_id` — a recorded payload keeps its id through every later sequence of
  calls, and each later registration of it with a stub is answered with that id.
* `registerNode_keys`, `registerNode_busy` — `RegisterNode` removes no node and never clears
  `idle`.
-/

set_option autoImplicit false

namespace Distbench

/-- The client stub of a node manager, identified by the channel target it was built for. -/
structure Stub where
  target : String
  deriving DecidableEq, Repr

/-- Modelled from the spec: `TestSequencer::Node` is declared in the sequencer's header,
which is not available; the spec gives its fields and says `idle` is true initially. -/
structure Node where
  registration : NodeRegistration
  stub : Option Stub
  idle : Bool
  deriving DecidableEq, Repr

instance : Inhabited Node := ⟨⟨⟨"", 0, ""⟩, none, true⟩⟩

/-- The registry part of the sequencer's state. -/
structure Registry where
  nodeMap : StdMap Node
  nodeIdMap : NodeRegistration → Option Nat

/-- The empty registry of a freshly started sequencer. -/
def Registry.empty : Registry := ⟨StdMap.empty, fun _ => none⟩

/-- `absl::StrCat("node", node_id)`. -/
def nodeAlias (nodeId : Nat) : String := "node" ++ toString nodeId

/-- `absl::StrCat("dns:///", hostname, ":", control_port)`. -/
def nodeService (request : NodeRegistration) : String :=
  "dns:///" ++ request.hostname ++ ":" ++ toString request.controlPort

/-- The id `RegisterNode` uses and the `node_id_map_` it leaves (lines 35-43). -/
def allocateId (r : Registry) (request : NodeRegistration) :
    Nat × (NodeRegistration → Option Nat) :=
  match r.nodeIdMap request with
  | some nodeId => (nodeId, r.nodeIdMap)
  | none => (r.nodeMap.size, Function.update r.nodeIdMap request (some r.nodeMap.size))

/-- `TestSequencer::RegisterNode`: the reply (or error status) and the new registry. -/
def registerNode (r : Registry) (request : NodeRegistration) (stubOk : Bool) :
    Except Status NodeConfig × Registry :=
  if request.hostname = "" ∨ request.controlPort ≤ 0 then
    (.error ⟨.INVALID_ARGUMENT, "Invalid Registration"⟩, r)
  else
    let (nodeId, nodeIdMap) := allocateId r request
    if stubOk then
      (.ok ⟨nodeId, nodeAlias nodeId⟩,
        ⟨r.nodeMap.upsert (nodeAlias nodeId) fun node =>
          { node with registration := request, stub := some ⟨nodeService request⟩ }, nodeIdMap⟩)
    else
      (.error ⟨.UNKNOWN, "Could not create node stub."⟩, { r with nodeIdMap := nodeIdMap })

/-- A sequence of `RegisterNode` calls: every reply, and the final registry. -/
def registerAll :
    Registry → List (NodeRegistration × Bool) → List (Except Status NodeConfig) × Registry
  | r, [] => ([], r)
  | r, (request, stubOk) :: rest =>
    let (reply, r') := registerNode r request stubOk
    let (replies, r'') := registerAll r' rest
    (reply :: replies, r'')

/-! ## Step facts -/

variable {r : Registry} {request : NodeRegistration} {stubOk : Bool}

theorem registerNode_invalid (h : request.hostname = "" ∨ request.controlPort ≤ 0) :
    registerNode r request stubOk = (.error ⟨.INVALID_ARGUMENT, "Invalid Registration"⟩, r) := by
  simp [registerNode, h]

theorem allocateId_of_some {nodeId : Nat} (h : r.nodeIdMap request = some nodeId) :
    allocateId r request = (nodeId, r.nodeIdMap) := by
  simp [allocateId, h]

theorem allocateId_of_none (h : r.nodeIdMap request = none) :
    allocateId r request =
      (r.nodeMap.size, Function.update r.nodeIdMap request (some r.nodeMap.size)) := by
  simp [allocateId, h]

/-- After `allocateId`, the payload is recorded under the id it was given, and every other
recorded payload keeps its id. -/
theorem allocateId_map (r : Registry) (request : NodeRegistration) (q : NodeRegistration) :
    (allocateId r request).2 q =
      if q = request then some (allocateId r request).1 else r.nodeIdMap q := by
  cases h : r.nodeIdMap request with
  | none => by_cases hq : q = request <;> simp [allocateId_of_none h, hq, Function.update]
  | some nodeId =>
    by_cases hq : q = request
    · subst hq; simp [allocateId_of_some h, h]
    · simp [allocateId_of_some h, hq]

/-- The maps after a call that passed validation. -/
theorem registerNode_maps (hv : ¬(request.hostname = "" ∨ request.controlPort ≤ 0)) :
    (registerNode r request stubOk).2.nodeIdMap = (allocateId r request).2 ∧
      (registerNode r request stubOk).2.nodeMap =
        if stubOk then r.nodeMap.upsert (nodeAlias (allocateId r request).1) fun node =>
          { node with registration := request, stub := some ⟨nodeService request⟩ }
        else r.nodeMap := by
  cases stubOk <;> simp [registerNode, hv]

/-- A payload recorded in `node_id_map_` is answered with its recorded id. -/
theorem registerNode_repeat {nodeId : Nat} (h : r.nodeIdMap request = some nodeId)
    (hv : ¬(request.hostname = "" ∨ request.controlPort ≤ 0)) :
    (registerNode r request true).1 = .ok ⟨nodeId, nodeAlias nodeId⟩ := by
  simp [registerNode, hv, allocateId_of_some h]

/-- A stub that cannot be built still leaves a new payload recorded in `node_id_map_`. -/
theorem registerNode_unknown_records (h : r.nodeIdMap request = none)
    (hv : ¬(request.hostname = "" ∨ request.controlPort ≤ 0)) :
    registerNode r request false =
      (.error ⟨.UNKNOWN, "Could not create node stub."⟩,
        { r with nodeIdMap := Function.update r.nodeIdMap request (some r.nodeMap.size) }) := by
  simp [registerNode, hv, allocateId_of_none h]

/-- `RegisterNode` never removes a node. -/
theorem registerNode_keys {k : String} (h : k ∈ r.nodeMap.keys) :
    k ∈ (registerNode r request stubOk).2.nodeMap.keys := by
  unfold registerNode
  split_ifs <;> simp [h]

/-- `RegisterNode` never clears `idle`: a node it leaves busy was busy before. -/
theorem registerNode_busy {n : String} {node : Node}
    (h : (registerNode r request stubOk).2.nodeMap.find? n = some node)
    (hidle : node.idle = false) :
    ∃ node₀, r.nodeMap.find? n = some node₀ ∧ node₀.idle = false := by
  unfold registerNode at h
  split_ifs at h with hv hs
  · exact ⟨node, h, hidle⟩
  · simp only [StdMap.find?_upsert] at h
    split_ifs at h with hn
    · cases hfind : r.nodeMap.find? (nodeAlias (allocateId r request).1) with
      | none => simp [hfind] at h; subst h; simp [default] at hidle
      | some node₀ =>
        simp only [hfind, Option.getD_some, Option.some.injEq] at h
        subst h hn
        exact ⟨node₀, hfind, hidle⟩
    · exact ⟨node, h, hidle⟩
  · exact ⟨node, h, hidle⟩

/-- A payload recorded in `node_id_map_` keeps its id through every later sequence of
`RegisterNode` calls, and every later call that registers it with a stub is answered with that
id. -/
theorem registerAll_keeps_id {q : NodeRegistration} {k : Nat}
    (hv : ¬(q.hostname = "" ∨ q.controlPort ≤ 0)) :
    ∀ (r : Registry) (calls : List (NodeRegistration × Bool)), r.nodeIdMap q = some k →
      (registerAll r calls).2.nodeIdMap q = some k ∧
        ∀ i : Nat, calls[i]? = some (q, true) →
          (registerAll r calls).1[i]? = some (Except.ok ⟨k, nodeAlias k⟩)
  | r, [], hq => ⟨hq, fun i h => by simp at h⟩
  | r, (request, stubOk) :: rest, hq => by
    -- the first call leaves `q` recorded under `k`
    have hq' : (registerNode r request stubOk).2.nodeIdMap q = some k := by
      by_cases hreq : request.hostname = "" ∨ request.controlPort ≤ 0
      · rw [registerNode_invalid hreq]; exact hq
      · rw [(registerNode_maps hreq).1, allocateId_map]
        split_ifs with h
        · subst h; simp [allocateId_of_some hq]
        · exact hq
    obtain ⟨hmap, hreplies⟩ := registerAll_keeps_id hv _ rest hq'
    refine ⟨hmap, fun i h => ?_⟩
    cases i with
    | zero =>
      simp only [List.getElem?_cons_zero, Option.some.injEq, Prod.mk.injEq] at h
      obtain ⟨rfl, rfl⟩ := h
      simpa [registerAll] using registerNode_repeat hq hv
    | succ i => simpa [registerAll] using hreplies i (by simpa using h)

/-- `h1` is recorded by a call whose stub failed; its later registration gets that id. -/
theorem registerAll_keeps_id_after_failed_stub :
    ¬(("h1" : String) = "" ∨ (7 : Int) ≤ 0) ∧
      (registerNode Registry.empty ⟨"h1", 7, ""⟩ false).2.nodeIdMap ⟨"h1", 7, ""⟩ = some 0 ∧
      ((registerAll (registerNode Registry.empty ⟨"h1", 7, ""⟩ false).2
          [(⟨"h2", 7, ""⟩, true), (⟨"h1", 7, ""⟩, true)]).2.nodeIdMap ⟨"h1", 7, ""⟩ = some 0 ∧
        ∀ i : Nat,
          [((⟨"h2", 7, ""⟩ : NodeRegistration), true), (⟨"h1", 7, ""⟩, true)][i]? = some (⟨"h1", 7, ""⟩, true) →
          (registerAll (registerNode Registry.empty ⟨"h1", 7, ""⟩ false).2
            [(⟨"h2", 7, ""⟩, true), (⟨"h1", 7, ""⟩, true)]).1[i]? = some (Except.ok ⟨0, nodeAlias 0⟩)) :=
  ⟨by decide, rfl, registerAll_keeps_id (q := ⟨"h1", 7, ""⟩) (by decide) _ _ rfl⟩

/-- The recorded id outlives the failed call: `h1` fails, `h2` then takes id 0, and the
retried `h1` is given id 0 as well. -/
theorem registerAll_failed_stub_shares_id :
    (registerAll Registry.empty [(⟨"h1", 7, ""⟩, false), (⟨"h2", 7, ""⟩, true), (⟨"h1", 7, ""⟩, true)]).1 =
      [.error ⟨.UNKNOWN, "Could not create node stub."⟩, .ok ⟨0, "node0"⟩, .ok ⟨0, "node0"⟩] :=
  rfl

/-- The failed call is not a no-op: it leaves `h1` recorded, and the replies to the later calls
differ from those of the same calls made without it. -/
theorem registerNode_failed_stub_not_undone :
    (registerNode Registry.empty ⟨"h1", 7, ""⟩ false).1 =
        .error ⟨.UNKNOWN, "Could not create node stub."⟩ ∧
      (registerNode Registry.empty ⟨"h1", 7, ""⟩ false).2.nodeIdMap ⟨"h1", 7, ""⟩ = some 0 ∧
      Registry.empty.nodeIdMap ⟨"h1", 7, ""⟩ = none ∧
      (registerAll (registerNode Registry.empty ⟨"h1", 7, ""⟩ false).2
          [(⟨"h2", 7, ""⟩, true), (⟨"h1", 7, ""⟩, true)]).1 = [.ok ⟨0, "node0"⟩, .ok ⟨0, "node0"⟩] ∧
      (registerAll Registry.empty [(⟨"h2", 7, ""⟩, true), (⟨"h1", 7, ""⟩, true)]).1 =
        [.ok ⟨0, "node0"⟩, .ok ⟨1, "node1"⟩] :=
  ⟨rfl, rfl, rfl, rfl, rfl⟩

end Distbench
