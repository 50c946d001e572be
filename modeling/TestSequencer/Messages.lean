import TestSequencer.Containers

/-!
# Messages and statuses

The protocol-buffer messages the sequencer reads and writes, with the fields it uses, and
the gRPC / absl status it returns.

* A `map<string, V>` field (`node_service_bundles`, `ServiceEndpointMap.service_endpoints`,
  `ServiceLogs.instance_logs`) is a `ProtoMap`: distinct keys, iteration order unspecified.
  `ProtoMap.mergeFrom` is the map part of `MergeFrom`: every entry of the argument is
  inserted, replacing an entry with the same key.
* Fields that no modelled function reads (the traffic description's RPC and action lists,
  endpoint details, log contents) are left out; a `DistributedSystemDescription` is echoed
  into `TestResult.traffic_config` whole, so leaving them out changes nothing modelled.
-/

set_option autoImplicit false

namespace Distbench

/-- `grpc::StatusCode` (the same numbering as `absl::StatusCode`). -/
inductive StatusCode where
  | OK
  | CANCELLED
  | UNKNOWN
  | INVALID_ARGUMENT
  | DEADLINE_EXCEEDED
  | NOT_FOUND
  | ALREADY_EXISTS
  | PERMISSION_DENIED
  | RESOURCE_EXHAUSTED
  | FAILED_PRECONDITION
  | ABORTED
  | OUT_OF_RANGE
  | UNIMPLEMENTED
  | INTERNAL
  | UNAVAILABLE
  | DATA_LOSS
  | UNAUTHENTICATED
  deriving DecidableEq, Repr

/-- `grpc::Status` / `absl::Status`: a code and a message. -/
structure Status where
  code : StatusCode
  message : String
  deriving DecidableEq, Repr

/-- `grpc::Status::OK`. -/
def Status.ok : Status := ⟨.OK, ""⟩

/-- Peeling one step off a computation in `Except`. -/
theorem bind_eq_ok {ε α β : Type} {x : Except ε α} {f : α → Except ε β} {b : β} :
    (x >>= f) = .ok b ↔ ∃ a, x = .ok a ∧ f a = .ok b := by
  cases x <;> simp [bind, Except.bind]

/-! ## Protobuf maps -/

/-- A protobuf `map<string, V>` field. -/
structure ProtoMap (V : Type) where
  entries : List (String × V)
  nodup : (entries.map Prod.fst).Nodup
  deriving DecidableEq, Repr

/-- `(*map)[k] = v` on the entries: replace the entry of `k`, or add one. -/
def setEntries {V : Type} (k : String) (v : V) : List (String × V) → List (String × V)
  | [] => [(k, v)]
  | (k', w) :: t => if k' = k then (k, v) :: t else (k', w) :: setEntries k v t

theorem mem_setEntries_keys {V : Type} {k k' : String} {v : V} :
    ∀ {l : List (String × V)},
      k' ∈ (setEntries k v l).map Prod.fst ↔ k' = k ∨ k' ∈ l.map Prod.fst
  | [] => by simp [setEntries]
  | (a, w) :: t => by
    unfold setEntries
    split_ifs with h
    · subst h; simp
    · simp only [List.map_cons, List.mem_cons, mem_setEntries_keys]; exact or_left_comm

theorem setEntries_nodup {V : Type} (k : String) (v : V) :
    ∀ {l : List (String × V)}, (l.map Prod.fst).Nodup → ((setEntries k v l).map Prod.fst).Nodup
  | [] => fun _ => by simp [setEntries]
  | (a, w) :: t => fun h => by
    obtain ⟨ha, ht⟩ := List.nodup_cons.mp h
    unfold setEntries
    split_ifs with hak
    · subst hak; exact List.nodup_cons.mpr ⟨ha, ht⟩
    · refine List.nodup_cons.mpr ⟨?_, setEntries_nodup k v ht⟩
      rw [mem_setEntries_keys]; exact not_or.mpr ⟨hak, ha⟩

namespace ProtoMap

variable {V : Type}

def empty : ProtoMap V := ⟨[], List.nodup_nil⟩

def keys (m : ProtoMap V) : List String := m.entries.map Prod.fst

/-- `(*m.mutable_map())[k] = v`. -/
def set (m : ProtoMap V) (k : String) (v : V) : ProtoMap V :=
  ⟨setEntries k v m.entries, setEntries_nodup k v m.nodup⟩

/-- The map part of `m.MergeFrom(other)`. -/
def mergeFrom (m other : ProtoMap V) : ProtoMap V :=
  other.entries.foldl (fun acc e => acc.set e.1 e.2) m

@[simp] theorem mem_keys_set {m : ProtoMap V} {k k' : String} {v : V} :
    k' ∈ (m.set k v).keys ↔ k' = k ∨ k' ∈ m.keys := mem_setEntries_keys

theorem mem_keys_foldl_set {k : String} :
    ∀ (l : List (String × V)) (m : ProtoMap V),
      k ∈ (l.foldl (fun acc e => acc.set e.1 e.2) m).keys ↔ k ∈ m.keys ∨ k ∈ l.map Prod.fst
  | [], m => by simp
  | e :: l, m => by
    rw [List.foldl_cons, mem_keys_foldl_set l, mem_keys_set]
    simp only [List.map_cons, List.mem_cons, or_comm, or_left_comm, or_assoc]

@[simp] theorem mem_keys_mergeFrom {m other : ProtoMap V} {k : String} :
    k ∈ (m.mergeFrom other).keys ↔ k ∈ m.keys ∨ k ∈ other.keys :=
  mem_keys_foldl_set other.entries m

@[simp] theorem keys_empty : (empty : ProtoMap V).keys = [] := rfl

end ProtoMap

/-! ## Messages -/

/-- `NodeRegistration`: the two fields `RegisterNode` checks, and the message's optional
descriptive fields as its `DebugString()` prints them; the whole message, printed, is the key
of `node_id_map_` (line 36), so two registrations that differ only there get different ids. -/
structure NodeRegistration where
  hostname : String
  controlPort : Int
  details : String
  deriving DecidableEq, Repr

/-- `NodeConfig`, the reply of `RegisterNode`. -/
structure NodeConfig where
  nodeId : Nat
  nodeAlias : String
  deriving DecidableEq, Repr

/-- An entry of `DistributedSystemDescription.services`. -/
structure ServiceSpec where
  serverType : String
  count : Int
  deriving DecidableEq, Repr

/-- `DistributedSystemDescription`: the requested services and the pre-placements. -/
structure DistributedSystemDescription where
  services : List ServiceSpec
  nodeServiceBundles : ProtoMap (List String)

/-- `ServiceEndpointMap`: instance name to endpoint. -/
abbrev ServiceEndpointMap := ProtoMap String

/-- `ServiceLogs`: instance name to that instance's logs. -/
abbrev ServiceLogs := ProtoMap String

/-- `TestResult`. -/
structure TestResult where
  trafficConfig : DistributedSystemDescription
  placement : ServiceEndpointMap
  serviceLogs : ServiceLogs

/-- `NodeServiceConfig`, the request of `ConfigureNode`. -/
structure NodeServiceConfig where
  trafficConfig : DistributedSystemDescription
  services : List String

end Distbench
