import TestSequencer.Names
import TestSequencer.Locking

/-!
# The aliases of `node_map_`

`RegisterNode` names a node `node<id>` (lines 53-55), the id being the one recorded in
`node_id_map_` for the payload, or `node_map_.size()` for a payload seen for the first time
(lines 35-43), which is recorded even when no stub is built.

* `AliasInv` — the keys of `node_map_` are exactly `node0 … node(n-1)`, `n` its size; every
  recorded id is at most `n`; and the registration stored under `node<k>` is a payload
  recorded with id `k`.
* `AliasInv.register` — one `RegisterNode` keeps it: the id `n` names no listed node
  (`AliasInv.alias_mem_iff`), so the first registration of a payload adds an entry and
  overwrites none, and a recorded id names a listed node or is `n`.
* `reachable_aliasInv` — it holds in every reachable state of the system.

Two payloads may still share an id (a first payload that failed to get a stub leaves its id
equal to `node_map_.size()`); the invariant holds across that.
-/

set_option autoImplicit false

namespace Distbench

theorem nodeAlias_injective : Function.Injective nodeAlias := fun i j h => by
  have hd : (toString i).data = (toString j).data :=
    List.append_cancel_left (congrArg String.data h)
  rw [← decimalValue_toString i, hd, decimalValue_toString]

namespace StdMap

variable {V : Type}

theorem size_eq_length_keys (m : StdMap V) : m.size = m.keys.length :=
  (List.length_map _ _).symm

/-- `m[k]` adds an entry exactly when `k` is not a key. -/
theorem size_upsert [Inhabited V] (m : StdMap V) (k : String) (f : V → V) :
    (m.upsert k f).size = if k ∈ m.keys then m.size else m.size + 1 := by
  rw [size_eq_length_keys, size_eq_length_keys]
  split_ifs with hk
  · refine ((List.perm_ext_iff_of_nodup (keys_nodup _) (keys_nodup m)).mpr fun a => ?_).length_eq
    rw [mem_keys_upsert]
    exact ⟨fun h => h.elim (· ▸ hk) id, .inr⟩
  · have hp := (List.perm_ext_iff_of_nodup (keys_nodup (m.upsert k f))
      (List.nodup_cons.mpr ⟨hk, keys_nodup m⟩)).mpr fun a => by
        rw [mem_keys_upsert, List.mem_cons]
    simpa using hp.length_eq

end StdMap

theorem findEntry_map {W : Type} (g : Node → W) (k : String) :
    ∀ l : List (String × Node),
      findEntry k (l.map fun e => (e.1, g e.2)) = (findEntry k l).map g
  | [] => rfl
  | (k', v) :: t => by
    simp only [List.map_cons, findEntry]
    split_ifs
    · rfl
    · exact findEntry_map g k t

/-- What `RegisterNode` keeps of `node_map_` and `node_id_map_`. -/
structure AliasInv (r : Registry) : Prop where
  keys : ∀ k, k ∈ r.nodeMap.keys ↔ ∃ i < r.nodeMap.size, k = nodeAlias i
  ids : ∀ q i, r.nodeIdMap q = some i → i ≤ r.nodeMap.size
  registration : ∀ i node, r.nodeMap.find? (nodeAlias i) = some node →
    r.nodeIdMap node.registration = some i

namespace AliasInv

variable {r : Registry}

theorem alias_mem_iff (hr : AliasInv r) (i : Nat) :
    nodeAlias i ∈ r.nodeMap.keys ↔ i < r.nodeMap.size := by
  rw [hr.keys]
  exact ⟨fun ⟨j, hj, he⟩ => nodeAlias_injective he ▸ hj, fun hi => ⟨i, hi, rfl⟩⟩

/-- One `RegisterNode` call keeps the invariant. -/
theorem register (hr : AliasInv r) (request : NodeRegistration) (stubOk : Bool) :
    AliasInv (registerNode r request stubOk).2 := by
  by_cases hv : request.hostname = "" ∨ request.controlPort ≤ 0
  · rw [registerNode_invalid hv]; exact hr
  obtain ⟨hid, hmap⟩ := @registerNode_maps r request stubOk hv
  -- recorded ids stay, and the payload is recorded under the id it is given
  have hkeep : ∀ q i, r.nodeIdMap q = some i → (allocateId r request).2 q = some i := by
    intro q i hq
    rw [allocateId_map]
    split_ifs with h
    · subst h; rw [allocateId_of_some hq]
    · exact hq
  have hself : (allocateId r request).2 request = some (allocateId r request).1 := by
    rw [allocateId_map, if_pos rfl]
  have hle : (allocateId r request).1 ≤ r.nodeMap.size := by
    cases h : r.nodeIdMap request with
    | none => rw [allocateId_of_none h]
    | some k => rw [allocateId_of_some h]; exact hr.ids _ _ h
  cases stubOk with
  | false =>
    simp only [Bool.false_eq_true, if_false] at hmap
    refine ⟨fun k => ?_, fun q i hq => ?_, fun i node hf => ?_⟩
    · rw [hmap]; exact hr.keys k
    · rw [hid, allocateId_map] at hq
      rw [hmap]
      split_ifs at hq
      · cases hq; exact hle
      · exact hr.ids q i hq
    · rw [hmap] at hf
      rw [hid]
      exact hkeep _ _ (hr.registration i node hf)
  | true =>
    simp only [if_true] at hmap
    set n := (allocateId r request).1
    -- the size after `node_map_[node<n>]`
    have hsize : (registerNode r request true).2.nodeMap.size =
        if n < r.nodeMap.size then r.nodeMap.size else r.nodeMap.size + 1 := by
      rw [hmap, StdMap.size_upsert]
      exact if_congr (hr.alias_mem_iff n) rfl rfl
    refine ⟨fun k => ?_, fun q i hq => ?_, fun i node hf => ?_⟩
    · rw [hsize, hmap, StdMap.mem_keys_upsert, hr.keys]
      split_ifs with hn
      · exact ⟨fun h => h.elim (fun he => ⟨n, hn, he⟩) id, .inr⟩
      · have hn' : n = r.nodeMap.size := by omega
        constructor
        · rintro (he | ⟨i, hi, he⟩)
          exacts [⟨n, by omega, he⟩, ⟨i, by omega, he⟩]
        · rintro ⟨i, hi, he⟩
          rcases Nat.lt_succ_iff_lt_or_eq.mp hi with hi | rfl
          exacts [.inr ⟨i, hi, he⟩, .inl (hn' ▸ he)]
    · have hle' : r.nodeMap.size ≤ (registerNode r request true).2.nodeMap.size := by
        rw [hsize]; split_ifs <;> omega
      rw [hid, allocateId_map] at hq
      split_ifs at hq
      · cases hq; omega
      · exact (hr.ids q i hq).trans hle'
    · rw [hmap, StdMap.find?_upsert] at hf
      rw [hid]
      split_ifs at hf with he
      · cases hf
        rw [nodeAlias_injective he]
        exact hself
      · exact hkeep _ _ (hr.registration i node hf)

/-- The invariant reads nothing of a node but its registration, so `idle` flags do not
matter. -/
theorem of_layout (hr : AliasInv r) {r' : Registry} (hl : r'.layout = r.layout)
    (hid : r'.nodeIdMap = r.nodeIdMap) : AliasInv r' := by
  have hfind : ∀ k, (r'.nodeMap.find? k).map (fun n => (n.registration, n.stub)) =
      (r.nodeMap.find? k).map (fun n => (n.registration, n.stub)) := fun k =>
    (findEntry_map (fun n => (n.registration, n.stub)) k r'.nodeMap.entries).symm.trans
      ((congrArg (findEntry k) hl).trans
        (findEntry_map (fun n => (n.registration, n.stub)) k r.nodeMap.entries))
  refine ⟨fun k => ?_, fun q i hq => ?_, fun i node hf => ?_⟩
  · rw [Registry.keys_of_layout hl, Registry.size_of_layout hl]; exact hr.keys k
  · rw [Registry.size_of_layout hl]; exact hr.ids q i (hid ▸ hq)
  · have h := hfind (nodeAlias i)
    rw [hf] at h
    cases h₀ : r.nodeMap.find? (nodeAlias i) with
    | none => simp [h₀] at h
    | some node₀ =>
      simp only [h₀, Option.map_some', Option.some.injEq, Prod.mk.injEq] at h
      rw [hid, h.1]
      exact hr.registration i node₀ h₀

end AliasInv

theorem aliasInv_empty : AliasInv Registry.empty where
  keys k := by simp [Registry.empty, StdMap.size, StdMap.empty, StdMap.keys]
  ids q i h := by simp [Registry.empty] at h
  registration i node h := by simp [Registry.empty] at h

/-- **`node_map_` is `node0 … node(n-1)`**, over every interleaving of `RegisterNode` calls
(each stub built or not) with `RunTestSequence` calls and completions: the keys of `node_map_`
are exactly `node<i>` for `i < node_map_.size()`, every id in `node_id_map_` is at most
`node_map_.size()`, and the registration stored under `node<k>` is a payload recorded with
id `k`. -/
theorem reachable_aliasInv {requests : Nat → List DistributedSystemDescription} {s : Sys}
    (h : Reachable requests s) : AliasInv s.registry := by
  induction h with
  | init => exact aliasInv_empty
  | step _ hs ih =>
    rcases step_layout hs with ⟨hl, hid⟩ | ⟨request, stubOk, rfl, -⟩
    · exact ih.of_layout hl hid
    · simp only [step] at hs
      split_ifs at hs
      cases hs
      exact ih.register request stubOk

/-- `h1` fails to get a stub, `h2` and then `h1` register: both are given id 0, and
`node_map_` is `node0` alone, holding `h1`. -/
theorem reachable_aliasInv_shared_id :
    ∃ s events, exec (Sys.init fun _ => [])
        [.registerNode ⟨"h1", 7, ""⟩ false, .registerNode ⟨"h2", 7, ""⟩ true,
          .registerNode ⟨"h1", 7, ""⟩ true] = .ok s events ∧
      s.registry.nodeMap.keys = ["node0"] ∧ AliasInv s.registry :=
  ⟨_, _, rfl, rfl, reachable_aliasInv (@reachable_of_exec (fun _ => []) _ _
    [.registerNode ⟨"h1", 7, ""⟩ false, .registerNode ⟨"h2", 7, ""⟩ true,
      .registerNode ⟨"h1", 7, ""⟩ true] _ .init rfl)⟩

end Distbench
