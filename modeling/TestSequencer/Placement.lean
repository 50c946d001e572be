import TestSequencer.Messages
import Mathlib.Data.Finset.Sort

/-!
# The placement of `DoRunTest` (lines 163-233)

A transcription of the placement part of `TestSequencer::DoRunTest`, from the description
and the aliases of `node_map_` (the snapshot of lines 168-173) to `node_service_map` or the
error returned:

* `expandServices` — lines 175-181, `<server_type>/<i>` for `0 ≤ i < count`;
* `placeBundleService`, `placeBundle` — lines 183-202, one pre-placed service and one
  entry of `node_service_bundles` (iterated in whatever order the protobuf map gives);
* `autoPlaceStep` — one iteration of lines 211-223: the next unplaced service (in set
  order) goes to the first idle node, or is appended to `failures`;
* `placeServices` — the whole, with the final loop of lines 230-232.

`placeServices_ok_spec` and `placeServices_no_idle` give the law `placeServices_law` the
placement satisfies for every description, registry and bundle order.
`placeServices_empty_bundle_drops_node`: a bundle that lists no service takes its node out of
`idle_nodes` without making it a key of `node_service_map`.
-/

set_option autoImplicit false

namespace Distbench

/-- `absl::StrCat(server_type, "/", i)`. -/
def instanceName (serverType : String) (i : Nat) : String := serverType ++ "/" ++ toString i

/-- The instance names of one entry of `services()`, for `0 ≤ i < count`. -/
def ServiceSpec.instances (sn : ServiceSpec) : List String :=
  (List.range sn.count.toNat).map (instanceName sn.serverType)

/-- Lines 175-181: `unplaced_services`. -/
def expandServices (services : List ServiceSpec) : StdSet :=
  services.foldl (fun s sn => s.insertAll sn.instances) StdSet.empty

/-- The locals of the placement: `unplaced_services`, `idle_nodes`, `node_service_map`. -/
structure Placing where
  unplacedServices : StdSet
  idleNodes : StdSet
  nodeServiceMap : StdMap StdSet

/-- Lines 186-194: move one pre-placed service to its node. -/
def placeBundleService (node : String) (p : Placing) (service : String) :
    Except Status Placing :=
  if service ∈ p.unplacedServices.toList then
    .ok { p with
      nodeServiceMap := p.nodeServiceMap.upsert node (·.insert service)
      unplacedServices := p.unplacedServices.erase service }
  else .error ⟨.NOT_FOUND, "Service " ++ service ++ " was not found or already placed."⟩

/-- Lines 184-202: one entry `(alias, services)` of `node_service_bundles`. -/
def placeBundle (p : Placing) (bundle : String × List String) : Except Status Placing := do
  let p ← bundle.2.foldlM (placeBundleService bundle.1) p
  if bundle.1 ∈ p.idleNodes.toList then .ok { p with idleNodes := p.idleNodes.erase bundle.1 }
  else .error ⟨.NOT_FOUND, "Node " ++ bundle.1 ++ " was not found or not idle."⟩

/-- `if (!failures.empty()) StrAppend(&failures, ", "); StrAppend(&failures, service)`. -/
def appendFailure (failures service : String) : String :=
  (if failures = "" then failures else failures ++ ", ") ++ service

/-- One iteration of lines 211-223. -/
def autoPlaceStep (acc : Placing × String) (service : String) : Placing × String :=
  match acc.1.idleNodes.toList with
  | [] => (acc.1, appendFailure acc.2 service)
  | node :: _ =>
    ({ acc.1 with
      nodeServiceMap := acc.1.nodeServiceMap.upsert node (·.insert service)
      idleNodes := acc.1.idleNodes.erase node }, acc.2)

/-- Lines 204-233: the automatic placement of what is left, then the idle nodes. -/
def autoPlace (p : Placing) : Except Status (StdMap StdSet) :=
  let r := p.unplacedServices.toList.foldl autoPlaceStep (p, "")
  if r.2 ≠ "" then .error ⟨.NOT_FOUND, "No idle node for placement of services: " ++ r.2⟩
  else .ok (r.1.idleNodes.toList.foldl (fun m node => m.upsert node id) r.1.nodeServiceMap)

/-- Lines 163-233 of `DoRunTest`: `node_service_map`, given the aliases of `node_map_`. -/
def placeServices (test : DistributedSystemDescription) (nodeMapKeys : List String) :
    Except Status (StdMap StdSet) :=
  if test.services = [] then .error ⟨.INVALID_ARGUMENT, "No services defined."⟩
  else test.nodeServiceBundles.entries.foldlM placeBundle
      ⟨expandServices test.services, StdSet.empty.insertAll nodeMapKeys, StdMap.empty⟩ >>=
    autoPlace

/-- The services `node_service_map` gives an alias, an absent key read as the empty set. -/
def servicesOf (m : StdMap StdSet) (node : String) : List String :=
  ((m.find? node).getD default).toList

/-! ## Spec-level sets -/

/-- `S`: every requested instance name. -/
def requestedInstances (services : List ServiceSpec) : List String :=
  services.flatMap ServiceSpec.instances

/-- `M`: every service name listed in the bundles, with repetitions. -/
def bundledServices (bundles : ProtoMap (List String)) : List String :=
  bundles.entries.flatMap Prod.snd

/-! ## Containers of the placement -/

theorem mem_foldl_insertAll {x : String} :
    ∀ {services : List ServiceSpec} {s : StdSet},
      x ∈ (services.foldl (fun s sn => s.insertAll sn.instances) s).toList ↔
        x ∈ s.toList ∨ x ∈ requestedInstances services
  | [], _ => by simp [requestedInstances]
  | sn :: rest, s => by
    rw [List.foldl_cons, mem_foldl_insertAll, StdSet.mem_insertAll]
    simp only [requestedInstances, List.flatMap_cons, List.mem_append, or_assoc]

@[simp] theorem mem_expandServices {services : List ServiceSpec} {x : String} :
    x ∈ (expandServices services).toList ↔ x ∈ requestedInstances services := by
  simp [expandServices, mem_foldl_insertAll]

theorem mem_servicesOf_upsert_insert {m : StdMap StdSet} {node b x y : String} :
    y ∈ servicesOf (m.upsert node (·.insert x)) b ↔ (b = node ∧ y = x) ∨ y ∈ servicesOf m b := by
  simp only [servicesOf, StdMap.find?_upsert]
  by_cases h : b = node
  · subst h; simp
  · simp [h]

@[simp] theorem servicesOf_upsert_id (m : StdMap StdSet) (node b : String) :
    servicesOf (m.upsert node id) b = servicesOf m b := by
  simp only [servicesOf, StdMap.find?_upsert]
  by_cases h : b = node
  · subst h; cases m.find? b <;> simp
  · simp [h]

theorem servicesOf_eq_nil {m : StdMap StdSet} {b : String} (h : b ∉ m.keys) :
    servicesOf m b = [] := by
  have : m.find? b = none := by
    simpa [← StdMap.find?_isSome] using h
  simp [servicesOf, this]

/-! ## Pre-placement (lines 183-202) -/

/-- `p'` is `p` after the pre-placements `bundles`. -/
structure AfterBundles (p p' : Placing) (bundles : List (String × List String)) : Prop where
  unplaced : ∀ x, x ∈ p'.unplacedServices.toList ↔
    x ∈ p.unplacedServices.toList ∧ x ∉ bundles.flatMap Prod.snd
  idle : ∀ a, a ∈ p'.idleNodes.toList ↔ a ∈ p.idleNodes.toList ∧ a ∉ bundles.map Prod.fst
  services : ∀ b y, y ∈ servicesOf p'.nodeServiceMap b ↔
    y ∈ servicesOf p.nodeServiceMap b ∨ ∃ e ∈ bundles, b = e.1 ∧ y ∈ e.2
  keys : ∀ b, b ∈ p'.nodeServiceMap.keys ↔
    b ∈ p.nodeServiceMap.keys ∨ ∃ e ∈ bundles, b = e.1 ∧ e.2 ≠ []

theorem AfterBundles.refl (p : Placing) : AfterBundles p p [] :=
  ⟨by simp, by simp, by simp, by simp⟩

theorem AfterBundles.cons {p p₁ p₂ : Placing} {e : String × List String}
    {rest : List (String × List String)} (h₁ : AfterBundles p p₁ [e])
    (h₂ : AfterBundles p₁ p₂ rest) : AfterBundles p p₂ (e :: rest) where
  unplaced x := by
    rw [h₂.unplaced, h₁.unplaced]
    simp only [List.flatMap_cons, List.flatMap_nil, List.append_nil, List.mem_flatMap, Prod.exists,
      not_exists, not_and, and_assoc, List.mem_append, not_or]
  idle a := by
    rw [h₂.idle, h₁.idle]
    simp only [List.map_cons, List.map_nil, List.mem_singleton, List.mem_map, Prod.exists,
      exists_and_right, exists_eq_right, not_exists, and_assoc, List.mem_cons, not_or,
      List.not_mem_nil, not_false_eq_true, true_and]
  services b y := by
    rw [h₂.services, h₁.services]
    simp only [List.mem_singleton, exists_eq_left, Prod.exists, or_assoc, List.mem_cons,
      exists_eq_or_imp, List.not_mem_nil, false_and, exists_false, false_or]
  keys b := by
    rw [h₂.keys, h₁.keys]
    simp only [List.mem_singleton, ne_eq, exists_eq_left, Prod.exists, or_assoc, List.mem_cons,
      exists_eq_or_imp, List.not_mem_nil, false_and, exists_false, false_or]

section Bundle

variable {node : String}

theorem foldlM_placeBundleService_ok :
    ∀ {svcs : List String} {p : Placing},
      (∃ p', svcs.foldlM (placeBundleService node) p = .ok p') ↔
        svcs.Nodup ∧ ∀ x ∈ svcs, x ∈ p.unplacedServices.toList
  | [], p => by simp [pure, Except.pure]
  | x :: xs, p => by
    simp only [List.foldlM_cons, bind_eq_ok, placeBundleService]
    split_ifs with hx
    · simp only [Except.ok.injEq, exists_eq_left', foldlM_placeBundleService_ok,
        StdSet.mem_erase, List.nodup_cons, List.forall_mem_cons]
      constructor
      · rintro ⟨hn, hm⟩; exact ⟨⟨fun h => (hm x h).1 rfl, hn⟩, hx, fun y hy => (hm y hy).2⟩
      · rintro ⟨⟨hx', hn⟩, -, hm⟩; exact ⟨hn, fun y hy => ⟨fun h => hx' (h ▸ hy), hm y hy⟩⟩
    · simp [hx]

theorem foldlM_placeBundleService_spec :
    ∀ {svcs : List String} {p p' : Placing},
      svcs.foldlM (placeBundleService node) p = .ok p' →
      (∀ x, x ∈ p'.unplacedServices.toList ↔ x ∈ p.unplacedServices.toList ∧ x ∉ svcs) ∧
      p'.idleNodes = p.idleNodes ∧
      (∀ b y, y ∈ servicesOf p'.nodeServiceMap b ↔
        y ∈ servicesOf p.nodeServiceMap b ∨ (b = node ∧ y ∈ svcs)) ∧
      (∀ b, b ∈ p'.nodeServiceMap.keys ↔ b ∈ p.nodeServiceMap.keys ∨ (b = node ∧ svcs ≠ []))
  | [], p, p', h => by
    simp only [List.foldlM_nil, pure, Except.pure, Except.ok.injEq] at h; subst h; simp
  | x :: xs, p, p', h => by
    simp only [List.foldlM_cons, bind_eq_ok, placeBundleService] at h
    obtain ⟨p₁, h₁, h₂⟩ := h
    split_ifs at h₁ with hx
    cases h₁
    obtain ⟨hu, hi, hs, hk⟩ := foldlM_placeBundleService_spec h₂
    refine ⟨fun y => ?_, hi, fun b y => ?_, fun b => ?_⟩
    · rw [hu, StdSet.mem_erase, List.mem_cons]; by_cases hy : y = x <;> simp [hy]
    · rw [hs, mem_servicesOf_upsert_insert, List.mem_cons]
      by_cases hb : b = node <;> simp [hb, or_comm, or_left_comm, or_assoc]
    · rw [hk, StdMap.mem_keys_upsert]; by_cases hb : b = node <;> simp [hb]

end Bundle

theorem placeBundle_ok {p : Placing} {e : String × List String} :
    (∃ p', placeBundle p e = .ok p') ↔
      e.2.Nodup ∧ (∀ x ∈ e.2, x ∈ p.unplacedServices.toList) ∧ e.1 ∈ p.idleNodes.toList := by
  simp only [placeBundle, bind_eq_ok]
  constructor
  · rintro ⟨p', p₁, h₁, h₂⟩
    have hi := (foldlM_placeBundleService_spec h₁).2.1
    split_ifs at h₂ with he
    exact ⟨(foldlM_placeBundleService_ok.mp ⟨p₁, h₁⟩).1,
      (foldlM_placeBundleService_ok.mp ⟨p₁, h₁⟩).2, hi ▸ he⟩
  · rintro ⟨hn, hm, he⟩
    obtain ⟨p₁, h₁⟩ := foldlM_placeBundleService_ok.mpr ⟨hn, hm⟩
    have hi := (foldlM_placeBundleService_spec h₁).2.1
    exact ⟨_, p₁, h₁, by rw [if_pos (hi ▸ he)]⟩

theorem placeBundle_spec {p p' : Placing} {e : String × List String}
    (h : placeBundle p e = .ok p') : AfterBundles p p' [e] := by
  simp only [placeBundle, bind_eq_ok] at h
  obtain ⟨p₁, h₁, h₂⟩ := h
  split_ifs at h₂ with he
  cases h₂
  obtain ⟨hu, hi, hs, hk⟩ := foldlM_placeBundleService_spec h₁
  refine ⟨fun x => by simpa using hu x, fun a => ?_, fun b y => by simpa using hs b y,
    fun b => by simpa using hk b⟩
  simp only [StdSet.mem_erase, hi, List.map_cons, List.map_nil, List.mem_singleton]
  exact and_comm

theorem foldlM_placeBundle_spec :
    ∀ {bundles : List (String × List String)} {p p' : Placing},
      bundles.foldlM placeBundle p = .ok p' → AfterBundles p p' bundles
  | [], p, p', h => by
    simp only [List.foldlM_nil, pure, Except.pure, Except.ok.injEq] at h
    subst h; exact AfterBundles.refl p
  | e :: rest, p, p', h => by
    simp only [List.foldlM_cons, bind_eq_ok] at h
    obtain ⟨p₁, h₁, h₂⟩ := h
    exact (placeBundle_spec h₁).cons (foldlM_placeBundle_spec h₂)

theorem foldlM_placeBundle_ok :
    ∀ {bundles : List (String × List String)} {p : Placing}, (bundles.map Prod.fst).Nodup →
      ((∃ p', bundles.foldlM placeBundle p = .ok p') ↔
        (bundles.flatMap Prod.snd).Nodup ∧
        (∀ x ∈ bundles.flatMap Prod.snd, x ∈ p.unplacedServices.toList) ∧
        ∀ a ∈ bundles.map Prod.fst, a ∈ p.idleNodes.toList)
  | [], p, _ => by simp [pure, Except.pure]
  | e :: rest, p, hd => by
    obtain ⟨he, hd⟩ := List.nodup_cons.mp hd
    simp only [List.foldlM_cons, bind_eq_ok]
    constructor
    · rintro ⟨p', p₁, h₁, h₂⟩
      obtain ⟨hn, hm, hi⟩ := placeBundle_ok.mp ⟨p₁, h₁⟩
      have ha := placeBundle_spec h₁
      obtain ⟨hn', hm', hi'⟩ := (foldlM_placeBundle_ok hd).mp ⟨p', h₂⟩
      refine ⟨List.nodup_append.mpr ⟨hn, hn', fun x hx hx' => ?_⟩, fun x hx => ?_,
        fun a ha' => ?_⟩
      · simpa [hx] using (ha.unplaced x).mp (hm' x hx')
      · rcases List.mem_append.mp hx with hx | hx
        exacts [hm x hx, ((ha.unplaced x).mp (hm' x hx)).1]
      · rcases List.mem_cons.mp ha' with rfl | ha'
        exacts [hi, ((ha.idle a).mp (hi' a ha')).1]
    · rintro ⟨hn, hm, hi⟩
      obtain ⟨hn₁, hn₂, hdisj⟩ := List.nodup_append.mp hn
      obtain ⟨p₁, h₁⟩ := placeBundle_ok.mpr
        ⟨hn₁, fun x hx => hm x (List.mem_append_left _ hx), hi _ (List.mem_cons_self _ _)⟩
      have ha := placeBundle_spec h₁
      obtain ⟨p', h₂⟩ := (foldlM_placeBundle_ok hd).mpr
        ⟨hn₂, fun x hx => (ha.unplaced x).mpr ⟨hm x (List.mem_append_right _ hx),
          by simpa using fun h => hdisj h hx⟩,
        fun a ha' => (ha.idle a).mpr ⟨hi a (List.mem_cons_of_mem _ ha'),
          by simp only [List.map_cons, List.map_nil, List.mem_singleton]; rintro rfl; exact he ha'⟩⟩
      exact ⟨p', p₁, h₁, h₂⟩

/-! ## Automatic placement (lines 204-232) -/

theorem append_ne_empty {s t : String} (h : s ≠ "") : s ++ t ≠ "" := by
  intro h'; apply h
  have := congrArg String.data h'
  simp only [String.data_append] at this
  exact String.ext (List.append_eq_nil.mp this).1

theorem foldl_appendFailure_of_ne {f : String} (hf : f ≠ "") :
    ∀ l : List String, l.foldl appendFailure f = String.intercalate.go f ", " l
  | [] => rfl
  | x :: l => by
    simp only [List.foldl_cons, appendFailure, if_neg hf, String.intercalate.go]
    exact foldl_appendFailure_of_ne (append_ne_empty (append_ne_empty hf)) l

/-- `failures`, built from the empty string, is the names joined by `", "`. -/
theorem foldl_appendFailure_empty :
    ∀ {l : List String}, (∀ x ∈ l, x ≠ "") → l.foldl appendFailure "" = String.intercalate ", " l
  | [], _ => rfl
  | x :: l, h => by
    simp only [List.foldl_cons, appendFailure, if_pos rfl, String.empty_append,
      String.intercalate]
    exact foldl_appendFailure_of_ne (h x (List.mem_cons_self _ _)) l

theorem foldl_appendFailure_ne {f : String} (hf : f ≠ "") :
    ∀ l : List String, l.foldl appendFailure f ≠ ""
  | [] => hf
  | x :: l => by
    rw [List.foldl_cons]
    refine foldl_appendFailure_ne ?_ l
    simpa only [appendFailure, if_neg hf] using append_ne_empty (append_ne_empty hf)

/-- `failures` stays empty exactly when every service found an idle node. -/
theorem foldl_appendFailure_eq_empty {l : List String} (h : ∀ x ∈ l, x ≠ "") :
    l.foldl appendFailure "" = "" ↔ l = [] := by
  rcases l with _ | ⟨x, l⟩
  · simp
  · simp only [List.foldl_cons, reduceCtorEq, iff_false]
    refine foldl_appendFailure_ne ?_ l
    simpa [appendFailure] using h x (List.mem_cons_self _ _)

theorem foldl_autoPlaceStep :
    ∀ (l : List String) (p : Placing) (f : String),
      (l.foldl autoPlaceStep (p, f)).1.unplacedServices = p.unplacedServices ∧
      (l.foldl autoPlaceStep (p, f)).1.idleNodes.toList = p.idleNodes.toList.drop l.length ∧
      (∀ b y, y ∈ servicesOf (l.foldl autoPlaceStep (p, f)).1.nodeServiceMap b ↔
        y ∈ servicesOf p.nodeServiceMap b ∨ (b, y) ∈ p.idleNodes.toList.zip l) ∧
      (∀ b, b ∈ (l.foldl autoPlaceStep (p, f)).1.nodeServiceMap.keys ↔
        b ∈ p.nodeServiceMap.keys ∨ b ∈ p.idleNodes.toList.take l.length) ∧
      (l.foldl autoPlaceStep (p, f)).2 = (l.drop p.idleNodes.toList.length).foldl appendFailure f
  | [], p, f => by simp
  | x :: l, p, f => by
    rw [List.foldl_cons]
    rcases hi : p.idleNodes.toList with _ | ⟨n, idle⟩
    · have step : autoPlaceStep (p, f) x = (p, appendFailure f x) := by simp [autoPlaceStep, hi]
      obtain ⟨hu, hd, hs, hk, hf⟩ := foldl_autoPlaceStep l p (appendFailure f x)
      rw [step]; simp_all
    · set p₁ : Placing := { p with
        nodeServiceMap := p.nodeServiceMap.upsert n (·.insert x)
        idleNodes := p.idleNodes.erase n }
      have step : autoPlaceStep (p, f) x = (p₁, f) := by simp [autoPlaceStep, hi, p₁]
      have hi₁ : p₁.idleNodes.toList = idle := by simp [p₁, StdSet.erase, hi]
      obtain ⟨hu, hd, hs, hk, hf⟩ := foldl_autoPlaceStep l p₁ f
      rw [step]
      refine ⟨hu, by rw [hd, hi₁]; simp, fun b y => ?_, fun b => ?_, by rw [hf, hi₁]; simp⟩
      · rw [hs, hi₁, mem_servicesOf_upsert_insert]; simp [or_comm, or_left_comm, or_assoc]
      · rw [hk, hi₁, StdMap.mem_keys_upsert]; simp [or_comm, or_left_comm, or_assoc]

theorem foldl_upsert_id :
    ∀ (l : List String) (m : StdMap StdSet),
      (∀ b, servicesOf (l.foldl (fun m node => m.upsert node id) m) b = servicesOf m b) ∧
      (∀ b, b ∈ (l.foldl (fun m node => m.upsert node id) m).keys ↔ b ∈ m.keys ∨ b ∈ l)
  | [], m => by simp
  | n :: l, m => by
    obtain ⟨hs, hk⟩ := foldl_upsert_id l (m.upsert n id)
    refine ⟨fun b => by rw [List.foldl_cons, hs]; simp, fun b => ?_⟩
    rw [List.foldl_cons, hk, StdMap.mem_keys_upsert, List.mem_cons]
    simp only [or_comm, or_left_comm, or_assoc]

theorem autoPlace_spec {p : Placing} (hne : ∀ x ∈ p.unplacedServices.toList, x ≠ "") :
    (p.idleNodes.toList.length < p.unplacedServices.toList.length →
      autoPlace p = .error ⟨.NOT_FOUND, "No idle node for placement of services: " ++
        ", ".intercalate (p.unplacedServices.toList.drop p.idleNodes.toList.length)⟩) ∧
    (p.unplacedServices.toList.length ≤ p.idleNodes.toList.length → ∃ m, autoPlace p = .ok m ∧
      (∀ b y, y ∈ servicesOf m b ↔
        y ∈ servicesOf p.nodeServiceMap b ∨
          (b, y) ∈ p.idleNodes.toList.zip p.unplacedServices.toList) ∧
      (∀ b, b ∈ m.keys ↔ b ∈ p.nodeServiceMap.keys ∨ b ∈ p.idleNodes.toList)) := by
  obtain ⟨-, hd, hs, hk, hf⟩ := foldl_autoPlaceStep p.unplacedServices.toList p ""
  have hne' : ∀ x ∈ p.unplacedServices.toList.drop p.idleNodes.toList.length, x ≠ "" :=
    fun x hx => hne x (List.mem_of_mem_drop hx)
  refine ⟨fun hlt => ?_, fun hle => ?_⟩
  · have hnil : p.unplacedServices.toList.drop p.idleNodes.toList.length ≠ [] := by simp; omega
    have hr := (foldl_appendFailure_eq_empty hne').not.mpr hnil
    rw [autoPlace, if_pos (hf ▸ hr), hf, foldl_appendFailure_empty hne']
  · have hnil : p.unplacedServices.toList.drop p.idleNodes.toList.length = [] := by simp; omega
    have hr := (foldl_appendFailure_eq_empty hne').mpr hnil
    obtain ⟨hs', hk'⟩ := foldl_upsert_id
      (p.unplacedServices.toList.foldl autoPlaceStep (p, "")).1.idleNodes.toList
      (p.unplacedServices.toList.foldl autoPlaceStep (p, "")).1.nodeServiceMap
    refine ⟨_, by rw [autoPlace, if_neg (by rw [hf]; simpa using hr)], fun b y => by rw [hs', hs],
      fun b => ?_⟩
    have hI : b ∈ p.idleNodes.toList ↔
        b ∈ p.idleNodes.toList.take p.unplacedServices.toList.length ∨
          b ∈ p.idleNodes.toList.drop p.unplacedServices.toList.length := by
      rw [← List.mem_append, List.take_append_drop]
    rw [hk', hk, hd, hI, or_assoc]

/-! ## The placement law -/

/-- The names of a finite set, in increasing order. -/
def ascending (F : Finset String) : List String := F.sort (· ≤ ·)

theorem toList_eq_ascending {s : StdSet} {F : Finset String}
    (h : ∀ x, x ∈ s.toList ↔ x ∈ F) : s.toList = ascending F :=
  List.eq_of_perm_of_sorted
    ((List.perm_ext_iff_of_nodup s.nodup (Finset.sort_nodup _ _)).mpr fun x => by
      rw [h, Finset.mem_sort])
    s.sorted.le_of_lt (Finset.sort_sorted _ _)

theorem mem_zip_iff {α β : Type} {l₁ : List α} {l₂ : List β} {a : α} {b : β} :
    (a, b) ∈ l₁.zip l₂ ↔ ∃ n : Nat, l₁[n]? = some a ∧ l₂[n]? = some b := by
  rw [List.mem_iff_getElem?]; simp [List.getElem?_zip_eq_some]

theorem instanceName_ne_empty (t : String) (i : Nat) : instanceName t i ≠ "" := by
  intro h
  have := congrArg String.data h
  simp [instanceName, String.data_append] at this

theorem ne_empty_of_mem_requestedInstances {services : List ServiceSpec} {x : String}
    (h : x ∈ requestedInstances services) : x ≠ "" := by
  simp only [requestedInstances, ServiceSpec.instances, List.mem_flatMap, List.mem_map] at h
  obtain ⟨_, _, i, _, rfl⟩ := h
  exact instanceName_ne_empty _ i

theorem getElem?_inj_of_nodup {α : Type} {l : List α} (h : l.Nodup) {i j : Nat} {a : α}
    (hi : l[i]? = some a) (hj : l[j]? = some a) : i = j :=
  List.getElem?_inj (List.getElem?_eq_some_iff.mp hi).1 h (hi.trans hj.symm)

/-- In bundles whose names are all distinct, a name is listed by one bundle only. -/
theorem eq_of_mem_of_nodup_flatMap {l : List (String × List String)}
    (h : (l.flatMap Prod.snd).Nodup) {e e' : String × List String} (he : e ∈ l) (he' : e' ∈ l)
    {x : String} (hx : x ∈ e.2) (hx' : x ∈ e'.2) : e = e' := by
  by_contra hne
  exact (List.nodup_flatMap.mp h).2.forall (fun _ _ h => h.symm) he he' hne hx hx'

/-- `S \ M` in increasing order: the services left for the automatic placement. -/
def freeServices (test : DistributedSystemDescription) : List String :=
  ascending ((requestedInstances test.services).toFinset \
    (bundledServices test.nodeServiceBundles).toFinset)

/-- `N \ A` in increasing order: the nodes still idle after the pre-placements. -/
def freeNodes (test : DistributedSystemDescription) (nodeMapKeys : List String) : List String :=
  ascending (nodeMapKeys.toFinset \ test.nodeServiceBundles.keys.toFinset)

section Law

variable {test : DistributedSystemDescription} {nodeMapKeys : List String}

/-- The locals after the pre-placements, when they succeed. -/
theorem afterBundles_initial {p : Placing}
    (h : test.nodeServiceBundles.entries.foldlM placeBundle
      ⟨expandServices test.services, StdSet.empty.insertAll nodeMapKeys, StdMap.empty⟩ = .ok p) :
    (∀ x ∈ p.unplacedServices.toList, x ≠ "") ∧
    p.unplacedServices.toList = freeServices test ∧
    p.idleNodes.toList = freeNodes test nodeMapKeys ∧
    (∀ b y, y ∈ servicesOf p.nodeServiceMap b ↔
      ∃ e ∈ test.nodeServiceBundles.entries, b = e.1 ∧ y ∈ e.2) ∧
    (∀ b, b ∈ p.nodeServiceMap.keys ↔
      ∃ e ∈ test.nodeServiceBundles.entries, b = e.1 ∧ e.2 ≠ []) := by
  have ha := foldlM_placeBundle_spec h
  have hU : p.unplacedServices.toList = freeServices test :=
    toList_eq_ascending fun x => by
      simp only [ha.unplaced x, mem_expandServices, List.mem_flatMap, Prod.exists, not_exists,
        not_and, bundledServices, Finset.mem_sdiff, List.mem_toFinset]
  have hI : p.idleNodes.toList = freeNodes test nodeMapKeys :=
    toList_eq_ascending fun a => by
      simp only [ha.idle a, StdSet.mem_insertAll, StdSet.toList_empty, List.not_mem_nil, false_or,
        List.mem_map, Prod.exists, exists_and_right, exists_eq_right, not_exists, ProtoMap.keys,
        Finset.mem_sdiff, List.mem_toFinset]
  refine ⟨fun x hx => ?_, hU, hI, fun b y => by rw [ha.services b y]; simp [servicesOf],
    fun b => by simp [ha.keys b]⟩
  rw [hU, freeServices, ascending, Finset.mem_sort, Finset.mem_sdiff, List.mem_toFinset] at hx
  exact ne_empty_of_mem_requestedInstances hx.1

theorem placeServices_of_bundles {p : Placing} (hs : test.services ≠ [])
    (h : test.nodeServiceBundles.entries.foldlM placeBundle
      ⟨expandServices test.services, StdSet.empty.insertAll nodeMapKeys, StdMap.empty⟩ = .ok p) :
    placeServices test nodeMapKeys = autoPlace p := by
  simp [placeServices, hs, h, bind, Except.bind]

theorem placeServices_ok_cases {m : StdMap StdSet} (h : placeServices test nodeMapKeys = .ok m) :
    test.services ≠ [] ∧ ∃ p, test.nodeServiceBundles.entries.foldlM placeBundle
      ⟨expandServices test.services, StdSet.empty.insertAll nodeMapKeys, StdMap.empty⟩ = .ok p ∧
      autoPlace p = .ok m := by
  unfold placeServices at h
  split_ifs at h with hs
  exact ⟨hs, bind_eq_ok.mp h⟩

/-- The pre-placements succeed exactly when no name is listed twice, every listed name is
requested, and every bundle's node is registered. -/
theorem bundles_ok_iff :
    (∃ p, test.nodeServiceBundles.entries.foldlM placeBundle
      ⟨expandServices test.services, StdSet.empty.insertAll nodeMapKeys, StdMap.empty⟩ = .ok p) ↔
      (bundledServices test.nodeServiceBundles).Nodup ∧
      (∀ x ∈ bundledServices test.nodeServiceBundles,
        x ∈ (requestedInstances test.services).toFinset) ∧
      test.nodeServiceBundles.keys.toFinset ⊆ nodeMapKeys.toFinset := by
  rw [foldlM_placeBundle_ok test.nodeServiceBundles.nodup]
  simp only [List.mem_flatMap, Prod.exists, mem_expandServices, forall_exists_index, and_imp,
    List.mem_map, exists_and_right, exists_eq_right, StdSet.mem_insertAll, StdSet.toList_empty,
    List.not_mem_nil, false_or, bundledServices, List.mem_toFinset, ProtoMap.keys, Finset.subset_iff]

/-- A successful placement: the conditions it needed, and what it gives each node — the
bundle's list, and the `k`-th free service to the `k`-th free node. -/
theorem placeServices_ok_spec {m : StdMap StdSet} (h : placeServices test nodeMapKeys = .ok m) :
    test.services ≠ [] ∧ (bundledServices test.nodeServiceBundles).Nodup ∧
    (∀ x ∈ bundledServices test.nodeServiceBundles,
      x ∈ (requestedInstances test.services).toFinset) ∧
    test.nodeServiceBundles.keys.toFinset ⊆ nodeMapKeys.toFinset ∧
    (freeServices test).length ≤ (freeNodes test nodeMapKeys).length ∧
    (∀ b y, y ∈ servicesOf m b ↔ (∃ e ∈ test.nodeServiceBundles.entries, b = e.1 ∧ y ∈ e.2) ∨
      (b, y) ∈ (freeNodes test nodeMapKeys).zip (freeServices test)) ∧
    (∀ b, b ∈ m.keys ↔ (∃ e ∈ test.nodeServiceBundles.entries, b = e.1 ∧ e.2 ≠ []) ∨
      b ∈ freeNodes test nodeMapKeys) := by
  obtain ⟨hs, p, hb, ha⟩ := placeServices_ok_cases h
  obtain ⟨hne, hU, hI, hsv, hky⟩ := afterBundles_initial hb
  obtain ⟨hM, hMS, hAN⟩ := bundles_ok_iff.mp ⟨p, hb⟩
  have hle : (freeServices test).length ≤ (freeNodes test nodeMapKeys).length := by
    by_contra hlt
    have := (autoPlace_spec hne).1 (by rw [hU, hI]; omega)
    rw [ha] at this; cases this
  obtain ⟨m', hm', hsm, hkm⟩ := (autoPlace_spec hne).2 (by rw [hU, hI]; exact hle)
  rw [ha, Except.ok.injEq] at hm'
  subst hm'
  refine ⟨hs, hM, hMS, hAN, hle, fun b y => ?_, fun b => ?_⟩
  · rw [hsm, hsv, hU, hI]
  · rw [hkm, hky, hI]

theorem placeServices_ok_of (hs : test.services ≠ [])
    (hM : (bundledServices test.nodeServiceBundles).Nodup)
    (hMS : ∀ x ∈ bundledServices test.nodeServiceBundles,
      x ∈ (requestedInstances test.services).toFinset)
    (hAN : test.nodeServiceBundles.keys.toFinset ⊆ nodeMapKeys.toFinset)
    (hle : (freeServices test).length ≤ (freeNodes test nodeMapKeys).length) :
    ∃ m, placeServices test nodeMapKeys = .ok m := by
  obtain ⟨p, hb⟩ := bundles_ok_iff.mpr ⟨hM, hMS, hAN⟩
  obtain ⟨hne, hU, hI, -⟩ := afterBundles_initial hb
  obtain ⟨m, hm, -⟩ := (autoPlace_spec hne).2 (by rw [hU, hI]; exact hle)
  exact ⟨m, by rw [placeServices_of_bundles hs hb, hm]⟩

theorem placeServices_no_idle (hs : test.services ≠ [])
    (hM : (bundledServices test.nodeServiceBundles).Nodup)
    (hMS : ∀ x ∈ bundledServices test.nodeServiceBundles,
      x ∈ (requestedInstances test.services).toFinset)
    (hAN : test.nodeServiceBundles.keys.toFinset ⊆ nodeMapKeys.toFinset)
    (hlt : (freeNodes test nodeMapKeys).length < (freeServices test).length) :
    placeServices test nodeMapKeys =
      .error ⟨.NOT_FOUND, "No idle node for placement of services: " ++
        ", ".intercalate ((freeServices test).drop (freeNodes test nodeMapKeys).length)⟩ := by
  obtain ⟨p, hb⟩ := bundles_ok_iff.mpr ⟨hM, hMS, hAN⟩
  obtain ⟨hne, hU, hI, -⟩ := afterBundles_initial hb
  rw [placeServices_of_bundles hs hb, (autoPlace_spec hne).1 (by rw [hU, hI]; exact hlt), hU, hI]

theorem freeServices_nodup : (freeServices test).Nodup := by
  unfold freeServices ascending; exact Finset.sort_nodup _ _

theorem freeNodes_nodup : (freeNodes test nodeMapKeys).Nodup := by
  unfold freeNodes ascending; exact Finset.sort_nodup _ _

theorem mem_freeNodes {b : String} :
    b ∈ freeNodes test nodeMapKeys ↔ b ∈ nodeMapKeys ∧ b ∉ test.nodeServiceBundles.keys := by
  simp [freeNodes, ascending, Finset.mem_sort]

theorem mem_freeServices {x : String} :
    x ∈ freeServices test ↔
      x ∈ requestedInstances test.services ∧ x ∉ bundledServices test.nodeServiceBundles := by
  simp [freeServices, ascending, Finset.mem_sort]

theorem mem_bundledServices {x : String} :
    x ∈ bundledServices test.nodeServiceBundles ↔
      ∃ e ∈ test.nodeServiceBundles.entries, x ∈ e.2 := by
  simp [bundledServices]

theorem mem_bundleKeys {b : String} :
    b ∈ test.nodeServiceBundles.keys ↔ ∃ e ∈ test.nodeServiceBundles.entries, b = e.1 := by
  simp [ProtoMap.keys, eq_comm]

/-- Every node of a successful placement is a node of the snapshot. -/
theorem placeServices_keys_subset {m : StdMap StdSet} (h : placeServices test nodeMapKeys = .ok m)
    {b : String} (hb : b ∈ m.keys) : b ∈ nodeMapKeys := by
  obtain ⟨-, -, -, hAN, -, -, hkm⟩ := placeServices_ok_spec h
  rcases (hkm b).mp hb with ⟨e, he, rfl, -⟩ | hb
  · simpa using hAN (by simpa using mem_bundleKeys.mpr ⟨e, he, rfl⟩)
  · exact (mem_freeNodes.mp hb).1

/-- Every service a successful placement gives out is a requested instance. -/
theorem placeServices_services_subset {m : StdMap StdSet}
    (h : placeServices test nodeMapKeys = .ok m) {b y : String} (hy : y ∈ servicesOf m b) :
    y ∈ requestedInstances test.services := by
  obtain ⟨-, -, hMS, -, -, hsm, -⟩ := placeServices_ok_spec h
  rcases (hsm b y).mp hy with ⟨e, he, rfl, hye⟩ | hz
  · simpa using hMS y (mem_bundledServices.mpr ⟨e, he, hye⟩)
  · exact (mem_freeServices.mp (List.of_mem_zip hz).2).1

/-- Every requested instance is placed on exactly one node. -/
theorem placeServices_exactly_once {m : StdMap StdSet} (h : placeServices test nodeMapKeys = .ok m)
    {x : String} (hx : x ∈ requestedInstances test.services) : ∃! b, x ∈ servicesOf m b := by
  obtain ⟨-, hM, -, -, hle, hsm, -⟩ := placeServices_ok_spec h
  by_cases hxM : x ∈ bundledServices test.nodeServiceBundles
  · obtain ⟨e, he, hxe⟩ := mem_bundledServices.mp hxM
    refine ⟨e.1, (hsm _ x).mpr (Or.inl ⟨e, he, rfl, hxe⟩), fun b hb => ?_⟩
    rcases (hsm b x).mp hb with ⟨e', he', rfl, hxe'⟩ | hz
    · rw [eq_of_mem_of_nodup_flatMap hM he' he hxe' hxe]
    · exact absurd hxM (mem_freeServices.mp (List.of_mem_zip hz).2).2
  · obtain ⟨k, hk⟩ := List.mem_iff_getElem?.mp (mem_freeServices.mpr ⟨hx, hxM⟩)
    have hkI : k < (freeNodes test nodeMapKeys).length := by
      have := (List.getElem?_eq_some_iff.mp hk).1; omega
    obtain ⟨a, ha⟩ : ∃ a, (freeNodes test nodeMapKeys)[k]? = some a :=
      ⟨_, List.getElem?_eq_getElem hkI⟩
    refine ⟨a, (hsm a x).mpr (Or.inr (mem_zip_iff.mpr ⟨k, ha, hk⟩)), fun b hb => ?_⟩
    rcases (hsm b x).mp hb with ⟨e', he', rfl, hxe'⟩ | hz
    · exact absurd (mem_bundledServices.mpr ⟨e', he', hxe'⟩) hxM
    · obtain ⟨n, hn, hxn⟩ := mem_zip_iff.mp hz
      obtain rfl := getElem?_inj_of_nodup freeServices_nodup hxn hk
      exact Option.some.inj (hn.symm.trans ha)

/-- **The placement law** of `DoRunTest` (lines 163-233), for every description, every
registry and every iteration order of `node_service_bundles`. -/
theorem placeServices_law (test : DistributedSystemDescription) (nodeMapKeys : List String) :
    let S := (requestedInstances test.services).toFinset
    let M := bundledServices test.nodeServiceBundles
    let A := test.nodeServiceBundles.keys.toFinset
    let N := nodeMapKeys.toFinset
    let U := ascending (S \ M.toFinset)
    let I := ascending (N \ A)
    ((∃ m, placeServices test nodeMapKeys = .ok m) ↔
      test.services ≠ [] ∧ M.Nodup ∧ (∀ x ∈ M, x ∈ S) ∧ A ⊆ N ∧
        (S \ M.toFinset).card ≤ (N \ A).card) ∧
    (∀ m, placeServices test nodeMapKeys = .ok m →
      (∀ e ∈ test.nodeServiceBundles.entries, ∀ y, y ∈ servicesOf m e.1 ↔ y ∈ e.2) ∧
      (∀ (k : Nat) (a x : String), I[k]? = some a → U[k]? = some x →
        ∀ y, y ∈ servicesOf m a ↔ y = x) ∧
      (∀ b, b ∉ A → b ∉ I.take U.length → servicesOf m b = []) ∧
      (∀ b ∈ m.keys, b ∈ N) ∧
      (∀ x ∈ S, ∃! b, x ∈ servicesOf m b)) ∧
    (test.services ≠ [] → M.Nodup → (∀ x ∈ M, x ∈ S) → A ⊆ N →
      (N \ A).card < (S \ M.toFinset).card →
      placeServices test nodeMapKeys = .error ⟨.NOT_FOUND,
        "No idle node for placement of services: " ++ ", ".intercalate (U.drop I.length)⟩) := by
  intro S M A N U I
  have hU : U.length = (S \ M.toFinset).card := Finset.length_sort _
  have hI : I.length = (N \ A).card := Finset.length_sort _
  refine ⟨⟨fun ⟨m, h⟩ => ?_, fun ⟨hs, hM, hMS, hAN, hle⟩ => ?_⟩, fun m h => ?_,
    fun hs hM hMS hAN hlt => placeServices_no_idle hs hM hMS hAN (by rwa [← hU, ← hI] at hlt)⟩
  · obtain ⟨hs, hM, hMS, hAN, hle, -⟩ := placeServices_ok_spec h
    exact ⟨hs, hM, hMS, hAN, by rw [← hU, ← hI]; exact hle⟩
  · exact placeServices_ok_of hs hM hMS hAN (by rwa [← hU, ← hI] at hle)
  obtain ⟨-, -, -, -, -, hsm, -⟩ := placeServices_ok_spec h
  have hA : ∀ {b}, b ∈ A ↔ ∃ e ∈ test.nodeServiceBundles.entries, b = e.1 := by
    simp only [A, List.mem_toFinset]; exact mem_bundleKeys
  have hIA : ∀ {b}, b ∈ I → b ∉ A := fun hb => by
    simpa [A] using (mem_freeNodes.mp hb).2
  refine ⟨fun e he y => ?_, fun k a x hk hx y => ?_, fun b hbA hbI => ?_,
    fun b hb => by simpa [N] using placeServices_keys_subset h hb,
    fun x hx => placeServices_exactly_once h (by simpa [S] using hx)⟩
  · rw [hsm]
    constructor
    · rintro (⟨e', he', heq, hy⟩ | hz)
      · rwa [List.inj_on_of_nodup_map test.nodeServiceBundles.nodup he he' heq]
      · exact absurd (hA.mpr ⟨e, he, rfl⟩) (hIA (List.of_mem_zip hz).1)
    · exact fun hy => Or.inl ⟨e, he, rfl, hy⟩
  · rw [hsm]
    constructor
    · rintro (⟨e', he', rfl, -⟩ | hz)
      · exact absurd (hA.mpr ⟨e', he', rfl⟩) (hIA (List.getElem?_mem hk))
      · obtain ⟨n, hn, hy⟩ := mem_zip_iff.mp hz
        obtain rfl := getElem?_inj_of_nodup freeNodes_nodup hn hk
        exact Option.some.inj (hy.symm.trans hx)
    · rintro rfl; exact Or.inr (mem_zip_iff.mpr ⟨k, hk, hx⟩)
  · refine List.eq_nil_iff_forall_not_mem.mpr fun y hy => ?_
    rcases (hsm b y).mp hy with ⟨e, he, rfl, -⟩ | hz
    · exact hbA (hA.mpr ⟨e, he, rfl⟩)
    · obtain ⟨n, hn, hy⟩ := mem_zip_iff.mp hz
      have hnU : n < U.length := (List.getElem?_eq_some_iff.mp hy).1
      exact hbI (List.getElem?_mem ((List.getElem?_take_of_lt hnU).trans hn))

end Law

/-- A bundle with an empty service list takes its node out of `idle_nodes` without giving it a
key: with `node0` pre-placed with nothing, the placement's keys are `node1` alone. -/
theorem placeServices_empty_bundle_drops_node :
    ∃ m, placeServices ⟨[⟨"A", 1⟩], ⟨[("node0", [])], by decide⟩⟩ ["node0", "node1"] = .ok m ∧
      m.keys = ["node1"] :=
  ⟨_, rfl, rfl⟩

end Distbench
