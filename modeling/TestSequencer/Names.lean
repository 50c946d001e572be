import Mathlib
import TestSequencer.Placement

/-!
# Instance names

`DoRunTest` names the `i`-th instance of a service `StrCat(server_type, "/", i)` (lines
175-181) and inserts it into the `std::set` `unplaced_services`, so two equal names would be
one instance.

* `decimalValue` reads back the decimal rendering of a `Nat` (`absl::StrCat` of an `int`,
  `toString` here): `decimalValue_toString`. No rendering contains `/`: `slash_not_mem_toString`.
* `instanceName_injective` — the name determines the server type and the index, whatever `/`
  and digits the server type holds, since the name splits at its last `/`. Hence, when no
  server type is listed twice, the expansion has exactly `Σ max(count, 0)` names and merges
  none.
-/

set_option autoImplicit false

namespace Distbench

/-! ## The decimal rendering -/

theorem digitChar_ne_slash : ∀ d, d < 10 → Nat.digitChar d ≠ '/' := by
  decide

theorem digitChar_value : ∀ d, d < 10 → (Nat.digitChar d).toNat - '0'.toNat = d := by
  decide

/-- One iteration of `toDigitsCore`. -/
theorem toDigitsCore_succ (fuel n : Nat) (ds : List Char) :
    Nat.toDigitsCore 10 (fuel + 1) n ds =
      if n / 10 = 0 then Nat.digitChar (n % 10) :: ds
      else Nat.toDigitsCore 10 fuel (n / 10) (Nat.digitChar (n % 10) :: ds) :=
  rfl

/-- `toDigitsCore` puts no `/` in front of what it is given. -/
theorem slash_not_mem_toDigitsCore :
    ∀ (fuel n : Nat) (ds : List Char), '/' ∉ ds → '/' ∉ Nat.toDigitsCore 10 fuel n ds
  | 0, _, _, h => h
  | fuel + 1, n, ds, h => by
    have hd : '/' ∉ Nat.digitChar (n % 10) :: ds :=
      List.not_mem_cons_of_ne_of_not_mem
        (digitChar_ne_slash _ (Nat.mod_lt n (by decide))).symm h
    rw [toDigitsCore_succ]
    split
    · exact hd
    · exact slash_not_mem_toDigitsCore fuel _ _ hd

theorem slash_not_mem_toString (n : Nat) : '/' ∉ (toString n).data :=
  slash_not_mem_toDigitsCore (n + 1) n [] (List.not_mem_nil _)

/-- The number a string of decimal digits denotes, read after the digits `acc` stands for. -/
def decimalValue (ds : List Char) (acc : Nat) : Nat :=
  ds.foldl (fun v ch => 10 * v + (ch.toNat - '0'.toNat)) acc

/-- With enough fuel, the digits `toDigitsCore` puts in front of `ds` are read as `n`. -/
theorem decimalValue_toDigitsCore :
    ∀ (fuel n : Nat) (ds : List Char), n < fuel →
      decimalValue (Nat.toDigitsCore 10 fuel n ds) 0 = decimalValue ds n
  | 0, n, _, h => absurd h (Nat.not_lt_zero n)
  | fuel + 1, n, ds, h => by
    have hd := digitChar_value (n % 10) (Nat.mod_lt n (by decide))
    rw [toDigitsCore_succ]
    split
    · simp only [decimalValue, List.foldl_cons, hd]
      congr 1
      omega
    · rw [decimalValue_toDigitsCore fuel (n / 10) _ (by omega)]
      simp only [decimalValue, List.foldl_cons, hd]
      congr 1
      omega

@[simp] theorem decimalValue_toString (n : Nat) : decimalValue (toString n).data 0 = n :=
  decimalValue_toDigitsCore (n + 1) n [] (Nat.lt_succ_self n)

/-! ## Splitting at the last separator -/

/-- Two lists made of a prefix, a separator and a tail without the separator split at the
same place. -/
theorem append_cons_inj {α : Type} {c : α} {r₁ r₂ : List α} (h₁ : c ∉ r₁) (h₂ : c ∉ r₂) :
    ∀ {l₁ l₂ : List α}, l₁ ++ c :: r₁ = l₂ ++ c :: r₂ → l₁ = l₂ ∧ r₁ = r₂
  | [], [], h => ⟨rfl, (List.cons.inj h).2⟩
  | [], y :: l₂, h =>
    absurd ((List.cons.inj h).2 ▸ List.mem_append_right _ (List.mem_cons_self c r₂)) h₁
  | x :: l₁, [], h =>
    absurd ((List.cons.inj h).2 ▸ List.mem_append_right _ (List.mem_cons_self c r₁)) h₂
  | x :: l₁, y :: l₂, h => by
    obtain ⟨rfl, h'⟩ := List.cons.inj h
    obtain ⟨rfl, rfl⟩ := append_cons_inj h₁ h₂ h'
    exact ⟨rfl, rfl⟩

theorem instanceName_data (t : String) (i : Nat) :
    (instanceName t i).data = t.data ++ '/' :: (toString i).data := by
  simp [instanceName, String.data_append]

theorem instanceName_inj {t₁ t₂ : String} {i₁ i₂ : Nat}
    (h : instanceName t₁ i₁ = instanceName t₂ i₂) : t₁ = t₂ ∧ i₁ = i₂ := by
  have hd := congrArg String.data h
  rw [instanceName_data, instanceName_data] at hd
  obtain ⟨ht, hi⟩ := append_cons_inj (slash_not_mem_toString i₁) (slash_not_mem_toString i₂) hd
  refine ⟨String.ext ht, ?_⟩
  rw [← decimalValue_toString i₁, hi, decimalValue_toString]

/-! ## The expansion -/

theorem instances_nodup (sn : ServiceSpec) : sn.instances.Nodup :=
  (List.nodup_range _).map fun _ _ h => (instanceName_inj h).2

theorem instances_disjoint {sn sn' : ServiceSpec} (h : sn.serverType ≠ sn'.serverType) :
    sn.instances.Disjoint sn'.instances := by
  intro x hx hx'
  obtain ⟨i, -, rfl⟩ := List.mem_map.mp hx
  obtain ⟨j, -, hj⟩ := List.mem_map.mp hx'
  exact h (instanceName_inj hj).1.symm

theorem sum_toNat_cast (services : List ServiceSpec) :
    (((services.map fun sn => sn.count.toNat).sum : Nat) : Int) =
      (services.map fun sn => max sn.count 0).sum := by
  induction services with
  | nil => rfl
  | cons sn services ih =>
    rw [List.map_cons, List.map_cons, List.sum_cons, List.sum_cons, Int.natCast_add, ih,
      Int.toNat_eq_max]

theorem length_requestedInstances (services : List ServiceSpec) :
    (requestedInstances services).length = (services.map fun sn => sn.count.toNat).sum := by
  induction services with
  | nil => rfl
  | cons sn services ih =>
    rw [requestedInstances, List.flatMap_cons, List.length_append, ← requestedInstances, ih,
      ServiceSpec.instances, List.length_map, List.length_range, List.map_cons, List.sum_cons]

/-- **Instance names are injective**, and so is the expansion of lines 175-181. -/
theorem instanceName_injective :
    (∀ (t₁ t₂ : String) (i₁ i₂ : Nat),
      instanceName t₁ i₁ = instanceName t₂ i₂ → t₁ = t₂ ∧ i₁ = i₂) ∧
    ∀ services : List ServiceSpec, (services.map ServiceSpec.serverType).Nodup →
      (requestedInstances services).Nodup ∧
      ((expandServices services).toList.length : Int) =
        (services.map fun sn => max sn.count 0).sum := by
  refine ⟨fun _ _ _ _ => instanceName_inj, fun services hs => ?_⟩
  have hnodup : (requestedInstances services).Nodup :=
    List.nodup_flatMap.mpr ⟨fun sn _ => instances_nodup sn,
      (List.pairwise_map.mp hs).imp instances_disjoint⟩
  have hperm : (expandServices services).toList.Perm (requestedInstances services) :=
    (List.perm_ext_iff_of_nodup (StdSet.nodup _) hnodup).mpr fun _ => mem_expandServices
  rw [hperm.length_eq, length_requestedInstances, sum_toNat_cast]
  exact ⟨hnodup, rfl⟩

/-- Server types `A` and `A/1`: the names `A/0`, `A/1` and `A/1/0` are three instances. -/
theorem instanceName_injective_slash_in_type :
    (requestedInstances [⟨"A", 2⟩, ⟨"A/1", 1⟩]).Nodup ∧
      ((expandServices [⟨"A", 2⟩, ⟨"A/1", 1⟩]).toList.length : Int) = 3 := by
  obtain ⟨hn, hl⟩ := instanceName_injective.2 [⟨"A", 2⟩, ⟨"A/1", 1⟩] (by decide)
  exact ⟨hn, hl.trans (by decide)⟩

end Distbench
