import Mathlib.Algebra.BigOperators.Ring.List
import Mathlib.Algebra.Order.BigOperators.Group.List
import Mathlib.Algebra.Order.Ring.Nat

/-!
# BrandBlitz.Lib.Shares

**Proportional shares rounded down.** A pool is split over weights; each weight `w` gets
`pool * w / total` where `total` is the sum of all weights. The floors never overspend
the pool, and they exhaust it exactly when every division is exact. Claims on distinct
shares, each within its share, add up to no more than all shares together.

Where the last item gets what is left (`withRest`), the whole pool is given out, and what it gets
more is less than a unit for each weight (`pool_sub_sum_shares_lt`).
-/

namespace BrandBlitz.Lib

/-- Dividing every element of a list by `d`: quotients and remainders together make up
the sum of the list. -/
theorem sum_quotients_remainders (d : Nat) :
    ∀ as : List Nat, d * (as.map (· / d)).sum + (as.map (· % d)).sum = as.sum
  | [] => by simp
  | a :: as => by
      have htail := sum_quotients_remainders d as
      have hhead := Nat.div_add_mod a d
      simp only [List.map_cons, List.sum_cons, Nat.mul_add]
      omega

section Shares

variable (pool : Nat) (weights : List Nat)

/-- What is shared out and what the roundings withhold add up to the pool. -/
theorem sum_shares_add_withheld :
    weights.sum * (weights.map fun w => pool * w / weights.sum).sum +
      (weights.map fun w => pool * w % weights.sum).sum = weights.sum * pool := by
  have hsplit := sum_quotients_remainders weights.sum (weights.map (pool * ·))
  have hsum : (weights.map (pool * ·)).sum = weights.sum * pool := by
    rw [List.sum_map_mul_left, List.map_id', Nat.mul_comm]
  rw [hsum, List.map_map, List.map_map] at hsplit
  exact hsplit

variable {weights} (hpos : 0 < weights.sum)

include hpos

/-- The floors never overspend the pool. -/
theorem sum_shares_le : (weights.map fun w => pool * w / weights.sum).sum ≤ pool := by
  have hsplit := sum_shares_add_withheld pool weights
  exact Nat.le_of_mul_le_mul_left (Nat.le.intro hsplit) hpos

/-- The floors exhaust the pool exactly when every division is exact. -/
theorem sum_shares_eq_iff :
    (weights.map fun w => pool * w / weights.sum).sum = pool ↔
      ∀ w ∈ weights, weights.sum ∣ pool * w := by
  have hsplit := sum_shares_add_withheld pool weights
  have hexact : (weights.map fun w => pool * w % weights.sum).sum = 0 ↔
      ∀ w ∈ weights, weights.sum ∣ pool * w := by
    simp only [List.sum_eq_zero_iff, List.mem_map, forall_exists_index, and_imp,
      forall_apply_eq_imp_iff₂, Nat.dvd_iff_mod_eq_zero]
  rw [← hexact]
  constructor
  · intro hall
    rw [hall] at hsplit
    omega
  · intro hnone
    rw [hnone, Nat.add_zero] at hsplit
    exact Nat.eq_of_mul_eq_mul_left hpos hsplit

end Shares

/-- Without weights nothing is shared out: the bound holds for every list. -/
theorem sum_shares_le_pool (pool : Nat) (weights : List Nat) :
    (weights.map fun w => pool * w / weights.sum).sum ≤ pool := by
  rcases Nat.eq_zero_or_pos weights.sum with hzero | hpos
  · simp [hzero]
  · exact sum_shares_le pool hpos

/-- Claims under distinct keys, each covered by a share under its key, are covered
together. -/
theorem sum_claims_le_sum_shares {α β κ : Type} [DecidableEq β] {claimKey : α → κ}
    {shareKey : β → κ} {claim : α → Nat} {share : β → Nat} :
    ∀ {claims : List α} {shares : List β}, (claims.map claimKey).Nodup →
      (∀ a ∈ claims, ∃ b ∈ shares, shareKey b = claimKey a ∧ claim a ≤ share b) →
      (claims.map claim).sum ≤ (shares.map share).sum := by
  intro claims
  induction claims with
  | nil => intro shares _ _; exact Nat.zero_le _
  | cons a rest ih =>
      intro shares hkeys hcovered
      obtain ⟨hfresh, hkeys⟩ := List.nodup_cons.mp hkeys
      obtain ⟨b, hb, hkey, hle⟩ := hcovered a List.mem_cons_self
      -- the share of `a` is spent; the other claims have other keys, hence other shares
      have hrest : (rest.map claim).sum ≤ ((shares.erase b).map share).sum := by
        refine ih hkeys fun a' ha' => ?_
        obtain ⟨b', hb', hkey', hle'⟩ := hcovered a' (List.mem_cons_of_mem _ ha')
        refine ⟨b', (List.mem_erase_of_ne fun heq => hfresh ?_).mpr hb', hkey', hle'⟩
        rw [← hkey, ← heq, hkey']
        exact List.mem_map_of_mem ha'
      have hsplit := List.sum_map_erase share hb
      rw [List.map_cons, List.sum_cons]
      omega

/-- Leaving out shares loses their value, unless none is left out. -/
theorem sum_filter_eq_iff {β : Type} {share : β → Nat} {keep : β → Bool} :
    ∀ {shares : List β}, (∀ b ∈ shares, 0 < share b) →
      (((shares.filter keep).map share).sum = (shares.map share).sum ↔
        ∀ b ∈ shares, keep b = true) := by
  intro shares
  induction shares with
  | nil => intro _; simp
  | cons b rest ih =>
      intro hpos
      have hrest := ih fun b' hb' => hpos b' (List.mem_cons_of_mem _ hb')
      have hle : ((rest.filter keep).map share).sum ≤ (rest.map share).sum :=
        (List.filter_sublist.map share).sum_le_sum fun _ _ => Nat.zero_le _
      have hb := hpos b List.mem_cons_self
      cases hkeep : keep b with
      | true => simp [hkeep, hrest]
      | false =>
          simp only [List.filter_cons_of_neg, hkeep, Bool.false_eq_true, not_false_eq_true,
            List.map_cons, List.sum_cons, List.mem_cons, forall_eq_or_imp, false_and, iff_false]
          omega

/-! ### The rest to the last -/

section Rest

variable {α : Type} (share : α → Nat) (pool : Nat)

/-- Every item gets its share but the last, which gets what is left. -/
def withRest : Nat → List α → List (α × Nat)
  | _, [] => []
  | spent, [a] => [(a, pool - spent)]
  | spent, a :: b :: rest => (a, share a) :: withRest (spent + share a) (b :: rest)

theorem withRest_fst (spent : Nat) (items : List α) :
    (withRest share pool spent items).map Prod.fst = items := by
  fun_induction withRest share pool spent items with
  | case1 => rfl
  | case2 => rfl
  | case3 spent a b rest ih => rw [List.map_cons, ih]

variable {share pool} {spent : Nat} {items : List α}

/-- Nothing is left over. -/
theorem sum_withRest (hne : items ≠ []) (hle : spent + (items.map share).sum ≤ pool) :
    ((withRest share pool spent items).map Prod.snd).sum = pool - spent := by
  fun_induction withRest share pool spent items with
  | case1 => exact absurd rfl hne
  | case2 spent a => simp
  | case3 spent a b rest ih =>
      rw [List.map_cons, List.sum_cons] at hle
      have hrest := ih (List.cons_ne_nil b rest) (by omega)
      rw [List.map_cons, List.sum_cons, hrest]
      omega

/-- Nobody gets less than the share, or more than the share and all that the shares leave. -/
theorem withRest_bounds (hle : spent + (items.map share).sum ≤ pool) :
    ∀ e ∈ withRest share pool spent items, share e.1 ≤ e.2 ∧
      e.2 ≤ share e.1 + (pool - (spent + (items.map share).sum)) := by
  fun_induction withRest share pool spent items with
  | case1 => intro e he; cases he
  | case2 spent a =>
      intro e he
      obtain rfl := List.mem_singleton.mp he
      simp only [List.map_cons, List.map_nil, List.sum_cons, List.sum_nil] at hle ⊢
      omega
  | case3 spent a b rest ih =>
      rw [List.map_cons, List.sum_cons, ← Nat.add_assoc] at hle ⊢
      intro e he
      rcases List.mem_cons.mp he with rfl | he
      · exact ⟨Nat.le_refl _, Nat.le_add_right _ _⟩
      · exact ih hle e he

/-- What the floors leave is less than a unit for each weight. -/
theorem pool_sub_sum_shares_lt (pool : Nat) {weights : List Nat} (hpos : 0 < weights.sum) :
    pool - (weights.map fun w => pool * w / weights.sum).sum < weights.length := by
  have hsplit := sum_shares_add_withheld pool weights
  have hremainders : (weights.map fun w => pool * w % weights.sum).sum <
      weights.length * weights.sum := by
    have hne : weights ≠ [] := by
      rintro rfl
      exact Nat.lt_irrefl 0 hpos
    have hlt := List.sum_lt_sum_of_ne_nil hne (fun w => pool * w % weights.sum)
      (fun _ => weights.sum) fun w _ => Nat.mod_lt _ hpos
    rwa [List.map_const', List.sum_replicate_nat] at hlt
  refine Nat.lt_of_mul_lt_mul_left (a := weights.sum) ?_
  rw [Nat.mul_sub, Nat.mul_comm weights.sum weights.length]
  omega

end Rest

end BrandBlitz.Lib
