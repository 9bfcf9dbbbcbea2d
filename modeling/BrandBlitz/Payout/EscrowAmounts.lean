import BrandBlitz.Payout.Settlement

/-!
# BrandBlitz.Payout.EscrowAmounts

**The amounts of a settlement** (`EscrowClient.settle` of `packages/stellar/src/escrow.ts`).

The amounts are `bigint`s, and the client makes doubles of them before it builds the contract call.
The call carries the amounts that it was given just when each has 53 significant bits at most
(`settle_carries_exactly_iff`).
-/

namespace BrandBlitz.Payout

open BrandBlitz.Lib BrandBlitz.Stellar

section
variable {recipients : List (EscrowRecipient Entry)}

/-! ### The arguments -/

/-- The amounts, as they are in the database. -/
def amountsOf (recipients : List (EscrowRecipient Entry)) : List Int :=
  recipients.map fun r => (r.amountStroops : Int)

/-- The contract call of `sent` has the amounts of the recipients, and so their sum. -/
def HasAmountsOf (recipients sent : List (EscrowRecipient Entry)) : Prop :=
  ∃ args, settlementArgs sent = some args ∧ args.map (·.2.val) = amountsOf recipients ∧
    (args.map (·.2.val)).sum = (amountsOf recipients).sum

/-- An operation of `settle` that carries the amounts of the recipients. -/
def CarriesAmountsOf (recipients : List (EscrowRecipient Entry)) : EscrowOp Entry → Prop
  | .loadAccount => True
  | .buildTransaction _ sent => HasAmountsOf recipients sent
  | .sendTransaction tx => HasAmountsOf recipients tx.recipients

/-- Amounts of a `BIGINT` that is positive. -/
def InBigint (recipients : List (EscrowRecipient Entry)) : Prop :=
  ∀ r ∈ recipients, 1 ≤ r.amountStroops ∧ r.amountStroops ≤ 2 ^ 63 - 1

theorem exists_settlementArgs (h : ∀ r ∈ recipients, toNumber r.amountStroops < 2 ^ 127) :
    ∃ args, settlementArgs recipients = some args := by
  induction recipients with
  | nil => exact ⟨[], rfl⟩
  | cons r rest ih =>
      obtain ⟨args, hargs⟩ := ih fun r hr => h r (List.mem_cons_of_mem _ hr)
      have hr := h r List.mem_cons_self
      have hfits : ∃ amount : Escrow.I128,
          Signed.ofInt? 128 (toNumber r.amountStroops) = some amount := by
        refine ⟨⟨toNumber r.amountStroops, by omega, by omega⟩, ?_⟩
        exact Signed.ofInt?_eq_some.mpr rfl
      obtain ⟨amount, hamount⟩ := hfits
      refine ⟨(r.address, amount) :: args, ?_⟩
      rw [settlementArgs] at hargs ⊢
      rw [List.mapM_cons, hamount, hargs]
      rfl

/-- The call carries the amounts just when `Number` does not change them. -/
theorem hasAmountsOf_iff (h : InBigint recipients) :
    HasAmountsOf recipients recipients ↔ ∀ r ∈ recipients, Representable r.amountStroops := by
  have hamounts : ∀ {args}, settlementArgs recipients = some args →
      args.map (·.2.val) = recipients.map fun r => (toNumber r.amountStroops : Int) := by
    intro args hargs
    have hsame := congrArg (List.map Prod.snd) (settlementArgs_eq_some hargs)
    rwa [List.map_map, List.map_map] at hsame
  constructor
  · rintro ⟨args, hargs, hsame, -⟩ r hr
    rw [hamounts hargs, amountsOf] at hsame
    have hr := List.map_inj_left.mp hsame r hr
    exact (toNumber_eq_self_iff _).mp (Int.ofNat_inj.mp hr)
  · intro hall
    have hexact : ∀ r ∈ recipients, toNumber r.amountStroops = r.amountStroops :=
      fun r hr => (toNumber_eq_self_iff _).mpr (hall r hr)
    obtain ⟨args, hargs⟩ : ∃ args, settlementArgs recipients = some args := by
      refine exists_settlementArgs fun r hr => ?_
      have hrange := (h r hr).2
      rw [hexact r hr]
      omega
    have hsame : args.map (·.2.val) = amountsOf recipients := by
      rw [hamounts hargs, amountsOf]
      exact List.map_congr_left fun r hr => congrArg Int.ofNat (hexact r hr)
    exact ⟨args, hargs, hsame, congrArg List.sum hsame⟩

/-! ### The calls of `settle` -/

/-- Whatever is answered, the client sends the recipients that it was given. -/
theorem settle_emits {ok : EscrowOp Entry → Prop} (hload : ok .loadAccount)
    (hbuild : ∀ sequence, ok (.buildTransaction sequence recipients))
    (hsend : ∀ hash, ok (.sendTransaction ⟨hash, recipients⟩)) :
    (EscrowClient.settle recipients).Emits ok (fun _ _ => True) fun _ => True := by
  refine Prog.Emits.bind (Prog.Emits.call hload fun _ _ => trivial) fun sequence _ => ?_
  refine Prog.Emits.bind (Prog.Emits.call (hbuild sequence) fun _ _ => trivial) fun hash _ => ?_
  refine Prog.Emits.bind
    (withRetry_emits (Prog.Emits.call (hsend hash) fun _ _ => trivial) _ 5) fun result _ => ?_
  split
  · trivial
  · trivial

/-- **A settlement carries its amounts exactly** just when each has 53 significant bits at most. -/
theorem settle_carries_exactly_iff (h : InBigint recipients) :
    (EscrowClient.settle recipients).Emits (CarriesAmountsOf recipients) (fun _ _ => True)
        (fun _ => True) ↔
      ∀ r ∈ recipients, Representable r.amountStroops := by
  rw [← hasAmountsOf_iff h]
  constructor
  · intro hemits
    exact (hemits.2 (.ok 0) trivial).1
  · intro hamounts
    exact settle_emits trivial (fun _ => hamounts) fun _ => hamounts

end

/-- A recipient of an amount, for the examples. -/
def recipientOf (amountStroops : Nat) : EscrowRecipient Entry where
  address := "GWINNER".toList
  amountStroops := amountStroops
  entry := ⟨1, ⟨amountStroops, [], [], none⟩⟩

theorem inBigint_recipientOf {n : Nat} (hpos : 1 ≤ n) (hn : n ≤ 2 ^ 63 - 1) :
    InBigint [recipientOf n] :=
  List.forall_mem_singleton.mpr ⟨hpos, hn⟩

/-- Two shares of a pool, and an even amount above `2 ^ 53`. -/
def threeRecipients : List (EscrowRecipient Entry) :=
  [recipientOf 750000000, recipientOf 250000000, recipientOf (2 ^ 53 + 2)]

theorem settle_carries_three :
    (EscrowClient.settle threeRecipients).Emits (CarriesAmountsOf threeRecipients)
      (fun _ _ => True) fun _ => True := by
  have hbigint : InBigint threeRecipients := by
    unfold InBigint threeRecipients
    decide
  refine (settle_carries_exactly_iff hbigint).mpr fun r hr => ?_
  simp only [threeRecipients, List.mem_cons, List.not_mem_nil, or_false] at hr
  rcases hr with rfl | rfl | rfl
  · exact ⟨750000000, 0, by decide, rfl⟩
  · exact ⟨250000000, 0, by decide, rfl⟩
  · exact ⟨2 ^ 52 + 1, 1, by decide, rfl⟩

/-- An odd number of stroops above `2 ^ 53` is not carried. -/
theorem settle_carries_another_amount :
    ¬ ∀ recipients, InBigint recipients →
      (EscrowClient.settle recipients).Emits (CarriesAmountsOf recipients) (fun _ _ => True)
        fun _ => True := by
  intro hall
  have hemits := hall [recipientOf (2 ^ 53 + 1)] (inBigint_recipientOf (by decide) (by decide))
  obtain ⟨args, hargs, hsame, -⟩ := (hemits.2 (.ok 0) trivial).1
  obtain rfl : [("GWINNER".toList, ⟨2 ^ 53, by decide, by decide⟩)] = args :=
    Option.some.inj (Eq.trans (by decide) hargs)
  exact absurd hsame (by decide)

end BrandBlitz.Payout
