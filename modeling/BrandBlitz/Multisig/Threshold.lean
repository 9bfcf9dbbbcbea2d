import Mathlib.Data.List.Nodup
import BrandBlitz.Lib.Crew
import BrandBlitz.Lib.ExpiringKeys
import BrandBlitz.Multisig.Operations

/-!
# BrandBlitz.Multisig.Threshold

**An operation is submitted once, in time, and with the signatures that it needs**, in every
interleaving of requests in which

* a signature is stored only while the operation is pending, and it is the signature of the
  cosigner whose key it comes with;
* `submitOperation` finds the operation pending and not expired.

No request checks a signature or `expires_at`, and the status is checked in a statement of its
own. Signatures are never taken away, so their number can be counted before.
-/

namespace BrandBlitz.Multisig

open BrandBlitz.Lib
open BrandBlitz.Paging (Uuid Timestamp)

/-! ### The property -/

structure ThresholdRespected (w : World) : Prop where
  once : (w.submissions.map (·.operationId)).Nodup
  inTime : ∀ s ∈ w.submissions, s.submittedAt < s.operation.expiresAt
  endorsed : ∀ s ∈ w.submissions, (s.endorsers.map (·.id)).Nodup ∧
    s.operation.threshold ≤ s.endorsers.length
  frozen : ∀ s ∈ w.submissions, w.signaturesOf s.operationId = s.signatures
  /-- nothing is submitted otherwise -/
  recorded : ∀ id operation, w.operations id = some operation → operation.status ≠ .pending →
    id ∈ w.submissions.map (·.operationId)

/-- What no request checks. -/
def Genuine (valid : Text → Text → Text → Bool) (w : World) : MultisigOp → Prop
  | .insertSignature row => ∀ operation ∈ w.operations row.operationId,
      operation.status = .pending ∧ ∀ cosigner ∈ w.cosigners, cosigner.id = row.signerId →
        valid cosigner.publicKey operation.xdrUnsigned row.xdrSigned = true
  | .updateOperation id => ∀ operation ∈ w.operations id,
      operation.status = .pending ∧ w.now < operation.expiresAt
  | _ => True

instance (platform : Platform) : Decidable platform.Works :=
  inferInstanceAs (Decidable (_ ∧ _))

instance (valid : Text → Text → Text → Bool) (w : World) (op : MultisigOp) :
    Decidable (Genuine valid w op) :=
  match op with
  | .insertSignature row => inferInstanceAs (Decidable (∀ _ ∈ w.operations row.operationId, _))
  | .updateOperation id => inferInstanceAs (Decidable (∀ _ ∈ w.operations id, _))
  | .selectThreshold | .loadAccount | .insertOperation _ _ | .selectOperation _
  | .selectCosigner _ | .selectCosignerById _ | .selectSignatures _ | .insertCosigner _ _
  | .updateCosigner _ _ | .deleteCosigner _ | .insertAudit _ => .isTrue trivial

/-! ### Signatures -/

section Signatures

variable {rows : List MultisigSignature} {row other : MultisigSignature} {w : World} {id : Uuid}

theorem map_key_upsert : (upsertSignature rows row).map (·.key) =
    if row.key ∈ rows.map (·.key) then rows.map (·.key) else rows.map (·.key) ++ [row.key] := by
  unfold upsertSignature
  split
  · rw [List.map_map]
    refine List.map_congr_left fun other _ => ?_
    show (if other.key = row.key then { other with xdrSigned := row.xdrSigned } else other).key = _
    split <;> rfl
  · rw [List.map_append, List.map_singleton]

theorem mem_upsert (h : other ∈ upsertSignature rows row) : other.key = row.key ∨ other ∈ rows := by
  unfold upsertSignature at h
  split at h
  · obtain ⟨old, hold, rfl⟩ := List.mem_map.mp h
    by_cases hkey : old.key = row.key
    · rw [if_pos hkey]
      exact .inl hkey
    · rw [if_neg hkey]
      exact .inr hold
  · rcases List.mem_append.mp h with h | h
    · exact .inr h
    · rw [List.mem_singleton.mp h]
      exact .inl rfl

theorem nodup_upsert (h : (rows.map (·.key)).Nodup) :
    ((upsertSignature rows row).map (·.key)).Nodup := by
  rw [map_key_upsert]
  split
  · exact h
  · rename_i hnew
    exact List.nodup_append.mpr ⟨h, List.nodup_singleton _, fun a ha b hb => by
      rw [List.mem_singleton.mp hb]
      exact fun heq => hnew (heq ▸ ha)⟩

/-- Signatures are counted by their keys. -/
theorem length_signaturesOf : (w.signaturesOf id).length =
    ((w.signatures.map (·.key)).filter fun key => key.1 = id).length := by
  rw [List.filter_map, List.length_map]
  rfl

/-- A signature is never taken away. -/
theorem length_signaturesOf_le :
    (w.signaturesOf id).length ≤ ((w.addSignature row).signaturesOf id).length := by
  rw [length_signaturesOf, length_signaturesOf]
  show _ ≤ (((upsertSignature w.signatures row).map (·.key)).filter _).length
  rw [map_key_upsert]
  split
  · exact Nat.le_refl _
  · rw [List.filter_append, List.length_append]
    exact Nat.le_add_right _ _

/-- The signatures of the other operations stay as they are. -/
theorem signaturesOf_addSignature (h : id ≠ row.operationId) :
    (w.addSignature row).signaturesOf id = w.signaturesOf id := by
  show (upsertSignature w.signatures row).filter _ = w.signatures.filter _
  unfold upsertSignature
  split
  · rw [List.filter_map, List.filter_congr (q := fun other => other.operationId = id)]
    · refine (List.map_congr_left fun other hother => if_neg fun hkey => h ?_).trans
        (List.map_id _)
      rw [← of_decide_eq_true (List.mem_filter.mp hother).2]
      exact congrArg Prod.fst hkey
    · intro other _
      show decide ((if _ then _ else other : MultisigSignature).operationId = id) = _
      split <;> rfl
  · rw [List.filter_append, List.filter_singleton, decide_eq_false h.symm]
    exact List.append_nil _

end Signatures

/-! ### The invariant -/

section

variable (valid : Text → Text → Text → Bool)

structure Inv (w : World) : Prop where
  cosignerIds : (w.cosigners.map (·.id)).Nodup
  unique : (w.signatures.map (·.key)).Nodup
  /-- a signature is on an operation, and its cosigner has supplied it -/
  backed : ∀ row ∈ w.signatures, ∃ operation, w.operations row.operationId = some operation ∧
    ∃ cosigner ∈ w.endorsers valid row.operationId operation.xdrUnsigned, cosigner.id = row.signerId
  settled : ∀ s ∈ w.submissions, ∃ operation, w.operations s.operationId = some operation ∧
    operation.status ≠ .pending
  respected : ThresholdRespected w

/-- The operation has as many signatures as it needs. -/
def World.Enough (w : World) (id : Uuid) : Prop :=
  ∃ operation, w.operations id = some operation ∧
    operation.threshold ≤ (w.signaturesOf id).length

/-- What is true of the world where a statement is made. -/
def Ready (w : World) : MultisigOp → Prop
  | .updateOperation id => w.Enough id
  | _ => True

end

theorem start_inv (valid : Text → Text → Text → Bool) (now : Timestamp) :
    Inv valid (.start now) where
  cosignerIds := List.nodup_nil
  unique := List.nodup_nil
  backed row h := absurd h List.not_mem_nil
  settled s h := absurd h List.not_mem_nil
  respected :=
    { once := List.nodup_nil
      inTime := fun s h => absurd h List.not_mem_nil
      endorsed := fun s h => absurd h List.not_mem_nil
      frozen := fun s h => absurd h List.not_mem_nil
      recorded := fun id operation h => by cases h }

section Steps

variable {valid : Text → Text → Text → Bool} {w : World} {id : Uuid}

theorem mem_endorsers {xdrUnsigned : Text} {cosigner : MultisigCosigner} :
    cosigner ∈ w.endorsers valid id xdrUnsigned ↔ cosigner ∈ w.cosigners ∧ ∃ row ∈ w.supplied,
      row.operationId = id ∧ row.signerId = cosigner.id ∧
        valid cosigner.publicKey xdrUnsigned row.xdrSigned = true := by
  simp [World.endorsers, and_assoc]

/-- Every signature of an operation is that of a cosigner of its own. -/
theorem Inv.length_le_endorsers (h : Inv valid w) {operation : MultisigOperation}
    (hoperation : w.operations id = some operation) :
    (w.signaturesOf id).length ≤ (w.endorsers valid id operation.xdrUnsigned).length := by
  have hrow : ∀ row ∈ w.signaturesOf id, row ∈ w.signatures ∧ row.operationId = id :=
    fun row hrow => ⟨(List.mem_filter.mp hrow).1, of_decide_eq_true (List.mem_filter.mp hrow).2⟩
  have hnodup : ((w.signaturesOf id).map (·.signerId)).Nodup := by
    refine (h.unique.of_map.filter _).map_on fun row hmem other hother heq => ?_
    obtain ⟨hmem, hid⟩ := hrow row hmem
    obtain ⟨hother, hid'⟩ := hrow other hother
    exact List.inj_on_of_nodup_map h.unique hmem hother (Prod.ext (hid.trans hid'.symm) heq)
  have hsubset : (w.signaturesOf id).map (·.signerId) ⊆
      (w.endorsers valid id operation.xdrUnsigned).map (·.id) := by
    intro signerId hsigner
    obtain ⟨row, hof, rfl⟩ := List.mem_map.mp hsigner
    obtain ⟨hmem, rfl⟩ := hrow row hof
    obtain ⟨operation', hoperation', cosigner, hcosigner, hid⟩ := h.backed row hmem
    obtain rfl := Option.some.inj (hoperation'.symm.trans hoperation)
    exact List.mem_map.mpr ⟨cosigner, hcosigner, hid⟩
  have hle := (List.subperm_of_subset hnodup hsubset).length_le
  rwa [List.length_map, List.length_map] at hle

/-! ### What the statements keep -/

/-- Other cosigners, but those who have signed. -/
theorem Inv.cosigners (h : Inv valid w) {cosigners : List MultisigCosigner}
    (hids : (cosigners.map (·.id)).Nodup)
    (hkept : ∀ row ∈ w.signatures, ∀ cosigner ∈ w.cosigners, cosigner.id = row.signerId →
      ∃ cosigner' ∈ cosigners, cosigner'.id = cosigner.id ∧
        cosigner'.publicKey = cosigner.publicKey) :
    Inv valid { w with cosigners := cosigners } where
  cosignerIds := hids
  unique := h.unique
  backed row hrow := by
    obtain ⟨operation, hoperation, cosigner, hcosigner, hid⟩ := h.backed row hrow
    obtain ⟨hmem, supply, hsupply, hof, hsigner, hvalid⟩ := mem_endorsers.mp hcosigner
    obtain ⟨cosigner', hmem', hid', hkey⟩ := hkept row hrow cosigner hmem hid
    refine ⟨operation, hoperation, cosigner', mem_endorsers.mpr ⟨hmem', supply, hsupply, hof, ?_⟩,
      hid'.trans hid⟩
    rw [hid', hkey]
    exact ⟨hsigner, hvalid⟩
  settled := h.settled
  respected := ⟨h.respected.once, h.respected.inTime, h.respected.endorsed, h.respected.frozen,
    h.respected.recorded⟩

theorem Inv.insertOperation (h : Inv valid w) (hnew : w.operations id = none)
    {operation : MultisigOperation} (hpending : operation.status = .pending) :
    Inv valid { w with operations := Function.update w.operations id (some operation) } := by
  have hold : ∀ {id' operation'}, w.operations id' = some operation' →
      Function.update w.operations id (some operation) id' = some operation' :=
    fun {id' operation'} hold => by
      rw [Function.update_of_ne, hold]
      rintro rfl
      rw [hnew] at hold
      cases hold
  refine ⟨h.cosignerIds, h.unique, fun row hrow => ?_, fun s hs => ?_, h.respected.once,
    h.respected.inTime, h.respected.endorsed, h.respected.frozen, fun id' operation' hat hne => ?_⟩
  · obtain ⟨operation', hoperation, hbacked⟩ := h.backed row hrow
    exact ⟨operation', hold hoperation, hbacked⟩
  · obtain ⟨operation', hoperation, hne⟩ := h.settled s hs
    exact ⟨operation', hold hoperation, hne⟩
  · rcases some_of_update hat with ⟨-, hvalue⟩ | ⟨-, hold⟩
    · exact absurd (Option.some.inj hvalue ▸ hpending) hne
    · exact h.respected.recorded id' operation' hold hne

theorem Inv.addSignature (h : Inv valid w) {row : MultisigSignature}
    {operation : MultisigOperation} (hoperation : w.operations row.operationId = some operation)
    (hpending : operation.status = .pending) {cosigner : MultisigCosigner}
    (hcosigner : cosigner ∈ w.cosigners) (hid : cosigner.id = row.signerId)
    (hvalid : valid cosigner.publicKey operation.xdrUnsigned row.xdrSigned = true) :
    Inv valid (w.addSignature row) where
  cosignerIds := h.cosignerIds
  unique := nodup_upsert h.unique
  backed other hother := by
    rcases mem_upsert hother with hkey | hother
    · obtain ⟨hof, hsigner⟩ := Prod.ext_iff.mp hkey
      refine ⟨operation, by rw [show other.operationId = _ from hof]; exact hoperation, cosigner,
        mem_endorsers.mpr ⟨hcosigner, row, ?_, hof.symm, hid.symm, hvalid⟩, hid.trans hsigner.symm⟩
      exact List.mem_append_right _ (List.mem_singleton_self row)
    · obtain ⟨operation', hoperation', cosigner', hcosigner', hid'⟩ := h.backed other hother
      obtain ⟨hmem, supply, hsupply, hrest⟩ := mem_endorsers.mp hcosigner'
      exact ⟨operation', hoperation', cosigner',
        mem_endorsers.mpr ⟨hmem, supply, List.mem_append_left _ hsupply, hrest⟩, hid'⟩
  settled := h.settled
  respected :=
    { once := h.respected.once
      inTime := h.respected.inTime
      endorsed := h.respected.endorsed
      frozen := fun s hs => by
        rw [signaturesOf_addSignature, h.respected.frozen s hs]
        intro heq
        obtain ⟨operation', hoperation', hne⟩ := h.settled s hs
        rw [heq, hoperation] at hoperation'
        exact hne (Option.some.inj hoperation' ▸ hpending)
      recorded := h.respected.recorded }

/-- One more submission, the first of its operation. -/
theorem ThresholdRespected.submit (h : ThresholdRespected w) {operation : MultisigOperation}
    (hfresh : ∀ s ∈ w.submissions, s.operationId ≠ id) (hintime : w.now < operation.expiresAt)
    (hendorsed : ((w.endorsers valid id operation.xdrUnsigned).map (·.id)).Nodup ∧
      operation.threshold ≤ (w.endorsers valid id operation.xdrUnsigned).length) :
    ThresholdRespected (w.submit valid id operation) := by
  have hsplit : ∀ {s : Submission}, s ∈ (w.submit valid id operation).submissions →
      s ∈ w.submissions ∨ s = ⟨id, operation, w.now, w.endorsers valid id operation.xdrUnsigned,
        w.signaturesOf id⟩ := fun hs =>
    (List.mem_append.mp hs).imp_right List.mem_singleton.mp
  refine ⟨?_, fun s hs => ?_, fun s hs => ?_, fun s hs => ?_, fun id' operation' hat hne => ?_⟩
  · rw [World.submit, List.map_append, List.map_singleton, List.nodup_append]
    refine ⟨h.once, List.nodup_singleton _, fun id' hid' id'' hid'' => ?_⟩
    obtain ⟨s, hs, rfl⟩ := List.mem_map.mp hid'
    rw [List.mem_singleton.mp hid'']
    exact hfresh s hs
  · rcases hsplit hs with hs | rfl
    · exact h.inTime s hs
    · exact hintime
  · rcases hsplit hs with hs | rfl
    · exact h.endorsed s hs
    · exact hendorsed
  · rcases hsplit hs with hs | rfl
    · exact h.frozen s hs
    · rfl
  · rw [World.submit, List.map_append, List.mem_append]
    rcases some_of_update hat with ⟨rfl, -⟩ | ⟨-, hold⟩
    · exact .inr (List.mem_singleton_self _)
    · exact .inl (h.recorded id' operation' hold hne)

theorem Inv.submit (h : Inv valid w) {operation : MultisigOperation}
    (hoperation : w.operations id = some operation) (hpending : operation.status = .pending)
    (hintime : w.now < operation.expiresAt)
    (henough : operation.threshold ≤ (w.signaturesOf id).length) :
    Inv valid (w.submit valid id operation) := by
  have hfresh : ∀ s ∈ w.submissions, s.operationId ≠ id := fun s hs heq => by
    obtain ⟨operation', hoperation', hne⟩ := h.settled s hs
    rw [heq, hoperation] at hoperation'
    exact hne (Option.some.inj hoperation' ▸ hpending)
  refine ⟨h.cosignerIds, h.unique, fun row hrow => ?_, fun s hs => ?_,
    h.respected.submit hfresh hintime
      ⟨h.cosignerIds.sublist (List.filter_sublist.map _), henough.trans ?_⟩⟩
  · obtain ⟨operation', hoperation', hbacked⟩ := h.backed row hrow
    by_cases hid : row.operationId = id
    · rw [hid, hoperation] at hoperation'
      obtain rfl := Option.some.inj hoperation'
      rw [hid] at hbacked ⊢
      exact ⟨_, Function.update_self .., hbacked⟩
    · exact ⟨operation', (Function.update_of_ne hid ..).trans hoperation', hbacked⟩
  · rcases List.mem_append.mp hs with hs | hs
    · obtain ⟨operation', hoperation', hne⟩ := h.settled s hs
      exact ⟨operation', (Function.update_of_ne (hfresh s hs) ..).trans hoperation', hne⟩
    · rw [List.mem_singleton.mp hs]
      exact ⟨_, Function.update_self .., OperationStatus.noConfusion⟩
  · exact Int.ofNat_le.mpr (h.length_le_endorsers hoperation)

/-! ### One statement -/

variable {platform : Platform} {e : MultisigEnv} {op : MultisigOp}

theorem inv_insertOperation (h : Inv valid w) (xdrUnsigned : Text) (threshold : Int) :
    Inv valid (perform platform valid e w (.insertOperation xdrUnsigned threshold)).2 := by
  rw [perform]
  split
  · exact h
  · rename_i hnew
    exact h.insertOperation (by simpa using hnew) rfl

theorem inv_insertSignature (h : Inv valid w) {row : MultisigSignature}
    (hguard : Genuine valid w (.insertSignature row)) :
    Inv valid (perform platform valid e w (.insertSignature row)).2 := by
  rw [perform]
  split
  · rename_i hthere
    obtain ⟨hoperation, hcosigner⟩ := Bool.and_eq_true_iff.mp hthere
    obtain ⟨operation, hoperation⟩ := Option.isSome_iff_exists.mp hoperation
    obtain ⟨cosigner, hmem, hid⟩ := List.any_eq_true.mp hcosigner
    obtain ⟨hpending, hvalid⟩ := hguard operation hoperation
    exact h.addSignature hoperation hpending hmem (of_decide_eq_true hid)
      (hvalid cosigner hmem (of_decide_eq_true hid))
  · exact h

theorem inv_updateOperation (h : Inv valid w) (hready : w.Enough id)
    (hguard : Genuine valid w (.updateOperation id)) :
    Inv valid (perform platform valid e w (.updateOperation id)).2 := by
  obtain ⟨operation, hoperation, hle⟩ := hready
  obtain ⟨hpending, hintime⟩ := hguard operation hoperation
  rw [perform]
  split
  · rw [hoperation]
    exact h.submit hoperation hpending hintime hle
  · exact h

theorem inv_insertCosigner (h : Inv valid w) (publicKey role : Text) :
    Inv valid (perform platform valid e w (.insertCosigner publicKey role)).2 := by
  rw [perform]
  split
  · exact h
  · rename_i hnew
    refine h.cosigners ?_ fun row _ cosigner hmem _ =>
      ⟨cosigner, List.mem_append_left _ hmem, rfl, rfl⟩
    rw [List.map_append, List.map_singleton, List.nodup_append]
    refine ⟨h.cosignerIds, List.nodup_singleton _, fun id hid id' hid' heq => hnew ?_⟩
    obtain ⟨cosigner, hmem, rfl⟩ := List.mem_map.mp hid
    rw [List.mem_singleton.mp hid'] at heq
    exact List.any_eq_true.mpr ⟨cosigner, hmem, by simp [heq]⟩

theorem inv_updateCosigner (h : Inv valid w) (role : Option Text) :
    Inv valid (perform platform valid e w (.updateCosigner id role)).2 := by
  refine h.cosigners ?_ fun row _ cosigner hmem _ => ⟨_, List.mem_map_of_mem hmem, ?_⟩
  · rw [List.map_map, List.map_congr_left (g := (·.id))]
    · exact h.cosignerIds
    · intro cosigner _
      rw [Function.comp_apply]
      split <;> rfl
  · split <;> exact ⟨rfl, rfl⟩

theorem inv_deleteCosigner (h : Inv valid w) :
    Inv valid (perform platform valid e w (.deleteCosigner id)).2 := by
  rw [perform]
  split
  · exact h
  · rename_i hunsigned
    refine h.cosigners (h.cosignerIds.sublist (List.filter_sublist.map _))
      fun row hrow cosigner hmem hid => ⟨cosigner, List.mem_filter.mpr ⟨hmem, ?_⟩, rfl, rfl⟩
    refine decide_eq_true fun heq => hunsigned (List.any_eq_true.mpr ⟨row, hrow, ?_⟩)
    exact decide_eq_true (hid.symm.trans heq)

theorem perform_inv (h : Inv valid w) (hready : Ready w op) (hguard : Genuine valid w op) :
    Inv valid (perform platform valid e w op).2 := by
  cases op with
  | insertOperation xdrUnsigned threshold => exact inv_insertOperation h xdrUnsigned threshold
  | insertSignature row => exact inv_insertSignature h hguard
  | updateOperation id => exact inv_updateOperation h hready hguard
  | insertCosigner publicKey role => exact inv_insertCosigner h publicKey role
  | updateCosigner id role => exact inv_updateCosigner h role
  | deleteCosigner id => exact inv_deleteCosigner h
  | _ => exact h

/-- An operation keeps its threshold, and its signatures are never taken away. -/
theorem perform_enough (h : w.Enough id) : (perform platform valid e w op).2.Enough id := by
  obtain ⟨operation, hoperation, hle⟩ := h
  have hsame : w.Enough id := ⟨operation, hoperation, hle⟩
  cases op with
  | insertOperation xdrUnsigned threshold =>
      rw [perform]
      split
      · exact hsame
      · refine ⟨operation, (Function.update_of_ne ?_ ..).trans hoperation, hle⟩
        rintro rfl
        simp_all
  | insertSignature row =>
      rw [perform]
      split
      · exact ⟨operation, hoperation, hle.trans (Int.ofNat_le.mpr length_signaturesOf_le)⟩
      · exact hsame
  | updateOperation id' =>
      rw [perform]
      split
      · split
        · exact hsame
        · rename_i submitted hsubmitted
          by_cases heq : id = id'
          · rw [← heq, hoperation] at hsubmitted
            rw [← Option.some.inj hsubmitted, ← heq]
            exact ⟨_, Function.update_self .., hle⟩
          · exact ⟨operation, (Function.update_of_ne heq ..).trans hoperation, hle⟩
      · exact hsame
  | insertCosigner publicKey role =>
      rw [perform]
      split
      · exact hsame
      · exact ⟨operation, hoperation, hle⟩
  | updateCosigner id' role => exact ⟨operation, hoperation, hle⟩
  | deleteCosigner id' =>
      rw [perform]
      split
      · exact hsame
      · exact ⟨operation, hoperation, hle⟩
  | _ => exact hsame

/-- The machine does what the statement does, or nothing. -/
theorem exec_cases (platform : Platform) (valid : Text → Text → Text → Bool) (e : MultisigEnv)
    (w : World) (op : MultisigOp) : ((machine platform valid).exec e op w).2 = w ∨
      ((machine platform valid).exec e op w).2 = (perform platform valid e w op).2 := by
  unfold machine
  dsimp only
  cases e.fate with
  | lost => exact .inl rfl
  | done | unanswered => exact .inr rfl

theorem exec_inv (h : Inv valid w) (hready : Ready w op) (hguard : Genuine valid w op) :
    Inv valid ((machine platform valid).exec e op w).2 := by
  rcases exec_cases platform valid e w op with heq | heq
  · rwa [heq]
  · rw [heq]
    exact perform_inv h hready hguard

/-- What a request counts on, whatever the others do. -/
structure Rely (valid : Text → Text → Text → Bool) (w w' : World) : Prop where
  inv : Inv valid w'
  enough : ∀ id, w.Enough id → w'.Enough id

theorem exec_rely (hinv : Inv valid ((machine platform valid).exec e op w).2) :
    Rely valid w ((machine platform valid).exec e op w).2 := by
  refine ⟨hinv, fun id h => ?_⟩
  rcases exec_cases platform valid e w op with heq | heq
  · rwa [heq]
  · rw [heq]
    exact perform_enough h

end Steps

/-! ### Requests -/

/-- Every operation but the submission. -/
def Harmless (op : MultisigOp) : Prop := ∀ id, op ≠ .updateOperation id

section Requests

variable {platform : Platform} {valid : Text → Text → Text → Bool} {w : World}

abbrev EmitsHarmless {α : Type} (p : Prog multisigSig ApiError α) (P : α → Prop) : Prop :=
  p.Emits Harmless (fun _ _ => True) P

theorem call_emits {op : MultisigOp} (h : Harmless op) :
    EmitsHarmless (call op) fun _ => True := .call h fun _ _ => trivial

theorem registerCosigner_emits (publicKey role : Text) :
    EmitsHarmless (registerCosigner publicKey role) fun _ => True := by
  refine .bind (call_emits fun _ => by simp) fun existing _ => ?_
  split
  · trivial
  · exact .bind (call_emits fun _ => by simp) fun _ _ =>
      .bind (call_emits fun _ => by simp) fun _ _ => trivial

theorem updateCosigner_emits (id : Uuid) (role : Option Text) :
    EmitsHarmless (updateCosigner id role) fun _ => True := by
  refine .bind (call_emits fun _ => by simp) fun oldCosigner _ => ?_
  split
  · trivial
  · exact .bind (call_emits fun _ => by simp) fun _ _ =>
      .bind (call_emits fun _ => by simp) fun _ _ => trivial

theorem removeCosigner_emits (id : Uuid) : EmitsHarmless (removeCosigner id) fun _ => True := by
  refine .bind (call_emits fun _ => by simp) fun removed _ => ?_
  split
  · trivial
  · exact .bind (call_emits fun _ => by simp) fun _ _ => trivial

theorem propose_emits (xdrUnsigned : Text) : EmitsHarmless (propose xdrUnsigned) fun _ => True :=
  .bind (call_emits fun _ => by simp) fun _ _ => .bind (call_emits fun _ => by simp) fun _ _ =>
    .bind (call_emits fun _ => by simp) fun _ _ => .bind (call_emits fun _ => by simp) fun _ _ =>
      trivial

/-- An operation is read only where `json` is text. -/
theorem getOperationById_emits (id : Uuid) :
    EmitsHarmless (getOperationById platform id) fun found =>
      found.isSome → platform.jsonText = true := by
  refine .bind (call_emits fun _ => by simp) fun row _ => ?_
  cases row with
  | none => exact fun h => absurd h Bool.false_ne_true
  | some detail =>
      dsimp only
      split
      · rename_i htext
        exact fun _ => htext
      · trivial

theorem cosign_emits (operationId : Uuid) (xdrSigned signerPublicKey : Text) :
    EmitsHarmless (cosign platform operationId xdrSigned signerPublicKey) fun _ => True := by
  refine .bind (getOperationById_emits operationId) fun found _ => ?_
  cases found with
  | none => trivial
  | some detail =>
      dsimp only
      split
      · trivial
      refine .bind (call_emits fun _ => by simp) fun signer _ => ?_
      cases signer with
      | none => trivial
      | some signer =>
          exact .bind (call_emits fun _ => by simp) fun _ _ =>
            .bind (call_emits fun _ => by simp) fun _ _ =>
              .bind (call_emits fun _ => by simp) fun _ _ => trivial

/-- What a request keeps, whatever the others do. -/
def Keeps (platform : Platform) (valid : Text → Text → Text → Bool) {α : Type}
    (p : Prog multisigSig ApiError α) (Q : α → World → Prop) (w : World) : Prop :=
  p.wp (machine platform valid).among (Among (Rely valid) fun w op _ => Genuine valid w op)
    (Inv valid) (Prog.Ends Q fun _ _ => True) w

theorem keeps_of_emits {α : Type} {p : Prog multisigSig ApiError α} {P : α → Prop}
    (h : EmitsHarmless p P) (hw : Inv valid w) : Keeps platform valid p (fun _ _ => True) w := by
  refine Prog.wp_weaken (h.wp (K := Inv valid) (fun _ h => h) (fun w op move _ hop hmove => ?_) hw)
    (fun _ _ _ => trivial) fun _ _ _ => trivial
  refine ⟨exec_inv hmove.1.inv ?_ hmove.2, trivial⟩
  cases op with
  | updateOperation id => exact absurd rfl (hop id)
  | _ => trivial

theorem keeps_call {op : MultisigOp} {A : World → Prop} {Q : multisigSig.Ans op → World → Prop}
    (hstable : ∀ w w', A w → Rely valid w w' → A w') (hw : A w)
    (hready : ∀ w', A w' → Ready w' op)
    (h : ∀ w' e, A w' → Prog.Ends Q (fun _ _ => True) (perform platform valid e w' op).1
      (perform platform valid e w' op).2) : Keeps platform valid (call op) Q w := by
  refine Prog.wp_call_among hstable hw fun w' e hrely hw' hguard => ?_
  refine ⟨exec_inv hrely.inv (hready w' hw') hguard, ?_⟩
  unfold machine
  dsimp only
  cases e.fate with
  | done => exact h w' e hw'
  | lost | unanswered => trivial

/-- The signatures that are counted stay. -/
theorem getOperationById_keeps (id : Uuid) :
    Keeps platform valid (getOperationById platform id)
      (fun found w => ∀ detail ∈ found, detail.operation.threshold ≤ detail.signatureCount →
        w.Enough id) w := by
  refine Prog.wp_bind (P := fun found w => ∀ detail ∈ found,
      detail.operation.threshold ≤ detail.signatureCount → w.Enough id)
    (keeps_call (A := fun _ => True) (fun _ _ _ _ => trivial) trivial (fun _ _ => trivial)
      fun w' e _ detail hdetail hle => ?_) fun row w h => ?_
  · obtain ⟨operation, hoperation, rfl⟩ := Option.map_eq_some_iff.mp hdetail
    exact ⟨operation, hoperation, hle⟩
  · cases row with
    | none => exact h
    | some detail =>
        dsimp only
        split
        · exact h
        · trivial

theorem submitCollected_keeps {id : Uuid} (h : w.Enough id) :
    Keeps platform valid (submitCollected id) (fun _ _ => True) w := by
  have hstable : ∀ w w', w.Enough id → Rely valid w w' → w'.Enough id :=
    fun _ _ h hrely => hrely.enough id h
  refine Prog.wp_bind (P := fun _ (w : World) => w.Enough id)
    (keeps_call hstable h (fun _ _ => trivial) fun _ _ h => h) fun _ w h => ?_
  refine Prog.wp_bind (P := fun _ _ => True) (keeps_call hstable h (fun _ h => h) fun w' e _ => ?_)
    fun submitted w _ => ?_
  · cases (perform platform valid e w' (.updateOperation id)).1 <;> trivial
  refine Prog.wp_bind (P := fun _ _ => True)
    (keeps_call (A := fun _ => True) (fun _ _ _ _ => trivial) trivial (fun _ _ => trivial)
      fun _ _ _ => trivial) fun _ w _ => ?_
  split <;> trivial

/-- **A submission has the signatures that it counted.** -/
theorem submit_keeps (id : Uuid) :
    Keeps platform valid (submit platform id) (fun _ _ => True) w := by
  refine Prog.wp_bind (getOperationById_keeps id) fun found w h => ?_
  cases found with
  | none => trivial
  | some detail =>
      dsimp only
      split
      · trivial
      split
      · trivial
      · rename_i hcount
        exact Prog.wp_tryCatch (submitCollected_keeps (h detail rfl (Int.not_lt.mp hcount)))
          fun _ _ _ => trivial

theorem IsRequest.keeps {p : Request} (hp : IsRequest platform p) (hw : Inv valid w) :
    Keeps platform valid p (fun _ _ => True) w := by
  cases hp with
  | registerCosigner publicKey role =>
      exact keeps_of_emits (registerCosigner_emits publicKey role) hw
  | updateCosigner id role => exact keeps_of_emits (updateCosigner_emits id role) hw
  | removeCosigner id => exact keeps_of_emits (removeCosigner_emits id) hw
  | propose xdrUnsigned => exact keeps_of_emits (propose_emits xdrUnsigned) hw
  | cosign id xdrSigned publicKey => exact keeps_of_emits (cosign_emits id xdrSigned publicKey) hw
  | submit id => exact submit_keeps id

end Requests

/-! ### Where operations cannot be read or submitted -/

/-- Nothing is submitted. -/
structure AllPending (w : World) : Prop where
  submissions : w.submissions = []
  pending : ∀ id operation, w.operations id = some operation → operation.status = .pending

section AllPending

variable {platform : Platform} {valid : Text → Text → Text → Bool} {w : World}

theorem AllPending.respected (h : AllPending w) : ThresholdRespected w where
  once := by rw [h.submissions]; exact List.nodup_nil
  inTime := by simp [h.submissions]
  endorsed := by simp [h.submissions]
  frozen := by simp [h.submissions]
  recorded id operation hoperation hne := absurd (h.pending id operation hoperation) hne

theorem perform_allPending {e : MultisigEnv} {op : MultisigOp} (h : AllPending w)
    (hop : ∀ id, op = .updateOperation id → platform.updatedAt = false) :
    AllPending (perform platform valid e w op).2 := by
  cases op with
  | insertOperation xdrUnsigned threshold =>
      rw [perform]
      split
      · exact h
      · refine ⟨h.submissions, fun id operation hoperation => ?_⟩
        rcases some_of_update hoperation with ⟨-, hvalue⟩ | ⟨-, hold⟩
        · rw [← Option.some.inj hvalue]
        · exact h.pending id operation hold
  | insertSignature row =>
      rw [perform]
      split
      · exact ⟨h.submissions, h.pending⟩
      · exact h
  | updateOperation id =>
      rw [perform, if_neg (by rw [hop id rfl]; exact Bool.false_ne_true)]
      exact h
  | insertCosigner publicKey role =>
      rw [perform]
      split
      · exact h
      · exact ⟨h.submissions, h.pending⟩
  | updateCosigner id role => exact ⟨h.submissions, h.pending⟩
  | deleteCosigner id =>
      rw [perform]
      split
      · exact h
      · exact ⟨h.submissions, h.pending⟩
  | _ => exact h

/-- A submission is tried only where `json` is text. -/
def Reached (platform : Platform) (op : MultisigOp) : Prop :=
  ∀ id, op = .updateOperation id → platform.jsonText = true

theorem Harmless.reached {op : MultisigOp} (h : Harmless op) : Reached platform op :=
  fun id heq => absurd heq (h id)

theorem submitCollected_reached (id : Uuid) (h : platform.jsonText = true) :
    (submitCollected id).Emits (Reached platform) (fun _ _ => True) fun _ => True := by
  have hcall : ∀ op, (call op).Emits (Reached platform) (fun _ _ => True) fun _ => True :=
    fun op => .call (fun _ _ => h) fun _ _ => trivial
  refine .bind (hcall _) fun _ _ => .bind (hcall _) fun submitted _ => .bind (hcall _) fun _ _ => ?_
  split <;> trivial

theorem submit_reached (id : Uuid) :
    (submit platform id).Emits (Reached platform) (fun _ _ => True) fun _ => True := by
  refine .bind ((getOperationById_emits id).imp_ok fun _ => Harmless.reached) fun found h => ?_
  cases found with
  | none => trivial
  | some detail =>
      dsimp only
      split
      · trivial
      split
      · trivial
      · exact .tryCatch (submitCollected_reached id (h rfl)) fun _ => trivial

theorem IsRequest.reached {p : Request} (hp : IsRequest platform p) :
    p.Emits (Reached platform) (fun _ _ => True) fun _ => True := by
  cases hp with
  | registerCosigner publicKey role =>
      exact (registerCosigner_emits publicKey role).imp_ok fun _ => Harmless.reached
  | updateCosigner id role => exact (updateCosigner_emits id role).imp_ok fun _ => Harmless.reached
  | removeCosigner id => exact (removeCosigner_emits id).imp_ok fun _ => Harmless.reached
  | propose xdrUnsigned => exact (propose_emits xdrUnsigned).imp_ok fun _ => Harmless.reached
  | cosign id xdrSigned publicKey =>
      exact (cosign_emits id xdrSigned publicKey).imp_ok fun _ => Harmless.reached
  | submit id => exact submit_reached id

theorem allPending_of_not_works {G : World → MultisigOp → MultisigEnv → Prop} {now : Timestamp}
    {ps : List Request} (hworks : ¬ platform.Works)
    (h : Pool (machine platform valid) G (IsRequest platform) Later (.start now) w ps) :
    AllPending w := by
  have hspawned : ∀ p, IsRequest platform p →
      p.Emits (Reached platform) (fun _ _ => True) fun _ => True := fun p hp => hp.reached
  refine (Pool.sound ⟨rfl, fun _ _ h => by cases h⟩ hspawned (fun w op e hw hop _ => ⟨?_, trivial⟩)
    (fun w w' hw hlater => ?_) h).1
  · have hperform : AllPending (perform platform valid e w op).2 :=
      perform_allPending hw fun id heq =>
        Bool.eq_false_iff.mpr fun hupdated => hworks ⟨hop id heq, hupdated⟩
    rcases exec_cases platform valid e w op with heq | heq
    · rwa [heq]
    · rwa [heq]
  · obtain ⟨t, -, rfl⟩ := hlater
    exact ⟨hw.submissions, hw.pending⟩

end AllPending

/-! ### Every interleaving -/

theorem multisig_verified (platform : Platform) (valid : Text → Text → Text → Bool) :
    Pool.Verified (machine platform valid) (fun w op _ => Genuine valid w op) (IsRequest platform)
      Later (Inv valid) (Rely valid) (fun _ _ => True) where
  refl w h := ⟨h, fun _ h => h⟩
  trans w w' w'' h h' := ⟨h'.inv, fun id hid => h'.enough id (h.enough id hid)⟩
  stays _ _ _ _ _ := trivial
  spawned w p hp h := Prog.wp_mono (hp.keeps h) fun _ _ _ => trivial
  moves w op e _ _ hinv' := exec_rely hinv'
  drifted w w' h hlater := by
    obtain ⟨t, -, rfl⟩ := hlater
    have hinv : Inv valid { w with now := t } :=
      ⟨h.cosignerIds, h.unique, h.backed, h.settled, h.respected.once, h.respected.inTime,
        h.respected.endorsed, h.respected.frozen, h.respected.recorded⟩
    exact ⟨hinv, hinv, fun _ h => h⟩

/-- **An operation is submitted once, in time and with its threshold of signatures**, in every
interleaving of which every step is `Genuine`; and in every interleaving, where operations
cannot be read or submitted. -/
theorem threshold_respected {platform : Platform} {valid : Text → Text → Text → Bool}
    {now : Timestamp} {w : World} {ps : List Request}
    (h : Pool (machine platform valid) (fun w op _ => platform.Works → Genuine valid w op)
      (IsRequest platform) Later (.start now) w ps) : ThresholdRespected w := by
  by_cases hworks : platform.Works
  · simp only [hworks, true_imp_iff] at h
    exact ((multisig_verified platform valid).sound (start_inv valid now) h).1.respected
  · exact (allPending_of_not_works hworks h).respected

/-! ### Two of two -/

/-- The signature of a key is the key. -/
def signedBy (publicKey _ xdrSigned : Text) : Bool := publicKey = xdrSigned

def working : Platform := ⟨true, true⟩

/-- Operation 7, and cosigners 1 and 2. -/
def ceremony (firstSignature secondSignature : Text) : List Request :=
  [registerCosigner ['A'] [], registerCosigner ['B'] [], propose ['x'],
    cosign working 7 firstSignature ['A'], cosign working 7 secondSignature ['B'],
    submit working 7, submit working 7, cosign working 7 ['z'] ['B']]

def steps (i n : Nat) (id : Uuid) : List (Nat × MultisigEnv) :=
  List.replicate n (i, ⟨.done, id, none⟩)

/-- The threshold is two, unless it is configured. -/
def registered : List (Nat × MultisigEnv) := steps 0 3 1 ++ steps 1 3 2 ++ steps 2 4 7

def playCeremony (firstSignature secondSignature : Text) (schedule : List (Nat × MultisigEnv)) :
    World × List Request :=
  play (machine working signedBy) schedule (.start 0) (ceremony firstSignature secondSignature)

theorem spawn_ceremony {G : World → MultisigOp → MultisigEnv → Prop} (first second : Text) :
    Pool (machine working signedBy) G (IsRequest working) Later (.start 0) (.start 0)
      (ceremony first second) :=
  Crew.spawn (Crew.spawn (Crew.spawn (Crew.spawn (Crew.spawn (Crew.spawn (Crew.spawn (Crew.spawn
    .init (.registerCosigner _ _)) (.registerCosigner _ _)) (.propose _)) (.cosign _ _ _))
    (.cosign _ _ _)) (.submit _)) (.submit _)) (.cosign _ _ _)

/-- Both have signed. -/
def signed : List (Nat × MultisigEnv) := registered ++ steps 3 5 0 ++ steps 4 5 0

/-- The second submission and the last signature are refused. -/
theorem ceremony_respected :
    (playCeremony ['A'] ['B'] (signed ++ steps 5 4 0 ++ steps 6 4 0)).1.submissions.length = 1 ∧
      ThresholdRespected (playCeremony ['A'] ['B'] (signed ++ steps 5 4 0 ++ steps 6 4 0)).1 :=
  ⟨by decide +kernel, threshold_respected (Crew.play _ (spawn_ceremony _ _)
    (by decide +kernel : playOk (machine working signedBy)
      (fun w op _ => working.Works → Genuine signedBy w op) _ _ _))⟩

/-- No statement fails. -/
def Faultless (_ : World) (_ : MultisigOp) (e : MultisigEnv) : Prop := e.fate = .done

instance (w : World) (op : MultisigOp) (e : MultisigEnv) : Decidable (Faultless w op e) :=
  inferInstanceAs (Decidable (e.fate = .done))

/-- Requests that violate the property. -/
def Violates (violated : World → Prop) : Prop :=
  ∃ w ps, Pool (machine working signedBy) Faultless (IsRequest working) Later (.start 0) w ps ∧
    violated w ∧ ¬ ThresholdRespected w

theorem violates_play (first second : Text) {violated : World → Prop}
    (schedule : List (Nat × MultisigEnv))
    (hok : playOk (machine working signedBy) Faultless schedule (.start 0) (ceremony first second))
    (h : violated (playCeremony first second schedule).1)
    (hnot : ∀ w, violated w → ¬ ThresholdRespected w) : Violates violated :=
  ⟨_, _, Crew.play schedule (spawn_ceremony first second) hok, h, hnot _ h⟩

/-- Two strings that are nobody's signatures; two submissions that both find the operation
pending; one after a day; and a signature that comes late. -/
theorem threshold_disregarded :
    Violates (fun w => ∃ s ∈ w.submissions, s.operation.threshold = 2 ∧ s.endorsers = []) ∧
      Violates (fun w => w.submissions.map (·.operationId) = [7, 7]) ∧
      Violates (fun w => ∃ s ∈ w.submissions, s.operation.expiresAt ≤ s.submittedAt) ∧
      Violates fun w => ∃ s ∈ w.submissions, w.signaturesOf s.operationId ≠ s.signatures := by
  refine ⟨violates_play ['q'] ['r'] (signed ++ steps 5 4 0)
      (by decide +kernel) (by decide +kernel) ?_,
    violates_play ['A'] ['B']
      (signed ++ steps 5 1 0 ++ steps 6 1 0 ++ steps 5 3 0 ++ steps 6 3 0)
      (by decide +kernel) (by decide +kernel) ?_, ?_,
    violates_play ['A'] ['B']
      (signed ++ steps 7 1 0 ++ steps 5 4 0 ++ steps 7 4 0)
      (by decide +kernel) (by decide +kernel) ?_⟩
  · rintro w ⟨s, hs, htwo, hnone⟩ h
    have hle := (h.endorsed s hs).2
    rw [htwo, hnone] at hle
    exact absurd hle (by decide)
  · intro w htwice h
    have honce := h.once
    rw [htwice] at honce
    exact absurd honce (by decide)
  · refine ⟨_, _, Crew.play (steps 5 4 0) (Crew.drift (Crew.play signed (spawn_ceremony ['A'] ['B'])
      (by decide +kernel)) ⟨operationLifetime, by decide +kernel, rfl⟩) (by decide +kernel),
      by decide +kernel, fun h => ?_⟩
    exact absurd h.inTime (by decide +kernel)
  · rintro w ⟨s, hs, hne⟩ h
    exact hne (h.frozen s hs)

end BrandBlitz.Multisig
