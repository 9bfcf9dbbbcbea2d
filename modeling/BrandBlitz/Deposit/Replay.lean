import BrandBlitz.Lib.Crew
import BrandBlitz.Deposit.Webhook

/-!
# BrandBlitz.Deposit.Replay

**Replays.** A signed request may be seen by others and sent again. The middleware keeps it
from entering the handler twice by three means: a signature over the timestamp and the body, a
window of 300 seconds around the timestamp, and the webhook id, which is kept for 600 seconds.

The id is not under the signature, and its life is counted from when it is stored. So the
handler can be entered again with the same signed timestamp and body, under another id, or in
the last second of the window once the id has run out. `IdRepeated` leaves out just these two,
and then every signed pair enters at most once, in every interleaving of any requests.
-/

namespace BrandBlitz.Deposit

open BrandBlitz.Lib

/-- No timestamp and body entered twice. -/
def EnteredOnce (w : World) : Prop :=
  (w.entered.map fun r => (r.timestamp, r.rawBody)).Nodup

/-- A request whose timestamp and body have entered before carries the id they entered under,
and reaches the store within the life of that id. -/
def IdRepeated (w : World) : Op → Env → Prop
  | .setWebhookId webhookId timestamp rawBody, e => ∀ r ∈ w.entered,
      r.timestamp = timestamp → r.rawBody = rawBody →
        r.webhookId = webhookId ∧ w.clock + e.elapsed ≤ r.time + webhookIdTtl
  | _, _ => True

instance (w : World) : ∀ (op : Op) (e : Env), Decidable (IdRepeated w op e)
  | .setWebhookId .., _ => inferInstanceAs (Decidable (∀ r ∈ w.entered, _ → _ → _ ∧ _))
  | .webhookLimiter, _ | .selectAppConfig, _ | .dateNow, _ | .getChallengeByDepositTxHash _, _
  | .findPayoutByTxHash _, _ | .getChallengeByMemo _, _ | .loadAccount, _
  | .updateChallengeStatusActive .., _ | .selectBrandId _, _ | .respond .., _ => .isTrue trivial

/-- Whoever entered did so alone, and the id is kept. -/
structure Guarded (w : World) : Prop where
  once : EnteredOnce w
  kept : ∀ r ∈ w.entered, w.webhookIds.LivesUntil (webhookKey r.webhookId) (r.time + webhookIdTtl)

/-- The invariant is about the ids and the logs only. -/
theorem Guarded.congr {w w' : World} (h : Guarded w) (hids : w'.ids = w.ids) : Guarded w' := by
  obtain ⟨hkeys, hrest⟩ := Prod.mk.inj hids
  obtain ⟨hentered, -⟩ := Prod.mk.inj hrest
  refine ⟨?_, ?_⟩
  · unfold EnteredOnce
    rw [hentered]
    exact h.once
  · rw [hentered, hkeys]
    exact h.kept

/-- **One operation keeps the invariant.** -/
theorem Guarded.exec {w : World} (h : Guarded w) (deps : Deps) (e : Env) (op : Op)
    (hop : IdRepeated w op e) : Guarded ((apiMachine deps).exec e op w).2 := by
  by_cases hset : op.setsId = false
  · exact h.congr (exec_ids_of_not_setsId deps e hset w)
  cases op with
  | setWebhookId id timestamp rawBody =>
      rcases exec_setWebhookId deps e id timestamp rawBody w with
        ⟨-, -, hids⟩ | ⟨-, hfree, hids⟩ | ⟨-, hids | ⟨hfree, hids⟩⟩
      · exact h.congr hids
      · simp only [World.ids, Prod.mk.injEq] at hids
        obtain ⟨hkeys, hentered, -⟩ := hids
        refine ⟨?_, ?_⟩
        · -- had the pair entered before, its id would still be there
          have hnew : (timestamp, rawBody) ∉ w.entered.map fun r => (r.timestamp, r.rawBody) := by
            intro hmem
            obtain ⟨r, hr, heq⟩ := List.mem_map.mp hmem
            obtain ⟨htime, hbody⟩ := Prod.mk.inj heq
            obtain ⟨hid, hsoon⟩ := hop r hr htime hbody
            have hheld := (h.kept r hr).holds hsoon
            rw [hid, hfree] at hheld
            cases hheld
          unfold EnteredOnce
          rw [hentered, List.map_append]
          exact List.nodup_append_comm.mp (List.nodup_cons.mpr ⟨hnew, h.once⟩)
        · rw [hentered, hkeys]
          intro r hr
          rcases List.mem_append.mp hr with hold | hnew
          · exact (h.kept r hold).store hfree
          · rw [List.mem_singleton.mp hnew]
            exact ExpiringKeys.livesUntil_store
      · exact h.congr hids
      · simp only [World.ids, Prod.mk.injEq] at hids
        obtain ⟨hkeys, hentered, -⟩ := hids
        refine ⟨?_, ?_⟩
        · unfold EnteredOnce
          rw [hentered]
          exact h.once
        · rw [hentered, hkeys]
          exact fun r hr => (h.kept r hr).store hfree
  | _ => exact absurd rfl hset

/-- **Replay protection.** Whatever requests are sent, by whomever and with whatever headers,
in every interleaving in which a request that repeats a timestamp and body carries the same id
and comes within the life of that id: no timestamp and body enter the handler twice. -/
theorem signed_request_entered_once (deps : Deps) {w₀ w : World} {ps : List (Api Unit)}
    (hstart : w₀.entered = [])
    (h : Pool (apiMachine deps) IdRepeated (AnyRequest deps) Outside w₀ w ps) :
    EnteredOnce w := by
  have hguarded : Guarded w₀ := by
    refine ⟨?_, ?_⟩
    · unfold EnteredOnce
      rw [hstart]
      exact List.nodup_nil
    · rw [hstart]
      intro r hr
      cases hr
  have hw : Guarded w := Crew.invariant hguarded (fun _ w op e hw hG => hw.exec deps e op hG)
    (fun w w' hw hout => hw.congr hout.1) h
  exact hw.once

/-- A delivery signed at 1700000000, under the given id. -/
def signedRequest (webhookId : String) : Request where
  signature := some ("sha256=".toList ++ exampleDigest)
  timestamp := some (some 1700000000)
  webhookId := some webhookId.toList
  rawBody := some exampleBody
  body := some ⟨exampleMemo, exampleTxHash, some "100".toList⟩

/-- The same signed delivery, sent twice. -/
def twoRequests (id id' : String) : List (Api Unit) :=
  [depositEndpoint exampleDeps (signedRequest id), depositEndpoint exampleDeps (signedRequest id')]

theorem twoRequests_pool {G : World → Op → Env → Prop} (id id' : String) :
    Pool (apiMachine exampleDeps) G (AnyRequest exampleDeps) Outside World.atRest World.atRest
      (twoRequests id id') :=
  (Crew.init.spawn ⟨signedRequest id, rfl⟩).spawn ⟨signedRequest id', rfl⟩

/-- One request after the other, each up to the place where it enters. -/
def oneAfterTheOther : List (Nat × Env) :=
  List.replicate 5 (0, calm) ++ List.replicate 5 (1, calm)

/-- A second delivery under the same id does not enter. -/
theorem same_id_entered_once :
    (play (apiMachine exampleDeps) oneAfterTheOther World.atRest
        (twoRequests "deposit-1" "deposit-1")).1.entered.length = 1 ∧
      EnteredOnce (play (apiMachine exampleDeps) oneAfterTheOther World.atRest
        (twoRequests "deposit-1" "deposit-1")).1 := by
  refine ⟨by decide +kernel, ?_⟩
  have hpool := (twoRequests_pool "deposit-1" "deposit-1").play oneAfterTheOther
    (by decide +kernel : playOk (apiMachine exampleDeps) IdRepeated oneAfterTheOther _ _)
  exact signed_request_entered_once exampleDeps rfl hpool

/-- Resent under another id, the same signed timestamp and body enter a second time. -/
theorem other_id_entered_twice :
    ¬ ∀ w ps, Pool (apiMachine exampleDeps) (fun _ _ _ => True) (AnyRequest exampleDeps) Outside
      World.atRest w ps → EnteredOnce w := by
  intro h
  have honce := h _ _ ((twoRequests_pool "deposit-1" "deposit-2").play oneAfterTheOther
    (by decide +kernel))
  revert honce
  unfold EnteredOnce
  decide +kernel

end BrandBlitz.Deposit
