import Mathlib.Data.Finset.Card
import BrandBlitz.Brands.Members

/-!
# BrandBlitz.Brands.Owners

**A brand keeps an owner member**, in every interleaving whose steps spare its only owner.

A removal counts the owners before it deletes one, and what it has counted is enough for as long
as it holds (`Passed`, `exists_other_of_countHolds`): of two owners that are both still there, one
is left. Nothing makes the count hold, though, until the row is deleted, and an address that is
added again takes over the new role without any count.
-/

namespace BrandBlitz.Brands

open BrandBlitz.Lib
open BrandBlitz.Paging (Uuid Timestamp)

/-! ### The property -/

/-- Some member row of the brand has the role `owner`. -/
def HasOwner (brandId : Uuid) (members : BrandMembers) : Prop :=
  ∃ m ∈ members.rows, m.brandId = brandId ∧ m.role = .owner

instance (brandId : Uuid) (members : BrandMembers) : Decidable (HasOwner brandId members) :=
  inferInstanceAs (Decidable (∃ m ∈ members.rows, _ ∧ _))

/-- Whom program `i` has counted as owners, they still are. -/
def CountHolds (brandId : Uuid) (i : Nat) (w : World) : Prop :=
  ∃ count ∈ w.counts, count.program = i ∧ count.brandId = brandId ∧
    ∀ id ∈ count.owners, id ∈ (w.members.owners brandId).map BrandMember.id

instance (brandId : Uuid) (i : Nat) (w : World) : Decidable (CountHolds brandId i w) :=
  inferInstanceAs (Decidable (∃ count ∈ w.counts, _ ∧ _ ∧ ∀ id ∈ count.owners, _))

/-- The only owner of the brand does not lose his role, nor his row to a removal that has not
counted him among others, or has when there were others. -/
def SparesOnlyOwner (brandId : Uuid) (i : Nat) (w : World) (op : MemberOp) (fate : Fate) : Prop :=
  match op with
  | .upsertMember brand _ email role _ =>
    fate = .lost ∨ brand ≠ brandId ∨ role = .owner ∨
      ∃ m ∈ w.members.owners brandId, m.email ≠ email
  | .deleteMember memberId brand =>
    fate = .lost ∨ brand ≠ brandId ∨ CountHolds brandId i w ∨
      ∃ m ∈ w.members.owners brandId, m.id ≠ memberId
  | _ => True

instance (brandId : Uuid) (i : Nat) (w : World) (op : MemberOp) (fate : Fate) :
    Decidable (SparesOnlyOwner brandId i w op fate) :=
  match op with
  | .upsertMember .. => inferInstanceAs (Decidable (_ ∨ _ ∨ _ ∨ ∃ m ∈ _, _))
  | .deleteMember .. => inferInstanceAs (Decidable (_ ∨ _ ∨ _ ∨ ∃ m ∈ _, _))
  | .userByEmail _ | .memberById .. | .countOwners _ => .isTrue trivial

/-! ### What a statement does to the owners -/

section Statements

variable {brandId : Uuid} {members : BrandMembers}

theorem mem_rows_setRole {brand : Uuid} {email : Text} {role : BrandMemberRole} {now : Timestamp}
    {m : BrandMember} : m ∈ (members.setRole brand email role now).rows ↔
      (∃ old ∈ members.rows, old.brandEmail = (brand, email) ∧ m = old.updateRole role now) ∨
        m ∈ members.rows ∧ m.brandEmail ≠ (brand, email) := by
  simp only [BrandMembers.setRole, List.mem_map]
  constructor
  · rintro ⟨old, hold, rfl⟩
    by_cases hhit : old.brandEmail = (brand, email)
    · exact .inl ⟨old, hold, hhit, by rw [if_pos hhit]⟩
    · exact .inr (by rw [if_neg hhit]; exact ⟨hold, hhit⟩)
  · rintro (⟨old, hold, hhit, rfl⟩ | ⟨hm, hmiss⟩)
    · exact ⟨old, hold, by rw [if_pos hhit]⟩
    · exact ⟨m, hm, by rw [if_neg hmiss]⟩

/-- Whoever has another address stays an owner. -/
theorem setRole_hasOwner_iff {brand : Uuid} {email : Text} {role : BrandMemberRole}
    {now : Timestamp} (h : HasOwner brandId members) :
    HasOwner brandId (members.setRole brand email role now) ↔
      brand ≠ brandId ∨ role = .owner ∨ ∃ m ∈ members.owners brandId, m.email ≠ email := by
  constructor
  · rintro ⟨m, hm, hbrand, hrole⟩
    rcases mem_rows_setRole.mp hm with ⟨old, -, -, rfl⟩ | ⟨hm, hmiss⟩
    · exact .inr (.inl hrole)
    · by_cases hb : brand = brandId
      · refine .inr (.inr ⟨m, BrandMembers.mem_owners.mpr ⟨hm, hbrand, hrole⟩, fun hemail => ?_⟩)
        exact hmiss (by rw [BrandMember.brandEmail, hbrand, hemail, hb])
      · exact .inl hb
  · obtain ⟨m, hm, hbrand, hrole⟩ := h
    rintro (hb | rfl | ⟨other, hother, hemail⟩)
    · refine ⟨m, mem_rows_setRole.mpr (.inr ⟨hm, fun hhit => ?_⟩), hbrand, hrole⟩
      exact hb ((congrArg Prod.fst hhit).symm.trans hbrand)
    · by_cases hhit : m.brandEmail = (brand, email)
      · exact ⟨m.updateRole .owner now, mem_rows_setRole.mpr (.inl ⟨m, hm, hhit, rfl⟩), hbrand, rfl⟩
      · exact ⟨m, mem_rows_setRole.mpr (.inr ⟨hm, hhit⟩), hbrand, hrole⟩
    · obtain ⟨hm, hbrand, hrole⟩ := BrandMembers.mem_owners.mp hother
      refine ⟨other, mem_rows_setRole.mpr (.inr ⟨hm, fun hhit => ?_⟩), hbrand, hrole⟩
      exact hemail (congrArg Prod.snd hhit)

/-- Whoever has another identifier stays. -/
theorem remove_hasOwner_iff {memberId brand : Uuid} (h : HasOwner brandId members) :
    HasOwner brandId (members.remove memberId brand) ↔
      brand ≠ brandId ∨ ∃ m ∈ members.owners brandId, m.id ≠ memberId := by
  have hrows : ∀ m, m ∈ (members.remove memberId brand).rows ↔
      m ∈ members.rows ∧ ¬(m.id = memberId ∧ m.brandId = brand) := by
    intro m
    simp only [BrandMembers.remove, List.mem_filter, decide_eq_true_eq]
  constructor
  · rintro ⟨m, hm, hbrand, hrole⟩
    obtain ⟨hm, hmiss⟩ := (hrows m).mp hm
    by_cases hb : brand = brandId
    · refine .inr ⟨m, BrandMembers.mem_owners.mpr ⟨hm, hbrand, hrole⟩, fun hid => ?_⟩
      exact hmiss ⟨hid, hbrand.trans hb.symm⟩
    · exact .inl hb
  · rintro (hb | ⟨m, hm, hid⟩)
    · obtain ⟨m, hm, hbrand, hrole⟩ := h
      exact ⟨m, (hrows m).mpr ⟨hm, fun hhit => hb (hhit.2.symm.trans hbrand)⟩, hbrand, hrole⟩
    · obtain ⟨hm, hbrand, hrole⟩ := BrandMembers.mem_owners.mp hm
      exact ⟨m, (hrows m).mpr ⟨hm, fun hhit => hid hhit.1⟩, hbrand, hrole⟩

/-- A row that is inserted takes nothing from the owners; it has another address than they. -/
theorem upsert_hasOwner_iff {w : World} {m : BrandMember} (h : HasOwner brandId w.members) :
    HasOwner brandId (w.upsert m).2.members ↔ m.brandId ≠ brandId ∨ m.role = .owner ∨
      ∃ o ∈ w.members.owners brandId, o.email ≠ m.email := by
  unfold World.upsert
  split
  · exact setRole_hasOwner_iff h
  · rename_i hnone
    have hother : m.brandId ≠ brandId ∨ ∃ o ∈ w.members.owners brandId, o.email ≠ m.email := by
      obtain ⟨o, ho, hbrand, hrole⟩ := h
      by_cases hb : m.brandId = brandId
      · refine .inr ⟨o, BrandMembers.mem_owners.mpr ⟨ho, hbrand, hrole⟩, fun hemail => ?_⟩
        have hmiss := List.find?_eq_none.mp hnone o ho
        simp [BrandMember.brandEmail, hbrand, hemail, hb] at hmiss
      · exact .inl hb
    have hright : m.brandId ≠ brandId ∨ m.role = .owner ∨
        ∃ o ∈ w.members.owners brandId, o.email ≠ m.email := hother.imp_right .inr
    refine iff_of_true ?_ hright
    split
    · split
      · obtain ⟨o, ho, howner⟩ := h
        exact ⟨o, List.mem_cons_of_mem _ ho, howner⟩
      · exact h
    · exact h

end Statements

/-! ### One program among others -/

section Programs

variable {lower : Text → Text} {brandId : Uuid} {i : Nat} {w w' : World}

/-- Program `i` has counted two owners whenever it counted. -/
def Passed (brandId : Uuid) (i : Nat) (w : World) : Prop :=
  ∀ count ∈ w.counts, count.program = i → count.brandId = brandId →
    count.owners.Nodup ∧ 1 < count.owners.length

/-- Program `i` has not counted. -/
def NotCounted (i : Nat) (w : World) : Prop := ∀ count ∈ w.counts, count.program ≠ i

theorem NotCounted.passed (h : NotCounted i w) : Passed brandId i w :=
  fun count hcount hi => absurd hi (h count hcount)

/-- Of two owners that are both still there, one is not the member that is removed. -/
theorem exists_other_of_countHolds (h : CountHolds brandId i w) (hpassed : Passed brandId i w)
    (memberId : Uuid) : ∃ m ∈ w.members.owners brandId, m.id ≠ memberId := by
  obtain ⟨count, hcount, hi, hbrand, hstill⟩ := h
  obtain ⟨hnodup, htwo⟩ := hpassed count hcount hi hbrand
  rw [← List.toFinset_card_of_nodup hnodup] at htwo
  obtain ⟨id, hid, hne⟩ := Finset.exists_mem_ne htwo memberId
  obtain ⟨m, hm, rfl⟩ := List.mem_map.mp (hstill id (List.mem_toFinset.mp hid))
  exact ⟨m, hm, hne⟩

theorem exec_cases (lower : Text → Text) (i : Nat) (fate : Fate) (op : MemberOp) (w : World) :
    (((machine lower i).exec fate op w).2 = w ∧ fate = .lost) ∨
      fate ≠ .lost ∧ ∃ now id,
        ((machine lower i).exec fate op w).2 = (perform lower i now id w op).2 := by
  cases fate with
  | lost => exact .inl ⟨rfl, rfl⟩
  | executed now id answered => exact .inr ⟨by simp, now, id, rfl⟩

/-- **A step that spares the only owner leaves one.** -/
theorem exec_hasOwner {op : MemberOp} {fate : Fate} (h : HasOwner brandId w.members)
    (hpassed : Passed brandId i w) (hguard : SparesOnlyOwner brandId i w op fate) :
    HasOwner brandId ((machine lower i).exec fate op w).2.members := by
  rcases exec_cases lower i fate op w with ⟨heq, -⟩ | ⟨hfate, now, id, heq⟩
  · rwa [heq]
  · rw [heq]
    cases op with
    | upsertMember => exact (upsert_hasOwner_iff h).mpr (hguard.resolve_left hfate)
    | deleteMember memberId brand =>
        refine (remove_hasOwner_iff h).mpr ?_
        rcases hguard.resolve_left hfate with hb | hcount | hother
        · exact .inl hb
        · exact .inr (exists_other_of_countHolds hcount hpassed memberId)
        · exact .inr hother
    | userByEmail | memberById | countOwners => exact h

/-- Only such a step does. -/
theorem sparesOnlyOwner_of_exec {op : MemberOp} {fate : Fate} (h : HasOwner brandId w.members)
    (hafter : HasOwner brandId ((machine lower i).exec fate op w).2.members) :
    SparesOnlyOwner brandId i w op fate := by
  rcases exec_cases lower i fate op w with ⟨-, hfate⟩ | ⟨-, now, id, heq⟩
  · cases op with
    | upsertMember | deleteMember => exact .inl hfate
    | userByEmail | memberById | countOwners => trivial
  · rw [heq] at hafter
    cases op with
    | upsertMember => exact .inr ((upsert_hasOwner_iff h).mp hafter)
    | deleteMember => exact .inr (((remove_hasOwner_iff h).mp hafter).imp_right .inr)
    | userByEmail | memberById | countOwners => trivial

/-- What program `i` counts on, whatever the others do. -/
structure Rely (brandId : Uuid) (i : Nat) (w w' : World) : Prop where
  hasOwner : HasOwner brandId w'.members
  counts : ∀ count ∈ w'.counts, count.program = i → count ∈ w.counts

theorem Rely.refl (h : HasOwner brandId w.members) : Rely brandId i w w := ⟨h, fun _ h _ => h⟩

theorem Rely.trans {w'' : World} (h : Rely brandId i w w') (h' : Rely brandId i w' w'') :
    Rely brandId i w w'' :=
  ⟨h'.hasOwner, fun count hcount hi => h.counts count (h'.counts count hcount hi) hi⟩

/-- The other programs count for themselves. -/
theorem exec_rely {j : Nat} {op : MemberOp} {fate : Fate} (hne : i ≠ j)
    (h : HasOwner brandId ((machine lower j).exec fate op w).2.members) :
    Rely brandId i w ((machine lower j).exec fate op w).2 := by
  refine ⟨h, fun count hcount hi => ?_⟩
  rcases exec_cases lower j fate op w with ⟨heq, -⟩ | ⟨-, now, id, heq⟩
  · rwa [heq] at hcount
  · rw [heq] at hcount
    cases op with
    | countOwners brand =>
        rcases List.mem_cons.mp hcount with rfl | hcount
        · exact absurd hi.symm hne
        · exact hcount
    | upsertMember => rwa [perform, upsert_counts] at hcount
    | userByEmail | memberById | deleteMember => exact hcount

/-! ### The programs -/

/-- An assertion that the others leave alone. -/
def LeftAlone (brandId : Uuid) (i : Nat) (A : World → Prop) : Prop :=
  ∀ w w', A w → Rely brandId i w w' → A w'

theorem alone_passed : LeftAlone brandId i (Passed brandId i) :=
  fun _ _ h hrely count hcount hi => h count (hrely.counts count hcount hi) hi

theorem alone_notCounted : LeftAlone brandId i (NotCounted i) :=
  fun _ _ h hrely count hcount hi => h count (hrely.counts count hcount hi) hi

/-- Program `i` leaves the brand an owner while the others do, and ends in `Q` or throws. -/
def Keeps (lower : Text → Text) (brandId : Uuid) (i : Nat) {α : Type} (p : Members α)
    (Q : α → World → Prop) (w : World) : Prop :=
  p.wp (machine lower i).among (Among (Rely brandId i) (SparesOnlyOwner brandId i))
    (fun w => HasOwner brandId w.members) (Prog.Ends Q fun _ _ => True) w

theorem keeps_call {op : MemberOp} {A : World → Prop} {Q : memberSig.Ans op → World → Prop}
    (halone : LeftAlone brandId i A) (hw : A w) (hpassed : ∀ w, A w → Passed brandId i w)
    (h : ∀ w now id a, A w → (perform lower i now id w op).1 = .ok a →
      Q a (perform lower i now id w op).2) :
    Keeps lower brandId i (call op) Q w := by
  refine Prog.wp_call_among halone hw fun w' fate hrely hw' hguard => ?_
  refine ⟨exec_hasOwner hrely.hasOwner (hpassed w' hw') hguard, ?_⟩
  cases fate with
  | lost => trivial
  | executed now id answered =>
      cases answered with
      | false => trivial
      | true =>
          show Prog.Ends Q _ (perform lower i now id w' op).1 (perform lower i now id w' op).2
          cases ha : (perform lower i now id w' op).1 with
          | error => trivial
          | ok a => exact h w' now id a hw' ha

theorem addBrandMember_keeps {toLowerCase : Text → Text} {data : NewMember}
    (h : NotCounted i w) :
    Keeps lower brandId i (addBrandMember toLowerCase data) (fun _ _ => True) w := by
  have hpassed : ∀ w, NotCounted i w → Passed brandId i w := fun _ h => h.passed
  refine Prog.wp_bind (P := fun _ => NotCounted i)
    (keeps_call alone_notCounted h hpassed fun _ _ _ _ h _ => h) fun matchedUserId w h => ?_
  exact keeps_call alone_notCounted h hpassed fun _ _ _ _ _ _ => trivial

/-- It throws, or the owners that it has counted are two at least. -/
theorem checkOtherOwners_keeps {brand : Uuid} {member : BrandMember} (h : NotCounted i w) :
    Keeps lower brandId i (checkOtherOwners brand member) (fun _ => Passed brandId i) w := by
  unfold checkOtherOwners
  split
  · refine Prog.wp_bind (P := fun owners w => 1 < owners → Passed brandId i w)
      (keeps_call alone_notCounted h (fun _ h => h.passed) fun w _ _ owners h howners hmany => ?_)
      fun owners w h => ?_
    · obtain rfl := Except.ok.inj howners
      intro count hcount hi hbrand
      rcases List.mem_cons.mp hcount with rfl | hcount
      · exact ⟨w.members.owners_ids_nodup, by simpa using hmany⟩
      · exact absurd hi (h count hcount)
    · split
      · trivial
      · rename_i hmany
        exact h (Nat.lt_of_not_le hmany)
  · exact h.passed

theorem removeBrandMember_keeps {brand memberId : Uuid} (h : NotCounted i w) :
    Keeps lower brandId i (removeBrandMember brand memberId) (fun _ _ => True) w := by
  refine Prog.wp_bind (P := fun _ => NotCounted i)
    (keeps_call alone_notCounted h (fun _ h => h.passed) fun _ _ _ _ h _ => h) fun member w h => ?_
  cases member with
  | none => trivial
  | some member =>
      refine Prog.wp_bind (checkOtherOwners_keeps h) fun _ w h => ?_
      exact keeps_call alone_passed h (fun _ h => h) fun _ _ _ _ _ _ => trivial

end Programs

/-! ### Every interleaving -/

theorem members_verified (lower : Text → Text) (brandId : Uuid) :
    Crew.Verified (machine lower) (SparesOnlyOwner brandId) IsProgram Registers
      (fun w => HasOwner brandId w.members) (Rely brandId) NotCounted where
  refl _ _ h := .refl h
  trans _ _ _ _ h h' := h.trans h'
  stays _ _ _ h hrely := alone_notCounted _ _ h hrely
  spawned i w p hp _ hfresh := by
    rcases hp with ⟨toLowerCase, data, rfl⟩ | ⟨brand, memberId, rfl⟩
    · have hkeeps : Keeps lower brandId i (some <$> addBrandMember toLowerCase data)
          (fun _ _ => True) w :=
        Prog.wp_bind (addBrandMember_keeps hfresh) fun _ _ _ => trivial
      exact Prog.wp_mono hkeeps fun _ _ _ => trivial
    · exact Prog.wp_mono (removeBrandMember_keeps hfresh) fun _ _ _ => trivial
  others _ _ _ _ _ hne _ _ h := exec_rely hne h
  drifted _ _ _ h hdrift := by
    obtain ⟨users, -, rfl⟩ := hdrift
    exact ⟨h, h, fun _ h _ => h⟩

/-- **The brand has an owner member in every state of a run whose steps spare its only owner**, and
the next step leaves it one if and only if it does so, too. -/
theorem brand_keeps_owner (lower : Text → Text) {brandId : Uuid} {brands : List Uuid}
    {users : List User} {members : BrandMembers} (hstart : HasOwner brandId members) {w : World}
    {ps : List (Members (Option BrandMember))}
    (h : Crew (machine lower) (SparesOnlyOwner brandId) IsProgram Registers
      ⟨brands, users, members, []⟩ w ps) :
    HasOwner brandId w.members ∧ ∀ i op k fate, ps[i]? = some (.await op k) →
      (HasOwner brandId ((machine lower i).exec fate op w).2.members ↔
        SparesOnlyOwner brandId i w op fate) := by
  have hnone : ∀ i, NotCounted i ⟨brands, users, members, []⟩ :=
    fun i count hcount => absurd hcount List.not_mem_nil
  obtain ⟨howner, hps, -⟩ := (members_verified lower brandId).sound hstart hnone h
  refine ⟨howner, fun i op k fate hi => ⟨sparesOnlyOwner_of_exec howner, fun hguard => ?_⟩⟩
  exact (hps i _ hi (w, fate) ⟨.refl howner, hguard⟩).1

/-! ### Two owners -/

def member (id : Uuid) (email : String) (role : BrandMemberRole) : BrandMember :=
  ⟨id, 7, none, email.toList, role, 1, 0, 0⟩

def twoOwners : BrandMembers where
  rows := [member 1 "owner@brand.com" .owner, member 2 "second@brand.com" .owner]
  primaryKey := by decide
  brandEmailUnique := by decide

def onboarded : World := ⟨[7], [⟨1, "owner@brand.com".toList⟩], twoOwners, []⟩

/-- Both owners are to be removed, and an editor is to be added. -/
def programs : List (Members (Option BrandMember)) :=
  [removeBrandMember 7 1, removeBrandMember 7 2,
    some <$> addBrandMember id ⟨7, " editor@brand.com".toList, .editor, 1⟩]

theorem spawn_programs {G : Nat → World → MemberOp → Fate → Prop} :
    Crew (machine id) G IsProgram Registers onboarded onboarded programs :=
  Crew.spawn (Crew.spawn (Crew.spawn .init (.inr ⟨7, 1, rfl⟩)) (.inr ⟨7, 2, rfl⟩))
    (.inl ⟨id, _, rfl⟩)

def steps (i n : Nat) : List (Nat × Fate) := List.replicate n (i, .executed 5 3 true)

def playPrograms (schedule : List (Nat × Fate)) : World × List (Members (Option BrandMember)) :=
  playCrew (machine id) schedule onboarded programs

/-- The second removal counts after the first has deleted. -/
def inOrder : List (Nat × Fate) := steps 0 3 ++ steps 1 2 ++ steps 2 2

theorem second_owner_stays :
    (playPrograms inOrder).1.members.rows.map (fun m => (m.id, m.role)) =
        [(3, .editor), (2, .owner)] ∧
      HasOwner 7 (playPrograms inOrder).1.members :=
  ⟨by decide +kernel, (brand_keeps_owner id (by decide : HasOwner 7 twoOwners)
    (Crew.play inOrder spawn_programs
      (by decide +kernel : playCrewOk (machine id) (SparesOnlyOwner 7) _ _ _))).1⟩

/-- Both removals count before one of them deletes. -/
def bothCount : List (Nat × Fate) := steps 0 2 ++ steps 1 2 ++ steps 0 1 ++ steps 1 1

def oneOwner : BrandMembers where
  rows := [member 1 "owner@brand.com" .owner]
  primaryKey := by decide
  brandEmailUnique := by decide

/-- Every statement is executed and answered. -/
def Answered (_ : Nat) (_ : World) (_ : MemberOp) (fate : Fate) : Prop :=
  ∃ now id, fate = .executed now id true

theorem no_owner_left :
    (HasOwner 7 onboarded.members ∧ ∃ w ps,
      Crew (machine id) Answered IsProgram Registers onboarded w ps ∧ ¬ HasOwner 7 w.members) ∧
    (HasOwner 7 oneOwner ∧ ∃ w ps, Crew (machine id) Answered IsProgram Registers
        ⟨[7], [], oneOwner, []⟩ w ps ∧
      ¬ HasOwner 7 w.members) := by
  have hanswered : ∀ {i n : Nat} (move), move ∈ steps i n →
      ∀ w op, Answered move.1 w op move.2 := by
    intro i n move hmove w op
    exact ⟨5, 3, congrArg Prod.snd (List.eq_of_mem_replicate hmove)⟩
  constructor
  · refine ⟨by decide, _, _, Crew.play bothCount spawn_programs
      (playCrewOk_of_forall bothCount fun move hmove => ?_), by decide +kernel⟩
    simp only [bothCount, List.mem_append] at hmove
    rcases hmove with ((hmove | hmove) | hmove) | hmove
    all_goals exact hanswered move hmove
  · refine ⟨by decide, _, _, Crew.play (steps 0 2)
      (Crew.spawn .init (.inl ⟨id, ⟨7, "owner@brand.com".toList, .viewer, 1⟩, rfl⟩))
      (playCrewOk_of_forall _ hanswered), by decide +kernel⟩

end BrandBlitz.Brands
