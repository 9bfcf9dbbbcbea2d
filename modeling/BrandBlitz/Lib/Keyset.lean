import BrandBlitz.Lib.Sql

/-!
# BrandBlitz.Lib.Keyset

**Keyset pagination.** A listing is fetched page by page. A page comes with the cursor of
the next one, made from its last row, and the query of the next page keeps the rows that the
cursor admits.

* `Lists fetch rows` says that following the cursors from the first page comes to an end and
  that the pages together are `rows`. A page that fails, and a walk that never ends, list
  nothing.
* There are two ways to tell whether there is a next page: the page is full (`fullPage`), or
  one row more than the page was fetched and is there (`lookAhead`). With the first, a listing
  whose length is a multiple of the page size ends with an empty page.
* `fullPage_lists_iff` and `lookAhead_lists_iff` say exactly when the pages are the listing: at
  the end of every page the cursor has to admit nothing that was listed already, and
  everything that belongs on the next page (`Cut`). A cursor that admits what comes after its
  row in the order of the listing always does (`cut_of_admits_iff`).
-/

namespace BrandBlitz.Lib.Keyset

variable {α κ ε γ : Type}

/-- One page, and the cursor of the next. -/
structure Page (α κ : Type) where
  rows : List α
  nextCursor : Option κ

/-- There is a next page if this one is full. -/
def fullPage (limit : Nat) (cursorOf : α → κ) (fetched : List α) : Page α κ where
  rows := fetched
  nextCursor := if fetched.length = limit then fetched.getLast?.map cursorOf else none

/-- There is a next page if more was fetched than fits on this one. -/
def lookAhead (limit : Nat) (cursorOf : α → κ) (fetched : List α) : Page α κ where
  rows := fetched.take limit
  nextCursor :=
    if limit < fetched.length then (fetched.take limit).getLast?.map cursorOf else none

/-! ### Following the cursors -/

/-- The rows of all pages from a cursor on, within `fuel` pages. -/
def follow (fetch : Option κ → Except ε (Page α κ)) : Nat → Option κ → Option (List α)
  | 0, _ => none
  | fuel + 1, cursor =>
    match fetch cursor with
    | .error _ => none
    | .ok ⟨rows, none⟩ => some rows
    | .ok ⟨rows, some next⟩ => (follow fetch fuel (some next)).map (rows ++ ·)

/-- Following the cursors from `cursor` on ends, and the pages together are `rows`. -/
def ListsFrom (fetch : Option κ → Except ε (Page α κ)) (cursor : Option κ) (rows : List α) :
    Prop :=
  ∃ fuel, follow fetch fuel cursor = some rows

/-- The pages from the first on are `rows`. -/
def Lists (fetch : Option κ → Except ε (Page α κ)) (rows : List α) : Prop :=
  ListsFrom fetch none rows

/-- The cursors that following from the first page comes to. -/
inductive Visited (fetch : Option κ → Except ε (Page α κ)) : Option κ → Prop
  | first : Visited fetch none
  | next {cursor : Option κ} {rows : List α} {next : κ} : Visited fetch cursor →
      fetch cursor = .ok ⟨rows, some next⟩ → Visited fetch (some next)

section
variable {fetch : Option κ → Except ε (Page α κ)} {cursor : Option κ}

theorem listsFrom_last {page out : List α} (h : fetch cursor = .ok ⟨page, none⟩) :
    ListsFrom fetch cursor out ↔ out = page := by
  constructor
  · rintro ⟨fuel, hf⟩
    cases fuel with
    | zero => simp [follow] at hf
    | succ fuel =>
        simp only [follow, h] at hf
        exact (Option.some.inj hf).symm
  · rintro rfl
    exact ⟨1, by simp [follow, h]⟩

theorem listsFrom_more {page out : List α} {next : κ}
    (h : fetch cursor = .ok ⟨page, some next⟩) :
    ListsFrom fetch cursor out ↔ ∃ rest, ListsFrom fetch (some next) rest ∧ out = page ++ rest := by
  constructor
  · rintro ⟨fuel, hf⟩
    cases fuel with
    | zero => simp [follow] at hf
    | succ fuel =>
        simp only [follow, h, Option.map_eq_some_iff] at hf
        obtain ⟨rest, hrest, rfl⟩ := hf
        exact ⟨rest, ⟨fuel, hrest⟩, rfl⟩
  · rintro ⟨rest, ⟨fuel, hf⟩, rfl⟩
    exact ⟨fuel + 1, by simp [follow, h, hf]⟩

/-- Where the first page is the last one, no cursor is followed. -/
theorem Visited.eq_none {page : List α} (hfirst : fetch none = .ok ⟨page, none⟩)
    (h : Visited fetch cursor) : cursor = none := by
  induction h with
  | first => rfl
  | next _ hfetch ih =>
      rw [ih, hfirst] at hfetch
      cases hfetch

/-- The cursors that are followed are made from rows. -/
theorem Visited.exists_row {limit : Nat} {cursorOf : α → κ} {fetched : Option α → List α}
    (hfetch : ∀ b : Option α,
      fetch (b.map cursorOf) = .ok (lookAhead limit cursorOf (fetched b)))
    (h : Visited fetch cursor) : ∃ b : Option α, cursor = b.map cursorOf := by
  induction h with
  | first => exact ⟨none, rfl⟩
  | next _ hpage ih =>
      obtain ⟨b, rfl⟩ := ih
      rw [hfetch b] at hpage
      have hnext := congrArg Page.nextCursor (Except.ok.inj hpage)
      unfold lookAhead at hnext
      dsimp only at hnext
      split at hnext
      · obtain ⟨last, -, hlast⟩ := Option.map_eq_some_iff.mp hnext
        exact ⟨some last, by rw [Option.map_some, hlast]⟩
      · cases hnext

theorem not_listsFrom_error {err : ε} {out : List α} (h : fetch cursor = .error err) :
    ¬ ListsFrom fetch cursor out := by
  rintro ⟨fuel, hf⟩
  cases fuel <;> simp [follow, h] at hf

/-- The rows of the first page are listed. -/
theorem ListsFrom.mem_of_mem_page {limit : Nat} {cursorOf : α → κ} {fetched out : List α}
    (h : ListsFrom fetch cursor out) (hfetch : fetch cursor = .ok (fullPage limit cursorOf fetched))
    {r : α} (hr : r ∈ fetched) : r ∈ out := by
  cases hnext : (fullPage limit cursorOf fetched).nextCursor with
  | none =>
      have hok : fetch cursor = .ok ⟨fetched, none⟩ := by rw [hfetch, ← hnext]; rfl
      rwa [(listsFrom_last hok).mp h]
  | some next =>
      have hok : fetch cursor = .ok ⟨fetched, some next⟩ := by rw [hfetch, ← hnext]; rfl
      obtain ⟨rest, -, rfl⟩ := (listsFrom_more hok).mp h
      exact List.mem_append_left rest hr

/-- There is at most one listing. -/
theorem ListsFrom.unique {out out' : List α} (h : ListsFrom fetch cursor out)
    (h' : ListsFrom fetch cursor out') : out = out' := by
  obtain ⟨fuel, hf⟩ := h
  obtain ⟨fuel', hf'⟩ := h'
  induction fuel generalizing cursor out fuel' out' with
  | zero => simp [follow] at hf
  | succ fuel ih =>
      cases fuel' with
      | zero => simp [follow] at hf'
      | succ fuel' =>
          simp only [follow] at hf hf'
          split at hf
          · cases hf
          · rename_i hfetch
            rw [hfetch] at hf'
            exact (Option.some.inj hf).symm.trans (Option.some.inj hf')
          · rename_i page next hfetch
            rw [hfetch] at hf'
            obtain ⟨rest, hrest, rfl⟩ := Option.map_eq_some_iff.mp hf
            obtain ⟨rest', hrest', rfl⟩ := Option.map_eq_some_iff.mp hf'
            rw [ih hrest fuel' hrest']

/-- If what `P` says of the row of a cursor passes on to the rows of its page, and gives `Q` of
them, `Q` holds of every row listed. -/
theorem ListsFrom.forall {limit : Nat} {cursorOf : α → κ} {fetched : α → List α}
    {P Q : α → Prop}
    (hfetch : ∀ b, fetch (some (cursorOf b)) = .ok (fullPage limit cursorOf (fetched b)))
    (hstep : ∀ b, P b → ∀ r ∈ fetched b, P r ∧ Q r) {b : α} {out : List α} (hb : P b)
    (h : ListsFrom fetch (some (cursorOf b)) out) : ∀ r ∈ out, Q r := by
  obtain ⟨fuel, hf⟩ := h
  induction fuel generalizing b out with
  | zero => simp [follow] at hf
  | succ fuel ih =>
      have hpage := hstep b hb
      simp only [follow, hfetch, fullPage] at hf
      split at hf
      · cases hf
      · rename_i hok
        injection hok with hok
        injection hok with hrows hnext
        obtain rfl := Option.some.inj hf
        exact fun r hr => (hpage r (hrows ▸ hr)).2
      · rename_i page next hok
        injection hok with hok
        injection hok with hrows hnext
        obtain ⟨rest, hrest, rfl⟩ := Option.map_eq_some_iff.mp hf
        obtain ⟨last, hlast, rfl⟩ : ∃ last ∈ fetched b, cursorOf last = next := by
          split at hnext
          · obtain ⟨last, hlast, heq⟩ := Option.map_eq_some_iff.mp hnext
            exact ⟨last, List.mem_of_getLast? hlast, heq⟩
          · cases hnext
        intro r hr
        rcases List.mem_append.mp hr with hr | hr
        · exact (hpage r (hrows ▸ hr)).2
        · exact ih (hpage last hlast).1 hrest r hr

end

/-! ### Cuts -/

/-- The rows of a listing that the query of a page keeps, where `after b` is what the cursor
made from the row `b` admits. -/
def window (rows : List α) (after : α → α → Bool) : Option α → List α
  | none => rows
  | some b => rows.filter (after b)

/-- The cursor at the end of the first `k` rows; there is none before the first row. -/
def cursorAt (rows : List α) (cursorOf : α → κ) (k : Nat) : Option κ :=
  (rows.take k).getLast?.map cursorOf

/-- The page after the first `k` rows is right: the cursor made from the last of them admits
none of them, and all of the next `n`. -/
structure Cut (rows : List α) (after : α → α → Bool) (k n : Nat) : Prop where
  behind : ∀ b ∈ (rows.take k).getLast?, ∀ r ∈ rows.take k, after b r = false
  ahead : ∀ b ∈ (rows.take k).getLast?, ∀ r ∈ (rows.drop k).take n, after b r = true

section
variable {rows : List α} {k n : Nat}

/-- A row of the listing is not on both sides of a cut. -/
theorem not_mem_drop_of_mem_take (hnodup : rows.Nodup) {r : α} (hr : r ∈ rows.take k) :
    r ∉ rows.drop k :=
  fun hr' => List.disjoint_take_drop hnodup (Nat.le_refl k) hr hr'

theorem exists_getLast?_take (hk : 0 < k) (hlen : k ≤ rows.length) :
    ∃ b, (rows.take k).getLast? = some b := by
  have hne : rows.take k ≠ [] := by
    intro h
    have := congrArg List.length h
    rw [List.length_take, List.length_nil] at this
    omega
  exact ⟨_, List.getLast?_eq_some_getLast hne⟩

theorem getLast?_drop_take (hn : 0 < n) (hlen : k + n ≤ rows.length) :
    ((rows.drop k).take n).getLast? = (rows.take (k + n)).getLast? := by
  have hdrop : n ≤ (rows.drop k).length := by rw [List.length_drop]; omega
  obtain ⟨b, hb⟩ := exists_getLast?_take hn hdrop
  rw [List.take_add, List.getLast?_append, hb]
  rfl

/-- If a row before the cut is kept, the page starts with one. -/
theorem exists_mem_page_of_behind (hn : 0 < n) {keep : α → Bool} {r : α}
    (hr : r ∈ rows.take k) (hkeep : keep r = true) :
    ∃ x ∈ rows.take k, x ∈ (rows.filter keep).take n := by
  have hkept : r ∈ (rows.take k).filter keep := List.mem_filter.mpr ⟨hr, hkeep⟩
  obtain ⟨x, xs, hx⟩ := List.exists_cons_of_ne_nil (List.ne_nil_of_mem hkept)
  have hfront : x ∈ (rows.take k).filter keep := by simp [hx]
  refine ⟨x, List.mem_of_mem_filter hfront, ?_⟩
  obtain ⟨m, rfl⟩ : ∃ m, n = m + 1 := ⟨n - 1, by omega⟩
  rw [← List.take_append_drop k rows, List.filter_append, hx]
  simp

/-- The first `n` rows that are kept are the next `n` rows, exactly if nothing before them is
kept and each of them is. -/
theorem filter_take_eq_iff (hnodup : rows.Nodup) (hn : 0 < n) (keep : α → Bool) :
    (rows.filter keep).take n = (rows.drop k).take n ↔
      (∀ r ∈ rows.take k, keep r = false) ∧ ∀ r ∈ (rows.drop k).take n, keep r = true := by
  have hsplit : rows.filter keep = (rows.take k).filter keep ++ (rows.drop k).filter keep := by
    rw [← List.filter_append, List.take_append_drop]
  constructor
  · intro h
    constructor
    · intro r hr
      by_contra hkeep
      obtain ⟨x, hfront, hpage⟩ := exists_mem_page_of_behind hn hr (by simpa using hkeep)
      rw [h] at hpage
      exact not_mem_drop_of_mem_take hnodup hfront (List.mem_of_mem_take hpage)
    · intro r hr
      rw [← h] at hr
      exact (List.mem_filter.mp (List.mem_of_mem_take hr)).2
  · rintro ⟨hbehind, hahead⟩
    have hnone : (rows.take k).filter keep = [] :=
      List.filter_eq_nil_iff.mpr fun r hr => by simp [hbehind r hr]
    have hall : ((rows.drop k).take n).filter keep = (rows.drop k).take n :=
      List.filter_eq_self.mpr hahead
    have hdrop : (rows.drop k).filter keep =
        (rows.drop k).take n ++ ((rows.drop k).drop n).filter keep := by
      rw [← hall, ← List.filter_append, List.take_append_drop]
    rw [hsplit, hnone, List.nil_append, hdrop]
    by_cases hlen : n ≤ (rows.drop k).length
    · rw [List.take_append_of_le_length (by rw [List.length_take]; omega), List.take_take,
        Nat.min_self]
    · have hend : (rows.drop k).drop n = [] := List.drop_eq_nil_of_le (by omega)
      rw [hend, List.filter_nil, List.append_nil, List.take_take, Nat.min_self]

/-- What a page shows, in terms of the cut it follows. -/
theorem window_take_eq_iff (hnodup : rows.Nodup) (hn : 0 < n) (hk : k ≤ rows.length)
    (after : α → α → Bool) :
    (window rows after (rows.take k).getLast?).take n = (rows.drop k).take n ↔
      Cut rows after k n := by
  rcases Nat.eq_zero_or_pos k with rfl | hpos
  · exact iff_of_true rfl ⟨by simp, by simp⟩
  · obtain ⟨b, hb⟩ := exists_getLast?_take hpos hk
    rw [hb, window, filter_take_eq_iff hnodup hn]
    constructor
    · rintro ⟨hbehind, hahead⟩
      constructor
      · intro b' hb' r hr
        rw [hb] at hb'
        obtain rfl := Option.some.inj hb'
        exact hbehind r hr
      · intro b' hb' r hr
        rw [hb] at hb'
        obtain rfl := Option.some.inj hb'
        exact hahead r hr
    · exact fun hcut => ⟨hcut.behind b hb, hcut.ahead b hb⟩

end

/-! ### From cut to cut -/

/-- What is true from a cut on if something holds at the cut, and from the next cut on if
there is one, is true from the start exactly if that holds at every cut. -/
theorem along_cuts {C D more : Nat → Prop} {n len : Nat} (hn : 0 < n)
    (hbound : ∀ k, more k → k ≤ len) (hdown : ∀ k, more (k + n) → more k)
    (hstep : ∀ k, k = 0 ∨ more k → (D k ↔ C k ∧ (more (k + n) → D (k + n)))) :
    D 0 ↔ C 0 ∧ ∀ j, more (j * n) → C (j * n) := by
  constructor
  · intro h
    have hall : ∀ j, more (j * n) → D (j * n) := by
      intro j
      induction j with
      | zero => intro _; rwa [Nat.zero_mul]
      | succ j ih =>
          intro hmore
          rw [Nat.succ_mul] at hmore ⊢
          have hprev := hdown _ hmore
          exact ((hstep _ (.inr hprev)).mp (ih hprev)).2 hmore
    refine ⟨((hstep 0 (.inl rfl)).mp h).1, fun j hmore => ?_⟩
    exact ((hstep _ (.inr hmore)).mp (hall j hmore)).1
  · rintro ⟨hzero, hC⟩
    -- by induction on how far the cut is from the end
    have hall : ∀ m j, more (j * n) → len - j * n ≤ m → D (j * n) := by
      intro m
      induction m with
      | zero =>
          intro j hmore hm
          refine (hstep _ (.inr hmore)).mpr ⟨hC j hmore, fun hnext => ?_⟩
          have := hbound _ hnext
          omega
      | succ m ih =>
          intro j hmore hm
          refine (hstep _ (.inr hmore)).mpr ⟨hC j hmore, fun hnext => ?_⟩
          have := hbound _ hnext
          rw [← Nat.succ_mul] at hnext ⊢
          exact ih (j + 1) hnext (by rw [Nat.succ_mul]; omega)
    refine (hstep 0 (.inl rfl)).mpr ⟨hzero, fun hmore => ?_⟩
    have hone := hall len 1
    rw [Nat.one_mul] at hone
    rw [Nat.zero_add] at hmore ⊢
    exact hone hmore (by omega)

/-! ### Full pages -/

section
variable {rows : List α} {after : α → α → Bool} {cursorOf : α → κ} {n : Nat}
  {fetch : Option κ → Except ε (Page α κ)}

/-- One page of a walk that lists the rows from `k` on. -/
theorem fullPage_step (hn : 0 < n) {k : Nat} {fetched : List α} {cursor : Option κ}
    (hfetch : fetch cursor = .ok (fullPage n cursorOf (fetched.take n))) :
    ListsFrom fetch cursor (rows.drop k) ↔
      fetched.take n = (rows.drop k).take n ∧
      (k + n ≤ rows.length →
        ListsFrom fetch (cursorAt rows cursorOf (k + n)) (rows.drop (k + n))) := by
  generalize hpage : fetched.take n = page at hfetch ⊢
  have hle : page.length ≤ n := by rw [← hpage, List.length_take]; omega
  have hdrop : (rows.drop k).length = rows.length - k := List.length_drop
  by_cases hfull : page.length = n
  · obtain ⟨last, hlast⟩ := exists_getLast?_take hn (Nat.le_of_eq hfull.symm)
    rw [List.take_of_length_le hle] at hlast
    have hok : fetch cursor = .ok ⟨page, some (cursorOf last)⟩ := by
      rw [hfetch]
      simp [fullPage, hfull, hlast]
    rw [listsFrom_more hok]
    constructor
    · rintro ⟨rest, hrest, heq⟩
      have htake : (rows.drop k).take n = page := by rw [heq, List.take_left' hfull]
      have hskip : rows.drop (k + n) = rest := by
        rw [← List.drop_drop, heq, List.drop_left' hfull]
      refine ⟨htake.symm, fun hlen => ?_⟩
      rw [cursorAt, ← getLast?_drop_take hn hlen, htake, hlast, hskip]
      exact hrest
    · rintro ⟨htake, hnext⟩
      have hlen : k + n ≤ rows.length := by
        have := congrArg List.length htake
        rw [hfull, List.length_take, hdrop] at this
        omega
      have hrest := hnext hlen
      rw [cursorAt, ← getLast?_drop_take hn hlen, ← htake, hlast] at hrest
      refine ⟨rows.drop (k + n), hrest, ?_⟩
      rw [htake, ← List.drop_drop, List.take_append_drop]
  · have hok : fetch cursor = .ok ⟨page, none⟩ := by
      rw [hfetch]
      simp [fullPage, hfull]
    rw [listsFrom_last hok]
    constructor
    · intro heq
      refine ⟨by rw [heq, List.take_of_length_le hle], fun hlen => ?_⟩
      rw [heq] at hdrop
      omega
    · rintro ⟨htake, -⟩
      have := congrArg List.length htake
      rw [List.length_take, hdrop] at this
      rw [htake, List.take_of_length_le (by omega)]

/-- **Exactness of full pages.** -/
theorem fullPage_lists_iff (hnodup : rows.Nodup) (hn : 0 < n)
    (hfetch : ∀ b : Option α,
      fetch (b.map cursorOf) = .ok (fullPage n cursorOf ((window rows after b).take n))) :
    Lists fetch rows ↔
      ∀ j, j * n ≤ rows.length → Cut rows after (j * n) n := by
  have hchain := along_cuts (C := fun k => Cut rows after k n)
    (D := fun k => ListsFrom fetch (cursorAt rows cursorOf k) (rows.drop k)) hn
    (fun (k : Nat) (h : k ≤ rows.length) => h) (fun k h => by omega) (fun k hk => by
      have hpage : fetch (cursorAt rows cursorOf k) = _ := hfetch (rows.take k).getLast?
      rw [fullPage_step hn hpage, window_take_eq_iff hnodup hn (by omega)])
  rw [Lists]
  refine hchain.trans ⟨fun h => h.2, fun h => ⟨?_, h⟩⟩
  simpa using h 0 (by omega)

end

/-- Of a walk that lists the rest of the rows in some order, the first page is the right one. -/
theorem cut_of_perm {rows : List α} {after : α → α → Bool} {cursorOf : α → κ} {n : Nat}
    {fetch : Option κ → Except ε (Page α κ)} (hnodup : rows.Nodup) (hn : 0 < n)
    (hfetch : ∀ b : Option α,
      fetch (b.map cursorOf) = .ok (fullPage n cursorOf ((window rows after b).take n)))
    (hnever : ∀ k b r out, (rows.take k).getLast? = some b → after b b = false →
      r ∈ rows.drop k → after b r = false → ListsFrom fetch (some (cursorOf b)) out → r ∉ out)
    {k : Nat} {out : List α} (hlists : ListsFrom fetch (cursorAt rows cursorOf k) out)
    (hperm : out.Perm (rows.drop k)) : Cut rows after k n := by
  have hbehind : ∀ b ∈ (rows.take k).getLast?, ∀ r ∈ rows.take k, after b r = false := by
    intro b hb r hr
    by_contra hafter
    obtain ⟨x, hfront, hx⟩ := exists_mem_page_of_behind hn hr (by simpa using hafter)
    have hb' : (rows.take k).getLast? = some b := hb
    have hrows := hfetch (rows.take k).getLast?
    rw [hb'] at hrows
    rw [cursorAt, hb'] at hlists
    exact not_mem_drop_of_mem_take hnodup hfront
      (hperm.mem_iff.mp (hlists.mem_of_mem_page hrows hx))
  refine ⟨hbehind, fun b hb r hr => ?_⟩
  by_contra hafter
  have hb' : (rows.take k).getLast? = some b := hb
  rw [cursorAt, hb'] at hlists
  have hdrop := List.mem_of_mem_take hr
  exact hnever k b r out hb (hbehind b hb b (List.mem_of_getLast? hb)) hdrop
    (by simpa using hafter) hlists (hperm.mem_iff.mpr hdrop)

/-- So the walk lists them in their order. -/
theorem eq_drop_of_perm {rows : List α} {after : α → α → Bool} {cursorOf : α → κ} {n : Nat}
    {fetch : Option κ → Except ε (Page α κ)} (hnodup : rows.Nodup) (hn : 0 < n)
    (hfetch : ∀ b : Option α,
      fetch (b.map cursorOf) = .ok (fullPage n cursorOf ((window rows after b).take n)))
    (hnever : ∀ k b r out, (rows.take k).getLast? = some b → after b b = false →
      r ∈ rows.drop k → after b r = false → ListsFrom fetch (some (cursorOf b)) out → r ∉ out)
    {m k : Nat} {out : List α} (hk : k ≤ rows.length) (hm : rows.length - k ≤ m)
    (hlists : ListsFrom fetch (cursorAt rows cursorOf k) out) (hperm : out.Perm (rows.drop k)) :
    out = rows.drop k := by
  induction m generalizing k out with
  | zero =>
      rw [List.drop_eq_nil_of_le (by omega)] at hperm ⊢
      exact hperm.eq_nil
  | succ m ih =>
      have htake := (window_take_eq_iff hnodup hn hk after).mpr
        (cut_of_perm hnodup hn hfetch hnever hlists hperm)
      have hfetched : fetch (cursorAt rows cursorOf k) =
          .ok (fullPage n cursorOf ((window rows after (rows.take k).getLast?).take n)) := hfetch _
      rw [htake] at hfetched
      by_cases hlen : k + n ≤ rows.length
      · have hfull : ((rows.drop k).take n).length = n := by
          rw [List.length_take, List.length_drop]
          omega
        obtain ⟨last, hlast⟩ := exists_getLast?_take (by omega : 0 < k + n) hlen
        have hok : fetch (cursorAt rows cursorOf k) =
            .ok ⟨(rows.drop k).take n, cursorAt rows cursorOf (k + n)⟩ := by
          rw [hfetched, fullPage, if_pos hfull, cursorAt, getLast?_drop_take hn hlen]
        have hnext : cursorAt rows cursorOf (k + n) = some (cursorOf last) := by
          rw [cursorAt, hlast, Option.map_some]
        rw [hnext] at hok
        obtain ⟨rest, hrest, rfl⟩ := (listsFrom_more hok).mp hlists
        rw [← hnext] at hrest
        have hsplit : rows.drop k = (rows.drop k).take n ++ rows.drop (k + n) := by
          rw [← List.drop_drop, List.take_append_drop]
        rw [hsplit, List.take_left' hfull] at hperm
        conv_rhs => rw [hsplit]
        rw [ih hlen (by omega) hrest ((List.perm_append_left_iff _).mp hperm)]
      · have hshort : ((rows.drop k).take n).length ≠ n := by
          rw [List.length_take, List.length_drop]
          omega
        have hok : fetch (cursorAt rows cursorOf k) = .ok ⟨(rows.drop k).take n, none⟩ := by
          rw [hfetched, fullPage, if_neg hshort]
        rw [(listsFrom_last hok).mp hlists]
        exact List.take_of_length_le (by rw [List.length_drop]; omega)

/-- **Exactness up to order.** Where a row that a page skips never comes later, pages that list
each row once list the rows in their order. -/
theorem fullPage_perm_iff {rows : List α} {after : α → α → Bool} {cursorOf : α → κ} {n : Nat}
    {fetch : Option κ → Except ε (Page α κ)} (hnodup : rows.Nodup) (hn : 0 < n)
    (hfetch : ∀ b : Option α,
      fetch (b.map cursorOf) = .ok (fullPage n cursorOf ((window rows after b).take n)))
    (hnever : ∀ k b r out, (rows.take k).getLast? = some b → after b b = false →
      r ∈ rows.drop k → after b r = false → ListsFrom fetch (some (cursorOf b)) out → r ∉ out) :
    (∃ out, Lists fetch out ∧ out.Perm rows) ↔ Lists fetch rows := by
  constructor
  · rintro ⟨out, hlists, hperm⟩
    have heq : out = rows.drop 0 :=
      eq_drop_of_perm hnodup hn hfetch hnever (Nat.zero_le _) (Nat.le_refl _) hlists hperm
    rw [heq] at hlists
    exact hlists
  · exact fun h => ⟨rows, h, List.Perm.refl _⟩

/-- A first page that is not full is the listing. -/
theorem firstPage_lists {rows : List α} {cursorOf : α → κ} {n : Nat}
    {fetch : Option κ → Except ε (Page α κ)}
    (hfirst : fetch none = .ok (fullPage n cursorOf (rows.take n))) (hlen : rows.length < n) :
    Lists fetch rows := by
  have hshort : (rows.take n).length ≠ n := by rw [List.length_take]; omega
  have hok : fetch none = .ok ⟨rows.take n, none⟩ := by rw [hfirst, fullPage, if_neg hshort]
  exact (listsFrom_last hok).mpr (List.take_of_length_le (Nat.le_of_lt hlen)).symm

/-- Where every query with a cursor fails, the pages are the listing if the first page is not
full. -/
theorem firstPage_lists_iff {rows : List α} {cursorOf : α → κ} {n : Nat} {err : ε}
    {fetch : Option κ → Except ε (Page α κ)} (hn : 0 < n)
    (hfirst : fetch none = .ok (fullPage n cursorOf (rows.take n)))
    (hnext : ∀ b, fetch (some (cursorOf b)) = .error err) :
    (∃ out, Lists fetch out ∧ out.Perm rows) ↔ rows.length < n := by
  constructor
  · rintro ⟨out, hlists, -⟩
    by_contra hlen
    rw [Nat.not_lt] at hlen
    obtain ⟨last, hlast⟩ := exists_getLast?_take hn hlen
    have hfull : (rows.take n).length = n := by rw [List.length_take]; omega
    have hok : fetch none = .ok ⟨rows.take n, some (cursorOf last)⟩ := by
      rw [hfirst, fullPage, if_pos hfull, hlast]
      rfl
    obtain ⟨rest, hrest, -⟩ := (listsFrom_more hok).mp hlists
    exact not_listsFrom_error (hnext last) hrest
  · exact fun hlen => ⟨rows, firstPage_lists hfirst hlen, List.Perm.refl _⟩

/-! ### Looking one row ahead -/

section
variable {rows : List α} {after : α → α → Bool} {cursorOf : α → κ} {n : Nat}
  {fetch : Option κ → Except ε (Page α κ)}

/-- One page of a walk that lists the rows from `k` on. -/
theorem lookAhead_step (hn : 0 < n) {k : Nat} {kept : List α} {cursor : Option κ}
    (hfetch : fetch cursor = .ok (lookAhead n cursorOf (kept.take (n + 1)))) :
    ListsFrom fetch cursor (rows.drop k) ↔
      kept.take n = (rows.drop k).take n ∧ (n < kept.length → k + n ≤ rows.length) ∧
      (n < kept.length →
        ListsFrom fetch (cursorAt rows cursorOf (k + n)) (rows.drop (k + n))) ∧
      (kept.length ≤ n → rows.length ≤ k + n) := by
  have hdrop : (rows.drop k).length = rows.length - k := List.length_drop
  have hrows : (kept.take (n + 1)).take n = kept.take n := by
    rw [List.take_take, Nat.min_eq_left (Nat.le_succ n)]
  by_cases hmore : n < kept.length
  · have hlt : n < (kept.take (n + 1)).length := by rw [List.length_take]; omega
    have hfull : (kept.take n).length = n := by rw [List.length_take]; omega
    obtain ⟨last, hlast⟩ := exists_getLast?_take hn (Nat.le_of_lt hmore)
    have hok : fetch cursor = .ok ⟨kept.take n, some (cursorOf last)⟩ := by
      rw [hfetch, lookAhead, hrows, if_pos hlt, hlast]
      rfl
    -- the rest is listed from the cursor
    rw [listsFrom_more hok]
    constructor
    · rintro ⟨rest, hrest, heq⟩
      have htake : (rows.drop k).take n = kept.take n := by rw [heq, List.take_left' hfull]
      have hskip : rows.drop (k + n) = rest := by
        rw [← List.drop_drop, heq, List.drop_left' hfull]
      have hlen : k + n ≤ rows.length := by
        have := congrArg List.length htake
        rw [hfull, List.length_take, hdrop] at this
        omega
      refine ⟨htake.symm, fun _ => hlen, fun _ => ?_, fun h => by omega⟩
      rw [cursorAt, ← getLast?_drop_take hn hlen, htake, hlast, hskip]
      exact hrest
    · rintro ⟨htake, hlen, hnext, -⟩
      have hrest := hnext hmore
      rw [cursorAt, ← getLast?_drop_take hn (hlen hmore), ← htake, hlast] at hrest
      refine ⟨rows.drop (k + n), hrest, ?_⟩
      rw [htake, ← List.drop_drop, List.take_append_drop]
  · have hlt : ¬ n < (kept.take (n + 1)).length := by rw [List.length_take]; omega
    have hle : (kept.take n).length ≤ n := by rw [List.length_take]; omega
    have hok : fetch cursor = .ok ⟨kept.take n, none⟩ := by
      rw [hfetch, lookAhead, hrows, if_neg hlt]
    -- no cursor: this page is all that is left
    rw [listsFrom_last hok]
    constructor
    · intro heq
      refine ⟨by rw [heq, List.take_of_length_le hle], fun h => absurd h hmore,
        fun h => absurd h hmore, fun _ => ?_⟩
      rw [heq] at hdrop
      omega
    · rintro ⟨htake, -, -, hlen⟩
      have := hlen (by omega)
      rw [htake, List.take_of_length_le (by omega)]

/-- The rows kept after a cut where the cursor is right: the next page, and what is admitted
of the rows after it. -/
theorem Cut.window_eq {k : Nat} {b : α} (hb : (rows.take k).getLast? = some b)
    (hcut : Cut rows after k n) :
    window rows after (rows.take k).getLast? =
      (rows.drop k).take n ++ (rows.drop (k + n)).filter (after b) := by
  rw [hb, window]
  conv_lhs => rw [← List.take_append_drop k rows, ← List.take_append_drop n (rows.drop k)]
  rw [List.filter_append, List.filter_append, List.drop_drop,
    List.filter_eq_nil_iff.mpr fun r hr => by simp [hcut.behind b hb r hr],
    List.filter_eq_self.mpr (hcut.ahead b hb), List.nil_append]

/-- A page after a right cut has no successor if it reaches the end. -/
theorem Cut.lt_length {k : Nat} (hk : k ≤ rows.length)
    (hcut : Cut rows after k n)
    (hmore : n < (window rows after (rows.take k).getLast?).length) :
    k + n < rows.length := by
  rcases Nat.eq_zero_or_pos k with rfl | hpos
  · rw [Nat.zero_add]
    exact hmore
  · obtain ⟨b, hb⟩ := exists_getLast?_take hpos hk
    have hle := List.length_filter_le (after b) (rows.drop (k + n))
    rw [hcut.window_eq hb, List.length_append, List.length_take, List.length_drop] at hmore
    rw [List.length_drop] at hle
    omega

/-- A page after a right cut has a successor if the cursor admits a row after the page. -/
theorem Cut.lt_window {k : Nat} (hk : k ≤ rows.length)
    (hcut : Cut rows after k n) (hmore : k + n < rows.length)
    (hlater : ∀ b ∈ (rows.take k).getLast?,
      ∃ r ∈ rows.drop (k + n), after b r = true) :
    n < (window rows after (rows.take k).getLast?).length := by
  rcases Nat.eq_zero_or_pos k with rfl | hpos
  · rw [Nat.zero_add] at hmore
    exact hmore
  · obtain ⟨b, hb⟩ := exists_getLast?_take hpos hk
    obtain ⟨r, hr, hadmits⟩ := hlater b hb
    have hkept := List.length_pos_of_mem (List.mem_filter.mpr ⟨hr, hadmits⟩)
    rw [hcut.window_eq hb, List.length_append, List.length_take, List.length_drop]
    omega

/-- **Exactness of pages with one row of look-ahead**, for a cursor that admits whatever is
admitted after a row it admits. -/
theorem lookAhead_lists_iff (hnodup : rows.Nodup) (hn : 0 < n)
    (htrans : ∀ a ∈ rows, ∀ b ∈ rows, ∀ c ∈ rows, after a b = true → after b c = true →
      after a c = true)
    (hfetch : ∀ b : Option α, (∀ x ∈ b, x ∈ rows) →
      fetch (b.map cursorOf) = .ok (lookAhead n cursorOf ((window rows after b).take (n + 1)))) :
    Lists fetch rows ↔
      ∀ j, j * n < rows.length → Cut rows after (j * n) n := by
  have hchain := along_cuts
    (C := fun k => Cut rows after k n ∧
      (k + n < rows.length → n < (window rows after (rows.take k).getLast?).length))
    (D := fun k => ListsFrom fetch (cursorAt rows cursorOf k) (rows.drop k)) hn
    (fun (k : Nat) (h : k < rows.length) => Nat.le_of_lt h) (fun k h => by omega) (fun k hk => by
      have hle : k ≤ rows.length := by omega
      have hpage : fetch (cursorAt rows cursorOf k) = _ := hfetch (rows.take k).getLast?
        fun b hb => List.mem_of_mem_take (List.mem_of_getLast? hb)
      rw [lookAhead_step hn hpage, window_take_eq_iff hnodup hn hle]
      constructor
      · rintro ⟨hcut, -, hnext, hlast⟩
        have hmore : k + n < rows.length →
            n < (window rows after (rows.take k).getLast?).length := by
          intro h
          by_contra hno
          have := hlast (by omega)
          omega
        exact ⟨⟨hcut, hmore⟩, fun h => hnext (hmore h)⟩
      · rintro ⟨⟨hcut, hmore⟩, hnext⟩
        refine ⟨hcut, fun h => Nat.le_of_lt (hcut.lt_length hle h),
          fun h => hnext (hcut.lt_length hle h), fun h => ?_⟩
        by_contra hno
        have := hmore (by omega)
        omega)
  rw [Lists]
  refine hchain.trans ⟨fun h j hj => (h.2 j hj).1, fun h => ?_⟩
  -- the next cut's cursor admits the row behind it, so this cut's cursor does
  have hfollows : ∀ j, j * n ≤ rows.length → Cut rows after (j * n) n →
      j * n + n < rows.length →
        n < (window rows after (rows.take (j * n)).getLast?).length := by
    intro j hle hcut hmore
    refine hcut.lt_window hle hmore fun b hb => ?_
    obtain ⟨b', hb'⟩ := exists_getLast?_take (by omega : 0 < j * n + n) (Nat.le_of_lt hmore)
    have hnext := h (j + 1) (by rw [Nat.succ_mul]; exact hmore)
    rw [Nat.succ_mul] at hnext
    obtain ⟨r, hr⟩ := List.exists_mem_of_ne_nil ((rows.drop (j * n + n)).take n)
      (List.ne_nil_of_length_pos (by rw [List.length_take, List.length_drop]; omega))
    have hlast : b' ∈ (rows.drop (j * n)).take n := by
      have hpage := hb'
      rw [← getLast?_drop_take hn (Nat.le_of_lt hmore)] at hpage
      exact List.mem_of_getLast? hpage
    exact ⟨r, List.mem_of_mem_take hr,
      htrans b (List.mem_of_mem_take (List.mem_of_getLast? hb))
        b' (List.mem_of_mem_take (List.mem_of_getLast? hb'))
        r (List.mem_of_mem_drop (List.mem_of_mem_take hr))
        (hcut.ahead b hb b' hlast) (hnext.ahead b' hb' r hr)⟩
  have hzero : Cut rows after 0 n := ⟨by simp, by simp⟩
  refine ⟨⟨hzero, fun hmore => ?_⟩, fun j hj => ⟨h j hj, hfollows j (by omega) (h j hj)⟩⟩
  simpa using hfollows 0 (by omega) (by simpa using hzero) (by simpa using hmore)

end

/-- Every row stands on the page that its position says. -/
theorem exists_page_of_mem_drop {rows : List α} {n : Nat} (hn : 0 < n) {k : Nat} {r : α}
    (hr : r ∈ rows.drop (k * n)) :
    ∃ j, k ≤ j ∧ j * n < rows.length ∧ r ∈ (rows.drop (j * n)).take n := by
  obtain ⟨i, hi, rfl⟩ := List.mem_iff_getElem.mp hr
  rw [List.length_drop] at hi
  have hle : i / n * n ≤ i := Nat.div_mul_le_self i n
  have hlt : i < i / n * n + n := Nat.lt_div_mul_add hn
  have hsum : (k + i / n) * n = k * n + i / n * n := Nat.add_mul _ _ _
  refine ⟨k + i / n, Nat.le_add_right _ _, by omega, ?_⟩
  rw [hsum, ← List.drop_drop]
  refine List.mem_take_iff_getElem.mpr ⟨i - i / n * n, ?_, ?_⟩
  · rw [List.length_drop, List.length_drop]
    omega
  · rw [List.getElem_drop]
    congr 1
    omega

/-! ### Cuts of a sorted listing -/

section
variable {rows : List α} {R : α → α → Prop} {k : Nat} {b r : α}

theorem rel_getLast_of_mem_take (hrows : rows.Pairwise R)
    (hb : (rows.take k).getLast? = some b) (hr : r ∈ rows.take k) : r = b ∨ R r b := by
  obtain ⟨front, hfront⟩ := List.getLast?_eq_some_iff.mp hb
  have hpairs : (front ++ [b]).Pairwise R := hfront ▸ hrows.sublist (List.take_sublist k rows)
  rw [hfront] at hr
  rcases List.mem_append.mp hr with hr | hr
  · exact .inr ((List.pairwise_append.mp hpairs).2.2 r hr b (List.mem_singleton.mpr rfl))
  · exact .inl (List.mem_singleton.mp hr)

theorem getLast_rel_of_mem_drop (hrows : rows.Pairwise R)
    (hb : (rows.take k).getLast? = some b) (hr : r ∈ rows.drop k) : R b r := by
  rw [← List.take_append_drop k rows] at hrows
  exact (List.pairwise_append.mp hrows).2.2 b (List.mem_of_getLast? hb) r hr

end

/-- A cursor that admits exactly the rows with a larger key makes every cut right, where the
rows rise by that key. -/
theorem cut_of_admits_iff [Preorder γ] {key : α → γ} {rows : List α} {after : α → α → Bool}
    (hrows : rows.Pairwise fun a b => key a < key b)
    (hafter : ∀ b ∈ rows, ∀ r ∈ rows, after b r = true ↔ key b < key r) (k n : Nat) :
    Cut rows after k n := by
  constructor
  · intro b hb r hr
    have hmem := List.mem_of_mem_take (List.mem_of_getLast? hb)
    by_contra hafter'
    have hlt := (hafter b hmem r (List.mem_of_mem_take hr)).mp (by simpa using hafter')
    rcases rel_getLast_of_mem_take hrows hb hr with rfl | h
    · exact lt_irrefl _ hlt
    · exact lt_asymm hlt h
  · intro b hb r hr
    have hmem := List.mem_of_mem_take (List.mem_of_getLast? hb)
    have hdrop := List.mem_of_mem_take hr
    have hlt := getLast_rel_of_mem_drop hrows hb hdrop
    exact (hafter b hmem r (List.mem_of_mem_drop hdrop)).mpr hlt

/-- **Pages with one row of look-ahead are the listing**, if the cursor admits exactly the rows with
a larger key. -/
theorem lookAhead_lists [Preorder γ] {key : α → γ} {rows : List α} {after : α → α → Bool}
    {cursorOf : α → κ} {n : Nat} {fetch : Option κ → Except ε (Page α κ)}
    (hrows : rows.Pairwise fun a b => key a < key b) (hn : 0 < n)
    (hafter : ∀ b ∈ rows, ∀ r ∈ rows, after b r = true ↔ key b < key r)
    (hfetch : ∀ b : Option α, (∀ x ∈ b, x ∈ rows) →
      fetch (b.map cursorOf) = .ok (lookAhead n cursorOf ((window rows after b).take (n + 1)))) :
    Lists fetch rows := by
  have hnodup : rows.Nodup := hrows.imp fun {a b} hab heq => by
    rw [heq] at hab
    exact lt_irrefl _ hab
  refine (lookAhead_lists_iff hnodup hn (fun a ha b hb c hc hab hbc => ?_) hfetch).mpr
    fun j _ => cut_of_admits_iff hrows hafter _ _
  exact (hafter a ha c hc).mpr (lt_trans ((hafter a ha b hb).mp hab) ((hafter b hb c hc).mp hbc))

/-! ### Listings in two parts

Rows with a value come first and those without it last. -/

section
variable {rows : List α} {P : α → Bool}

/-- In the first part are the rows with `P`, as many as there are. -/
theorem getElem_iff_lt_countP (hrows : rows.Pairwise fun a b => P b = true → P a = true) :
    ∀ {i : Nat} (hi : i < rows.length), P rows[i] = true ↔ i < rows.countP P := by
  induction hrows with
  | nil => intro i hi; exact absurd hi (Nat.not_lt_zero i)
  | @cons a rows ha _ ih =>
      intro i hi
      cases hP : P a with
      | true =>
          rw [List.countP_cons_of_pos hP]
          cases i with
          | zero => simp [hP]
          | succ i => simpa using ih (Nat.lt_of_succ_lt_succ hi)
      | false =>
          have hnone : ∀ b ∈ rows, ¬ P b = true := fun b hb hPb => by
            rw [ha b hb hPb] at hP
            cases hP
          rw [List.countP_cons_of_neg (by simp [hP]), List.countP_eq_zero.mpr hnone]
          refine iff_of_false (fun h => ?_) (Nat.not_lt_zero i)
          rcases List.mem_cons.mp (List.getElem_mem hi) with heq | hmem
          · rw [heq, hP] at h
            cases h
          · exact hnone _ hmem h

theorem getLast_take_iff_le_countP (hrows : rows.Pairwise fun a b => P b = true → P a = true)
    {k : Nat} (hk : 0 < k) (hlen : k ≤ rows.length) {b : α}
    (hb : (rows.take k).getLast? = some b) : P b = true ↔ k ≤ rows.countP P := by
  have hlt : k - 1 < rows.length := by omega
  rw [List.getLast?_take, if_neg (by omega), List.getElem?_eq_getElem hlt, Option.some_or] at hb
  obtain rfl := Option.some.inj hb
  rw [getElem_iff_lt_countP hrows hlt]
  omega

end

end BrandBlitz.Lib.Keyset
