import Mathlib.Data.List.DropRight
import Mathlib.Tactic.Common

/-!
# BrandBlitz.Lib.Words

**Words and separators.** The words of a list are its maximal runs of elements with a property.
Replacing all that is between them by one separator each, and removing separators at both ends,
gives the words joined by separators (`strip_replaceRuns`), which have these words (`words_join`). A
prefix of joined words is joined words too, unless it ends with a separator (`take_join`).
-/

namespace BrandBlitz.Lib.Words

section

variable {α : Type} (p : α → Bool)

/-- The word at the beginning, which may be empty, and the words after it. -/
def wordsFrom : List α → List α × List (List α)
  | [] => ([], [])
  | a :: l =>
    let rest := wordsFrom l
    if p a then (a :: rest.1, rest.2)
    else ([], if rest.1 = [] then rest.2 else rest.1 :: rest.2)

/-- The maximal runs of elements with the property. -/
def words (l : List α) : List (List α) :=
  if (wordsFrom p l).1 = [] then (wordsFrom p l).2 else (wordsFrom p l).1 :: (wordsFrom p l).2

def IsWord (w : List α) : Prop := w ≠ [] ∧ ∀ a ∈ w, p a = true

/-- Each run of elements that `q` holds of is replaced by one separator; are we in such a run? -/
def replaceRuns (q : α → Bool) (sep : α) : Bool → List α → List α
  | _, [] => []
  | inRun, a :: l =>
    if q a then if inRun then replaceRuns q sep true l else sep :: replaceRuns q sep true l
    else a :: replaceRuns q sep false l

end

section

variable {α : Type} {p : α → Bool} {sep : α} {ws : List (List α)} {w l : List α}

/-! ### Joining -/

theorem join_cons (w : List α) (hne : ws ≠ []) :
    [sep].intercalate (w :: ws) = w ++ sep :: [sep].intercalate ws := by
  rw [List.intercalate_cons_of_ne_nil hne, List.append_assoc]
  rfl

theorem join_ne_nil (sep : α) (hws : ∀ w ∈ ws, IsWord p w) (hne : ws ≠ []) :
    [sep].intercalate ws ≠ [] := by
  cases ws with
  | nil => exact absurd rfl hne
  | cons w ws =>
    have hw := (hws w List.mem_cons_self).1
    by_cases hrest : ws = []
    · rw [hrest, List.intercalate_singleton]
      exact hw
    · rw [join_cons w hrest]
      exact List.append_ne_nil_of_left_ne_nil hw _

theorem join_concat (hne : ws ≠ []) (w : List α) :
    [sep].intercalate (ws ++ [w]) = [sep].intercalate ws ++ sep :: w := by
  induction ws with
  | nil => exact absurd rfl hne
  | cons v ws ih =>
    by_cases hrest : ws = []
    · subst hrest
      rw [List.singleton_append, join_cons v (by simp), List.intercalate_singleton,
        List.intercalate_singleton]
    · rw [List.cons_append, join_cons v (by simp), ih hrest, join_cons v hrest, List.append_assoc]
      rfl

/-- What is joined comes from a list, or is the separator. -/
theorem mem_join {a : α} (h : a ∈ [sep].intercalate ws) : a = sep ∨ ∃ w ∈ ws, a ∈ w := by
  induction ws with
  | nil => exact absurd h List.not_mem_nil
  | cons w ws ih =>
    by_cases hne : ws = []
    · rw [hne, List.intercalate_singleton] at h
      exact .inr ⟨w, List.mem_cons_self, h⟩
    · rw [join_cons w hne, List.mem_append, List.mem_cons] at h
      rcases h with h | h | h
      · exact .inr ⟨w, List.mem_cons_self, h⟩
      · exact .inl h
      · rcases ih h with h | ⟨v, hv, h⟩
        · exact .inl h
        · exact .inr ⟨v, List.mem_cons_of_mem w hv, h⟩

/-! ### Words -/

theorem wordsFrom_cons_pos {a : α} (ha : p a = true) (l : List α) :
    wordsFrom p (a :: l) = (a :: (wordsFrom p l).1, (wordsFrom p l).2) := by
  rw [wordsFrom]
  exact if_pos ha

theorem wordsFrom_cons_neg {a : α} (ha : p a = false) (l : List α) :
    wordsFrom p (a :: l) = ([], words p l) := by
  rw [wordsFrom]
  exact if_neg (by simp [ha])

theorem words_cons_neg {a : α} (ha : p a = false) (l : List α) :
    words p (a :: l) = words p l := by
  rw [words, wordsFrom_cons_neg ha]
  exact if_pos rfl

theorem words_cons_pos {a : α} (ha : p a = true) (l : List α) :
    words p (a :: l) = (a :: (wordsFrom p l).1) :: (wordsFrom p l).2 := by
  rw [words, wordsFrom_cons_pos ha]
  exact if_neg (List.cons_ne_nil _ _)

theorem wordsFrom_spec (p : α → Bool) (l : List α) :
    (∀ a ∈ (wordsFrom p l).1, p a = true) ∧ ∀ w ∈ (wordsFrom p l).2, IsWord p w := by
  induction l with
  | nil => simp [wordsFrom]
  | cons a l ih =>
    cases ha : p a with
    | true =>
      rw [wordsFrom_cons_pos ha]
      exact ⟨List.forall_mem_cons.mpr ⟨ha, ih.1⟩, ih.2⟩
    | false =>
      rw [wordsFrom_cons_neg ha]
      refine ⟨by simp, ?_⟩
      unfold words
      split
      next => exact ih.2
      next hne => exact List.forall_mem_cons.mpr ⟨⟨hne, ih.1⟩, ih.2⟩

theorem isWord_of_mem_words (h : w ∈ words p l) : IsWord p w := by
  have hspec := wordsFrom_spec p l
  unfold words at h
  split at h
  next => exact hspec.2 w h
  next hne => exact List.forall_mem_cons.mpr ⟨⟨hne, hspec.1⟩, hspec.2⟩ w h

/-- A separator ends a word. -/
theorem words_append_sep (hsep : p sep = false) (l m : List α) :
    words p (l ++ sep :: m) = words p l ++ words p m := by
  have hfrom : wordsFrom p (l ++ sep :: m) = ((wordsFrom p l).1, (wordsFrom p l).2 ++ words p m) := by
    induction l with
    | nil => exact wordsFrom_cons_neg hsep m
    | cons a l ih =>
      cases ha : p a with
      | true => rw [List.cons_append, wordsFrom_cons_pos ha, wordsFrom_cons_pos ha, ih]
      | false =>
        rw [List.cons_append, wordsFrom_cons_neg ha, wordsFrom_cons_neg ha, words, words, ih]
        split
        · rfl
        · rfl
  show (if _ then _ else _) = (if (wordsFrom p l).1 = [] then _ else _ :: _) ++ _
  rw [hfrom]
  split
  · rfl
  · rfl

theorem words_word (hw : IsWord p w) : words p w = [w] := by
  have hfrom : wordsFrom p w = (w, []) := by
    have hall := hw.2
    clear hw
    induction w with
    | nil => rfl
    | cons a w ih =>
      obtain ⟨ha, hrest⟩ := List.forall_mem_cons.mp hall
      rw [wordsFrom_cons_pos ha, ih hrest]
  rw [words, hfrom, if_neg hw.1]

/-- Joined words are found again. -/
theorem words_join (hsep : p sep = false) (hws : ∀ w ∈ ws, IsWord p w) :
    words p ([sep].intercalate ws) = ws := by
  induction ws with
  | nil => rfl
  | cons w ws ih =>
    obtain ⟨hw, hrest⟩ := List.forall_mem_cons.mp hws
    by_cases hne : ws = []
    · rw [hne, List.intercalate_singleton, words_word hw]
    · rw [join_cons w hne, words_append_sep hsep, words_word hw, ih hrest]
      rfl

/-! ### Replacing -/

theorem rdropWhile_cons {q : α → Bool} (a : α) (l : List α) :
    (a :: l).rdropWhile q =
      if l.rdropWhile q = [] then if q a then [] else [a] else a :: l.rdropWhile q := by
  induction l using List.reverseRecOn with
  | nil => simp [List.rdropWhile_singleton]
  | append_singleton l b ih =>
    cases hb : q b with
    | true =>
      rw [← List.cons_append, List.rdropWhile_concat_pos _ _ _ hb, ih,
        List.rdropWhile_concat_pos _ _ _ hb]
    | false =>
      have hnot : ¬ q b = true := by simp [hb]
      rw [← List.cons_append, List.rdropWhile_concat_neg _ _ _ hnot,
        List.rdropWhile_concat_neg _ _ _ hnot, if_neg (by simp)]
      rfl

theorem rdropWhile_cons_neg {q : α → Bool} {a : α} (ha : q a = false) (l : List α) :
    (a :: l).rdropWhile q = a :: l.rdropWhile q := by
  rw [rdropWhile_cons, ha]
  split
  next hnil => rw [hnil]; rfl
  next => rfl

theorem ne_sep {a : α} (hsep : p sep = false) (ha : p a = true) : a ≠ sep := by
  rintro rfl
  rw [hsep] at ha
  cases ha

theorem head_join (hws : ∀ w ∈ ws, IsWord p w) :
    ∀ a ∈ ([sep].intercalate ws).head?, p a = true := by
  match ws with
  | [] => simp
  | [] :: ws => exact absurd rfl (hws [] List.mem_cons_self).1
  | (b :: w) :: ws =>
    have hhead : ([sep].intercalate ((b :: w) :: ws)).head? = some b := by
      by_cases hne : ws = []
      · rw [hne, List.intercalate_singleton]
        rfl
      · rw [join_cons _ hne]
        rfl
    rw [hhead]
    rintro a ⟨⟩
    exact (hws _ List.mem_cons_self).2 b List.mem_cons_self

section

variable [DecidableEq α]

/-- Within a run of separators, what follows without those at the end is the words; outside, there
is the rest of a word before them. -/
theorem rstrip_replaceRuns (hsep : p sep = false) (l : List α) :
    (replaceRuns (fun a => !p a) sep true l).rdropWhile (fun a => decide (a = sep)) =
        [sep].intercalate (words p l) ∧
      (replaceRuns (fun a => !p a) sep false l).rdropWhile (fun a => decide (a = sep)) =
        (wordsFrom p l).1 ++
          if (wordsFrom p l).2 = [] then [] else sep :: [sep].intercalate (wordsFrom p l).2 := by
  induction l with
  | nil => simp [replaceRuns, words, wordsFrom]
  | cons a l ih =>
    cases ha : p a with
    | true =>
      have hne := ne_sep hsep ha
      have hword (inRun : Bool) : replaceRuns (fun a => !p a) sep inRun (a :: l) =
          a :: replaceRuns (fun a => !p a) sep false l := by simp [replaceRuns, ha]
      have hstrip : (a :: replaceRuns (fun a => !p a) sep false l).rdropWhile
          (fun a => decide (a = sep)) =
            a :: ((wordsFrom p l).1 ++ if (wordsFrom p l).2 = [] then []
              else sep :: [sep].intercalate (wordsFrom p l).2) := by
        rw [rdropWhile_cons_neg (by simpa using hne), ih.2]
      rw [hword, hword, hstrip, words_cons_pos ha, wordsFrom_cons_pos ha]
      refine ⟨?_, rfl⟩
      by_cases hrest : (wordsFrom p l).2 = []
      · simp [hrest]
      · rw [join_cons _ hrest, if_neg hrest]
        rfl
    | false =>
      have hin : replaceRuns (fun a => !p a) sep true (a :: l) =
          replaceRuns (fun a => !p a) sep true l := by simp [replaceRuns, ha]
      have hout : replaceRuns (fun a => !p a) sep false (a :: l) =
          sep :: replaceRuns (fun a => !p a) sep true l := by simp [replaceRuns, ha]
      rw [hin, hout, words_cons_neg ha, wordsFrom_cons_neg ha, rdropWhile_cons, ih.1]
      refine ⟨rfl, ?_⟩
      by_cases hnone : words p l = []
      · simp [hnone]
      · have hjoin := join_ne_nil sep (fun w hw => isWord_of_mem_words hw) hnone
        simp [hnone, hjoin]

/-- **Everything else becomes one separator**, and nothing at the ends. -/
theorem strip_replaceRuns (hsep : p sep = false) (l : List α) :
    ((replaceRuns (fun a => !p a) sep false l).dropWhile (fun a => decide (a = sep))).rdropWhile
        (fun a => decide (a = sep)) = [sep].intercalate (words p l) := by
  have hdrop : (replaceRuns (fun a => !p a) sep false l).dropWhile (fun a => decide (a = sep)) =
      replaceRuns (fun a => !p a) sep true l := by
    have hword (l : List α) : (replaceRuns (fun a => !p a) sep true l).dropWhile
        (fun a => decide (a = sep)) = replaceRuns (fun a => !p a) sep true l := by
      induction l with
      | nil => rfl
      | cons a l ih =>
        cases ha : p a with
        | true =>
          have hne := ne_sep hsep ha
          simp [replaceRuns, ha, hne]
        | false => simpa [replaceRuns, ha] using ih
    cases l with
    | nil => rfl
    | cons a l =>
      cases ha : p a with
      | true =>
        have hne := ne_sep hsep ha
        simp [replaceRuns, ha, hne]
      | false => simpa [replaceRuns, ha] using hword l
  rw [hdrop, (rstrip_replaceRuns hsep l).1]

/-- Between joined words there is one separator already. -/
theorem replaceRuns_join (hsep : p sep = false) (hws : ∀ w ∈ ws, IsWord p w) :
    replaceRuns (fun a => decide (a = sep)) sep false ([sep].intercalate ws) =
      [sep].intercalate ws := by
  have hword {w : List α} (hw : ∀ a ∈ w, p a = true) (l : List α) :
      replaceRuns (fun a => decide (a = sep)) sep false (w ++ l) =
        w ++ replaceRuns (fun a => decide (a = sep)) sep false l := by
    induction w with
    | nil => rfl
    | cons a w ih =>
      obtain ⟨ha, hrest⟩ := List.forall_mem_cons.mp hw
      have hne := ne_sep hsep ha
      simp [replaceRuns, hne, ih hrest]
  have hrun {l : List α} (hl : ∀ a ∈ l.head?, a ≠ sep) :
      replaceRuns (fun a => decide (a = sep)) sep true l =
        replaceRuns (fun a => decide (a = sep)) sep false l := by
    cases l with
    | nil => rfl
    | cons a l =>
      have hne : a ≠ sep := hl a rfl
      simp [replaceRuns, hne]
  induction ws with
  | nil => rfl
  | cons w ws ih =>
    obtain ⟨hw, hrest⟩ := List.forall_mem_cons.mp hws
    by_cases hne : ws = []
    · have hone := hword hw.2 []
      rw [List.append_nil] at hone
      rw [hne, List.intercalate_singleton, hone]
      simp [replaceRuns]
    · have hhead : ∀ a ∈ ([sep].intercalate ws).head?, a ≠ sep := fun a ha =>
        ne_sep hsep (head_join hrest a ha)
      rw [join_cons w hne, hword hw.2]
      simp [replaceRuns, hrun hhead, ih hrest]

end

/-! ### Prefixes -/

/-- After some of the words, but not after all of them, the `n`-th element is a separator. -/
def SepAt (ws : List (List α)) (n : Nat) : Prop :=
  ∃ k, 0 < k ∧ k < ws.length ∧ (ws.take k).flatten.length + k = n

theorem sepAt_cons (w : List α) (n : Nat) :
    SepAt (w :: ws) n ↔ ws ≠ [] ∧ (n = w.length + 1 ∨ ∃ m, n = w.length + 1 + m ∧ SepAt ws m) := by
  constructor
  · intro ⟨k, hpos, hlt, hlength⟩
    obtain ⟨k, rfl⟩ : ∃ j, k = j + 1 := ⟨k - 1, by omega⟩
    rw [List.length_cons] at hlt
    rw [List.take_succ_cons, List.flatten_cons, List.length_append] at hlength
    refine ⟨fun hnil => by simp [hnil] at hlt, ?_⟩
    by_cases hzero : k = 0
    · subst hzero
      rw [List.take_zero, List.flatten_nil, List.length_nil] at hlength
      exact .inl (by omega)
    · exact .inr ⟨(ws.take k).flatten.length + k, by omega, k, by omega, by omega, rfl⟩
  · intro ⟨hne, hn⟩
    have hpos := List.length_pos_iff.mpr hne
    rcases hn with rfl | ⟨m, rfl, k, hk, hlt, rfl⟩
    · refine ⟨1, by omega, by rw [List.length_cons]; omega, ?_⟩
      rw [List.take_succ_cons, List.take_zero, List.flatten_singleton]
    · refine ⟨k + 1, by omega, by rw [List.length_cons]; omega, ?_⟩
      rw [List.take_succ_cons, List.flatten_cons, List.length_append]
      omega

theorem isWord_take (hw : IsWord p w) {n : Nat} (hn : n ≠ 0) : IsWord p (w.take n) := by
  refine ⟨fun hnil => ?_, fun a ha => hw.2 a (List.mem_of_mem_take ha)⟩
  exact (List.take_eq_nil_iff.mp hnil).elim hn hw.1

/-- A short prefix is one of the first word. -/
theorem take_join_short (sep : α) (w : List α) (ws : List (List α)) {n : Nat}
    (hshort : n ≤ w.length) :
    ([sep].intercalate (w :: ws)).take n = w.take n ∧ ¬ SepAt (w :: ws) n := by
  constructor
  · by_cases hne : ws = []
    · rw [hne, List.intercalate_singleton]
    · rw [join_cons w hne, List.take_append_of_le_length hshort]
  · rw [sepAt_cons]
    rintro ⟨-, hn | ⟨m, hn, -⟩⟩
    · omega
    · omega

/-- A longer one has the first word, a separator, and a prefix of what follows. -/
theorem take_join_long (sep : α) (w : List α) (hne : ws ≠ []) (m : Nat) :
    ([sep].intercalate (w :: ws)).take (w.length + 1 + m) =
        w ++ sep :: ([sep].intercalate ws).take m ∧
      (SepAt (w :: ws) (w.length + 1 + m) ↔ m = 0 ∨ SepAt ws m) := by
  constructor
  · rw [join_cons w hne, Nat.add_assoc, List.take_length_add_append, Nat.add_comm 1 m,
      List.take_succ_cons]
  · rw [sepAt_cons]
    constructor
    · rintro ⟨-, hn | ⟨m', hn, hat⟩⟩
      · exact .inl (by omega)
      · obtain rfl : m = m' := by omega
        exact .inr hat
    · rintro (rfl | hat)
      · exact ⟨hne, .inl rfl⟩
      · exact ⟨hne, .inr ⟨m, rfl, hat⟩⟩

/-- A prefix that is not empty has a word, whether a separator follows the words or not. -/
theorem words_ne_nil_of_take (hsep : p sep = false) (hws : ∀ w ∈ ws, IsWord p w) (hne : ws ≠ [])
    {m : Nat} (hm : m ≠ 0) {ws' : List (List α)} {rest : List α}
    (htake : ([sep].intercalate ws).take m = [sep].intercalate ws' ++ rest)
    (hrest : rest = [] ∨ rest = [sep]) : ws' ≠ [] := by
  rintro rfl
  rcases hrest with rfl | rfl
  · exact (List.take_eq_nil_iff.mp htake).elim hm (join_ne_nil _ hws hne)
  · -- the joined words would begin with the separator
    have hbegin := List.take_append_drop m ([sep].intercalate ws)
    rw [htake] at hbegin
    have hhead := head_join hws sep (by rw [← hbegin]; rfl)
    rw [hsep] at hhead
    cases hhead

/-- **A prefix of joined words** is joined words, and a separator if it ends where one is. -/
theorem take_join (hsep : p sep = false) (hws : ∀ w ∈ ws, IsWord p w) (n : Nat) :
    ∃ ws', (∀ w ∈ ws', IsWord p w) ∧
      (SepAt ws n → ([sep].intercalate ws).take n = [sep].intercalate ws' ++ [sep]) ∧
      (¬ SepAt ws n → ([sep].intercalate ws).take n = [sep].intercalate ws') := by
  induction ws generalizing n with
  | nil =>
    refine ⟨[], by simp, ?_, fun _ => by simp⟩
    intro ⟨k, _, hlt, _⟩
    exact absurd hlt (Nat.not_lt_zero k)
  | cons w ws ih =>
    obtain ⟨hw, hrest⟩ := List.forall_mem_cons.mp hws
    have hone : ∀ v ∈ [w], IsWord p v := List.forall_mem_singleton.mpr hw
    by_cases hshort : n ≤ w.length
    · obtain ⟨htake, hnot⟩ := take_join_short sep w ws hshort
      by_cases hzero : n = 0
      · subst hzero
        exact ⟨[], by simp, fun h => absurd h hnot, fun _ => rfl⟩
      · refine ⟨[w.take n], List.forall_mem_singleton.mpr (isWord_take hw hzero),
          fun h => absurd h hnot, fun _ => ?_⟩
        rw [htake, List.intercalate_singleton]
    · by_cases hne : ws = []
      · subst hne
        refine ⟨[w], hone, fun h => absurd rfl ((sepAt_cons w n).mp h).1, fun _ => ?_⟩
        rw [List.intercalate_singleton, List.take_of_length_le (by omega)]
      · obtain ⟨m, rfl⟩ : ∃ m, n = w.length + 1 + m := ⟨n - (w.length + 1), by omega⟩
        obtain ⟨htake, hiff⟩ := take_join_long sep w hne m
        rw [htake, hiff]
        by_cases hzero : m = 0
        · subst hzero
          refine ⟨[w], hone, fun _ => ?_, fun h => absurd (.inl rfl) h⟩
          rw [List.take_zero, List.intercalate_singleton]
        · obtain ⟨ws', hws', hcut, hwhole⟩ := ih hrest m
          refine ⟨w :: ws', List.forall_mem_cons.mpr ⟨hw, hws'⟩, fun h => ?_, fun h => ?_⟩
          · have hcut := hcut (h.resolve_left hzero)
            have hnonempty := words_ne_nil_of_take hsep hrest hne hzero hcut (.inr rfl)
            rw [hcut, join_cons w hnonempty, List.append_assoc]
            rfl
          · have hwhole := hwhole fun hat => h (.inr hat)
            have hnonempty := words_ne_nil_of_take hsep hrest hne hzero
              (hwhole.trans (List.append_nil _).symm) (.inl rfl)
            rw [hwhole, join_cons w hnonempty]

end

end BrandBlitz.Lib.Words
