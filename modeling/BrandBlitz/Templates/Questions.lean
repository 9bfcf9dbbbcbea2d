import BrandBlitz.Lib.Random
import BrandBlitz.Templates.Spawn

/-!
# BrandBlitz.Templates.Questions

**The questions of a challenge** (`apps/api/src/services/questions.ts`).

A brand gives a question for its tagline, its claim and its products, each in a round of its
own, and questions for its name until there are three. The loop that adds those numbers them by
how many questions there are, not by the rounds that are missing. The wrong answers are names or
taglines of other brands in random order, and generic ones if there are too few.
-/

namespace BrandBlitz.Templates

open BrandBlitz.Lib
open BrandBlitz.Lib.Random (shuffle HasOutcomes)
open BrandBlitz.Paging (Uuid)

/-! ### Questions -/

/-- `Pick<Brand, "name" | "tagline" | "usp">`; a field may be missing. -/
structure Distractor where
  name : Option Text
  tagline : Option Text
  usp : Option Text
deriving DecidableEq, Repr

/-- A question, for a challenge with an id of any kind; an option is `undefined` if there is
none. -/
structure QuestionDraft (ι : Type) where
  challengeId : ι
  round : Nat
  questionType : Text
  promptType : Text
  questionText : Text
  correctAnswer : Text
  optionA : Option Text
  optionB : Option Text
  optionC : Option Text
  optionD : Option Text
  correctOption : Text

/-- `Boolean`, of a text that may be missing. -/
def isTruthy (text : Option Text) : Bool := text.any fun t => !t.isEmpty

/-- `fallbacks[index] ?? …`. -/
def fallbackOption (index : Nat) : Text :=
  (["Option A".toList, "Option B".toList, "Option C".toList, "Option D".toList][index]?).getD
    ("Option ".toList ++ (toString (index + 1)).toList)

/-- The loop that pads `result`, for as many rounds as it makes. -/
def pushFallbacks : Nat → List (Option Text) → List (Option Text)
  | 0, result => result
  | n + 1, result => pushFallbacks n (result ++ [some (fallbackOption result.length)])

def pickDistractors (pool : List (Option Text)) (exclude : Text) (count : Nat) :
    Random (List (Option Text)) := do
  let filtered := pool.filter fun item => item ≠ some exclude
  let shuffled ← shuffle filtered
  let result := shuffled.take count
  return pushFallbacks (count - result.length) result

/-- `indexOf` gives -1 for what is not there, and no letter has that index. -/
def optionLetter (index : Option Nat) : Text :=
  (index.bind fun i => ["A".toList, "B".toList, "C".toList, "D".toList][i]?).getD "A".toList

/-- What a round asks, and where its wrong answers are from. -/
structure RoundPlan where
  round : Nat
  questionType : Text
  /-- unless the template of the brand has another -/
  promptType : Text
  questionText : Text
  correctAnswer : Text
  pool : List (Option Text)

section
variable {ι : Type} (challengeId : ι) (tpl : List (Nat × RoundTemplateOverride))

/-- The question with these options. -/
def RoundPlan.draft (plan : RoundPlan) (options : List (Option Text)) : QuestionDraft ι where
  challengeId := challengeId
  round := plan.round
  questionType := plan.questionType
  promptType := ((tpl.lookup plan.round).bind RoundTemplateOverride.promptType).getD plan.promptType
  questionText :=
    ((tpl.lookup plan.round).bind RoundTemplateOverride.questionText).getD plan.questionText
  correctAnswer := plan.correctAnswer
  optionA := options.getD 0 none
  optionB := options.getD 1 none
  optionC := options.getD 2 none
  optionD := options.getD 3 none
  correctOption := optionLetter (options.idxOf? (some plan.correctAnswer))

def RoundPlan.ask (plan : RoundPlan) : Random (QuestionDraft ι) := do
  let distractors ← pickDistractors plan.pool plan.correctAnswer 3
  let options ← shuffle (some plan.correctAnswer :: distractors)
  return plan.draft challengeId tpl options

/-- `questions.push(…)`. -/
def pushQuestion (questions : List (QuestionDraft ι)) (plan : RoundPlan) :
    Random (List (QuestionDraft ι)) := do
  return questions ++ [← plan.ask challengeId tpl]

end

section
variable (brand : Brand) (distractorPool : List Distractor)

/-- `distractorPool.map((d) => d.name).filter(Boolean)`. -/
def distractorNames : List (Option Text) := (distractorPool.map Distractor.name).filter isTruthy

/-- Round 1: tagline recognition. -/
def taglineRound : Option RoundPlan :=
  (brand.tagline.filter fun tagline => isTruthy (some tagline)).map fun tagline =>
    { round := 1
      questionType := "which_tagline".toList
      promptType := "logo".toList
      questionText := "Which tagline belongs to this brand?".toList
      correctAnswer := tagline
      pool := (distractorPool.map Distractor.tagline).filter isTruthy }

/-- Round 2: USP match. -/
def uspRound : Option RoundPlan :=
  (brand.usp.filter fun usp => isTruthy (some usp)).map fun usp =>
    { round := 2
      questionType := "which_brand".toList
      promptType := "tagline".toList
      questionText := "Which brand is described by this claim: ".toList ++ usp ++ "?".toList
      correctAnswer := brand.name
      pool := distractorNames distractorPool }

/-- Round 3: product recognition. -/
def productRound : Option RoundPlan :=
  if brand.productImageKeys.isEmpty then none
  else some
    { round := 3
      questionType := "which_product".toList
      promptType := "productImage1".toList
      questionText := "Which brand makes this product?".toList
      correctAnswer := brand.name
      pool := distractorNames distractorPool }

/-- Brand name recognition. -/
def fallbackRound (round : Nat) : RoundPlan where
  round := round
  questionType := "which_brand".toList
  promptType := "logo".toList
  questionText := "What is the name of this brand?".toList
  correctAnswer := brand.name
  pool := distractorPool.map Distractor.name

/-- `while (questions.length < 3)`: the next round is one more than there are questions. -/
def fallbackRounds (asked : Nat) : List RoundPlan :=
  (List.range' (asked + 1) (3 - asked)).map (fallbackRound brand distractorPool)

def generateChallengeQuestions {ι : Type} (challengeId : ι) : Random (List (QuestionDraft ι)) := do
  let push := pushQuestion challengeId brand.questionTemplate
  let questions ← (taglineRound brand distractorPool).toList.foldlM push []
  let questions ← (uspRound brand distractorPool).toList.foldlM push questions
  let questions ← (productRound brand distractorPool).toList.foldlM push questions
  let questions ← (fallbackRounds brand distractorPool questions.length).foldlM push questions
  return questions.take 3

end

/-! ### Well-formed questions -/

def QuestionDraft.options {ι : Type} (q : QuestionDraft ι) : List (Option Text) :=
  [q.optionA, q.optionB, q.optionC, q.optionD]

/-- Four different options that are not empty, one of which is the answer and has the letter. -/
structure QuestionDraft.WellFormed {ι : Type} (q : QuestionDraft ι) : Prop where
  different : q.options.Nodup
  present : ∀ option ∈ q.options, isTruthy option
  one_correct : q.options.count (some q.correctAnswer) = 1
  letter : ∃ i, q.options[i]? = some (some q.correctAnswer) ∧
    optionLetter (some i) = q.correctOption

/-- Three rounds, each with a well-formed question. -/
structure QuestionsWellFormed {ι : Type} (questions : List (QuestionDraft ι)) : Prop where
  rounds : (questions.map QuestionDraft.round).Perm [1, 2, 3]
  each : ∀ q ∈ questions, q.WellFormed

/-- The texts that the answer may be mixed with. -/
def candidates (pool : List (Option Text)) (answer : Text) : List (Option Text) :=
  pool.filter fun item => item ≠ some answer

/-- The generic options that so many candidates need. -/
def genericOptions (n : Nat) : List (Option Text) :=
  (List.range' n (3 - n)).map (some ∘ fallbackOption)

/-- Do all choices of three wrong answers go with the answer? None of the candidates is missing,
and neither two of them nor the generic ones they need are the same. -/
def CandidatesOk (answer : Text) (pool : List (Option Text)) : Prop :=
  (∀ option ∈ some answer :: candidates pool answer, isTruthy option) ∧
    (some answer :: (candidates pool answer ++
      genericOptions (candidates pool answer).length)).Nodup

/-- Are the rounds of the brand's own questions the first ones? -/
def Brand.RoundsInOrder (brand : Brand) : Prop :=
  (isTruthy brand.tagline ∧ (brand.productImageKeys ≠ [] → isTruthy brand.usp)) ∨
    ¬ isTruthy brand.tagline ∧ ¬ isTruthy brand.usp ∧ brand.productImageKeys = []

/-- What it takes for the questions to be well formed, whatever is drawn. -/
structure QuestionsPossible (brand : Brand) (distractorPool : List Distractor) : Prop where
  rounds : brand.RoundsInOrder
  taglines : ∀ tagline, brand.tagline = some tagline → isTruthy (some tagline) →
    CandidatesOk tagline ((distractorPool.map Distractor.tagline).filter isTruthy)
  names : isTruthy brand.usp ∨ brand.productImageKeys ≠ [] →
    CandidatesOk brand.name (distractorNames distractorPool)
  fallbacks : ¬ (isTruthy brand.tagline ∧ isTruthy brand.usp ∧ brand.productImageKeys ≠ []) →
    CandidatesOk brand.name (distractorPool.map Distractor.name)

/-! ### Wrong answers -/

theorem isTruthy_fallbackOption (index : Nat) : isTruthy (some (fallbackOption index)) := by
  have hpresent : fallbackOption index ≠ [] := by
    unfold fallbackOption
    match index with
    | 0 | 1 | 2 | 3 => simp
    | n + 4 => simp
  simpa [isTruthy] using hpresent

theorem pushFallbacks_eq (n : Nat) (result : List (Option Text)) :
    pushFallbacks n result =
      result ++ (List.range' result.length n).map (some ∘ fallbackOption) := by
  induction n generalizing result with
  | zero => simp [pushFallbacks]
  | succ n ih => simp [pushFallbacks, ih, List.range'_succ]

section
variable (pool : List (Option Text)) (answer : Text)

/-- The wrong answers, for an order of the candidates. -/
def wrongAnswers (order : List (Option Text)) : List (Option Text) :=
  order.take 3 ++ genericOptions order.length

theorem hasOutcomes_pickDistractors :
    HasOutcomes (pickDistractors pool answer 3)
      (wrongAnswers '' {order | order.Perm (candidates pool answer)}) := by
  have hpick : pickDistractors pool answer 3 = (do
      return wrongAnswers (← shuffle (candidates pool answer))) := by
    refine bind_congr fun order => ?_
    have hlength : 3 - (order.take 3).length = 3 - order.length ∧
        (order.take 3).length = min 3 order.length := by
      rw [List.length_take]
      omega
    show pure (pushFallbacks (3 - (order.take 3).length) (order.take 3)) = pure (wrongAnswers order)
    rw [pushFallbacks_eq, wrongAnswers, genericOptions, hlength.1, hlength.2]
    rcases Nat.lt_or_ge order.length 3 with hshort | hlong
    · rw [Nat.min_eq_right (by omega)]
    · rw [Nat.sub_eq_zero_of_le hlong, List.range'_zero, List.range'_zero]
  rw [hpick]
  exact (Random.hasOutcomes_shuffle _).map wrongAnswers

end

section
variable {pool : List (Option Text)} {answer : Text}

theorem length_wrongAnswers (order : List (Option Text)) : (wrongAnswers order).length = 3 := by
  simp only [wrongAnswers, genericOptions, List.length_append, List.length_take, List.length_map,
    List.length_range']
  omega

theorem isTruthy_of_mem_genericOptions {n : Nat} {option : Option Text}
    (h : option ∈ genericOptions n) : isTruthy option := by
  obtain ⟨index, -, rfl⟩ := List.mem_map.mp h
  exact isTruthy_fallbackOption index

/-- From three candidates on, there are no generic options. -/
theorem genericOptions_of_le {n : Nat} (h : 3 ≤ n) : genericOptions n = [] := by
  rw [genericOptions, Nat.sub_eq_zero_of_le h, List.range'_zero, List.map_nil]

theorem answer_not_mem_candidates : some answer ∉ candidates pool answer := by
  simp [candidates]

/-- Every candidate comes first in some order. -/
theorem exists_order_of_mem {option : Option Text} (h : option ∈ candidates pool answer) :
    ∃ order : List (Option Text), order.Perm (candidates pool answer) ∧
      option ∈ wrongAnswers order := by
  refine ⟨option :: (candidates pool answer).erase option, (List.perm_cons_erase h).symm, ?_⟩
  simp [wrongAnswers]

/-- **The candidates go with the answer just if all choices among them do.** -/
theorem candidatesOk_iff :
    CandidatesOk answer pool ↔
      ∀ order : List (Option Text), order.Perm (candidates pool answer) →
        (some answer :: wrongAnswers order).Nodup ∧
          ∀ option ∈ some answer :: wrongAnswers order, isTruthy option := by
  constructor
  · intro h order horder
    obtain ⟨hpresent, hnodup⟩ := h
    have hall : (some answer :: (order ++ genericOptions order.length)).Nodup := by
      rw [horder.length_eq]
      exact ((horder.append_right _).cons _).nodup_iff.mpr hnodup
    refine ⟨hall.sublist (((List.take_sublist 3 order).append_right _).cons_cons _), ?_⟩
    intro option hoption
    rcases List.mem_cons.mp hoption with rfl | hoption
    · exact hpresent _ List.mem_cons_self
    rcases List.mem_append.mp hoption with hoption | hoption
    · exact hpresent _ (List.mem_cons_of_mem _ (horder.mem_iff.mp (List.mem_of_mem_take hoption)))
    · exact isTruthy_of_mem_genericOptions hoption
  · intro h
    constructor
    · intro option hoption
      rcases List.mem_cons.mp hoption with rfl | hoption
      · exact (h _ (List.Perm.refl _)).2 _ List.mem_cons_self
      · obtain ⟨order, horder, hmem⟩ := exists_order_of_mem hoption
        exact (h order horder).2 option (List.mem_cons_of_mem _ hmem)
    · rcases Nat.lt_or_ge (candidates pool answer).length 3 with hfew | hmany
      · have hnodup := (h _ (List.Perm.refl _)).1
        rwa [wrongAnswers, List.take_of_length_le (Nat.le_of_lt hfew)] at hnodup
      · -- from three on only some of the candidates are drawn, but any two of them may be
        rw [genericOptions_of_le hmany, List.append_nil]
        refine List.nodup_cons.mpr ⟨answer_not_mem_candidates, List.nodup_iff_sublist.mpr ?_⟩
        -- a text that is there twice could be drawn twice
        intro option htwice
        obtain ⟨rest, hrest⟩ := htwice.exists_perm_append
        have hnodup := (h _ hrest.symm).1
        simp [wrongAnswers] at hnodup

end

/-! ### One question -/

section
variable {ι : Type} (challengeId : ι) (tpl : List (Nat × RoundTemplateOverride))

theorem draft_options {plan : RoundPlan} {options : List (Option Text)}
    (h : options.length = 4) : (plan.draft challengeId tpl options).options = options := by
  match options, h with
  | [_, _, _, _], _ => rfl

/-- The answer has the letter of its place. -/
theorem draft_letter {plan : RoundPlan} {options : List (Option Text)}
    (h : some plan.correctAnswer ∈ options) :
    ∃ i, options[i]? = some (some plan.correctAnswer) ∧
      optionLetter (some i) = (plan.draft challengeId tpl options).correctOption := by
  cases hindex : options.idxOf? (some plan.correctAnswer) with
  | none => exact absurd h (List.idxOf?_eq_none_iff.mp hindex)
  | some i =>
      obtain ⟨hi, hget, -⟩ := List.idxOf?_eq_some_iff.mp hindex
      refine ⟨i, by rw [List.getElem?_eq_getElem hi, hget], ?_⟩
      rw [RoundPlan.draft, hindex]

/-- A question is well formed if its options are. -/
theorem draft_wellFormed_iff {plan : RoundPlan} {options : List (Option Text)}
    (hlength : options.length = 4) (hmem : some plan.correctAnswer ∈ options) :
    (plan.draft challengeId tpl options).WellFormed ↔
      options.Nodup ∧ ∀ option ∈ options, isTruthy option := by
  have hoptions : (plan.draft challengeId tpl options).options = options :=
    draft_options challengeId tpl hlength
  constructor
  · intro h
    rw [← hoptions]
    exact ⟨h.different, h.present⟩
  · intro h
    obtain ⟨hnodup, hpresent⟩ := h
    constructor
    · rwa [hoptions]
    · rwa [hoptions]
    · rw [hoptions]
      exact List.count_eq_one_of_mem hnodup hmem
    · rw [hoptions]
      exact draft_letter challengeId tpl hmem

/-- The questions that a round can come to. -/
def RoundPlan.outcomes (plan : RoundPlan) : Set (QuestionDraft ι) :=
  { q | ∃ distractors ∈
      wrongAnswers '' {order | order.Perm (candidates plan.pool plan.correctAnswer)},
    q ∈ plan.draft challengeId tpl '' {options |
      options.Perm (some plan.correctAnswer :: distractors)} }

theorem hasOutcomes_ask (plan : RoundPlan) :
    HasOutcomes (plan.ask challengeId tpl) (plan.outcomes challengeId tpl) :=
  (hasOutcomes_pickDistractors plan.pool plan.correctAnswer).bind fun _ _ =>
    (Random.hasOutcomes_shuffle _).map (plan.draft challengeId tpl)

/-- **All questions of a round are well formed just if its candidates go with the answer.** -/
theorem outcomes_wellFormed_iff (plan : RoundPlan) :
    (∀ q ∈ plan.outcomes challengeId tpl, q.WellFormed) ↔
      CandidatesOk plan.correctAnswer plan.pool := by
  rw [candidatesOk_iff]
  have hdraft {order options : List (Option Text)}
      (hoptions : options.Perm (some plan.correctAnswer :: wrongAnswers order)) :
      (plan.draft challengeId tpl options).WellFormed ↔
        (some plan.correctAnswer :: wrongAnswers order).Nodup ∧
          ∀ option ∈ some plan.correctAnswer :: wrongAnswers order, isTruthy option := by
    have hlength : options.length = 4 := by
      rw [hoptions.length_eq, List.length_cons, length_wrongAnswers]
    rw [draft_wellFormed_iff challengeId tpl hlength (hoptions.mem_iff.mpr List.mem_cons_self),
      hoptions.nodup_iff]
    simp only [hoptions.mem_iff]
  constructor
  · intro h order horder
    exact (hdraft (List.Perm.refl _)).mp
      (h _ ⟨_, ⟨order, horder, rfl⟩, ⟨_, List.Perm.refl _, rfl⟩⟩)
  · intro h q hq
    obtain ⟨_, ⟨order, horder, rfl⟩, options, hoptions, rfl⟩ := hq
    exact (hdraft hoptions).mpr (h order horder)

theorem outcomes_round {plan : RoundPlan} {q : QuestionDraft ι}
    (h : q ∈ plan.outcomes challengeId tpl) : q.round = plan.round := by
  obtain ⟨_, -, options, -, rfl⟩ := h
  rfl

end

/-! ### Three questions -/

section
variable (brand : Brand) (distractorPool : List Distractor)

/-- The rounds of the questions, which do not depend on what is drawn. -/
def questionPlans : List RoundPlan :=
  let own := (taglineRound brand distractorPool).toList ++
    (uspRound brand distractorPool).toList ++ (productRound brand distractorPool).toList
  own ++ fallbackRounds brand distractorPool own.length

theorem generateChallengeQuestions_eq {ι : Type} (challengeId : ι) :
    generateChallengeQuestions brand distractorPool challengeId =
      (questionPlans brand distractorPool).mapM
        (RoundPlan.ask challengeId brand.questionTemplate) := by
  unfold generateChallengeQuestions questionPlans fallbackRounds
  -- which of the three questions there are decides how often the loop runs
  cases taglineRound brand distractorPool <;> cases uspRound brand distractorPool <;>
    cases productRound brand distractorPool <;>
    simp [pushQuestion, List.range'_succ]

theorem taglineRound_rounds :
    (taglineRound brand distractorPool).toList.map RoundPlan.round =
      if isTruthy brand.tagline then [1] else [] := by
  unfold taglineRound
  cases brand.tagline with
  | none => rfl
  | some tagline => cases htruthy : isTruthy (some tagline) <;> simp [Option.filter, htruthy]

theorem uspRound_rounds :
    (uspRound brand distractorPool).toList.map RoundPlan.round =
      if isTruthy brand.usp then [2] else [] := by
  unfold uspRound
  cases brand.usp with
  | none => rfl
  | some usp => cases htruthy : isTruthy (some usp) <;> simp [Option.filter, htruthy]

theorem productRound_rounds :
    (productRound brand distractorPool).toList.map RoundPlan.round =
      if brand.productImageKeys.isEmpty then [] else [3] := by
  unfold productRound
  split <;> rfl

/-- The rounds that a brand gives. -/
def Brand.ownRounds (brand : Brand) : List Nat :=
  (if isTruthy brand.tagline then [1] else []) ++ (if isTruthy brand.usp then [2] else []) ++
    if brand.productImageKeys.isEmpty then [] else [3]

theorem own_rounds :
    ((taglineRound brand distractorPool).toList ++ (uspRound brand distractorPool).toList ++
      (productRound brand distractorPool).toList).map RoundPlan.round = brand.ownRounds := by
  rw [List.map_append, List.map_append, taglineRound_rounds, uspRound_rounds,
    productRound_rounds, Brand.ownRounds]

theorem length_own :
    ((taglineRound brand distractorPool).toList ++ (uspRound brand distractorPool).toList ++
      (productRound brand distractorPool).toList).length = brand.ownRounds.length := by
  rw [← own_rounds brand distractorPool, List.length_map]

theorem questionPlans_rounds :
    (questionPlans brand distractorPool).map RoundPlan.round =
      brand.ownRounds ++ List.range' (brand.ownRounds.length + 1) (3 - brand.ownRounds.length) := by
  rw [questionPlans, List.map_append, own_rounds, length_own, fallbackRounds, List.map_map]
  congr 1
  exact List.map_id _

/-- **The rounds are 1, 2 and 3 just if the brand's own are the first of them.** -/
theorem rounds_perm_iff :
    ((questionPlans brand distractorPool).map RoundPlan.round).Perm [1, 2, 3] ↔
      brand.RoundsInOrder := by
  rw [questionPlans_rounds, Brand.ownRounds, Brand.RoundsInOrder, ← List.isEmpty_iff.ne,
    ← List.isEmpty_iff]
  generalize isTruthy brand.tagline = tagline
  generalize isTruthy brand.usp = usp
  generalize brand.productImageKeys.isEmpty = noImages
  revert tagline usp noImages
  decide

/-- There is room for a question of the name unless the brand has all of its own. -/
theorem ownRounds_length_lt_iff :
    brand.ownRounds.length < 3 ↔
      ¬ (isTruthy brand.tagline ∧ isTruthy brand.usp ∧ brand.productImageKeys ≠ []) := by
  rw [Brand.ownRounds, ← List.isEmpty_iff.ne]
  generalize isTruthy brand.tagline = tagline
  generalize isTruthy brand.usp = usp
  generalize brand.productImageKeys.isEmpty = noImages
  revert tagline usp noImages
  decide

/-- **The wrong answers of all rounds, in terms of the brand.** -/
theorem candidatesOk_questionPlans_iff :
    (∀ plan ∈ questionPlans brand distractorPool, CandidatesOk plan.correctAnswer plan.pool) ↔
      (∀ tagline, brand.tagline = some tagline → isTruthy (some tagline) →
        CandidatesOk tagline ((distractorPool.map Distractor.tagline).filter isTruthy)) ∧
      (isTruthy brand.usp ∨ brand.productImageKeys ≠ [] →
        CandidatesOk brand.name (distractorNames distractorPool)) ∧
      (¬ (isTruthy brand.tagline ∧ isTruthy brand.usp ∧ brand.productImageKeys ≠ []) →
        CandidatesOk brand.name (distractorPool.map Distractor.name)) := by
  have htagline : (∀ plan ∈ (taglineRound brand distractorPool).toList,
      CandidatesOk plan.correctAnswer plan.pool) ↔
      ∀ tagline, brand.tagline = some tagline → isTruthy (some tagline) →
        CandidatesOk tagline ((distractorPool.map Distractor.tagline).filter isTruthy) := by
    unfold taglineRound
    cases brand.tagline with
    | none => simp
    | some tagline => cases htruthy : isTruthy (some tagline) <;> simp [Option.filter, htruthy]
  have husp : (∀ plan ∈ (uspRound brand distractorPool).toList,
      CandidatesOk plan.correctAnswer plan.pool) ↔
      (isTruthy brand.usp → CandidatesOk brand.name (distractorNames distractorPool)) := by
    unfold uspRound
    cases brand.usp with
    | none => simp [isTruthy]
    | some usp => cases htruthy : isTruthy (some usp) <;> simp [Option.filter, htruthy]
  have hproduct : (∀ plan ∈ (productRound brand distractorPool).toList,
      CandidatesOk plan.correctAnswer plan.pool) ↔
      (brand.productImageKeys ≠ [] →
        CandidatesOk brand.name (distractorNames distractorPool)) := by
    unfold productRound
    cases brand.productImageKeys <;> simp
  have hfallback : (∀ plan ∈ fallbackRounds brand distractorPool brand.ownRounds.length,
      CandidatesOk plan.correctAnswer plan.pool) ↔
      (brand.ownRounds.length < 3 →
        CandidatesOk brand.name (distractorPool.map Distractor.name)) := by
    rw [fallbackRounds, List.forall_mem_map]
    constructor
    · intro h hlt
      exact h (brand.ownRounds.length + 1) (List.mem_range'_1.mpr (by omega))
    · intro h round hround
      exact h (by have := List.mem_range'_1.mp hround; omega)
  rw [questionPlans, List.forall_mem_append, List.forall_mem_append, List.forall_mem_append,
    length_own, htagline, husp, hproduct, hfallback, ownRounds_length_lt_iff]
  simp only [or_imp, and_assoc]

/-- The results of all rounds together. -/
theorem hasOutcomes_generateChallengeQuestions {ι : Type} (challengeId : ι) :
    HasOutcomes (generateChallengeQuestions brand distractorPool challengeId)
      {questions | List.Forall₂
        (fun q plan => q ∈ plan.outcomes challengeId brand.questionTemplate) questions
        (questionPlans brand distractorPool)} := by
  rw [generateChallengeQuestions_eq]
  exact Random.hasOutcomes_mapM fun plan _ =>
    hasOutcomes_ask challengeId brand.questionTemplate plan

theorem outcomes_nonempty {ι : Type} (challengeId : ι) :
    ∀ plan ∈ questionPlans brand distractorPool,
      (plan.outcomes challengeId brand.questionTemplate).Nonempty :=
  fun plan _ => (hasOutcomes_ask challengeId brand.questionTemplate plan).nonempty

/-- Spawning a challenge relies on this: all questions are for the challenge. -/
theorem generateChallengeQuestions_challengeId {ι : Type} (challengeId : ι)
    (draws : Stream' UnitDraw) {q : QuestionDraft ι}
    (h : q ∈ ((generateChallengeQuestions brand distractorPool challengeId).run draws).1) :
    q.challengeId = challengeId := by
  have hid : ∀ plan ∈ questionPlans brand distractorPool,
      ∀ q ∈ plan.outcomes challengeId brand.questionTemplate, q.challengeId = challengeId := by
    intro plan _ q hq
    obtain ⟨_, -, options, -, rfl⟩ := hq
    rfl
  exact (Random.forall_mem_forall₂_iff (outcomes_nonempty brand distractorPool challengeId)
    fun q => q.challengeId = challengeId).mpr hid _
    ((hasOutcomes_generateChallengeQuestions brand distractorPool challengeId).mem draws) q h

theorem rounds_of_outcomes {ι : Type} {challengeId : ι} {tpl : List (Nat × RoundTemplateOverride)}
    {questions : List (QuestionDraft ι)} {plans : List RoundPlan}
    (h : List.Forall₂ (fun q plan => q ∈ plan.outcomes challengeId tpl) questions plans) :
    questions.map QuestionDraft.round = plans.map RoundPlan.round := by
  induction h with
  | nil => rfl
  | cons hq _ ih => rw [List.map_cons, List.map_cons, outcomes_round challengeId tpl hq, ih]

/-- **When the questions are well formed, whatever is drawn.** -/
theorem questions_wellFormed_iff {ι : Type} (challengeId : ι) :
    (∀ draws, QuestionsWellFormed
      ((generateChallengeQuestions brand distractorPool challengeId).run draws).1) ↔
      QuestionsPossible brand distractorPool := by
  have hnonempty := outcomes_nonempty brand distractorPool challengeId
  have heach := Random.forall_mem_forall₂_iff hnonempty QuestionDraft.WellFormed
  simp only [outcomes_wellFormed_iff] at heach
  rw [candidatesOk_questionPlans_iff] at heach
  rw [(hasOutcomes_generateChallengeQuestions brand distractorPool challengeId).forall_iff]
  constructor
  · intro h
    obtain ⟨questions, hquestions⟩ := Random.exists_forall₂ hnonempty
    have hrounds := (h questions hquestions).rounds
    rw [rounds_of_outcomes hquestions, rounds_perm_iff] at hrounds
    obtain ⟨htaglines, hnames, hfallbacks⟩ := heach.mp fun qs hqs => (h qs hqs).each
    exact ⟨hrounds, htaglines, hnames, hfallbacks⟩
  · intro h questions hquestions
    constructor
    · rw [rounds_of_outcomes hquestions, rounds_perm_iff]
      exact h.rounds
    · exact heach.mpr ⟨h.taglines, h.names, h.fallbacks⟩ questions hquestions

end

/-- A brand with a claim, and without a tagline or products. -/
def claimOnly : Brand where
  id := 1
  name := "Acme".toList
  tagline := none
  usp := some "Fresh".toList
  productImageKeys := []
  questionTemplate := []
  createdAt := 1000
  deletedAt := none

/-- Its question is in round 2, and so is the first of those that are added; and among two
brands of one name the options are not different. -/
theorem claim_only_has_no_first_round :
    (∀ draws, ((generateChallengeQuestions claimOnly [] (1 : Uuid)).run draws).1.map
      QuestionDraft.round = [2, 2, 3]) ∧
    ¬ QuestionsPossible claimOnly [] ∧
    ¬ (∀ draws, QuestionsWellFormed
      ((generateChallengeQuestions claimOnly [] (1 : Uuid)).run draws).1) ∧
    ¬ CandidatesOk "Acme".toList [some "Rival".toList, some "Rival".toList] := by
  have hnot : ¬ QuestionsPossible claimOnly [] := by
    intro h
    have hrounds := h.rounds
    revert hrounds
    unfold Brand.RoundsInOrder
    decide
  have hrounds : ∀ draws, ((generateChallengeQuestions claimOnly [] (1 : Uuid)).run draws).1.map
      QuestionDraft.round = [2, 2, 3] := by
    intro draws
    rw [rounds_of_outcomes ((hasOutcomes_generateChallengeQuestions claimOnly [] 1).mem draws)]
    decide
  refine ⟨hrounds, hnot, ?_, ?_⟩
  · intro h
    have hperm := (h (Stream'.const ⟨0, by decide⟩)).rounds
    rw [hrounds] at hperm
    revert hperm
    decide
  · unfold CandidatesOk
    decide

end BrandBlitz.Templates
