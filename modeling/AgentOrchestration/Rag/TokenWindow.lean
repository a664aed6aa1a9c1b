import Mathlib.Algebra.Order.Floor.Div

/-!
# Token windows

`_chunk_text` cuts a document into windows of tokens that start at multiples of a step. Its loop has
two exits: the window that reaches the end, and the limit on the number of chunks.
-/

namespace AgentOrchestration.Rag

set_option autoImplicit false

variable {τ : Type} (decode : List τ → String) (tokens : List τ) (target step : ℕ)

/-- `encoder.decode(tokens[start:end])`, with `end = min(start + target_tokens, len(tokens))`. -/
def windowAt (start : ℕ) : String :=
  decode ((tokens.take (min (start + target) tokens.length)).drop start)

/-- The loop of `_chunk_text`, which may add `left` more chunks. -/
def chunkLoop : (left start : ℕ) → List String × Bool
  | 0, start => ([], start < tokens.length)
  | left + 1, start =>
    if start < tokens.length then
      let chunk := windowAt decode tokens target start
      if tokens.length ≤ min (start + target) tokens.length then ([chunk], false)
      else
        let rest := chunkLoop left (start + step)
        (chunk :: rest.1, rest.2)
    else ([], false)

/-- `_chunk_text`. -/
def chunkText (encode : String → List τ) (text : String)
    (targetTokens overlapTokens maxChunks : ℕ) :
    List String × Bool :=
  let tokens := encode text
  if tokens.length ≤ targetTokens then ([text], false)
  else chunkLoop decode tokens targetTokens (max 1 (targetTokens - overlapTokens)) maxChunks 0

/-! ## The loop in closed form -/

/-- How many windows the tokens from `start` on take. -/
def windowCount (length target step start : ℕ) : ℕ := 1 + (length - target - start) ⌈/⌉ step

theorem windowCount_of_le {length start : ℕ} (reaches : length ≤ start + target) :
    windowCount length target step start = 1 := by
  have rest : length - target - start = 0 := by omega
  simp [windowCount, rest]

theorem windowCount_of_lt {length start : ℕ} (positive : 0 < step)
    (short : start + target < length) :
    windowCount length target step start = windowCount length target step (start + step) + 1 := by
  simp only [windowCount, Nat.ceilDiv_eq_add_pred_div]
  obtain ⟨more, eq⟩ : ∃ more, length - target - start = more + 1 :=
    ⟨length - target - start - 1, by omega⟩
  have rest : length - target - (start + step) + step - 1 = if more < step then step - 1
                                                            else more := by
    split <;> omega
  rw [rest, eq, Nat.add_right_comm, Nat.add_sub_cancel, Nat.add_div_right more positive]
  split
  · rename_i few
    rw [Nat.div_eq_of_lt few, Nat.div_eq_of_lt (by omega)]
  · omega

theorem chunkLoop_eq (positive : 0 < step) (small : step ≤ target) :
    ∀ left start : ℕ, start < tokens.length →
      chunkLoop decode tokens target step left start =
        ((List.range (min left (windowCount tokens.length target step start))).map fun i =>
            windowAt decode tokens target (start + i * step),
          decide (left < windowCount tokens.length target step start)) := by
  intro left
  induction left with
  | zero =>
    intro start inside
    simp [chunkLoop, inside, windowCount]
  | succ left ih =>
    intro start inside
    rw [chunkLoop, if_pos inside]
    by_cases reaches : tokens.length ≤ start + target
    · rw [if_pos (le_min reaches (le_refl _)), windowCount_of_le target step reaches]
      simp
    · have next := ih (start + step) (by omega)
      have count := windowCount_of_lt target step positive (Nat.lt_of_not_le reaches)
      rw [if_neg fun le => reaches (le.trans (min_le_left _ _)), next, count, Nat.succ_min_succ,
        List.range_succ_eq_map, List.map_cons, List.map_map]
      refine Prod.ext (congrArg₂ _ (by rw [Nat.zero_mul, Nat.add_zero]) ?_) (by simp)
      refine List.map_congr_left fun i _ => ?_
      rw [Function.comp_apply, Nat.succ_mul, Nat.add_assoc, Nat.add_comm step]

/-! ## Windows and coverage -/

/-- Token `j` lies in window `i`. -/
def InWindow (length : ℕ) (j i : ℕ) : Prop := i * step ≤ j ∧ j < min (i * step + target) length

theorem exists_uncovered_iff {length : ℕ} (positive : 0 < step) (small : step ≤ target)
    (long : target < length) {count : ℕ} :
    (∃ j < length, ∀ i < min count (windowCount length target step 0),
      ¬ InWindow target step length j i) ↔ count < windowCount length target step 0 := by
  have last (k : ℕ) : (length - target) ⌈/⌉ step ≤ k ↔ length - target ≤ k * step := by
    rw [ceilDiv_le_iff_le_mul positive, Nat.mul_comm]
  simp only [windowCount, Nat.sub_zero, InWindow]
  constructor
  · rintro ⟨j, inside, uncovered⟩
    by_contra enough
    rw [Nat.min_eq_right (Nat.le_of_not_lt enough)] at uncovered
    -- The window is the one that the token's position falls in, or the last one.
    have reaches := (last _).mp (le_refl _)
    rcases Nat.lt_or_ge (j / step) (1 + (length - target) ⌈/⌉ step) with early | late
    · have low := Nat.div_mul_le_self j step
      have high := Nat.lt_div_mul_add positive (a := j)
      exact uncovered _ early ⟨low, by omega⟩
    · have low := (Nat.le_div_iff_mul_le positive).mp (Nat.le_of_succ_le (Nat.one_add _ ▸ late))
      exact uncovered _ (by omega) ⟨low, by omega⟩
  · intro fewer
    refine ⟨length - 1, by omega, fun i isIn => ?_⟩
    have short : ¬ (length - target ≤ i * step) := fun reaches => by
      have := (last i).mpr reaches
      omega
    omega

/-- **`_chunk_text` is an exact sliding window.** -/
theorem token_windows_exact {encode : String → List τ} (text : String) {targetTokens : ℕ}
    (overlapTokens maxChunks : ℕ) (positive : 1 ≤ targetTokens) :
    let length := (encode text).length
    let step := max 1 (targetTokens - overlapTokens)
    let result := chunkText decode encode text targetTokens overlapTokens maxChunks
    (length ≤ targetTokens → result = ([text], false)) ∧ (targetTokens < length →
        (∀ i (h : i < result.1.length), result.1[i] = windowAt decode (encode text) targetTokens
          (i * step)) ∧
        (result.2 = true ↔
          ∃ j < length, ∀ i < result.1.length, ¬ InWindow targetTokens step length j i) ∧
        (result.2 = false → result.1.length = 1 + (length - targetTokens) ⌈/⌉ step) ∧
        (result.2 = true → result.1.length = maxChunks)) := by
  intro length step result
  refine ⟨fun short => if_pos short, fun long => ?_⟩
  have stepPos : 0 < step := lt_max_of_lt_left Nat.zero_lt_one
  have small : step ≤ targetTokens := max_le positive (Nat.sub_le _ _)
  have loop : result = _ := (if_neg (Nat.not_le_of_lt long)).trans
    (chunkLoop_eq decode (encode text) targetTokens step stepPos small maxChunks 0
      (Nat.zero_lt_of_lt long))
  have count : result.1.length = min maxChunks (windowCount length targetTokens step 0) := by
    simp [loop, length]
  have flag : result.2 = decide (maxChunks < windowCount length targetTokens step 0) := by
    rw [loop]
  refine ⟨fun i isIn => ?_, ?_, fun whole => ?_, fun cut => ?_⟩
  · simp [loop]
  · rw [count, flag, decide_eq_true_iff, exists_uncovered_iff targetTokens step stepPos small long]
  · rw [flag, decide_eq_false_iff_not] at whole
    rw [count, Nat.min_eq_right (Nat.le_of_not_lt whole), windowCount, Nat.sub_zero]
  · rw [flag, decide_eq_true_iff] at cut
    rw [count, Nat.min_eq_left cut.le]

theorem five_characters_truncated : 1 ≤ 2 ∧
    (chunkText String.ofList String.toList "abcde" 2 1 3).2 = true ∧
      (chunkText String.ofList String.toList "abcde" 2 1 3).1.length = 3 := by
  have exact := @token_windows_exact Char String.ofList String.toList "abcde" 2 1 3 (by decide)
  have truncated : (chunkText String.ofList String.toList "abcde" 2 1 3).2 = true := by decide
  exact ⟨by decide, truncated, (exact.2 (by decide)).2.2.2 truncated⟩

end AgentOrchestration.Rag
