import EBrowser.Events
import Mathlib.Tactic.IntervalCases
import Mathlib.Algebra.Order.BigOperators.Group.List

/-!
# The delay scheduler

eBrowser throttles a scroll or pinch update by sleeping on the compositor thread before the
update is forwarded.  Both update paths compute a target rate, round it up, clamp it to
`[10, 60]` and walk the same chain of rate bands, each of which sleeps for its own formula; the
only difference between the two copies of the chain is that at the ceiling rate `60` the pinch
path calls `Sleep(0)` where the scroll path does not sleep at all.

* `clampedRate` — the rounding and the clamp, over any floor ring, so that the results below
  hold for real rates as well as for the rationals the model computes with.
* `sleepsForRate` — the band chain, both copies in one definition.
* `governorDelay` — the total time slept for a predicted rate.
* `SleepBudget` — what `n` updates may add to the sleeps: at most `n` sleeps of at most `83333` µs.

**What is proved.**  The chain sleeps at most once, for the same total on both paths, between
`0` and `83333` µs, and not at all exactly when the rounded rate reaches `60`
(`sleepsForRate_bounds`).  The delay does *not* decrease along the whole range: it rises at
each of the joins `30|31`, `41|42`, `45|46` and `52|53` (`governorDelay_not_antitone`), and is
non-increasing on each of the five segments between them (`sleepsForRate_antitone_on_segments`).
`EBrowser.Throttle` carries both to what the two update handlers sleep.
-/

namespace EBrowser

section Rate

variable {K : Type*} [LinearOrderedRing K] [FloorRing K]

/-- `fps = ceil(fps); if(fps<10){fps = 10;} if(fps>60){fps = 60;}` -/
def clampedRate (fps : K) : Int :=
  let fps := ⌈fps⌉
  let fps := if fps < 10 then 10 else fps
  if fps > 60 then 60 else fps

lemma clampedRate_mem (p : K) : 10 ≤ clampedRate p ∧ clampedRate p ≤ 60 := by
  simp only [clampedRate]; split_ifs <;> omega

lemma clampedRate_mono {p₁ p₂ : K} (h : p₁ ≤ p₂) : clampedRate p₁ ≤ clampedRate p₂ := by
  have := Int.ceil_mono h
  simp only [clampedRate]; split_ifs <;> omega

lemma clampedRate_eq_sixty_iff (p : K) : clampedRate p = 60 ↔ 60 ≤ ⌈p⌉ := by
  simp only [clampedRate]; split_ifs <;> omega

end Rate

/-- The band chain on a clamped rate: lines 1042–1091 of `HandleGestureScrollUpdate`
(`sleepAtCeiling = false`) and lines 467–516 of the `GesturePinchUpdate` case
(`sleepAtCeiling = true`).  The `1`–`9` test stands alone; the rest is one `else if` chain. -/
def sleepsForRate (sleepAtCeiling : Bool) (fps : Int) : List Int :=
  let f : ℚ := fps
  (if 1 ≤ fps ∧ fps ≤ 9 then [truncToInt (1000000 / f - 16667)] else []) ++
  (if 10 ≤ fps ∧ fps ≤ 15 then [truncToInt (1000000 / f - 16667 + (f - 10) * 1667 * 0.75)]
   else if 15 < fps ∧ fps < 20 then [truncToInt (1000000 / f - 16667 + (f - 10) * 1667 * 0.6)]
   else if 20 ≤ fps ∧ fps ≤ 30 then [truncToInt (24997 + 1667 * (30 - f))]
   else if 30 < fps ∧ fps ≤ 41 then [truncToInt (16663 + 1667 * (41 - f) * 0.5)]
   else if 41 < fps ∧ fps ≤ 44 then [truncToInt (16246 + 1667 * (44 - f) * 0.5)]
   else if fps = 45 then [15412]
   else if 45 < fps ∧ fps ≤ 52 then [truncToInt (11245 + 1667 * (52 - f) * 0.5)]
   else if fps = 55 then [12912]
   else if fps = 60 then (if sleepAtCeiling then [0] else [])
   else [truncToInt (12912 + 1667 * (55 - f) * 0.5)])

/-- The time the governor sleeps for a predicted rate. -/
def governorDelay {K : Type*} [LinearOrderedRing K] [FloorRing K] (p : K) : Int :=
  (sleepsForRate false (clampedRate p)).sum

/-! ## The chain in closed form

On an integral rate every band's formula is an integer, or an integer over `2`, `4f` or `5f`,
so each truncation is an integer division.
-/

lemma truncToInt_intCast (a : ℤ) : truncToInt a = a := by
  unfold truncToInt; split_ifs <;> simp

lemma truncToInt_div {a d : ℤ} (ha : 0 ≤ a) (hd : 0 < d) : truncToInt ((a : ℚ) / d) = a / d := by
  obtain ⟨n, rfl⟩ := Int.eq_ofNat_of_zero_le hd.le
  rw [truncToInt, if_pos (div_nonneg (by exact_mod_cast ha) (by positivity))]
  exact_mod_cast Rat.floor_intCast_div_natCast a n

variable {b : Bool} {fps : Int}

lemma sleepsForRate_of_le_15 (h : 10 ≤ fps) (h' : fps ≤ 15) :
    sleepsForRate b fps = [(4000000 - 66668 * fps + 5001 * fps * (fps - 10)) / (4 * fps)] := by
  simp (disch := omega) only [sleepsForRate, if_pos, if_neg, List.nil_append, ite_true]
  rw [← truncToInt_div (by nlinarith) (by omega)]
  congr 2; push_cast; field_simp; ring

lemma sleepsForRate_of_lt_20 (h : 15 < fps) (h' : fps < 20) :
    sleepsForRate b fps = [(5000000 - 83335 * fps + 5001 * fps * (fps - 10)) / (5 * fps)] := by
  simp (disch := omega) only [sleepsForRate, if_pos, if_neg, List.nil_append, ite_true]
  rw [← truncToInt_div (by nlinarith) (by omega)]
  congr 2; push_cast; field_simp; ring

lemma sleepsForRate_of_le_30 (h : 20 ≤ fps) (h' : fps ≤ 30) :
    sleepsForRate b fps = [24997 + 1667 * (30 - fps)] := by
  simp (disch := omega) only [sleepsForRate, if_pos, if_neg, List.nil_append, ite_true]
  rw [← truncToInt_intCast (24997 + 1667 * (30 - fps))]; push_cast; rfl

lemma sleepsForRate_of_le_41 (h : 30 < fps) (h' : fps ≤ 41) :
    sleepsForRate b fps = [(33326 + 1667 * (41 - fps)) / 2] := by
  simp (disch := omega) only [sleepsForRate, if_pos, if_neg, List.nil_append, ite_true]
  rw [← truncToInt_div (by omega) (by norm_num)]; congr 2; push_cast; ring

lemma sleepsForRate_of_le_44 (h : 41 < fps) (h' : fps ≤ 44) :
    sleepsForRate b fps = [(32492 + 1667 * (44 - fps)) / 2] := by
  simp (disch := omega) only [sleepsForRate, if_pos, if_neg, List.nil_append, ite_true]
  rw [← truncToInt_div (by omega) (by norm_num)]; congr 2; push_cast; ring

lemma sleepsForRate_of_le_52 (h : 45 < fps) (h' : fps ≤ 52) :
    sleepsForRate b fps = [(22490 + 1667 * (52 - fps)) / 2] := by
  simp (disch := omega) only [sleepsForRate, if_pos, if_neg, List.nil_append, ite_true]
  rw [← truncToInt_div (by omega) (by norm_num)]; congr 2; push_cast; ring

/-- The fallback branch, reached at `53`, `54` and `56`–`59`; at `55` its formula gives the
`12912` of the `fps==55` branch. -/
lemma sleepsForRate_of_lt_60 (h : 52 < fps) (h' : fps < 60) :
    sleepsForRate b fps = [(25824 + 1667 * (55 - fps)) / 2] := by
  by_cases h55 : fps = 55
  · subst h55; simp [sleepsForRate]
  simp (disch := omega) only [sleepsForRate, if_pos, if_neg, List.nil_append, ite_true]
  rw [← truncToInt_div (by omega) (by norm_num)]; congr 2; push_cast; ring

lemma sleepsForRate_45 : sleepsForRate b 45 = [15412] := by
  simp (disch := omega) only [sleepsForRate, if_pos, if_neg, List.nil_append, ite_true]

lemma sleepsForRate_60 : sleepsForRate b 60 = if b then [0] else [] := by
  simp (disch := omega) only [sleepsForRate, if_pos, if_neg, List.nil_append, ite_true]

lemma sleepsForRate_of_ne_60 (h : fps ≠ 60) : sleepsForRate b fps = sleepsForRate false fps := by
  simp only [sleepsForRate, if_neg h]

/-! ## One sleep, the same on both paths, bounded -/

/-- Below the ceiling every band sleeps exactly once, for at most the `83333` µs of rate `10`.
Past the clamp the stand-alone `1`–`9` test is dead. -/
lemma sleepsForRate_below_ceiling (h : 10 ≤ fps) (h' : fps < 60) :
    ∃ d, 0 < d ∧ d ≤ 83333 ∧ sleepsForRate b fps = [d] := by
  rcases (by omega : fps ≤ 15 ∨ (15 < fps ∧ fps < 20) ∨ (20 ≤ fps ∧ fps ≤ 30) ∨
    (30 < fps ∧ fps ≤ 41) ∨ (41 < fps ∧ fps ≤ 44) ∨ fps = 45 ∨ (45 < fps ∧ fps ≤ 52) ∨
    52 < fps) with h₁ | ⟨h₁, h₂⟩ | ⟨h₁, h₂⟩ | ⟨h₁, h₂⟩ | ⟨h₁, h₂⟩ | h₁ | ⟨h₁, h₂⟩ | h₁
  · rw [sleepsForRate_of_le_15 h h₁]; interval_cases fps <;> exact ⟨_, by decide, by decide, rfl⟩
  · rw [sleepsForRate_of_lt_20 h₁ h₂]; interval_cases fps <;> exact ⟨_, by decide, by decide, rfl⟩
  · exact ⟨_, by omega, by omega, sleepsForRate_of_le_30 h₁ h₂⟩
  · exact ⟨_, by omega, by omega, sleepsForRate_of_le_41 h₁ h₂⟩
  · exact ⟨_, by omega, by omega, sleepsForRate_of_le_44 h₁ h₂⟩
  · exact ⟨_, by norm_num, by norm_num, h₁ ▸ sleepsForRate_45⟩
  · exact ⟨_, by omega, by omega, sleepsForRate_of_le_52 h₁ h₂⟩
  · exact ⟨_, by omega, by omega, sleepsForRate_of_lt_60 h₁ h'⟩

/-- The two copies of the chain differ only by the pinch path's `Sleep(0)` at `60`. -/
lemma sum_sleepsForRate (b : Bool) (fps : Int) :
    (sleepsForRate b fps).sum = (sleepsForRate false fps).sum := by
  by_cases h : fps = 60
  · cases b <;> simp [h, sleepsForRate_60]
  · rw [sleepsForRate_of_ne_60 h]

/-! ## Where the delay decreases

Walking up the table, the delay falls inside each band and across most joins, but rises at four:
`30 → 31` by one microsecond, and `41 → 42`, `45 → 46`, `52 → 53` by more.
-/

/-- The five runs of rates between the joins at which the delay rises. -/
def rateSegment (fps : Int) : Nat :=
  if fps ≤ 30 then 0 else if fps ≤ 41 then 1 else if fps ≤ 45 then 2 else if fps ≤ 52 then 3
  else 4

lemma rateSegment_mono {m n : Int} (h : m ≤ n) : rateSegment m ≤ rateSegment n := by
  by_cases h₁ : m ≤ 30
  · rw [rateSegment, if_pos h₁]; exact Nat.zero_le _
  rw [rateSegment, if_neg h₁, rateSegment, if_neg (show ¬ n ≤ 30 by omega)]
  by_cases h₂ : m ≤ 41
  · rw [if_pos h₂]; split_ifs <;> decide
  rw [if_neg h₂, if_neg (show ¬ n ≤ 41 by omega)]
  by_cases h₃ : m ≤ 45
  · rw [if_pos h₃]; split_ifs <;> decide
  rw [if_neg h₃, if_neg (show ¬ n ≤ 45 by omega)]
  by_cases h₄ : m ≤ 52
  · rw [if_pos h₄]; split_ifs <;> decide
  rw [if_neg h₄, if_neg (show ¬ n ≤ 52 by omega)]

/-- One step up inside a segment never lengthens the sleep. -/
lemma sum_sleepsForRate_succ_le {n : Int} (h : 10 ≤ n) (h' : n < 60)
    (hs : rateSegment n = rateSegment (n + 1)) :
    (sleepsForRate false (n + 1)).sum ≤ (sleepsForRate false n).sum := by
  have hj : n ≠ 30 ∧ n ≠ 41 ∧ n ≠ 45 ∧ n ≠ 52 := by
    refine ⟨?_, ?_, ?_, ?_⟩ <;> rintro rfl <;> exact absurd hs (by decide)
  rcases (by omega : n ≤ 15 ∨ (15 < n ∧ n < 20) ∨ (20 ≤ n ∧ n < 30) ∨ (30 < n ∧ n < 41) ∨
    (41 < n ∧ n < 45) ∨ (45 < n ∧ n < 52) ∨ 52 < n) with
    h₁ | ⟨h₁, h₂⟩ | ⟨h₁, h₂⟩ | ⟨h₁, h₂⟩ | ⟨h₁, h₂⟩ | ⟨h₁, h₂⟩ | h₁
  · rw [sleepsForRate_of_le_15 h h₁]
    interval_cases n
    all_goals simp (disch := omega) only [sleepsForRate_of_le_15, sleepsForRate_of_lt_20]
    all_goals decide
  · rw [sleepsForRate_of_lt_20 h₁ h₂]
    interval_cases n
    all_goals simp (disch := omega) only [sleepsForRate_of_lt_20, sleepsForRate_of_le_30]
    all_goals decide
  · rw [sleepsForRate_of_le_30 h₁ h₂.le, sleepsForRate_of_le_30 (by omega) (by omega)]
    simp only [List.sum_cons, List.sum_nil, add_zero]; omega
  · rw [sleepsForRate_of_le_41 h₁ h₂.le, sleepsForRate_of_le_41 (by omega) (by omega)]
    simp only [List.sum_cons, List.sum_nil, add_zero]; omega
  · rcases (by omega : n < 44 ∨ n = 44) with h₃ | rfl
    · rw [sleepsForRate_of_le_44 h₁ (by omega), sleepsForRate_of_le_44 (by omega) (by omega)]
      simp only [List.sum_cons, List.sum_nil, add_zero]; omega
    · rw [sleepsForRate_of_le_44 h₁ (by omega)]; norm_num [sleepsForRate_45]
  · rw [sleepsForRate_of_le_52 h₁ h₂.le, sleepsForRate_of_le_52 (by omega) (by omega)]
    simp only [List.sum_cons, List.sum_nil, add_zero]; omega
  · rw [sleepsForRate_of_lt_60 h₁ h']
    rcases (by omega : n < 59 ∨ n = 59) with h₃ | rfl
    · rw [sleepsForRate_of_lt_60 (by omega) (by omega)]
      simp only [List.sum_cons, List.sum_nil, add_zero]; omega
    · norm_num [sleepsForRate_60]

/-- Inside a segment the delay is non-increasing in the clamped rate. -/
lemma sum_sleepsForRate_antitone {m n : Int} (hm : 10 ≤ m) (hmn : m ≤ n) (hn : n ≤ 60)
    (hs : rateSegment m = rateSegment n) :
    (sleepsForRate false n).sum ≤ (sleepsForRate false m).sum := by
  revert hn hs
  refine @Int.le_induction (fun n => n ≤ 60 → rateSegment m = rateSegment n →
    (sleepsForRate false n).sum ≤ (sleepsForRate false m).sum) m (fun _ _ => le_rfl) ?_ n hmn
  intro n hmn ih hn hs
  have h₁ := rateSegment_mono hmn
  have h₂ := rateSegment_mono (Int.le_add_one (le_refl n))
  exact (sum_sleepsForRate_succ_le (by omega) (by omega) (by omega)).trans
    (ih (by omega) (by omega))

/-! ## The governor's delay for a predicted rate -/

/-- What a run of `n` throttled updates can add to the sleeps: at most one sleep per update,
each for between `0` and `83333` µs. -/
structure SleepBudget (n : Nat) (ds : List Int) : Prop where
  length_le : ds.length ≤ n
  bounded : ∀ d ∈ ds, 0 ≤ d ∧ d ≤ 83333

namespace SleepBudget

variable {m n : Nat} {ds ds₁ ds₂ : List Int}

lemma nil : SleepBudget n [] := ⟨Nat.zero_le n, fun _ h => absurd h (List.not_mem_nil _)⟩

end SleepBudget

section Delay

variable {K : Type*} [LinearOrderedRing K] [FloorRing K]

/-- One update's chain stays within the budget of one update. -/
lemma sleepsForRate_budget (b : Bool) (p : K) :
    SleepBudget 1 (sleepsForRate b (clampedRate p)) := by
  obtain ⟨h₁, h₂⟩ := clampedRate_mem p
  rcases h₂.lt_or_eq with h | h
  · obtain ⟨d, hd₀, hd, he⟩ := sleepsForRate_below_ceiling (b := b) h₁ h
    exact ⟨by simp [he], by simp only [he, List.mem_singleton, forall_eq]; omega⟩
  · rw [h, sleepsForRate_60]; cases b <;> exact ⟨by simp, by simp⟩

/-- The chain sleeps at most once on either path, both paths sleep `governorDelay p` in total,
and `0 ≤ governorDelay p ≤ 83333`, with equality to `0` exactly when `⌈p⌉ ≥ 60`. -/
lemma sleepsForRate_bounds (p : K) :
    (∀ b, (sleepsForRate b (clampedRate p)).length ≤ 1) ∧
    (sleepsForRate true (clampedRate p)).sum = governorDelay p ∧
    0 ≤ governorDelay p ∧ governorDelay p ≤ 83333 ∧
    (governorDelay p = 0 ↔ 60 ≤ ⌈p⌉) := by
  obtain ⟨h₁, h₂⟩ := clampedRate_mem p
  refine ⟨fun b => (sleepsForRate_budget b p).length_le, sum_sleepsForRate true _, ?_⟩
  rw [← clampedRate_eq_sixty_iff, governorDelay]
  rcases h₂.lt_or_eq with h | h
  · obtain ⟨d, hd₀, hd, he⟩ := sleepsForRate_below_ceiling (b := false) h₁ h
    simp only [he, List.sum_cons, List.sum_nil, add_zero]; omega
  · simp [h, sleepsForRate_60]

/-- Inside each segment a higher rate never sleeps longer, on either path. -/
lemma sleepsForRate_antitone_on_segments (b : Bool) {p₁ p₂ : K} (h : p₁ ≤ p₂)
    (hs : rateSegment (clampedRate p₁) = rateSegment (clampedRate p₂)) :
    (sleepsForRate b (clampedRate p₂)).sum ≤ (sleepsForRate b (clampedRate p₁)).sum := by
  rw [sum_sleepsForRate b, sum_sleepsForRate b]
  exact sum_sleepsForRate_antitone (clampedRate_mem p₁).1 (clampedRate_mono h)
    (clampedRate_mem p₂).2 hs

end Delay

/-- **The delay rises at each join.**  On both paths rate `30` sleeps `24997` µs and `31`
sleeps `24998` µs, `41` sleeps `16663` µs and `42` sleeps `17913` µs, `45` sleeps `15412` µs and
`46` sleeps `16246` µs, and `52` sleeps `11245` µs and `53` sleeps `14579` µs; so the delay is
not non-increasing in the rate. -/
theorem governorDelay_not_antitone :
    (∀ b, sleepsForRate b (clampedRate (30 : ℚ)) = [24997] ∧
      sleepsForRate b (clampedRate (31 : ℚ)) = [24998] ∧
      sleepsForRate b (clampedRate (41 : ℚ)) = [16663] ∧
      sleepsForRate b (clampedRate (42 : ℚ)) = [17913] ∧
      sleepsForRate b (clampedRate (45 : ℚ)) = [15412] ∧
      sleepsForRate b (clampedRate (46 : ℚ)) = [16246] ∧
      sleepsForRate b (clampedRate (52 : ℚ)) = [11245] ∧
      sleepsForRate b (clampedRate (53 : ℚ)) = [14579]) ∧
    ¬ ∀ p₁ p₂ : ℚ, p₁ ≤ p₂ → governorDelay p₂ ≤ governorDelay p₁ := by
  have hr : ∀ b, sleepsForRate b (clampedRate (30 : ℚ)) = [24997] ∧
      sleepsForRate b (clampedRate (31 : ℚ)) = [24998] ∧
      sleepsForRate b (clampedRate (41 : ℚ)) = [16663] ∧
      sleepsForRate b (clampedRate (42 : ℚ)) = [17913] ∧
      sleepsForRate b (clampedRate (45 : ℚ)) = [15412] ∧
      sleepsForRate b (clampedRate (46 : ℚ)) = [16246] ∧
      sleepsForRate b (clampedRate (52 : ℚ)) = [11245] ∧
      sleepsForRate b (clampedRate (53 : ℚ)) = [14579] := by
    intro b
    norm_num [clampedRate, sleepsForRate_of_le_30, sleepsForRate_of_le_41, sleepsForRate_of_le_44,
      sleepsForRate_45, sleepsForRate_of_le_52, sleepsForRate_of_lt_60]
  refine ⟨hr, fun h => ?_⟩
  have h₁ := h 52 53 (by norm_num)
  rw [governorDelay, governorDelay, (hr false).2.2.2.2.2.2.1, (hr false).2.2.2.2.2.2.2] at h₁
  norm_num at h₁

end EBrowser
