import Mathlib.Algebra.Order.Ring.Rat
import Mathlib.Tactic.Linarith
import Mathlib.Tactic.Ring

/-! Token buckets that refill at a constant rate, and the grants they can have paid
for up to an instant. -/

namespace PublicLighting.Foundations

structure TokenBucket where
  tokens : ℚ
  updatedAt : ℚ

namespace TokenBucket

variable {burst rate : ℚ}

def refilled (burst rate : ℚ) (bucket : TokenBucket) (now : ℚ) : TokenBucket :=
  ⟨min burst (bucket.tokens + max 0 (now - bucket.updatedAt) * rate), now⟩

def taken (bucket : TokenBucket) : TokenBucket := { bucket with tokens := bucket.tokens - 1 }

def within (grants : List ℚ) (start stop : ℚ) : Nat := grants.countP fun grant => start ≤ grant ∧ grant ≤ stop

/-- What the grants since any instant and the tokens left have been paid from. -/
structure Pays (burst rate : ℚ) (grants : List ℚ) (bucket : TokenBucket) : Prop where
  past : ∀ grant ∈ grants, grant ≤ bucket.updatedAt
  nonneg : 0 ≤ bucket.tokens
  capped : bucket.tokens ≤ burst
  since : ∀ start ≤ bucket.updatedAt,
    within grants start bucket.updatedAt + bucket.tokens ≤ burst + rate * (bucket.updatedAt - start)
  spans : ∀ start stop, start ≤ stop → within grants start stop ≤ burst + rate * (stop - start)

theorem within_eq_zero {grants : List ℚ} {start stop : ℚ} (past : ∀ grant ∈ grants, grant < start) :
    within grants start stop = 0 := by
  rw [within, List.countP_eq_zero]
  intro grant member inside
  rw [decide_eq_true_eq] at inside
  exact absurd inside.1 (not_le.mpr (past grant member))

theorem within_later {grants : List ℚ} {start stop later : ℚ} (past : ∀ grant ∈ grants, grant ≤ stop)
    (ordered : stop ≤ later) : within grants start later = within grants start stop := by
  apply List.countP_congr
  intro grant member
  have before := past grant member
  simp only [decide_eq_true_eq]
  exact and_congr_right fun _ => ⟨fun _ => before, fun _ => before.trans ordered⟩

theorem within_cons (grants : List ℚ) (grant start stop : ℚ) :
    within (grant :: grants) start stop = within grants start stop + if start ≤ grant ∧
      grant ≤ stop then 1 else 0 := by
  simp only [within, List.countP_cons, decide_eq_true_eq]

theorem pays_full (positive : 0 ≤ burst) (nonnegRate : 0 ≤ rate) (now : ℚ) : Pays burst rate [] ⟨burst, now⟩ where
  past := nofun
  nonneg := positive
  capped := le_refl _
  since := fun start before => by
    have grown := mul_nonneg nonnegRate (sub_nonneg.mpr before)
    simp only [within, List.countP_nil, Nat.cast_zero]
    linarith
  spans := fun start stop ordered => by
    have grown := mul_nonneg nonnegRate (sub_nonneg.mpr ordered)
    simp only [within, List.countP_nil, Nat.cast_zero]
    linarith

variable {grants : List ℚ} {bucket : TokenBucket} {now : ℚ}

theorem Pays.refilled (positive : 0 ≤ burst) (nonnegRate : 0 ≤ rate) (pays : Pays burst rate grants bucket)
    (later : bucket.updatedAt ≤ now) : Pays burst rate grants (bucket.refilled burst rate now) where
  past := fun grant member => (pays.past grant member).trans later
  nonneg := by
    have grown := mul_nonneg (le_max_left 0 (now - bucket.updatedAt)) nonnegRate
    exact le_min positive (add_nonneg pays.nonneg grown)
  capped := min_le_left _ _
  since := fun start before => by
    have elapsed : max 0 (now - bucket.updatedAt) = now - bucket.updatedAt := max_eq_right (sub_nonneg.mpr later)
    simp only [TokenBucket.refilled, elapsed] at before ⊢
    by_cases early : start ≤ bucket.updatedAt
    · have before := pays.since start early
      have kept := min_le_right burst (bucket.tokens + (now - bucket.updatedAt) * rate)
      rw [within_later pays.past later]
      linarith
    · have none : within grants start now = 0 :=
        within_eq_zero fun grant member => (pays.past grant member).trans_lt (not_le.mp early)
      have full := min_le_left burst (bucket.tokens + (now - bucket.updatedAt) * rate)
      have grown := mul_nonneg nonnegRate (sub_nonneg.mpr before)
      rw [none, Nat.cast_zero]
      linarith
  spans := pays.spans

theorem Pays.taken (nonnegRate : 0 ≤ rate) (pays : Pays burst rate grants bucket) (enough : 1 ≤ bucket.tokens) :
    Pays burst rate (bucket.updatedAt :: grants) bucket.taken where
  past := fun grant member => by
    cases List.mem_cons.mp member with
    | inl same => exact same.le
    | inr old => exact pays.past grant old
  nonneg := sub_nonneg.mpr enough
  capped := (sub_le_self _ zero_le_one).trans pays.capped
  since := fun start before => by
    have paid := pays.since start before
    have here : start ≤ bucket.updatedAt ∧ bucket.updatedAt ≤ bucket.updatedAt := ⟨before, le_refl _⟩
    simp only [TokenBucket.taken, within_cons, if_pos here, Nat.cast_add, Nat.cast_one]
    linarith
  spans := fun start stop ordered => by
    rw [within_cons]
    by_cases inside : start ≤ bucket.updatedAt ∧ bucket.updatedAt ≤ stop
    · have paid := pays.since start inside.1
      have grown := mul_le_mul_of_nonneg_left (sub_le_sub_right inside.2 start) nonnegRate
      rw [if_pos inside, within_later pays.past inside.2, Nat.cast_add, Nat.cast_one]
      linarith
    · rw [if_neg inside, Nat.add_zero]
      exact pays.spans start stop ordered

theorem refilled_full (pays : Pays burst rate grants bucket) (nonnegRate : 0 ≤ rate) {idle : ℚ}
    (restores : burst ≤ idle * rate) (waited : bucket.updatedAt + idle ≤ now) (later : bucket.updatedAt ≤ now) :
    bucket.refilled burst rate now = ⟨burst, now⟩ := by
  have elapsed : max 0 (now - bucket.updatedAt) = now - bucket.updatedAt := max_eq_right (sub_nonneg.mpr later)
  have grown := mul_le_mul_of_nonneg_right (le_sub_iff_add_le'.mpr waited) nonnegRate
  have low := pays.nonneg
  rw [refilled, elapsed, min_eq_left (by linarith)]

/-- Tokens missing for one grant arrive within the advised time. -/
theorem refilled_enough {wait : ℚ} (positive : 1 ≤ burst) (nonnegRate : 0 ≤ rate)
    (advised : 1 - bucket.tokens ≤ wait * rate) (waited : bucket.updatedAt + wait ≤ now) :
    1 ≤ (bucket.refilled burst rate now).tokens := by
  have elapsed : wait ≤ max 0 (now - bucket.updatedAt) := (le_sub_iff_add_le'.mpr waited).trans (le_max_right _ _)
  have grown := mul_le_mul_of_nonneg_right elapsed nonnegRate
  exact le_min positive (by linarith)

end TokenBucket

end PublicLighting.Foundations
