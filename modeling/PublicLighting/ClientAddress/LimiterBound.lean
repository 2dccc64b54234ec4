import PublicLighting.ClientAddress.Denotation
import PublicLighting.ClientAddress.Limiter
import Mathlib.Algebra.Order.Floor.Ring

/-! What a run of the limiter grants to one key, and when forgetting an idle bucket
grants too much. -/

namespace PublicLighting.ClientAddress

open Foundations (Run TokenBucket Entries.replace)
open Foundations.Entries
open Foundations.TokenBucket (Pays within)

variable {Digest : Type} [DecidableEq Digest] {isIP : List Char → Nat} {hmac : List Char → Digest}
variable {settings : AddressIpLimiterConfig}

section Steps

variable {buckets after : List (Digest × Bucket)} {key : Digest} {bucket : Bucket} {call : ConsumeCall}
variable {answer : AddressLimitResult} {now : ℚ}

theorem consume_cases (served : consume isIP hmac settings buckets call = (answer, after)) :
    (normalizeLimiterAddress isIP call.address = none ∧ answer = .denied .limiterCapacity 60 ∧ after = buckets) ∨
    ∃ normalized, normalizeLimiterAddress isIP call.address = some normalized ∧
      ((∃ bucket, buckets.lookup (hmac normalized) = some bucket ∧
          charge settings buckets (hmac normalized) bucket call.time = (answer, after)) ∨
        (buckets.lookup (hmac normalized) = none ∧ settings.maxKeys ≤ (swept settings buckets call.time).length ∧
          (∃ wait, answer = .denied .limiterCapacity wait) ∧ after = swept settings buckets call.time) ∨
        (buckets.lookup (hmac normalized) = none ∧ (swept settings buckets call.time).length < settings.maxKeys ∧
          charge settings (swept settings buckets call.time ++ [(hmac normalized, fullBucket settings call.time)])
            (hmac normalized) (fullBucket settings call.time) call.time = (answer, after))) := by
  rw [consume] at served
  cases read : normalizeLimiterAddress isIP call.address with
  | none =>
      simp only [read, Prod.mk.injEq] at served
      exact .inl ⟨rfl, served.1.symm, served.2.symm⟩
  | some normalized =>
      refine .inr ⟨normalized, rfl, ?_⟩
      simp only [read] at served
      cases found : buckets.lookup (hmac normalized) with
      | some bucket =>
          simp only [found] at served
          exact .inl ⟨bucket, rfl, served⟩
      | none =>
          simp only [found] at served
          by_cases full : (swept settings buckets call.time).length ≥ settings.maxKeys
          · rw [if_pos full, Prod.mk.injEq] at served
            exact .inr (.inl ⟨rfl, full, ⟨_, served.1.symm⟩, served.2.symm⟩)
          · rw [if_neg full] at served
            exact .inr (.inr ⟨rfl, not_le.mp full, served⟩)

theorem charge_cases (charged : charge settings buckets key bucket now = (answer, after)) :
    ∃ level : TokenBucket, after = replace buckets key ⟨level, now⟩ ∧
      ((level = bucket.toTokenBucket.refilled settings.burst (refillPerMs settings) now ∧ level.tokens < 1 ∧
          answer = .denied .rateLimited (max 1 ⌈(1 - level.tokens) / refillPerMs settings / 1000⌉)) ∨
        (level = (bucket.toTokenBucket.refilled settings.burst (refillPerMs settings) now).taken ∧
          1 ≤ (bucket.toTokenBucket.refilled settings.burst (refillPerMs settings) now).tokens ∧
          answer = .allowed)) := by
  rw [charge] at charged
  by_cases short : (bucket.toTokenBucket.refilled settings.burst (refillPerMs settings) now).tokens < 1
  · simp only [if_pos short, Prod.mk.injEq] at charged
    exact ⟨_, charged.2.symm, .inl ⟨rfl, short, charged.1.symm⟩⟩
  · simp only [if_neg short, Prod.mk.injEq] at charged
    exact ⟨_, charged.2.symm, .inr ⟨rfl, not_lt.mp short, charged.1.symm⟩⟩

theorem rate_pos (inRange : settings.InRange) : 0 < refillPerMs settings := by
  have positive : (0 : ℚ) < settings.refillPerMinute := Nat.cast_pos.mpr inRange.refillPerMinute.1
  exact div_pos positive (by norm_num)

theorem one_le_burst (inRange : settings.InRange) : (1 : ℚ) ≤ settings.burst := Nat.one_le_cast.mpr inRange.burst.1

def granted (answer : AddressLimitResult) (now : ℚ) (grants : List ℚ) : List ℚ :=
  if answer = .allowed then now :: grants else grants

theorem charge_pays (inRange : settings.InRange) {grants : List ℚ}
    (pays : Pays settings.burst (refillPerMs settings) grants bucket.toTokenBucket) (later : bucket.updatedAt ≤ now)
    (charged : charge settings buckets key bucket now = (answer, after)) :
    ∃ level : TokenBucket, after = replace buckets key ⟨level, now⟩ ∧ level.updatedAt = now ∧
      Pays settings.burst (refillPerMs settings) (granted answer now grants) level := by
  have nonneg := (rate_pos inRange).le
  have refilled := pays.refilled (zero_le_one.trans (one_le_burst inRange)) nonneg later
  obtain ⟨level, changed, denied | allowed⟩ := charge_cases charged
  · obtain ⟨shape, -, refused⟩ := denied
    refine ⟨level, changed, shape ▸ rfl, ?_⟩
    rw [granted, if_neg (by rw [refused]; exact nofun), shape]
    exact refilled
  · obtain ⟨shape, enough, accepted⟩ := allowed
    refine ⟨level, changed, shape ▸ rfl, ?_⟩
    rw [granted, if_pos accepted, shape]
    exact refilled.taken nonneg enough

end Steps

section Size

variable {buckets after : List (Digest × Bucket)} {call : ConsumeCall} {answer : AddressLimitResult}

structure Sound (settings : AddressIpLimiterConfig) (buckets : List (Digest × Bucket)) : Prop where
  size : buckets.length ≤ settings.maxKeys
  distinct : (buckets.map Prod.fst).Nodup

omit [DecidableEq Digest] in
theorem sound_swept {now : ℚ} (sound : Sound settings buckets) : Sound settings (swept settings buckets now) where
  size := (List.length_filter_le _ _).trans sound.size
  distinct := filter_keys sound.distinct _

theorem swept_absent {now : ℚ} {key : Digest} (absent : buckets.lookup key = none) :
    (swept settings buckets now).lookup key = none := List.filter_sublist.lookup_eq_none absent

theorem consume_sound (sound : Sound settings buckets)
    (served : consume isIP hmac settings buckets call = (answer, after)) : Sound settings after := by
  obtain ⟨-, -, rfl⟩ | ⟨normalized, -, found | full | fresh⟩ := consume_cases served
  · exact sound
  · obtain ⟨bucket, -, charged⟩ := found
    obtain ⟨level, rfl, -⟩ := charge_cases charged
    constructor
    · rw [replace_length]
      exact sound.size
    · rw [replace_keys]
      exact sound.distinct
  · obtain ⟨-, -, -, rfl⟩ := full
    exact sound_swept sound
  · obtain ⟨absent, room, charged⟩ := fresh
    obtain ⟨level, rfl, -⟩ := charge_cases charged
    have kept : Sound settings (swept settings buckets call.time) := sound_swept sound
    constructor
    · rw [replace_length, List.length_append]
      exact room
    · rw [replace_keys, List.map_append, List.nodup_append]
      refine ⟨kept.distinct, List.nodup_singleton _, ?_⟩
      intro one member other single same
      rw [List.map_singleton, List.mem_singleton] at single
      exact lookup_eq_none.mp (swept_absent absent) (single ▸ same ▸ member)

end Size

section Tracking

variable {buckets after : List (Digest × Bucket)} {key : Digest} {call : ConsumeCall} {answer : AddressLimitResult}
variable {grants : List ℚ} {clock now : ℚ}

/-- The key's bucket has been deleted as idle. With room for one bucket only, another
key has used the limiter since. -/
structure Forgotten (settings : AddressIpLimiterConfig) (buckets : List (Digest × Bucket)) (key : Digest)
    (level : TokenBucket) (clock : ℚ) : Prop where
  absent : buckets.lookup key = none
  idle : level.updatedAt + settings.idleTtlMs ≤ clock
  occupied : settings.maxKeys = 1 → buckets ≠ []
  later : ∀ entry ∈ buckets, settings.maxKeys = 1 → level.updatedAt + settings.idleTtlMs ≤ entry.2.lastSeenAt

/-- A bucket that has paid the key's grants is at hand, or was forgotten. -/
def Tracks (settings : AddressIpLimiterConfig) (buckets : List (Digest × Bucket)) (key : Digest)
    (grants : List ℚ) (clock : ℚ) : Prop :=
  (grants = [] ∧ buckets.lookup key = none) ∨
  ∃ level : TokenBucket, Pays settings.burst (refillPerMs settings) grants level ∧ level.updatedAt ≤ clock ∧
    (buckets.lookup key = some ⟨level, level.updatedAt⟩ ∨ Forgotten settings buckets key level clock)

theorem Tracks.mono (tracks : Tracks settings buckets key grants clock) (later : clock ≤ now) :
    Tracks settings buckets key grants now := by
  refine tracks.imp_right ?_
  rintro ⟨level, pays, before, held⟩
  refine ⟨level, pays, before.trans later, held.imp_right ?_⟩
  exact fun forgotten => { forgotten with idle := forgotten.idle.trans later }

theorem Tracks.spans (inRange : settings.InRange) (tracks : Tracks settings buckets key grants clock)
    {start stop : ℚ} (ordered : start ≤ stop) :
    within grants start stop ≤ settings.burst + refillPerMs settings * (stop - start) := by
  have burst : (0 : ℚ) ≤ settings.burst := zero_le_one.trans (one_le_burst inRange)
  rcases tracks with ⟨rfl, -⟩ | ⟨level, pays, -⟩
  · exact (TokenBucket.pays_full burst (rate_pos inRange).le start).spans start stop ordered
  · exact pays.spans start stop ordered

def Restores (settings : AddressIpLimiterConfig) : Prop :=
  settings.burst * 60000 ≤ settings.refillPerMinute * (settings.idleTtlMs * if settings.maxKeys = 1 then 2 else 1)

instance (settings : AddressIpLimiterConfig) : Decidable (Restores settings) :=
  inferInstanceAs (Decidable (_ ≤ _))

theorem Restores.rate (restores : Restores settings) :
    (settings.burst : ℚ) ≤ (settings.idleTtlMs * if settings.maxKeys = 1 then 2 else 1) * refillPerMs settings := by
  have whole : (settings.burst : ℚ) * 60000 ≤
      settings.refillPerMinute * (settings.idleTtlMs * if settings.maxKeys = 1 then 2 else 1) := by
    exact_mod_cast restores
  rw [refillPerMs, mul_div_assoc', le_div_iff₀ (by norm_num)]
  linarith

/-- When a forgotten key gets a bucket again, its old one would be full. -/
theorem Forgotten.gap {level : TokenBucket} (forgotten : Forgotten settings buckets key level clock)
    (room : (swept settings buckets clock).length < settings.maxKeys) :
    level.updatedAt + (settings.idleTtlMs * if settings.maxKeys = 1 then 2 else 1) ≤ clock := by
  by_cases one : settings.maxKeys = 1
  · have empty : swept settings buckets clock = [] := List.length_eq_zero_iff.mp (by omega)
    obtain ⟨entry, rest, shape⟩ := List.exists_cons_of_ne_nil (forgotten.occupied one)
    have member : entry ∈ buckets := shape ▸ List.mem_cons_self
    have deleted : entry ∉ swept settings buckets clock := by
      rw [empty]
      exact List.not_mem_nil
    have old : (settings.idleTtlMs : ℚ) ≤ clock - entry.2.lastSeenAt := by
      simpa [swept, member] using deleted
    have seen := forgotten.later entry member one
    rw [if_pos one]
    linarith
  · rw [if_neg one, mul_one]
    exact forgotten.idle

theorem tracks_own (inRange : settings.InRange) (restores : Restores settings) {normalized : List Char}
    (read : normalizeLimiterAddress isIP call.address = some normalized)
    (tracks : Tracks settings buckets (hmac normalized) grants call.time)
    (served : consume isIP hmac settings buckets call = (answer, after)) :
    Tracks settings after (hmac normalized) (granted answer call.time grants) call.time := by
  have burst : (0 : ℚ) ≤ settings.burst := zero_le_one.trans (one_le_burst inRange)
  have nonneg := (rate_pos inRange).le
  obtain ⟨invalid, -⟩ | ⟨same, again, found | full | fresh⟩ := consume_cases served
  · rw [read] at invalid
    cases invalid
  · rw [read, Option.some_inj] at again
    subst again
    obtain ⟨bucket, found, charged⟩ := found
    rcases tracks with ⟨-, absent⟩ | ⟨level, pays, before, held | forgotten⟩
    · rw [found] at absent
      cases absent
    · rw [found, Option.some_inj] at held
      subst held
      obtain ⟨next, rfl, updated, paid⟩ := charge_pays inRange pays before charged
      refine .inr ⟨next, paid, updated.le, .inl ?_⟩
      rw [lookup_replace_self (by rw [found]; exact nofun), updated]
    · rw [forgotten.absent] at found
      cases found
  · rw [read, Option.some_inj] at again
    subst again
    obtain ⟨absent, crowded, ⟨wait, refused⟩, rfl⟩ := full
    have unchanged : granted answer call.time grants = grants := if_neg (by rw [refused]; exact nofun)
    rw [unchanged]
    rcases tracks with ⟨none, -⟩ | ⟨level, pays, before, held | forgotten⟩
    · exact .inl ⟨none, swept_absent absent⟩
    · rw [absent] at held
      cases held
    · refine .inr ⟨level, pays, before, .inr ⟨swept_absent absent, forgotten.idle, ?_, ?_⟩⟩
      · intro one empty
        rw [empty, one] at crowded
        cases crowded
      · exact fun entry member => forgotten.later entry (List.mem_of_mem_filter member)
  · rw [read, Option.some_inj] at again
    subst again
    obtain ⟨absent, room, charged⟩ := fresh
    have pays : Pays settings.burst (refillPerMs settings) grants (fullBucket settings call.time).toTokenBucket := by
      rcases tracks with ⟨rfl, -⟩ | ⟨level, pays, before, held | forgotten⟩
      · exact TokenBucket.pays_full burst nonneg call.time
      · rw [absent] at held
        cases held
      · have refilled := pays.refilled burst nonneg before
        rw [TokenBucket.refilled_full pays nonneg restores.rate (forgotten.gap room) before]
          at refilled
        exact refilled
    obtain ⟨next, rfl, updated, paid⟩ := charge_pays inRange pays (le_refl _) charged
    refine .inr ⟨next, paid, updated.le, .inl ?_⟩
    rw [lookup_replace_self, updated]
    rw [lookup_concat (swept_absent absent)]
    exact nofun

/-- What a sweep at the present instant does to a tracked key. -/
theorem tracks_swept (sound : Sound settings buckets) (tracks : Tracks settings buckets key grants now) :
    (grants = [] ∧ (swept settings buckets now).lookup key = none) ∨
    ∃ level : TokenBucket, Pays settings.burst (refillPerMs settings) grants level ∧ level.updatedAt ≤ now ∧
      ((swept settings buckets now).lookup key = some ⟨level, level.updatedAt⟩ ∨
        (swept settings buckets now).lookup key = none ∧ level.updatedAt + settings.idleTtlMs ≤ now ∧
          ∀ entry ∈ swept settings buckets now, settings.maxKeys = 1 →
            level.updatedAt + settings.idleTtlMs ≤ entry.2.lastSeenAt) := by
  rcases tracks with ⟨none, absent⟩ | ⟨level, pays, before, held | forgotten⟩
  · exact .inl ⟨none, swept_absent absent⟩
  · refine .inr ⟨level, pays, before, ?_⟩
    have kept : (swept settings buckets now).lookup key = (buckets.lookup key).filter
        fun value => ¬ now - value.lastSeenAt ≥ settings.idleTtlMs := lookup_filter sound.distinct _
    rw [held] at kept
    by_cases idle : (settings.idleTtlMs : ℚ) ≤ now - level.updatedAt
    · have gone : (swept settings buckets now).lookup key = none := by
        rw [kept]
        simpa [Option.filter_some] using idle
      refine .inr ⟨gone, by linarith, ?_⟩
      intro entry member one
      -- The one bucket there was room for is the key's own, and it is gone.
      have few : buckets.length ≤ 1 := one ▸ sound.size
      have own := mem_of_lookup held
      have whole : buckets = [(key, ⟨level, level.updatedAt⟩)] := by
        match buckets, few, own with
        | [only], _, own => rw [List.mem_singleton.mp own]
      have same := List.mem_of_mem_filter member
      rw [whole, List.mem_singleton] at same
      subst same
      rw [lookup_eq_none] at gone
      exact absurd (List.mem_map_of_mem member) gone
    · refine .inl ?_
      rw [kept]
      simpa [Option.filter_some] using idle
  · exact .inr ⟨level, pays, before, .inr ⟨swept_absent forgotten.absent, forgotten.idle,
      fun entry member => forgotten.later entry (List.mem_of_mem_filter member)⟩⟩

theorem tracks_other (inRange : settings.InRange) (sound : Sound settings buckets)
    (other : ∀ normalized, normalizeLimiterAddress isIP call.address = some normalized → hmac normalized ≠ key)
    (tracks : Tracks settings buckets key grants call.time)
    (served : consume isIP hmac settings buckets call = (answer, after)) :
    Tracks settings after key grants call.time := by
  obtain ⟨-, -, rfl⟩ | ⟨normalized, read, found | full | fresh⟩ := consume_cases served
  · exact tracks
  · obtain ⟨bucket, -, charged⟩ := found
    obtain ⟨next, rfl, -⟩ := charge_cases charged
    have different := (other normalized read).symm
    rcases tracks with ⟨none, absent⟩ | ⟨level, pays, before, held | forgotten⟩
    · exact .inl ⟨none, (lookup_replace_other different).trans absent⟩
    · exact .inr ⟨level, pays, before, .inl ((lookup_replace_other different).trans held)⟩
    · refine .inr ⟨level, pays, before, .inr ⟨(lookup_replace_other different).trans forgotten.absent,
        forgotten.idle, ?_, ?_⟩⟩
      · intro one empty
        apply forgotten.occupied one
        rw [← List.length_eq_zero_iff, ← replace_length, empty]
        rfl
      · intro entry member one
        cases mem_replace member with
        | inl old => exact forgotten.later entry old one
        | inr new => exact new ▸ forgotten.idle
  · obtain ⟨-, crowded, -, rfl⟩ := full
    rcases tracks_swept sound tracks with none | ⟨level, pays, before, held | ⟨absent, idle, later⟩⟩
    · exact .inl none
    · exact .inr ⟨level, pays, before, .inl held⟩
    · refine .inr ⟨level, pays, before, .inr ⟨absent, idle, ?_, later⟩⟩
      intro _ empty
      have positive := inRange.maxKeys.1
      rw [empty, List.length_nil] at crowded
      omega
  · obtain ⟨-, -, charged⟩ := fresh
    obtain ⟨next, rfl, -⟩ := charge_cases charged
    have different := (other normalized read).symm
    have lookup : (replace (swept settings buckets call.time ++ [(hmac normalized, fullBucket settings call.time)])
        (hmac normalized) ⟨next, call.time⟩).lookup key = (swept settings buckets call.time).lookup key :=
      (lookup_replace_other different).trans (lookup_concat_other different)
    rcases tracks_swept sound tracks with ⟨none, absent⟩ | ⟨level, pays, before, held | ⟨absent, idle, later⟩⟩
    · exact .inl ⟨none, lookup.trans absent⟩
    · exact .inr ⟨level, pays, before, .inl (lookup.trans held)⟩
    · refine .inr ⟨level, pays, before, .inr ⟨lookup.trans absent, idle, ?_, ?_⟩⟩
      · intro _ empty
        have size := congrArg List.length empty
        rw [replace_length, List.length_append] at size
        cases size
      · intro entry member one
        rcases mem_replace member with old | new
        · rcases List.mem_append.mp old with kept | added
          · exact later entry kept one
          · rw [List.mem_singleton.mp added]
            exact idle
        · exact new ▸ idle

end Tracking

end PublicLighting.ClientAddress
