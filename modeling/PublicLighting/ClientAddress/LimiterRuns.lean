import PublicLighting.ClientAddress.LimiterBound

/-! Runs of the limiter on a monotone clock: the bound of the grants, the advised
wait, and the settings under which idle eviction breaks the bound. -/

namespace PublicLighting.ClientAddress

open Foundations (Run TokenBucket Entries.replace)
open Foundations.Entries
open Foundations.TokenBucket (Pays within)

variable {Digest : Type} [DecidableEq Digest] {isIP : List Char → Nat} {hmac : List Char → Digest}
variable {settings : AddressIpLimiterConfig}

def Distinguishes (isIP : List Char → Nat) (hmac : List Char → Digest) : Prop :=
  ∀ address other normalized otherNormalized, normalizeLimiterAddress isIP address = some normalized →
    normalizeLimiterAddress isIP other = some otherNormalized → hmac normalized = hmac otherNormalized →
      normalized = otherNormalized

abbrev ConsumeLog := List (ConsumeCall × AddressLimitResult)

def Ordered (log : ConsumeLog) : Prop := (log.map (·.1.time)).Pairwise (· ≤ ·)

/-- The calls that a key was granted from `start` to `stop`. -/
def grantCount (isIP : List Char → Nat) (log : ConsumeLog) (limited : List Char) (start stop : ℚ) : Nat :=
  log.countP fun entry => normalizeLimiterAddress isIP entry.1.address = some limited ∧ entry.2 = .allowed ∧
    start ≤ entry.1.time ∧ entry.1.time ≤ stop

section Bound

def grantsOf (isIP : List Char → Nat) (log : ConsumeLog) (limited : List Char) : List ℚ :=
  ((log.filter fun entry => normalizeLimiterAddress isIP entry.1.address = some limited ∧ entry.2 = .allowed).map
    (·.1.time)).reverse

theorem grantsOf_concat (log : ConsumeLog) (limited : List Char) (entry : ConsumeCall × AddressLimitResult) :
    grantsOf isIP (log ++ [entry]) limited =
      if normalizeLimiterAddress isIP entry.1.address = some limited then
        granted entry.2 entry.1.time (grantsOf isIP log limited)
      else grantsOf isIP log limited := by
  rw [grantsOf, List.filter_append, List.map_append, List.reverse_append]
  by_cases own : normalizeLimiterAddress isIP entry.1.address = some limited
  · by_cases allowed : entry.2 = .allowed
    · simp [grantsOf, own, allowed, granted]
    · simp [grantsOf, own, allowed, granted]
  · simp [grantsOf, own]

theorem within_grantsOf (log : ConsumeLog) (limited : List Char) (start stop : ℚ) :
    within (grantsOf isIP log limited) start stop = grantCount isIP log limited start stop := by
  rw [within, grantsOf, List.countP_reverse, List.countP_map, List.countP_filter, grantCount]
  apply List.countP_congr
  intro entry _
  simp only [Function.comp_apply, Bool.and_eq_true, decide_eq_true_eq]
  tauto

theorem ordered_concat {log : ConsumeLog} {entry : ConsumeCall × AddressLimitResult}
    (ordered : Ordered (log ++ [entry])) :
    Ordered log ∧ ∀ earlier ∈ log, earlier.1.time ≤ entry.1.time := by
  rw [Ordered, List.map_append, List.pairwise_append] at ordered
  exact ⟨ordered.1, fun earlier member =>
    ordered.2.2 _ (List.mem_map_of_mem member) _ (List.mem_singleton_self _)⟩

theorem run_sound {log : ConsumeLog} {buckets : List (Digest × Bucket)}
    (run : Run (Consumes isIP hmac settings) [] log buckets) : Sound settings buckets :=
  run.invariant (fun _ _ _ sound served => consume_sound sound served) ⟨Nat.zero_le _, List.nodup_nil⟩

theorem run_tracks (inRange : settings.InRange) (restores : Restores settings)
    (distinguishes : Distinguishes isIP hmac)
    {client limited : List Char} (own : normalizeLimiterAddress isIP client = some limited) {log : ConsumeLog}
    {buckets : List (Digest × Bucket)} (run : Run (Consumes isIP hmac settings) [] log buckets)
    (ordered : Ordered log) (now : ℚ) (past : ∀ entry ∈ log, entry.1.time ≤ now) :
    Tracks settings buckets (hmac limited) (grantsOf isIP log limited) now := by
  generalize start : ([] : List (Digest × Bucket)) = first at run
  induction run generalizing now with
  | nil =>
      subst start
      exact .inl ⟨rfl, rfl⟩
  | @snoc _ _ log entry before served ih =>
      obtain ⟨earlier, lately⟩ := ordered_concat ordered
      have tracks := ih earlier entry.1.time lately
      have present : entry.1.time ≤ now := past entry (List.mem_append_right _ (List.mem_singleton_self _))
      subst start
      rw [grantsOf_concat]
      refine Tracks.mono ?_ present
      by_cases same : normalizeLimiterAddress isIP entry.1.address = some limited
      · rw [if_pos same]
        exact tracks_own inRange restores same tracks served
      · rw [if_neg same]
        refine tracks_other inRange (run_sound before) ?_ tracks served
        intro normalized read equal
        exact same (read.trans (congrArg some (distinguishes _ _ _ _ read own equal)))

theorem run_bound (inRange : settings.InRange) (restores : Restores settings)
    (distinguishes : Distinguishes isIP hmac) {client limited : List Char}
    (own : normalizeLimiterAddress isIP client = some limited) {log : ConsumeLog}
    {buckets : List (Digest × Bucket)} (run : Run (Consumes isIP hmac settings) [] log buckets)
    (ordered : Ordered log) {start duration : ℚ} (nonneg : 0 ≤ duration) :
    grantCount isIP log limited start (start + duration) ≤
      settings.burst + (settings.refillPerMinute : ℚ) * duration / 60000 := by
  obtain ⟨now, past⟩ : ∃ now : ℚ, ∀ entry ∈ log, entry.1.time ≤ now := by
    rcases List.eq_nil_or_concat log with rfl | ⟨earlier, last, rfl⟩
    · exact ⟨0, nofun⟩
    · rw [List.concat_eq_append] at ordered ⊢
      refine ⟨last.1.time, fun entry member => ?_⟩
      cases List.mem_append.mp member with
      | inl before => exact (ordered_concat ordered).2 entry before
      | inr same => rw [List.mem_singleton.mp same]
  have tracks := run_tracks inRange restores distinguishes own run ordered now past
  have spans := tracks.spans inRange (le_add_of_nonneg_right nonneg : start ≤ start + duration)
  rw [within_grantsOf, add_sub_cancel_left, refillPerMs] at spans
  calc (grantCount isIP log limited start (start + duration) : ℚ)
      ≤ settings.burst + settings.refillPerMinute / 60000 * duration := spans
    _ = settings.burst + (settings.refillPerMinute : ℚ) * duration / 60000 := by ring

end Bound

section Waiting

variable {buckets after : List (Digest × Bucket)} {key : Digest} {call : ConsumeCall} {answer : AddressLimitResult}

/-- Whatever other keys do, the bucket waits unchanged or is forgotten. -/
theorem lookup_other (sound : Sound settings buckets)
    (other : ∀ normalized, normalizeLimiterAddress isIP call.address = some normalized → hmac normalized ≠ key)
    (served : consume isIP hmac settings buckets call = (answer, after)) :
    after.lookup key = buckets.lookup key ∨ after.lookup key = none := by
  have kept : (swept settings buckets call.time).lookup key = buckets.lookup key ∨
      (swept settings buckets call.time).lookup key = none := by
    rw [swept, lookup_filter sound.distinct]
    cases buckets.lookup key with
    | none => exact .inl rfl
    | some bucket =>
        rw [Option.filter_some]
        split
        · exact .inl rfl
        · exact .inr rfl
  obtain ⟨-, -, rfl⟩ | ⟨normalized, read, found | full | fresh⟩ := consume_cases served
  · exact .inl rfl
  · obtain ⟨bucket, -, charged⟩ := found
    obtain ⟨next, rfl, -⟩ := charge_cases charged
    exact .inl (lookup_replace_other (other normalized read).symm)
  · obtain ⟨-, -, -, rfl⟩ := full
    exact kept
  · obtain ⟨-, -, charged⟩ := fresh
    obtain ⟨next, rfl, -⟩ := charge_cases charged
    have different := (other normalized read).symm
    rw [lookup_replace_other different, lookup_concat_other different]
    exact kept

/-- The bucket of a refused key has what it lacks within the advised wait, or is gone. -/
def Waits (settings : AddressIpLimiterConfig) (buckets : List (Digest × Bucket)) (key : Digest) (since wait : ℚ) :
    Prop :=
  ∀ bucket, buckets.lookup key = some bucket →
    bucket.updatedAt = since ∧ 1 - bucket.tokens ≤ wait * refillPerMs settings

theorem refused_waits (inRange : settings.InRange) {normalized : List Char} {retry : Int}
    (read : normalizeLimiterAddress isIP call.address = some normalized)
    (served : consume isIP hmac settings buckets call = (.denied .rateLimited retry, after)) :
    Waits settings after (hmac normalized) call.time (1000 * retry) := by
  have charged : ∃ held bucket, held.lookup (hmac normalized) ≠ none ∧
      charge settings held (hmac normalized) bucket call.time = (.denied .rateLimited retry, after) := by
    obtain ⟨invalid, -⟩ | ⟨same, again, found | full | fresh⟩ := consume_cases served
    · rw [read] at invalid
      cases invalid
    · rw [read, Option.some_inj] at again
      subst again
      obtain ⟨bucket, found, charged⟩ := found
      exact ⟨buckets, bucket, by rw [found]; exact nofun, charged⟩
    · obtain ⟨-, -, ⟨wait, refused⟩, -⟩ := full
      cases refused
    · rw [read, Option.some_inj] at again
      subst again
      obtain ⟨absent, -, charged⟩ := fresh
      refine ⟨_, _, ?_, charged⟩
      rw [lookup_concat (swept_absent absent)]
      exact nofun
  obtain ⟨held, bucket, present, charged⟩ := charged
  obtain ⟨level, rfl, denied | allowed⟩ := charge_cases charged
  · obtain ⟨shape, -, advised⟩ := denied
    cases advised
    intro found lookup
    rw [lookup_replace_self present, Option.some_inj] at lookup
    subst lookup
    refine ⟨shape ▸ rfl, ?_⟩
    have rate := rate_pos inRange
    have ceiling := Int.le_ceil ((1 - level.tokens) / refillPerMs settings / 1000)
    have atLeast : (⌈(1 - level.tokens) / refillPerMs settings / 1000⌉ : ℚ) ≤
        ((max 1 ⌈(1 - level.tokens) / refillPerMs settings / 1000⌉ : Int) : ℚ) :=
      Int.cast_le.mpr (le_max_right _ _)
    have enough := ceiling.trans atLeast
    rw [div_le_iff₀ (by norm_num), div_le_iff₀ rate] at enough
    linarith
  · cases allowed.2.2

theorem waits_other (sound : Sound settings buckets) {since wait : ℚ}
    (other : ∀ normalized, normalizeLimiterAddress isIP call.address = some normalized → hmac normalized ≠ key)
    (waits : Waits settings buckets key since wait)
    (served : consume isIP hmac settings buckets call = (answer, after)) : Waits settings after key since wait := by
  intro bucket found
  cases lookup_other sound other served with
  | inl same => exact waits bucket (same ▸ found)
  | inr gone =>
      rw [gone] at found
      cases found

theorem waited_allowed (inRange : settings.InRange) {normalized : List Char} {since wait : ℚ}
    (read : normalizeLimiterAddress isIP call.address = some normalized)
    (waits : Waits settings buckets (hmac normalized) since wait) (waited : since + wait ≤ call.time)
    (served : consume isIP hmac settings buckets call = (answer, after)) :
    answer = .allowed ∨ ∃ retry, answer = .denied .limiterCapacity retry := by
  have burst := one_le_burst inRange
  have rate := (rate_pos inRange).le
  obtain ⟨-, refused, -⟩ | ⟨same, again, found | full | fresh⟩ := consume_cases served
  · exact .inr ⟨60, refused⟩
  · rw [read, Option.some_inj] at again
    subst again
    obtain ⟨bucket, found, charged⟩ := found
    obtain ⟨updated, advised⟩ := waits bucket found
    obtain ⟨level, -, denied | allowed⟩ := charge_cases charged
    · obtain ⟨shape, short, -⟩ := denied
      have enough := TokenBucket.refilled_enough burst rate advised (updated.symm ▸ waited)
      rw [shape] at short
      exact absurd short (not_lt.mpr enough)
    · exact .inl allowed.2.2
  · obtain ⟨-, -, ⟨retry, refused⟩, -⟩ := full
    exact .inr ⟨retry, refused⟩
  · obtain ⟨-, -, charged⟩ := fresh
    obtain ⟨level, -, denied | allowed⟩ := charge_cases charged
    · obtain ⟨shape, short, -⟩ := denied
      have full : 1 - (settings.burst : ℚ) ≤ 0 * refillPerMs settings := by linarith
      have present : (fullBucket settings call.time).updatedAt + 0 ≤ call.time := (add_zero _).le
      have enough := TokenBucket.refilled_enough burst rate full present
      rw [shape] at short
      exact absurd short (not_lt.mpr enough)
    · exact .inl allowed.2.2

/-- Nothing but the capacity refuses a key that waited as advised while it did not call. -/
theorem run_retry (inRange : settings.InRange) (distinguishes : Distinguishes isIP hmac) {front middle : ConsumeLog}
    {call next : ConsumeCall} {retry : Int} {answer : AddressLimitResult} {buckets : List (Digest × Bucket)}
    (run : Run (Consumes isIP hmac settings) []
      (front ++ (call, .denied .rateLimited retry) :: (middle ++ [(next, answer)])) buckets)
    (quiet : ∀ entry ∈ middle,
      normalizeLimiterAddress isIP entry.1.address ≠ normalizeLimiterAddress isIP call.address)
    (again : normalizeLimiterAddress isIP next.address = normalizeLimiterAddress isIP call.address)
    (waited : call.time + 1000 * retry ≤ next.time) :
    answer = .allowed ∨ ∃ wait, answer = .denied .limiterCapacity wait := by
  obtain ⟨before, first, rest⟩ := run.split
  obtain ⟨refused, served, later⟩ := rest.cons_inv
  obtain ⟨held, quietly, last⟩ := later.split
  have final : consume isIP hmac settings held next = (answer, buckets) := by
    obtain ⟨end', taken, nothing⟩ := last.cons_inv
    cases nothing.nil_eq
    exact taken
  cases read : normalizeLimiterAddress isIP call.address with
  | none =>
      rw [Consumes, consume, read] at served
      cases served
  | some normalized =>
      have waits := refused_waits inRange read served
      have sound : Sound settings refused := run_sound (first.snoc served)
      have kept : Sound settings held ∧ Waits settings held (hmac normalized) call.time (1000 * retry) := by
        clear final last later rest run
        induction quietly with
        | nil => exact ⟨sound, waits⟩
        | @snoc _ _ log entry _ taken ih =>
            obtain ⟨sound, waits⟩ := ih (fun entry member => quiet entry (List.mem_append_left _ member))
            refine ⟨consume_sound sound taken, waits_other sound ?_ waits taken⟩
            intro other own equal
            have same := distinguishes _ _ _ _ own read equal
            exact quiet entry (List.mem_append_right _ (List.mem_singleton_self _))
              (own.trans ((congrArg some same).trans read.symm))
      exact waited_allowed inRange (again.trans read) kept.2 waited final

end Waiting

section Eviction

variable {others buckets : List (Digest × Bucket)} {client normalized : List Char} {now tokens : ℚ}

theorem consume_held (read : normalizeLimiterAddress isIP client = some normalized)
    (absent : others.lookup (hmac normalized) = none) (enough : 1 ≤ tokens) (capped : tokens ≤ settings.burst) :
    consume isIP hmac settings (others ++ [(hmac normalized, ⟨⟨tokens, now⟩, now⟩)]) ⟨now, client⟩ =
      (.allowed, others ++ [(hmac normalized, ⟨⟨tokens - 1, now⟩, now⟩)]) := by
  have same : TokenBucket.refilled settings.burst (refillPerMs settings) ⟨tokens, now⟩ now = ⟨tokens, now⟩ := by
    rw [TokenBucket.refilled, sub_self, max_self, zero_mul, add_zero, min_eq_right capped]
  rw [consume, read]
  simp only [lookup_concat absent, charge, same]
  rw [if_neg (not_lt.mpr enough), replace_concat absent]
  rfl

theorem consume_fresh (read : normalizeLimiterAddress isIP client = some normalized)
    (absent : buckets.lookup (hmac normalized) = none)
    (room : (swept settings buckets now).length < settings.maxKeys) :
    consume isIP hmac settings buckets ⟨now, client⟩ =
      consume isIP hmac settings (swept settings buckets now ++ [(hmac normalized, fullBucket settings now)])
        ⟨now, client⟩ := by
  rw [consume, consume, read]
  simp only [absent, lookup_concat (swept_absent absent)]
  rw [if_neg (not_le.mpr room)]

theorem grant_all (read : normalizeLimiterAddress isIP client = some normalized)
    (absent : others.lookup (hmac normalized) = none) (count : Nat) (enough : count ≤ tokens)
    (capped : tokens ≤ settings.burst) :
    Run (Consumes isIP hmac settings) (others ++ [(hmac normalized, ⟨⟨tokens, now⟩, now⟩)])
      (List.replicate count (⟨now, client⟩, .allowed))
      (others ++ [(hmac normalized, ⟨⟨tokens - count, now⟩, now⟩)]) := by
  induction count generalizing tokens with
  | zero =>
      rw [Nat.cast_zero, sub_zero]
      exact .nil _
  | succ count ih =>
      rw [Nat.cast_succ] at enough
      have positive : (0 : ℚ) ≤ count := Nat.cast_nonneg count
      have rest := @ih (tokens - 1) (by linarith) (by linarith)
      have shape : tokens - 1 - count = tokens - (count + 1 : Nat) := by
        rw [Nat.cast_succ]
        ring
      rw [shape] at rest
      exact .cons (consume_held read absent (by linarith) capped) rest

theorem grant_burst (inRange : settings.InRange) (read : normalizeLimiterAddress isIP client = some normalized)
    (absent : buckets.lookup (hmac normalized) = none)
    (room : (swept settings buckets now).length < settings.maxKeys) :
    Run (Consumes isIP hmac settings) buckets (List.replicate settings.burst (⟨now, client⟩, .allowed))
      (swept settings buckets now ++ [(hmac normalized, ⟨⟨0, now⟩, now⟩)]) := by
  have kept : (swept settings buckets now).lookup (hmac normalized) = none := swept_absent absent
  have all : Run (Consumes isIP hmac settings)
      (swept settings buckets now ++ [(hmac normalized, ⟨⟨settings.burst, now⟩, now⟩)])
      (List.replicate settings.burst (⟨now, client⟩, .allowed))
      (swept settings buckets now ++ [(hmac normalized, ⟨⟨settings.burst - settings.burst, now⟩, now⟩)]) :=
    grant_all read kept settings.burst (le_refl _) (le_refl _)
  rw [sub_self] at all
  obtain ⟨count, shape⟩ : ∃ count, settings.burst = count + 1 :=
    ⟨settings.burst - 1, by have := inRange.burst; omega⟩
  rw [shape, List.replicate_succ] at all ⊢
  obtain ⟨after, first, rest⟩ := all.cons_inv
  refine .cons ?_ rest
  rw [Consumes, consume_fresh read absent room, fullBucket, shape]
  exact first

/-- A burst, another key's call once the bucket is idle, and the burst again. -/
def overgranting (settings : AddressIpLimiterConfig) (client other : List Char) : ConsumeLog :=
  List.replicate settings.burst (⟨0, client⟩, .allowed) ++ (⟨settings.idleTtlMs, other⟩, .allowed) ::
    List.replicate settings.burst
      (⟨settings.idleTtlMs * if settings.maxKeys = 1 then 2 else 1, client⟩, .allowed)

theorem overgranting_run (inRange : settings.InRange) (distinguishes : Distinguishes isIP hmac)
    {other otherKey : List Char} (read : normalizeLimiterAddress isIP client = some normalized)
    (otherRead : normalizeLimiterAddress isIP other = some otherKey) (different : normalized ≠ otherKey) :
    ∃ buckets, Run (Consumes isIP hmac settings) [] (overgranting settings client other) buckets := by
  have keys : hmac otherKey ≠ hmac normalized :=
    fun same => different (distinguishes _ _ _ _ otherRead read same).symm
  have positive : (0 : ℚ) < settings.idleTtlMs := Nat.cast_pos.mpr (by have := inRange.idleTtlMs; omega)
  have room : 0 < settings.maxKeys := inRange.maxKeys.1
  have first : Run (Consumes isIP hmac settings) [] (List.replicate settings.burst (⟨0, client⟩, .allowed))
      [(hmac normalized, ⟨⟨0, 0⟩, 0⟩)] := grant_burst inRange read rfl room
  have emptied : swept settings [(hmac normalized, (⟨⟨0, 0⟩, 0⟩ : Bucket))] settings.idleTtlMs = [] := by
    simp [swept]
  have elsewhere : [(hmac normalized, (⟨⟨0, 0⟩, 0⟩ : Bucket))].lookup (hmac otherKey) = none := by
    simp [keys]
  have second : consume isIP hmac settings [(hmac normalized, ⟨⟨0, 0⟩, 0⟩)] ⟨settings.idleTtlMs, other⟩ =
      (.allowed, [(hmac otherKey, ⟨⟨settings.burst - 1, settings.idleTtlMs⟩, settings.idleTtlMs⟩)]) := by
    have space : (swept settings [(hmac normalized, (⟨⟨0, 0⟩, 0⟩ : Bucket))] settings.idleTtlMs).length <
        settings.maxKeys := by
      rw [emptied]
      exact room
    rw [consume_fresh otherRead elsewhere space, emptied]
    exact consume_held otherRead rfl (one_le_burst inRange) (le_refl _)
  have absent : [(hmac otherKey, (⟨⟨settings.burst - 1, settings.idleTtlMs⟩, settings.idleTtlMs⟩ : Bucket))].lookup
      (hmac normalized) = none := by
    simp [keys.symm]
  have again : (swept settings [(hmac otherKey, ⟨⟨settings.burst - 1, settings.idleTtlMs⟩, settings.idleTtlMs⟩)]
      (settings.idleTtlMs * if settings.maxKeys = 1 then 2 else 1)).length < settings.maxKeys := by
    by_cases one : settings.maxKeys = 1
    · have gone : (settings.idleTtlMs : ℚ) ≤ settings.idleTtlMs * 2 - settings.idleTtlMs := by linarith
      simp [swept, one, gone]
    · refine (List.length_filter_le _ _).trans_lt ?_
      rw [List.length_singleton]
      omega
  have third := grant_burst inRange read absent again
  exact ⟨_, first.append (.cons second third)⟩

theorem overgranting_ordered (other : List Char) : Ordered (overgranting settings client other) := by
  have positive : (0 : ℚ) ≤ settings.idleTtlMs := Nat.cast_nonneg _
  have later : (settings.idleTtlMs : ℚ) ≤ settings.idleTtlMs * if settings.maxKeys = 1 then 2 else 1 := by
    split <;> linarith
  rw [Ordered, overgranting, List.map_append, List.map_cons, List.map_replicate, List.map_replicate,
    List.pairwise_append, List.pairwise_cons]
  refine ⟨List.pairwise_replicate.mpr (.inr (le_refl _)), ⟨?_, List.pairwise_replicate.mpr (.inr (le_refl _))⟩, ?_⟩
  · intro time member
    rw [List.eq_of_mem_replicate member]
    exact later
  · intro early first late second
    rw [List.eq_of_mem_replicate first]
    cases List.mem_cons.mp second with
    | inl same => exact same ▸ positive
    | inr last => exact List.eq_of_mem_replicate last ▸ positive.trans later

theorem overgranting_count (read : normalizeLimiterAddress isIP client = some normalized) (other : List Char) :
    settings.burst + settings.burst ≤ grantCount isIP (overgranting settings client other) normalized 0
      (0 + settings.idleTtlMs * if settings.maxKeys = 1 then 2 else 1) := by
  have positive : (0 : ℚ) ≤ settings.idleTtlMs * if settings.maxKeys = 1 then 2 else 1 := by
    split <;> positivity
  rw [grantCount, overgranting, List.countP_append, List.countP_cons, List.countP_replicate, List.countP_replicate,
    zero_add]
  simp only [read, positive, le_refl, true_and, and_self, decide_true, if_true]
  omega

end Eviction

section Limits

/-- A run keeps the limits: grants within the burst and the refill, no more buckets than
keys allowed, and an advised wait after which only the capacity refuses. -/
def KeepsLimits (isIP : List Char → Nat) (settings : AddressIpLimiterConfig) (log : ConsumeLog)
    (buckets : List (Digest × Bucket)) : Prop :=
  (∀ client limited, normalizeLimiterAddress isIP client = some limited → ∀ start duration : ℚ, 0 ≤ duration →
    grantCount isIP log limited start (start + duration) ≤
      settings.burst + (settings.refillPerMinute : ℚ) * duration / 60000) ∧
  buckets.length ≤ settings.maxKeys ∧
  ∀ (front middle : ConsumeLog) (call next : ConsumeCall) (retry : Int) (answer : AddressLimitResult),
    log = front ++ (call, .denied .rateLimited retry) :: (middle ++ [(next, answer)]) →
    (∀ entry ∈ middle, normalizeLimiterAddress isIP entry.1.address ≠ normalizeLimiterAddress isIP call.address) →
    normalizeLimiterAddress isIP next.address = normalizeLimiterAddress isIP call.address →
    call.time + 1000 * retry ≤ next.time →
    answer = .allowed ∨ ∃ wait, answer = .denied .limiterCapacity wait

theorem restores_keeps (inRange : settings.InRange) (restores : Restores settings)
    (distinguishes : Distinguishes isIP hmac) {log : ConsumeLog} {buckets : List (Digest × Bucket)}
    (run : Run (Consumes isIP hmac settings) [] log buckets) (ordered : Ordered log) :
    KeepsLimits isIP settings log buckets := by
  refine ⟨?_, (run_sound run).size, ?_⟩
  · intro client limited own start duration nonneg
    exact run_bound inRange restores distinguishes own run ordered nonneg
  · intro front middle call next retry answer shape quiet again waited
    subst shape
    exact run_retry inRange distinguishes run quiet again waited

omit [DecidableEq Digest] in
theorem overgranting_breaks {client other normalized : List Char}
    (read : normalizeLimiterAddress isIP client = some normalized) (broken : ¬ Restores settings)
    (buckets : List (Digest × Bucket)) :
    ¬ KeepsLimits isIP settings (overgranting settings client other) buckets := by
  intro keeps
  apply broken
  have nonneg : (0 : ℚ) ≤ settings.idleTtlMs * if settings.maxKeys = 1 then 2 else 1 := by
    split <;> positivity
  have bound := keeps.1 client normalized read 0 _ nonneg
  have count : settings.burst + settings.burst ≤ grantCount isIP
    (overgranting settings client other) normalized 0 _ :=
    overgranting_count read other
  have paid := (Nat.cast_le.mpr count).trans bound
  rw [Nat.cast_add, add_le_add_iff_left, le_div_iff₀ (by norm_num)] at paid
  rw [Restores]
  exact_mod_cast paid

/-- The address of the family 10.0.0.x that ends in `last`. -/
def localAddress (last : Nat) (small : last < 256) : Ipv4 where
  octets := [10, 0, 0, last]
  count := rfl
  small := by simp [small]

theorem localAddress_key (answers : ByGrammar isIP) (last : Nat) (small : last < 256) :
    normalizeLimiterAddress isIP (localAddress last small).text =
      some ('v' :: '4' :: ':' :: (localAddress last small).text) := by
  have parsed := parse_denotes answers (.four (localAddress last small))
  rw [normalizeLimiterAddress, parsed, Option.map_some]
  simp only [parsedAs, Ipv4.normal]

/-- With the accepted settings, every run keeps the limits exactly when an idle bucket
would be full by the time its key can get a new one. -/
theorem limits_kept_iff (answers : ByGrammar isIP) (hmac : List UInt8 → List Char → Digest) {secret : List UInt8}
    (distinguishes : Distinguishes isIP (hmac secret)) {env : String → Option String} {production : Bool}
    (accepted : createAddressIpLimiterConfig env production = .ok settings) {initial : List (Digest × Bucket)}
    (created : createAddressIpLimiter settings secret = .ok initial) :
    (∀ log buckets, Run (Consumes isIP (hmac secret) settings) initial log buckets → Ordered log →
      KeepsLimits isIP settings log buckets) ↔
    settings.burst * 60000 ≤ settings.refillPerMinute *
      (settings.idleTtlMs * if settings.maxKeys = 1 then 2 else 1) := by
  have inRange := createAddressIpLimiterConfig_inRange accepted
  have empty : initial = [] := by
    rw [createAddressIpLimiter] at created
    split at created
    · cases created
    · cases created
      rfl
  subst empty
  constructor
  · intro always
    by_contra broken
    have different : 'v' :: '4' :: ':' :: (localAddress 1 (by decide)).text ≠
        'v' :: '4' :: ':' :: (localAddress 2 (by decide)).text := by decide
    have read := localAddress_key answers 1 (by decide)
    have otherRead := localAddress_key answers 2 (by decide)
    obtain ⟨buckets, run⟩ := overgranting_run inRange distinguishes read otherRead different
    exact overgranting_breaks read broken buckets (always _ buckets run (overgranting_ordered _))
  · intro restores log buckets run ordered
    exact restores_keeps inRange restores distinguishes run ordered

/-- The default settings refill a whole bucket in twenty seconds and forget it after two minutes. -/
theorem defaults_keep_limits :
    createAddressIpLimiterConfig (fun _ => none) false = .ok ⟨10, 30, 8192, 120000⟩ ∧
      ∀ (log : ConsumeLog) (buckets : List (List Char × Bucket)),
        Run (Consumes netIsIP (fun text => text) ⟨10, 30, 8192, 120000⟩) [] log buckets → Ordered log →
          KeepsLimits netIsIP ⟨10, 30, 8192, 120000⟩ log buckets :=
  ⟨rfl, (@limits_kept_iff (List Char) _ netIsIP _ netIsIP_answers (fun _ text => text) (List.replicate 32 0)
    (fun _ _ _ _ _ _ same => same) (fun _ => none) false rfl [] rfl).mpr (by decide)⟩

/-- Two requests at a time, one a minute after that, and idle after a second. -/
def briefEnv (key : String) : Option String :=
  if key = "ADDRESS_IP_BUCKET_BURST" then some "2"
  else if key = "ADDRESS_IP_REFILL_PER_MINUTE" then some "1"
  else if key = "ADDRESS_IP_MAX_KEYS" then some "2"
  else if key = "ADDRESS_IP_IDLE_TTL_MS" then some "1000"
  else none

def briefSettings : AddressIpLimiterConfig := ⟨2, 1, 2, 1000⟩

/-- Four grants to 10.0.0.1 within a second, after a call of 10.0.0.2. -/
theorem brief_overgrants :
    createAddressIpLimiterConfig briefEnv false = .ok briefSettings ∧
      ¬ ∀ log buckets, Run (Consumes netIsIP (fun text => text) briefSettings) [] log buckets → Ordered log →
        KeepsLimits netIsIP briefSettings log buckets := by
  refine ⟨by decide, fun always => ?_⟩
  have inRange : briefSettings.InRange := ⟨by decide, by decide, by decide, by decide⟩
  have read := localAddress_key netIsIP_answers 1 (by decide)
  have otherRead := localAddress_key netIsIP_answers 2 (by decide)
  have granted : ∃ buckets, Run (Consumes netIsIP (fun text => text) briefSettings) []
      (overgranting briefSettings (localAddress 1 (by decide)).text (localAddress 2 (by decide)).text) buckets :=
    overgranting_run inRange (fun _ _ _ _ _ _ same => same) read otherRead (by decide)
  obtain ⟨buckets, run⟩ := granted
  exact overgranting_breaks read (by decide) buckets (always _ buckets run (overgranting_ordered _))

end Limits

end PublicLighting.ClientAddress
