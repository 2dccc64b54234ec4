import PublicLighting.ClientAddress.Parsing
import PublicLighting.Foundations.DecimalText
import PublicLighting.Foundations.Entries
import PublicLighting.Foundations.Runs
import PublicLighting.Foundations.TokenBuckets
import Mathlib.Data.Rat.Floor

/-! The process-local limiter of address requests, on a clock of exact rational
milliseconds. `hmac` is the keyed digest of `node:crypto`. -/

namespace PublicLighting.ClientAddress

open Foundations (Run TokenBucket Entries.replace)
open Foundations.DecimalText (isDigits)

structure AddressIpLimiterConfig where
  burst : Nat
  refillPerMinute : Nat
  maxKeys : Nat
  idleTtlMs : Nat
  deriving DecidableEq

section Config

def integerSetting (env : String → Option String) (key : String) (fallback minimum maximum : Nat)
    (requireExplicit : Bool) : Except String Nat :=
  match env key with
  | none => if requireExplicit then .error s!"{key} must be explicitly configured in production." else .ok fallback
  | some raw =>
      if raw.toList = [] ∨ isDigits raw.toList = false then .error s!"{key} must be an integer."
      else
        let value := Nat.ofDigitChars 10 raw.toList 0
        if value < minimum ∨ value > maximum then .error s!"{key} is outside its allowed range." else .ok value

def createAddressIpLimiterConfig (env : String → Option String) (production : Bool) :
    Except String AddressIpLimiterConfig := do
  let burst ← integerSetting env "ADDRESS_IP_BUCKET_BURST" 10 1 100 production
  let refillPerMinute ← integerSetting env "ADDRESS_IP_REFILL_PER_MINUTE" 30 1 600 production
  let maxKeys ← integerSetting env "ADDRESS_IP_MAX_KEYS" 8192 1 100000 production
  let idleTtlMs ← integerSetting env "ADDRESS_IP_IDLE_TTL_MS" 120000 1000 3600000 production
  return { burst, refillPerMinute, maxKeys, idleTtlMs }

structure AddressIpLimiterConfig.InRange (settings : AddressIpLimiterConfig) : Prop where
  burst : 1 ≤ settings.burst ∧ settings.burst ≤ 100
  refillPerMinute : 1 ≤ settings.refillPerMinute ∧ settings.refillPerMinute ≤ 600
  maxKeys : 1 ≤ settings.maxKeys ∧ settings.maxKeys ≤ 100000
  idleTtlMs : 1000 ≤ settings.idleTtlMs ∧ settings.idleTtlMs ≤ 3600000

theorem integerSetting_range {env : String → Option String} {key : String} {fallback minimum maximum value : Nat}
    {requireExplicit : Bool} (lawful : minimum ≤ fallback ∧ fallback ≤ maximum)
    (accepted : integerSetting env key fallback minimum maximum requireExplicit = .ok value) :
    minimum ≤ value ∧ value ≤ maximum := by
  rw [integerSetting] at accepted
  cases set : env key with
  | none =>
      simp only [set] at accepted
      cases requireExplicit with
      | true => cases accepted
      | false =>
          cases accepted
          exact lawful
  | some raw =>
      simp only [set] at accepted
      split at accepted
      · cases accepted
      · split at accepted
        · cases accepted
        · rename_i inside
          cases accepted
          omega

theorem createAddressIpLimiterConfig_inRange {env : String → Option String} {production : Bool}
    {settings : AddressIpLimiterConfig} (accepted : createAddressIpLimiterConfig env production = .ok settings) :
    settings.InRange := by
  rw [createAddressIpLimiterConfig] at accepted
  cases first : integerSetting env "ADDRESS_IP_BUCKET_BURST" 10 1 100 production with
  | error _ => rw [first] at accepted; cases accepted
  | ok burst =>
      cases second : integerSetting env "ADDRESS_IP_REFILL_PER_MINUTE" 30 1 600 production with
      | error _ => rw [first, second] at accepted; cases accepted
      | ok refillPerMinute =>
          cases third : integerSetting env "ADDRESS_IP_MAX_KEYS" 8192 1 100000 production with
          | error _ => rw [first, second, third] at accepted; cases accepted
          | ok maxKeys =>
              cases fourth : integerSetting env "ADDRESS_IP_IDLE_TTL_MS" 120000 1000 3600000 production with
              | error _ => rw [first, second, third, fourth] at accepted; cases accepted
              | ok idleTtlMs =>
                  rw [first, second, third, fourth] at accepted
                  cases accepted
                  exact ⟨integerSetting_range (by decide) first, integerSetting_range (by decide) second,
                    integerSetting_range (by decide) third, integerSetting_range (by decide) fourth⟩

end Config

structure Bucket extends TokenBucket where
  lastSeenAt : ℚ

inductive AddressLimitCode
  | rateLimited
  | limiterCapacity
  deriving DecidableEq

inductive AddressLimitResult
  | allowed
  | denied (code : AddressLimitCode) (retryAfterSeconds : Int)
  deriving DecidableEq

structure ConsumeCall where
  time : ℚ
  address : List Char

section Consume

variable {Digest : Type}

def refillPerMs (settings : AddressIpLimiterConfig) : ℚ := settings.refillPerMinute / 60000

/-- The map of buckets that a new limiter starts from. -/
def createAddressIpLimiter (settings : AddressIpLimiterConfig) (secret : List UInt8) :
    Except String (List (Digest × Bucket)) :=
  if settings.burst < 1 ∨ settings.refillPerMinute < 1 ∨ settings.maxKeys < 1 ∨ settings.idleTtlMs < 1 ∨
      secret.length ≠ 32 then
    .error "Invalid address limiter settings."
  else .ok []

variable [DecidableEq Digest]

/-- The refill, the check and the charge on the bucket of a key. -/
def charge (settings : AddressIpLimiterConfig) (buckets : List (Digest × Bucket)) (key : Digest) (bucket : Bucket)
    (currentTime : ℚ) : AddressLimitResult × List (Digest × Bucket) :=
  let refilled := bucket.toTokenBucket.refilled settings.burst (refillPerMs settings) currentTime
  if refilled.tokens < 1 then
    let retryAfterSeconds := max 1 ⌈(1 - refilled.tokens) / refillPerMs settings / 1000⌉
    (.denied .rateLimited retryAfterSeconds, Entries.replace buckets key ⟨refilled, currentTime⟩)
  else (.allowed, Entries.replace buckets key ⟨refilled.taken, currentTime⟩)

def swept (settings : AddressIpLimiterConfig) (buckets : List (Digest × Bucket)) (currentTime : ℚ) :
    List (Digest × Bucket) :=
  buckets.filter fun entry => ¬ currentTime - entry.2.lastSeenAt ≥ settings.idleTtlMs

def fullBucket (settings : AddressIpLimiterConfig) (currentTime : ℚ) : Bucket :=
  ⟨⟨settings.burst, currentTime⟩, currentTime⟩

def consume (isIP : List Char → Nat) (hmac : List Char → Digest) (settings : AddressIpLimiterConfig)
    (buckets : List (Digest × Bucket)) (call : ConsumeCall) : AddressLimitResult × List (Digest × Bucket) :=
  match normalizeLimiterAddress isIP call.address with
  | none => (.denied .limiterCapacity 60, buckets)
  | some normalized =>
      let key := hmac normalized
      match buckets.lookup key with
      | some bucket => charge settings buckets key bucket call.time
      | none =>
          let kept := swept settings buckets call.time
          if kept.length ≥ settings.maxKeys then
            (.denied .limiterCapacity (max 1 ⌈(settings.idleTtlMs : ℚ) / 1000⌉), kept)
          else
            let bucket := fullBucket settings call.time
            charge settings (kept ++ [(key, bucket)]) key bucket call.time

def Consumes (isIP : List Char → Nat) (hmac : List Char → Digest) (settings : AddressIpLimiterConfig)
    (buckets : List (Digest × Bucket)) (entry : ConsumeCall × AddressLimitResult)
    (after : List (Digest × Bucket)) : Prop :=
  consume isIP hmac settings buckets entry.1 = (entry.2, after)

end Consume

end PublicLighting.ClientAddress
