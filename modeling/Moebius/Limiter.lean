import Moebius.Models
import Moebius.TokenBucket

/-!
The rate limiter, with its numbers read as exact rationals: a token bucket per key, and from time to
time the buckets that were idle for long are thrown away.

A bucket that is thrown away would have been full by the time its key comes back, and a key without
a bucket gets a full one.
-/

namespace Moebius.RateLimit

open TokenBucket List Option

structure BucketConfig where
  /-- Tokens per second. -/
  rate : ℚ
  burst : ℤ

structure Bucket where
  tokens : ℚ
  lastTime : Time

structure KeyedLimiter where
  buckets : String → Option Bucket := fun _ => none
  rate : ℚ
  burst : ℚ
  ttl : Time
  calls : ℕ := 0

def newKeyedLimiter (cfg : BucketConfig) (cleanupTTL : Time) : KeyedLimiter :=
  { rate := cfg.rate, burst := cfg.burst, ttl := cleanupTTL }

/-- Whether the request is allowed and, if not, the nanoseconds until a token is there. -/
structure Answer where
  allowed : Bool
  wait : ℚ
  deriving DecidableEq

def seconds (d : Time) : ℚ := d / second

namespace KeyedLimiter

variable (kl : KeyedLimiter) (key : String) (now : Time)

def level : ℚ :=
  let b := (kl.buckets key).getD { tokens := kl.burst, lastTime := now }
  refill kl.burst kl.rate b.tokens (seconds (now - b.lastTime))

def put (b : Bucket) : KeyedLimiter :=
  { kl with buckets := fun k => if k = key then some b else kl.buckets k }

/-- `Allow` without the cleanup. -/
def serve : Answer × KeyedLimiter :=
  let tokens := kl.level key now
  if 1 ≤ tokens then (⟨true, 0⟩, kl.put key { tokens := tokens - 1, lastTime := now })
  else (⟨false, (1 - tokens) / kl.rate * second⟩, kl.put key { tokens, lastTime := now })

def maybeCleanup (kl : KeyedLimiter) : KeyedLimiter :=
  let calls := kl.calls + 1
  if calls < 1024 then { kl with calls }
  else
    let cutoff := now - kl.ttl
    { kl with
      calls := 0
      buckets := fun k => (kl.buckets k).filter fun b => !decide (b.lastTime < cutoff) }

def allow : Answer × KeyedLimiter :=
  let (answer, kl) := kl.serve key now
  (answer, kl.maybeCleanup now)

end KeyedLimiter

def answers (f : KeyedLimiter → String → Time → Answer × KeyedLimiter) :
    KeyedLimiter → List (String × Time) → List Answer
  | _, [] => []
  | kl, (key, now) :: calls => (f kl key now).1 :: answers f (f kl key now).2 calls

/-- In the idle lifetime an empty bucket fills up. -/
structure Covers (cfg : BucketConfig) (cleanupTTL : Time) : Prop where
  rate_pos : 0 < cfg.rate
  burst_nonneg : 0 ≤ cfg.burst
  covers : (cfg.burst : ℚ) ≤ cfg.rate * seconds cleanupTTL

/-! ### With and without eviction -/

lemma seconds_nonneg {d : Time} (h : 0 ≤ d) : 0 ≤ seconds d := by
  have hd : (0 : ℚ) ≤ d := by exact_mod_cast h
  have hs : (0 : ℚ) ≤ (second : ℤ) := by decide
  exact div_nonneg hd hs

lemma seconds_mono {a b : Time} (h : a ≤ b) : seconds a ≤ seconds b := by
  have hab : (a : ℚ) ≤ b := by exact_mod_cast h
  have hs : (0 : ℚ) ≤ (second : ℤ) := by decide
  exact div_le_div_of_nonneg_right hab hs

/-- The bucket holds no debt and was last used at `now` at the latest. -/
def Sound (now : Time) (b : Bucket) : Prop := 0 ≤ b.tokens ∧ b.lastTime ≤ now

lemma KeyedLimiter.level_nonneg {kl : KeyedLimiter} {key : String} {now : Time}
    (hrate : 0 ≤ kl.rate) (hburst : 0 ≤ kl.burst)
    (hsound : ∀ b, kl.buckets key = some b → Sound now b) : 0 ≤ kl.level key now := by
  rcases hb : kl.buckets key with _ | b
  · simp only [level, hb, getD_none]
    exact refill_nonneg hburst hrate hburst (seconds_nonneg (by simp))
  · obtain ⟨htokens, hlast⟩ := hsound b hb
    simp only [level, hb, getD_some]
    exact refill_nonneg hburst hrate htokens (seconds_nonneg (by linarith))

lemma forall_put {kl : KeyedLimiter} {key : String} {b : Bucket} {P : Bucket → Prop}
    (h : ∀ k b, kl.buckets k = some b → P b) (hb : P b) :
    ∀ k b', (kl.put key b).buckets k = some b' → P b' := by
  intro k b' hb'
  simp only [KeyedLimiter.put] at hb'
  split at hb'
  · cases hb'
    exact hb
  · exact h k b' hb'

/-- A limiter `kl` that evicts beside one that keeps every bucket, at `now`: a bucket is missing in
`kl` only if it has been idle for the lifetime. -/
structure Beside (cfg : BucketConfig) (ttl now : Time) (kl kept : KeyedLimiter) : Prop where
  rate : kl.rate = cfg.rate ∧ kept.rate = cfg.rate
  burst : kl.burst = cfg.burst ∧ kept.burst = cfg.burst
  ttl_eq : kl.ttl = ttl
  sound : ∀ k b, kept.buckets k = some b → Sound now b
  missing : ∀ k, kl.buckets k = kept.buckets k ∨
    kl.buckets k = none ∧ ∃ b, kept.buckets k = some b ∧ b.lastTime < now - ttl

namespace Beside

variable {cfg : BucketConfig} {ttl now now' : Time} {kl kept : KeyedLimiter}

lemma new (cfg : BucketConfig) (ttl now : Time) :
    Beside cfg ttl now (newKeyedLimiter cfg ttl) (newKeyedLimiter cfg ttl) where
  rate := ⟨rfl, rfl⟩
  burst := ⟨rfl, rfl⟩
  ttl_eq := rfl
  sound k b hb := by cases hb
  missing k := .inl rfl

lemma later (h : Beside cfg ttl now kl kept) (hle : now ≤ now') : Beside cfg ttl now' kl kept where
  rate := h.rate
  burst := h.burst
  ttl_eq := h.ttl_eq
  sound k b hb := ⟨(h.sound k b hb).1, (h.sound k b hb).2.trans hle⟩
  missing k := by
    rcases h.missing k with hsame | ⟨hnone, b, hb, hidle⟩
    · exact .inl hsame
    · exact .inr ⟨hnone, b, hb, by linarith⟩

lemma level_eq (hcfg : Covers cfg ttl) (h : Beside cfg ttl now kl kept) (key : String) :
    kl.level key now = kept.level key now := by
  have hrate : 0 ≤ kept.rate := by
    rw [h.rate.2]
    exact hcfg.rate_pos.le
  rcases h.missing key with hsame | ⟨hnone, b, hb, hidle⟩
  · simp only [KeyedLimiter.level, hsame, h.rate.1, h.rate.2, h.burst.1, h.burst.2]
  · have htokens := (h.sound key b hb).1
    have hlong : seconds ttl ≤ seconds (now - b.lastTime) := seconds_mono (by linarith)
    have hkept : kept.level key now = kept.burst := by
      simp only [KeyedLimiter.level, hb, getD_some]
      refine refill_of_idle hrate htokens hlong ?_
      rw [h.burst.2, h.rate.2]
      exact hcfg.covers
    have hnew : kl.level key now = kl.burst := by
      have hzero : seconds (now - now) = 0 := by simp [seconds]
      simp only [KeyedLimiter.level, hnone, getD_none, hzero]
      exact refill_full kl.burst kl.rate
    rw [hkept, hnew, h.burst.1, h.burst.2]

lemma level_nonneg (hcfg : Covers cfg ttl) (h : Beside cfg ttl now kl kept) (key : String) :
    0 ≤ kept.level key now := by
  have hrate : 0 ≤ kept.rate := by
    rw [h.rate.2]
    exact hcfg.rate_pos.le
  have hburst : 0 ≤ kept.burst := by
    rw [h.burst.2]
    exact_mod_cast hcfg.burst_nonneg
  exact KeyedLimiter.level_nonneg hrate hburst (h.sound key)

lemma put (h : Beside cfg ttl now kl kept) (key : String) {b : Bucket} (hb : Sound now b) :
    Beside cfg ttl now (kl.put key b) (kept.put key b) where
  rate := h.rate
  burst := h.burst
  ttl_eq := h.ttl_eq
  sound := forall_put h.sound hb
  missing k := by
    simp only [KeyedLimiter.put]
    split
    · exact .inl rfl
    · exact h.missing k

lemma maybeCleanup (h : Beside cfg ttl now kl kept) :
    Beside cfg ttl now (kl.maybeCleanup now) kept := by
  unfold KeyedLimiter.maybeCleanup
  dsimp only
  split
  · exact ⟨h.rate, h.burst, h.ttl_eq, h.sound, h.missing⟩
  refine ⟨h.rate, h.burst, h.ttl_eq, h.sound, fun k => ?_⟩
  dsimp only
  rw [h.ttl_eq]
  rcases h.missing k with hsame | ⟨hnone, hidle⟩
  · rw [hsame]
    rcases hb : kept.buckets k with _ | b
    · exact .inl rfl
    by_cases hold : b.lastTime < now - ttl
    · exact .inr ⟨by simp [Option.filter, hold], b, rfl, hold⟩
    · exact .inl (by simp [Option.filter, hold])
  · rw [hnone]
    exact .inr ⟨rfl, hidle⟩

lemma serve (hcfg : Covers cfg ttl) (h : Beside cfg ttl now kl kept) (key : String) :
    (kl.serve key now).1 = (kept.serve key now).1 ∧
      Beside cfg ttl now (kl.serve key now).2 (kept.serve key now).2 := by
  have hlevel := h.level_eq hcfg key
  have hnonneg := h.level_nonneg hcfg key
  unfold KeyedLimiter.serve
  dsimp only
  rw [hlevel, h.rate.1, h.rate.2]
  split
  · rename_i hone
    exact ⟨rfl, h.put key ⟨sub_nonneg.mpr hone, le_refl now⟩⟩
  · exact ⟨rfl, h.put key ⟨hnonneg, le_refl now⟩⟩

lemma answers_eq (hcfg : Covers cfg ttl) {calls : List (String × Time)}
    (hmono : calls.Pairwise fun a b => a.2 ≤ b.2) (hnow : ∀ c ∈ calls, now ≤ c.2)
    (h : Beside cfg ttl now kl kept) :
    answers KeyedLimiter.allow kl calls = answers KeyedLimiter.serve kept calls := by
  induction calls generalizing now kl kept with
  | nil => rfl
  | cons c calls ih =>
    obtain ⟨key, at'⟩ := c
    obtain ⟨hlater, hrest⟩ := pairwise_cons.mp hmono
    have hstep := (h.later (hnow _ mem_cons_self)).serve hcfg key
    have hanswer : (kl.allow key at').1 = (kept.serve key at').1 := hstep.1
    have hbeside : Beside cfg ttl at' (kl.allow key at').2 (kept.serve key at').2 :=
      hstep.2.maybeCleanup
    rw [answers, answers, hanswer, ih hrest hlater hbeside]

end Beside

/-- **Eviction is unobservable.** To calls over any keys, at times that never go back, a new limiter
gives the answers, waits included, that it would give if it threw no bucket away. -/
theorem eviction_unobservable (cfg : BucketConfig) (cleanupTTL : Time)
    (hcfg : Covers cfg cleanupTTL) (calls : List (String × Time))
    (hmono : calls.Pairwise fun a b => a.2 ≤ b.2) :
    answers KeyedLimiter.allow (newKeyedLimiter cfg cleanupTTL) calls =
      answers KeyedLimiter.serve (newKeyedLimiter cfg cleanupTTL) calls := by
  rcases calls with _ | ⟨c, calls⟩
  · rfl
  -- the first call is the earliest
  have hfirst : ∀ d ∈ c :: calls, c.2 ≤ d.2 := by
    intro d hd
    rcases mem_cons.mp hd with rfl | hd
    · exact le_refl _
    · exact (pairwise_cons.mp hmono).1 d hd
  exact (Beside.new cfg cleanupTTL c.2).answers_eq hcfg hmono hfirst

/-- The limits `Load` puts in place when the environment says nothing. -/
structure Limits where
  rateLimitPerIPRPM : ℤ := 60
  rateLimitPerIPBurst : ℤ := 10
  rateLimitPerTenantRPM : ℤ := 600
  rateLimitPerTenantBurst : ℤ := 50
  rateLimitAgentCheckinRPM : ℤ := 6
  rateLimitAgentCheckinBurst : ℤ := 3

def minute : Time := 60 * second

namespace Limits

variable (cfg : Limits)

def perIPLimiter : BucketConfig × Time :=
  (⟨cfg.rateLimitPerIPRPM / 60, cfg.rateLimitPerIPBurst⟩, 10 * minute)

def perTenantLimiter : BucketConfig × Time :=
  (⟨cfg.rateLimitPerTenantRPM / 60, cfg.rateLimitPerTenantBurst⟩, 60 * minute)

def perAgentCheckinLimiter : BucketConfig × Time :=
  (⟨cfg.rateLimitAgentCheckinRPM / 60, cfg.rateLimitAgentCheckinBurst⟩, 30 * minute)

/-- The limiters of `runServer`, with their idle lifetimes. -/
def limiters : List (BucketConfig × Time) :=
  [cfg.perIPLimiter, cfg.perTenantLimiter, cfg.perAgentCheckinLimiter]

lemma covers_default : ∀ l ∈ ({} : Limits).limiters, Covers l.1 l.2 := by
  intro l hl
  simp only [limiters, mem_cons, not_mem_nil, or_false] at hl
  rcases hl with rfl | rfl | rfl
  · constructor <;> norm_num [perIPLimiter, seconds, minute, second]
  · constructor <;> norm_num [perTenantLimiter, seconds, minute, second]
  · constructor <;> norm_num [perAgentCheckinLimiter, seconds, minute, second]

end Limits

def Sample.calls : List (String × Time) :=
  replicate 1023 ("a", 0) ++ [("b", 120 * minute), ("a", 120 * minute)]

lemma Sample.calls_mono : calls.Pairwise fun a b => a.2 ≤ b.2 := by
  refine pairwise_append.mpr ⟨pairwise_replicate.mpr (.inr (le_refl _)), ?_, ?_⟩
  · decide
  · intro a ha b hb
    rw [(mem_replicate.mp ha).2]
    simp only [mem_cons, not_mem_nil, or_false] at hb
    rcases hb with rfl | rfl <;> decide

open RateLimit.Sample in
theorem eviction_unobservable_as_shipped :
    answers KeyedLimiter.allow (newKeyedLimiter ({} : Limits).perIPLimiter.1
        ({} : Limits).perIPLimiter.2) calls =
      answers KeyedLimiter.serve (newKeyedLimiter ({} : Limits).perIPLimiter.1
        ({} : Limits).perIPLimiter.2) calls ∧
    answers KeyedLimiter.allow (newKeyedLimiter ({} : Limits).perTenantLimiter.1
        ({} : Limits).perTenantLimiter.2) calls =
      answers KeyedLimiter.serve (newKeyedLimiter ({} : Limits).perTenantLimiter.1
        ({} : Limits).perTenantLimiter.2) calls ∧
    answers KeyedLimiter.allow (newKeyedLimiter ({} : Limits).perAgentCheckinLimiter.1
        ({} : Limits).perAgentCheckinLimiter.2) calls =
      answers KeyedLimiter.serve (newKeyedLimiter ({} : Limits).perAgentCheckinLimiter.1
        ({} : Limits).perAgentCheckinLimiter.2) calls := by
  refine ⟨?_, ?_, ?_⟩
  · exact eviction_unobservable _ _ (Limits.covers_default _ (by simp [Limits.limiters])) _
      calls_mono
  · exact eviction_unobservable _ _ (Limits.covers_default _ (by simp [Limits.limiters])) _
      calls_mono
  · exact eviction_unobservable _ _ (Limits.covers_default _ (by simp [Limits.limiters])) _
      calls_mono

end Moebius.RateLimit
