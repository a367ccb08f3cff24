import Moebius.EnrollSteps
import Moebius.Timeline

/-!
Enrollments, peeks and the token reaper, side by side.

A token is redeemed by one statement, which marks an unused row that has not expired. No other
statement marks tokens, and the reaper deletes none that is marked. A request that has redeemed a
token stores at most one device.
-/

namespace Moebius

open Proc Enrollment Enroll Pool EnrollmentTokenRow List Db Option Jobs

inductive TokenRequest
  | enroll (env : Env) (body : Option EnrollRequest)
  | peek (env : Env) (raw : String)
  | reap (now : Time)

inductive TokenAnswer
  | enroll (r : Reply EnrollResponse)
  | peek (token : Option EnrollmentToken)
  | reaped (ok : Bool)

namespace TokenRequest

variable (C : Crypto) (quota : Option Defaults)

def task : TokenRequest → Task Db (EnrollRequest × EnrollmentToken) TokenAnswer
  | enroll env body =>
    { check := do
        match ← redeem C env body with
        | .error r => pure (.error (.enroll r))
        | .ok x => pure (.ok x)
      act := fun x => do return .enroll (← enrollDevice C env quota x.1 x.2) }
  | peek env raw =>
    { check := do return .error (.peek (← Enrollment.peek C env raw))
      act := fun _ => pure (.peek none) }
  | reap now =>
    { check := do return .error (.reaped (← Enrollment.reapExpiredEnrollmentTokens now))
      act := fun _ => pure (.reaped false) }

def handler : TokenRequest → Proc Db TokenAnswer
  | enroll env body => do return .enroll (← serveHTTP C env quota body)
  | peek env raw => do return .peek (← Enrollment.peek C env raw)
  | reap now => do return .reaped (← Enrollment.reapExpiredEnrollmentTokens now)

lemma whole_task (r : TokenRequest) : (r.task C quota).whole = r.handler C quota := by
  cases r with
  | enroll env body =>
    simp only [Task.whole, task, handler, serveHTTP, bind_eq, Proc.bind_assoc]
    congr 1
    funext x
    rcases x with e | ⟨req, token⟩ <;> rfl
  | peek env raw | reap now =>
    simp only [Task.whole, task, handler, bind_eq, Proc.bind_assoc]
    rfl

end TokenRequest

/-! ### What the statements do -/

def Redeems (hash : String) (now : Time) (row row' : EnrollmentTokenRow) : Prop :=
  redeemable hash now row ∧ row' = { row with usedAt := some now }

structure TokenStep (C : Crypto) (r : TokenRequest) (a b : Db) : Prop where
  kept : ∀ row ∈ a.enrollmentTokens.rows, row.usedAt ≠ none → row ∈ b.enrollmentTokens.rows
  marked : ∀ row' ∈ b.enrollmentTokens.rows, row' ∈ a.enrollmentTokens.rows ∨
    ∃ env req, r = .enroll env (some req) ∧ ∃ row ∈ a.enrollmentTokens.rows,
      Redeems (C.hashToken req.enrollmentToken) (tokenTime env) row row'

variable {C : Crypto} {r : TokenRequest}

lemma TokenStep.of_eq {a b : Db} (h : b.enrollmentTokens = a.enrollmentTokens) :
    TokenStep C r a b := by
  refine ⟨fun row hrow _ => ?_, fun row' hrow' => .inl ?_⟩
  · rw [h]
    exact hrow
  · rwa [h] at hrow'

lemma tokenStep_consumeToken {env : Env} {req : EnrollRequest} {db : Db} :
    TokenStep C (.enroll env (some req)) db
      (db.consumeToken (tokenTime env) (C.hashToken req.enrollmentToken)).2 := by
  refine ⟨fun row hrow hused => ?_, fun row' hrow' => ?_⟩
  · refine mem_map.mpr ⟨row, hrow, if_neg ?_⟩
    simp [redeemable, hused]
  · obtain ⟨row, hrow, hrow'⟩ := mem_map.mp hrow'
    split at hrow'
    · rename_i hredeem
      exact .inr ⟨env, req, rfl, row, hrow, hredeem, hrow'.symm⟩
    · subst hrow'
      exact .inl hrow

lemma tokenStep_reapTokens {now : Time} {db : Db} : TokenStep C r db (db.reapTokens now) := by
  refine ⟨fun row hrow hused => ?_, fun row' hrow' => .inl ?_⟩
  · refine mem_filter.mpr ⟨hrow, ?_⟩
    simp [hused]
  · exact (mem_filter.mp hrow').1

def DeviceStep (a b : Db) : Prop :=
  b.devices = a.devices ∨ ∃ row, b.devices.rows = a.devices.rows ++ [row]

def SameDevices (a b : Db) : Prop := b.devices = a.devices

variable {R : Db → Db → Prop}

namespace Enroll

variable {env : Env} {req : EnrollRequest} {token : EnrollmentToken}

lemma store_tokens_devices {x : Certificate} {fs : List Bool} {db db' : Db}
    (h : (store C env req token x).run fs db = (.ok (), db')) :
    db'.enrollmentTokens = db.enrollmentTokens ∧ DeviceStep db db' := by
  rcases store_cases C env req token x fs db with
    ⟨n, code, msg, db'', he⟩ | ⟨db₁, db₂, db'', h₁, h₂, h₃, he⟩
  · cases he.symm.trans h
  · cases he.symm.trans h
    obtain ⟨t, ht, rfl⟩ := insertDevice_eq_some h₁
    obtain ⟨⟨t', -, rfl⟩, -⟩ := insertCert_eq_some h₃
    have hrest := h₂.rest
    unfold SameButMembers at hrest
    rw [hrest]
    exact ⟨rfl, .inr ⟨_, Table.rows_of_insert ht⟩⟩

variable (C env req token)

variable (quota : Option Defaults)

lemma each_enrollDevice (hlog : ∀ (db : Db) log, R db { db with auditLog := log })
    (hstore : ∀ x db db',
      (store C env req token x).run env.txFaults db = (.ok (), db') → R db db') :
    (enrollDevice C env quota req token).Each R := by
  have hrefl : ∀ db, R db db := fun db => hlog db db.auditLog
  unfold enrollDevice
  refine each_bind (each_of_readOnly (readOnly_checkCount _ _ _ _ _ _) hrefl) fun r => ?_
  rcases r with e | _
  · trivial
  rcases sign C env req with _ | x
  · trivial
  refine each_bind (each_transaction hrefl fun db _ db' h => hstore x db db' h) fun r => ?_
  rcases r with e | _
  · trivial
  exact each_bind (each_logAction hlog) fun _ => trivial

lemma once_enrollDevice (hlog : ∀ (db : Db) log, R db { db with auditLog := log }) :
    (enrollDevice C env quota req token).Once R := by
  unfold enrollDevice
  refine once_bind_of_each (each_reading hlog (readOnly_checkCount _ _ _ _ _ _)) fun r => ?_
  rcases r with e | _
  · trivial
  rcases sign C env req with _ | x
  · trivial
  refine once_bind ⟨fun _ => .inr trivial, trivial⟩ fun r => ?_
  rcases r with e | _
  · trivial
  exact each_bind (each_logAction hlog) fun _ => trivial

lemma each_redeem {body : Option EnrollRequest} (hconsume : ∀ req, body = some req → ∀ db, R db
      (db.consumeToken (tokenTime env) (C.hashToken req.enrollmentToken)).2) :
    (redeem C env body).Each R := by
  unfold redeem
  rcases body with _ | req
  · trivial
  dsimp only
  split
  · trivial
  refine each_bind ?_ fun r => ?_
  · refine each_bind ⟨fun db => ⟨hconsume req rfl db, trivial⟩, trivial⟩ fun r => ?_
    rcases r with _ | _ | row <;> trivial
  · rcases r with _ | token <;> trivial

end Enroll

lemma SameDevices.refl (db : Db) : SameDevices db db := rfl

def Consumed (tokenID : String) (a b : Db) : Prop :=
  ∃ row ∈ a.enrollmentTokens.rows, row.id = tokenID ∧ row.usedAt = none ∧
    ∃ row' ∈ b.enrollmentTokens.rows, row'.id = tokenID ∧ row'.usedAt ≠ none

lemma consumed_of_peekToken {now : Time} {hash : String} {db : Db} {row : EnrollmentTokenRow}
    (h : db.peekToken now hash = some row) : Consumed row.id db (db.consumeToken now hash).2 := by
  have hredeem : redeemable hash now row = true := find?_some h
  have hmem : row ∈ db.enrollmentTokens.rows := mem_of_find?_eq_some h
  obtain ⟨-, hunused, -⟩ := of_decide_eq_true hredeem
  refine ⟨row, hmem, rfl, hunused, { row with usedAt := some now }, ?_, rfl, ?_⟩
  · exact mem_map.mpr ⟨row, hmem, if_pos hredeem⟩
  · exact some_ne_none now

namespace TokenRequest

variable (C : Crypto) (quota : Option Defaults) (r : TokenRequest)

lemma each_check (hrefl : ∀ db, R db db)
    (hconsume : ∀ env req, r = .enroll env (some req) → ∀ db, R db
      (db.consumeToken (Enrollment.tokenTime env) (C.hashToken req.enrollmentToken)).2)
    (hreap : ∀ now db, R db (reapTokens now db)) : (r.task C quota).check.Each R := by
  cases r with
  | enroll env body =>
    refine each_bind (each_redeem C env fun req hreq => ?_) fun x => ?_
    · exact hconsume env req (by rw [hreq])
    · rcases x with e | x <;> trivial
  | peek env raw =>
    refine each_bind (each_bind (each_of_readOnly (readOnly_read _) hrefl) fun r => ?_)
      fun _ => trivial
    rcases r with _ | _ | row <;> trivial
  | reap now => exact each_bind (each_exec fun db => hreap now db) fun _ => trivial

lemma each_act (hlog : ∀ (db : Db) log, R db { db with auditLog := log })
    (hstore : ∀ env req token x fs db db',
      (store C env req token x).run fs db = (.ok (), db') → R db db')
    (g : EnrollRequest × EnrollmentToken) : ((r.task C quota).act g).Each R := by
  cases r with
  | enroll env body =>
    refine each_bind (each_enrollDevice C env g.1 g.2 quota hlog ?_) fun _ => trivial
    exact fun x db db' h => hstore env g.1 g.2 x env.txFaults db db' h
  | peek env raw | reap now => trivial

lemma finds_check : (r.task C quota).check.Finds fun a b _ => ∃ k, Consumed k a b := by
  cases r with
  | enroll env body =>
    simp only [task, redeem]
    rcases body with _ | req
    · trivial
    dsimp only
    split
    · trivial
    refine ⟨fun db => ?_, fun g hg => (by cases hg), trivial⟩
    simp only [consumeToken, map_some]
    rcases hpeek : db.peekToken (Enrollment.tokenTime env) (C.hashToken req.enrollmentToken)
      with _ | row
    · exact ⟨fun g hg => (by cases hg), trivial⟩
    · refine ⟨fun g _ => ⟨row.id, consumed_of_peekToken hpeek⟩, ?_⟩
      simp only [map_some, bind_done, pure_eq]
      rcases decode _ with _ | token <;> trivial
  | peek env raw =>
    refine ⟨fun db => ?_, fun g hg => (by cases hg), trivial⟩
    simp only [bind_done]
    rcases db.peekToken (Enrollment.tokenTime env) (C.hashToken raw) with _ | row
    · exact ⟨fun g hg => (by cases hg), trivial⟩
    · exact ⟨fun g hg => (by cases hg), trivial⟩
  | reap now =>
    exact ⟨fun db => ⟨fun g hg => (by cases hg), trivial⟩, fun g hg => (by cases hg), trivial⟩

lemma check_ne_ok (g : EnrollRequest × EnrollmentToken) :
    (r.task C quota).check ≠ done (.ok g) := by
  intro h
  cases r with
  | enroll env body =>
    simp only [task, redeem] at h
    rcases body with _ | req
    · cases h
    dsimp only at h
    split at h
    · cases h
    · cases h
  | peek env raw | reap now => cases h

end TokenRequest

/-! ### Peek and ValidateAndConsume -/

lemma isSome_decode {row : EnrollmentTokenRow} {t : Option Time} :
    ({ row with usedAt := t }).decode.isSome = row.decode.isSome := by
  unfold decode
  rcases row.scope with _ | _ | scope <;> rfl

lemma isSome_peek {env : Env} {raw : String} {fs : List Bool} {db : Db} :
    ((peek C env raw).run fs db).1.isSome =
      ((validateAndConsume C env raw).run fs db).1.isSome := by
  simp only [peek, validateAndConsume, bind_eq, Proc.read, query, bind_stmt,
    bind_done, run_stmt, consumeToken, map_some]
  split
  · rfl
  rcases db.peekToken (tokenTime env) (C.hashToken raw) with _ | row
  · rfl
  · exact isSome_decode.symm

section

variable (C : Crypto) (quota : Option Defaults) (db : Db) (acts : List (Action TokenRequest))

def tokenPool (n : ℕ) : Pool TokenRequest Db (EnrollRequest × EnrollmentToken) TokenAnswer :=
  nth (TokenRequest.task C quota) ⟨db, []⟩ acts n

/-- The `n`-th action is a step of thread `i` that redeems the token. -/
def ConsumedAt (tokenID : String) (i n : ℕ) : Prop :=
  acts[n]? = some (.step i false) ∧
    Consumed tokenID (tokenPool C quota db acts n).state (tokenPool C quota db acts (n + 1)).state

/-- The `n`-th action is a step of thread `i` that changes the devices. -/
def EnrolledAt (i n : ℕ) : Prop :=
  Loud (TokenRequest.task C quota) SameDevices db acts i n

structure SingleUse : Prop where
  /-- A token is redeemed by at most one request, once. -/
  consumed_once : ∀ k i j n m, ConsumedAt C quota db acts k i n → ConsumedAt C quota db acts k j m →
    n = m ∧ i = j
  /-- By an enrollment that presents it, while it is unused and before it expires. -/
  consumed_in_time : ∀ k n, Consumed k (tokenPool C quota db acts n).state
      (tokenPool C quota db acts (n + 1)).state →
    ∃ i env req st row, ConsumedAt C quota db acts k i n ∧
      (tokenPool C quota db acts n).threads[i]? = some (.enroll env (some req), st) ∧
      row ∈ (tokenPool C quota db acts n).state.enrollmentTokens.rows ∧ row.id = k ∧
      row.tokenHash = C.hashToken req.enrollmentToken ∧ row.usedAt = none ∧
      tokenTime env < row.expiresAt
  /-- A device is added by a request that has redeemed a token. -/
  device_of_token : ∀ n, ¬ SameDevices (tokenPool C quota db acts n).state
      (tokenPool C quota db acts (n + 1)).state →
    (∃ row, (tokenPool C quota db acts (n + 1)).state.devices.rows =
      (tokenPool C quota db acts n).state.devices.rows ++ [row]) ∧
    ∃ i, EnrolledAt C quota db acts i n ∧ ∃ c < n, ∃ k, ConsumedAt C quota db acts k i c
  /-- A token leads to at most one device. -/
  one_device : ∀ k i j c c' n m, ConsumedAt C quota db acts k i c →
    ConsumedAt C quota db acts k j c' → EnrolledAt C quota db acts i n →
    EnrolledAt C quota db acts j m → n = m
  /-- A redeemed token stays as it is. -/
  used_kept : ∀ n m, n ≤ m → ∀ row ∈ (tokenPool C quota db acts n).state.enrollmentTokens.rows,
    row.usedAt ≠ none → row ∈ (tokenPool C quota db acts m).state.enrollmentTokens.rows
  /-- Peeking tells whether a token can be redeemed. -/
  peek_agrees : ∀ n env raw fs,
    ((peek C env raw).run fs (tokenPool C quota db acts n).state).1.isSome =
      ((validateAndConsume C env raw).run fs
        (tokenPool C quota db acts n).state).1.isSome

lemma tokenStep_nth {n : ℕ} :
    (tokenPool C quota db acts (n + 1)).state = (tokenPool C quota db acts n).state ∨
      ∃ i r st, acts[n]? = some (.step i false) ∧
        (tokenPool C quota db acts n).threads[i]? = some (r, st) ∧
        TokenStep C r (tokenPool C quota db acts n).state
          (tokenPool C quota db acts (n + 1)).state := by
  refine rel_nth_succ (fun r db => .of_eq rfl) (fun r => ?_) (fun r => ?_) db acts n
  · refine TokenRequest.each_check C quota r (fun db => .of_eq rfl) (fun env req hr db => ?_)
      fun now db => tokenStep_reapTokens
    rw [hr]
    exact tokenStep_consumeToken
  · refine TokenRequest.each_act C quota r (fun _ _ => .of_eq rfl)
      fun env req token x fs db db' h => ?_
    exact .of_eq (store_tokens_devices h).1

variable {C quota db acts}

variable {n m : ℕ} {k : String}

lemma kept_nth (hnm : n ≤ m) {row : EnrollmentTokenRow}
    (hrow : row ∈ (tokenPool C quota db acts n).state.enrollmentTokens.rows)
    (hused : row.usedAt ≠ none) :
    row ∈ (tokenPool C quota db acts m).state.enrollmentTokens.rows := by
  refine nth_rel (TokenRequest.task C quota) ⟨db, []⟩ acts
    (R := fun a b => row ∈ a.enrollmentTokens.rows → row ∈ b.enrollmentTokens.rows)
    (fun _ h => h) (fun _ _ _ h h' hrow => h' (h hrow)) (fun n hrow => ?_) hnm hrow
  rcases tokenStep_nth C quota db acts with h | ⟨_, _, _, _, _, h⟩
  · rw [tokenPool, tokenPool] at h
    rw [h]
    exact hrow
  · exact h.kept row hrow hused

lemma redeems_of_consumed
    (h : Consumed k (tokenPool C quota db acts n).state (tokenPool C quota db acts (n + 1)).state) :
    ∃ i env req st row, acts[n]? = some (.step i false) ∧
      (tokenPool C quota db acts n).threads[i]? = some (.enroll env (some req), st) ∧
      row ∈ (tokenPool C quota db acts n).state.enrollmentTokens.rows ∧ row.id = k ∧
      redeemable (C.hashToken req.enrollmentToken) (tokenTime env) row := by
  obtain ⟨row, hrow, hid, hunused, row', hrow', hid', hused'⟩ := h
  have hold : row' ∉ (tokenPool C quota db acts n).state.enrollmentTokens.rows := by
    intro hmem
    have hsame : row = row' := Table.eq_of_key_eq hrow hmem (hid.trans hid'.symm)
    exact hused' (hsame ▸ hunused)
  rcases tokenStep_nth C quota db acts with h | ⟨i, r, st, ha, hi, h⟩
  · rw [h] at hrow'
    exact absurd hrow' hold
  rcases h.marked row' hrow' with hmem | ⟨env, req, rfl, row₀, hrow₀, hredeem, rfl⟩
  · exact absurd hmem hold
  · exact ⟨i, env, req, st, row₀, ha, hi, hrow₀, hid', hredeem⟩

lemma consumed_once
    (hn : Consumed k (tokenPool C quota db acts n).state (tokenPool C quota db acts (n + 1)).state)
    (hm : Consumed k (tokenPool C quota db acts m).state
      (tokenPool C quota db acts (m + 1)).state) : n = m := by
  have hlt : ∀ n m, Consumed k (tokenPool C quota db acts n).state
      (tokenPool C quota db acts (n + 1)).state → Consumed k (tokenPool C quota db acts m).state
      (tokenPool C quota db acts (m + 1)).state → ¬ n < m := by
    intro n m hn hm hnm
    obtain ⟨-, -, -, -, row', hrow', hid', hused'⟩ := hn
    obtain ⟨row, hrow, hid, hunused, -⟩ := hm
    -- the redeemed row is still there, under the identifier of an unused one
    have hsame := Table.eq_of_key_eq hrow (kept_nth hnm hrow' hused') (hid.trans hid'.symm)
    exact hused' (hsame ▸ hunused)
  have h₁ := hlt n m hn hm
  have h₂ := hlt m n hm hn
  omega

end

/-- **Single use.** In every interleaving of enrollments, peeks and reapers a token is redeemed at
most once, in time, and leads to at most one device. -/
theorem enrollment_tokens_single_use (C : Crypto) (quota : Option Defaults) (db : Db)
    (acts : List (Action TokenRequest)) : SingleUse C quota db acts := by
  have hcheck : ∀ r, (TokenRequest.task C quota r).check.Each SameDevices := fun r =>
    TokenRequest.each_check C quota r .refl (fun _ _ _ _ => rfl) fun _ _ => rfl
  have honce : ∀ r g, ((TokenRequest.task C quota r).act g).Once SameDevices := by
    intro r g
    cases r with
    | enroll env body =>
      exact once_bind (once_enrollDevice C env g.1 g.2 quota fun _ _ => rfl) fun _ => trivial
    | peek env raw | reap now => trivial
  have hunique : ∀ i n m, EnrolledAt C quota db acts i n → EnrolledAt C quota db acts i m → n = m :=
    fun i n m hn hm => loud_unique SameDevices.refl hcheck honce hn hm
  have honeStep : ∀ k i j n m, ConsumedAt C quota db acts k i n → ConsumedAt C quota db acts k j m →
      n = m ∧ i = j := by
    intro k i j n m hn hm
    have hnm := consumed_once hn.2 hm.2
    subst hnm
    have hij := hn.1.symm.trans hm.1
    cases hij
    exact ⟨rfl, rfl⟩
  refine ⟨honeStep, fun k n hn => ?_, fun n hn => ?_, ?_, fun n m hnm row hrow hused => ?_,
    fun n env raw fs => isSome_peek⟩
  · obtain ⟨i, env, req, st, row, ha, hi, hrow, hid, hredeem⟩ := redeems_of_consumed hn
    obtain ⟨hhash, hunused, htime⟩ := of_decide_eq_true hredeem
    exact ⟨i, env, req, st, row, ⟨ha, hn⟩, hi, hrow, hid, hhash, hunused, htime⟩
  · rcases rel_nth_succ (R := fun _ => DeviceStep) (fun _ _ => .inl rfl)
      (fun r => TokenRequest.each_check C quota r (fun _ => .inl rfl) (fun _ _ _ _ => .inl rfl)
        fun _ _ => .inl rfl)
      (fun r => TokenRequest.each_act C quota r (fun _ _ => .inl rfl)
        fun _ _ _ _ _ _ _ h => (store_tokens_devices h).2) db acts n with
      h | ⟨i, r, st, ha, hi, hstep⟩
    · exact absurd (congrArg devices h) hn
    have hloud : EnrolledAt C quota db acts i n := ⟨ha, hn⟩
    obtain ⟨⟨r, g, p, hacting⟩, -⟩ := spent_of_loud SameDevices.refl hcheck honce hloud
    obtain ⟨c, hc, hac, k, hk⟩ := found_of_acting (TokenRequest.check_ne_ok C quota)
      (TokenRequest.finds_check C quota) hacting
    exact ⟨hstep.resolve_left hn, i, hloud, c, hc, k, hac, hk⟩
  · intro k i j c c' n m hc hc' hn hm
    obtain ⟨-, rfl⟩ := honeStep k i j c c' hc hc'
    exact hunique i n m hn hm
  · exact kept_nth hnm hrow hused

end Moebius
