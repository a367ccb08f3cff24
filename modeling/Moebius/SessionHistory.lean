import Moebius.Sessions

/-!
What the history of calls says about a token.

The sessions a history speaks of are those it has created and not revoked, refreshed by every
validation that succeeded, as if none of them ever expired. A manager has the same good sessions
as its history, at any time from then on, since all it has dropped besides were no longer good.
-/

namespace Moebius.LocalAuth

open SessionManager List Session Option Function

/-- One call and its answer; nothing expires. -/
def note (m : SessionManager) (x : Call × Answer) : SessionManager :=
  match x.1.op with
  | .create read username st => (m.create x.1.now read username st).2
  | .validate token =>
    match x.2 with
    | .validate (.ok _) =>
      ⟨update m.sessions token ((m.sessions token).map (refresh x.1.now))⟩
    | _ => m
  | .revoke token => m.revoke token
  | .revokeAll => m.revokeAll
  | .cleanup => m

def noted (past : List (Call × Answer)) : SessionManager := past.foldl note {}

lemma noted_snoc {past : List (Call × Answer)} {x : Call × Answer} :
    noted (past ++ [x]) = note (noted past) x := by
  simp [noted]

lemma SessionManager.Alike.note {sm m : SessionManager} {c : Call} (h : Alike c.now sm m) :
    Alike c.now (sm.handle c).2 (note m (c, (sm.handle c).1)) := by
  obtain ⟨now, op⟩ := c
  cases op with
  | create read username st => exact h.create read username st
  | validate token =>
    rcases hgood : sm.good now token with _ | s
    · have hnote : LocalAuth.note m (⟨now, .validate token⟩, .validate (sm.validate now token).1)
          = m := by
        obtain ⟨err, herr⟩ := (SessionManager.validate_of_not_good hgood).1
        simp only [LocalAuth.note, herr]
      simp only [SessionManager.handle]
      rw [hnote]
      exact (validate_of_not_good hgood).trans h
    · have hm : m.sessions token = some s := (sessions_of_good ((h token).symm.trans hgood)).1
      have hnote : LocalAuth.note m (⟨now, .validate token⟩, .validate (sm.validate now token).1)
          = m.put token (s.refresh now) := by
        simp only [LocalAuth.note, validate_of_good hgood, hm, map_some]
        rfl
      simp only [SessionManager.handle]
      rw [hnote, validate_of_good hgood]
      exact h.put _ _
  | revoke token => exact h.delete token
  | revokeAll => exact refl _ _
  | cleanup => exact (Alike.cleanup now sm).trans h

/-! ### Creations that still stand -/

/-- The history is `before`, then a creation of the token, and then `after`, in which the token is
neither revoked nor created again. -/
structure Stands (token : String) (st : SessionType) (x : Call × Answer)
    (after : List (Call × Answer)) : Prop where
  drawn : x.1.drawn = some (token, st)
  kept : ∀ y ∈ after, ¬ y.1.Revokes token
  once : ∀ y ∈ after, ∀ st', y.1.drawn ≠ some (token, st')

def Session.refreshAll (s : Session) (ts : List Time) : Session :=
  ts.foldl (fun s t => s.refresh t) s

section

variable {token : String} {st : SessionType} {x y : Call × Answer} {after : List (Call × Answer)}
  {m : SessionManager}

lemma sessions_note (hkept : ¬ y.1.Revokes token) (honce : ∀ st', y.1.drawn ≠ some (token, st')) :
    (note m y).sessions token =
      (m.sessions token).map fun s => s.refreshAll (validatedAt token y).toList := by
  have hsame : (m.sessions token) = (m.sessions token).map fun s => s.refreshAll [] := by
    simp [refreshAll]
  obtain ⟨⟨now, op⟩, answer⟩ := y
  cases op with
  | create read username st' =>
    rcases htoken : generateToken read with err | t
    · simpa [note, create, htoken, validatedAt] using hsame
    · have hne : token ≠ t := by
        rintro rfl
        exact honce st' (by simp [Call.drawn, htoken, Except.toOption])
      simpa [note, create, htoken, validatedAt, put, update_of_ne hne] using hsame
  | validate t =>
    rcases answer with _ | (err | s) | _
    · simpa [note, validatedAt] using hsame
    · simpa [note, validatedAt] using hsame
    · by_cases ht : t = token
      · subst ht
        simp [note, validatedAt, refreshAll]
      · simpa [note, validatedAt, ht, update_of_ne (Ne.symm ht)] using hsame
    · simpa [note, validatedAt] using hsame
  | revoke t =>
    have hne : token ≠ t := fun he => hkept he.symm
    simpa [note, revoke, delete, validatedAt, update_of_ne hne] using hsame
  | revokeAll => exact absurd trivial hkept
  | cleanup => simpa [note, validatedAt] using hsame

lemma sessions_foldl_note (hkept : ∀ y ∈ after, ¬ y.1.Revokes token)
    (honce : ∀ y ∈ after, ∀ st', y.1.drawn ≠ some (token, st')) :
    (after.foldl note m).sessions token =
      (m.sessions token).map fun s => s.refreshAll (after.filterMap (validatedAt token)) := by
  induction after generalizing m with
  | nil => simp [refreshAll]
  | cons y after ih =>
    obtain ⟨hky, hkept⟩ := forall_mem_cons.mp hkept
    obtain ⟨hoy, honce⟩ := forall_mem_cons.mp honce
    rw [foldl_cons, ih hkept honce, sessions_note hky hoy, Option.map_map]
    congr 1
    funext s
    rw [filterMap_cons]
    cases validatedAt token y <;> rfl

lemma sessions_of_stands (h : Stands token st x after) {before : List (Call × Answer)} :
    ∃ username, (noted (before ++ x :: after)).sessions token =
      some ((issue token username st x.1.now).refreshAll
        (after.filterMap (validatedAt token))) := by
  obtain ⟨hdrawn, hkept, honce⟩ := h
  obtain ⟨⟨now, op⟩, answer⟩ := x
  cases op with
  | create read username st' =>
    rcases htoken : generateToken read with err | t
    · simp [Call.drawn, htoken, Except.toOption] at hdrawn
    · simp only [Call.drawn, htoken, Except.toOption, map_some, some.injEq, Prod.mk.injEq] at hdrawn
      obtain ⟨rfl, rfl⟩ := hdrawn
      refine ⟨username, ?_⟩
      rw [noted, foldl_append, foldl_cons, sessions_foldl_note hkept honce]
      simp [note, create, htoken, put]
  | _ => cases hdrawn

lemma stands_of_sessions {past : List (Call × Answer)} {s : Session}
    (h : (noted past).sessions token = some s) :
    ∃ before x after st, past = before ++ x :: after ∧ Stands token st x after := by
  induction past using reverseRecOn generalizing s with
  | nil => cases h
  | append_singleton past y ih =>
    by_cases honce : ∃ st', y.1.drawn = some (token, st')
    · obtain ⟨st', hdrawn⟩ := honce
      exact ⟨past, y, [], st', rfl, hdrawn, by simp, by simp⟩
    have honce' : ∀ st', y.1.drawn ≠ some (token, st') := fun st' he => honce ⟨st', he⟩
    rw [noted_snoc] at h
    by_cases hrevokes : y.1.Revokes token
    · -- nothing is left of the token
      obtain ⟨⟨now, op⟩, answer⟩ := y
      cases op with
      | revoke t =>
        obtain rfl : t = token := hrevokes
        simp [note, revoke, delete] at h
      | revokeAll => cases h
      | _ => exact hrevokes.elim
    · rw [sessions_note hrevokes honce'] at h
      obtain ⟨s', hs', -⟩ := map_eq_some_iff.mp h
      obtain ⟨before, x, after, st, rfl, hdrawn, hkept, hlast⟩ := ih hs'
      refine ⟨before, x, after ++ [y], st, by simp, hdrawn, ?_, ?_⟩
      · intro z hz
        rcases mem_append.mp hz with hz | hz
        · exact hkept z hz
        · rw [mem_singleton.mp hz]
          exact hrevokes
      · intro z hz
        rcases mem_append.mp hz with hz | hz
        · exact hlast z hz
        · rw [mem_singleton.mp hz]
          exact honce'

end

namespace Session

variable (s : Session) (ts : List Time)

lemma refreshAll_spec (hcli : s.type = .cli → s.expiresAt = s.lastUsed + cliIdleTimeout) :
    (s.refreshAll ts).type = s.type ∧
      (s.lastUsed :: ts).getLast? = some (s.refreshAll ts).lastUsed ∧
      (s.refreshAll ts).expiresAt = if s.type = .cli
        then (s.refreshAll ts).lastUsed + cliIdleTimeout else s.expiresAt := by
  induction ts generalizing s with
  | nil =>
    refine ⟨rfl, rfl, ?_⟩
    split
    · exact hcli ‹_›
    · rfl
  | cons t ts ih =>
    have hrefresh : s.refreshAll (t :: ts) = (s.refresh t).refreshAll ts := rfl
    have htype : (s.refresh t).type = s.type := by
      unfold refresh
      dsimp only
      split <;> rfl
    have hused : (s.refresh t).lastUsed = t := by
      unfold refresh
      dsimp only
      split <;> rfl
    have hexpiry : (s.refresh t).expiresAt =
        if s.type = .cli then t + cliIdleTimeout else s.expiresAt := by
      unfold refresh
      dsimp only
      split <;> rfl
    obtain ⟨h1, h2, h3⟩ := ih (s.refresh t) fun hc => by
      rw [hexpiry, if_pos (htype ▸ hc), hused]
    rw [hrefresh]
    refine ⟨h1.trans htype, ?_, ?_⟩
    · rw [hused] at h2
      rw [getLast?_cons_cons, h2]
    · rw [h3, htype, hexpiry]
      split <;> rfl

end Session

/-- A session issued at `c` and used at `ts` without a gap that is too long is good as long as the
next use comes in time, and a web session is not too old. -/
lemma live_refreshAll {token username : String} {st : SessionType} {c t : Time} {ts : List Time}
    (hchain : (c :: ts).IsChain fun a b => b - a ≤ idleTimeout st) :
    ((issue token username st c).refreshAll ts).live t = true ↔
      (c :: (ts ++ [t])).IsChain (fun a b => b - a ≤ idleTimeout st) ∧
        (st = .web → t ≤ c + webMaxLifetime) := by
  have hissue : (issue token username st c).type = .cli →
      (issue token username st c).expiresAt =
        (issue token username st c).lastUsed + cliIdleTimeout := by
    rintro rfl
    rfl
  obtain ⟨htype, hlast, hexpiry⟩ := (issue token username st c).refreshAll_spec ts hissue
  have hnext : (c :: (ts ++ [t])).IsChain (fun a b => b - a ≤ idleTimeout st) ↔
      t - ((issue token username st c).refreshAll ts).lastUsed ≤ idleTimeout st := by
    rw [← cons_append, isChain_append]
    constructor
    · intro h
      exact h.2.2 _ hlast t rfl
    · intro h
      refine ⟨hchain, isChain_singleton t, fun a ha b hb => ?_⟩
      obtain rfl : _ = a := some.inj (hlast.symm.trans ha)
      obtain rfl : t = b := some.inj hb
      exact h
  rw [live_iff, htype, hexpiry, hnext]
  cases st with
  | cli =>
    constructor
    · intro h
      exact ⟨h.2, nofun⟩
    · intro h
      refine ⟨?_, h.1⟩
      have hidle : t - ((issue token username .cli c).refreshAll ts).lastUsed ≤
          cliIdleTimeout := h.1
      change t ≤ ((issue token username .cli c).refreshAll ts).lastUsed + cliIdleTimeout
      linarith
  | web =>
    constructor
    · intro h
      exact ⟨h.2, fun _ => h.1⟩
    · intro h
      exact ⟨h.2 rfl, h.1⟩

/-! ### Histories of a manager -/

/-- Between a creation that stands and the uses of its session no gap has been too long. -/
def Timely (past : List (Call × Answer)) : Prop :=
  ∀ token st before x after, past = before ++ x :: after → Stands token st x after →
    (x.1.now :: after.filterMap (validatedAt token)).IsChain fun a b => b - a ≤ idleTimeout st

/-- The manager has the good sessions of a timely history. -/
structure Told (now : Time) (past : List (Call × Answer)) (sm : SessionManager) : Prop where
  alike : Alike now sm (noted past)
  timely : Timely past

namespace Told

variable {now : Time} {past : List (Call × Answer)} {sm : SessionManager}

lemma validate_iff (h : Told now past sm) {token : String} :
    (∃ s, (sm.validate now token).1 = .ok s) ↔
      ∃ before x after st, past = before ++ x :: after ∧ Stands token st x after ∧
        (x.1.now :: (after.filterMap (validatedAt token) ++ [now])).IsChain
          (fun a b => b - a ≤ idleTimeout st) ∧ (st = .web → now ≤ x.1.now + webMaxLifetime) := by
  have hgood : (∃ s, (sm.validate now token).1 = .ok s) ↔
      ∃ s, (noted past).good now token = some s := by
    rw [← h.alike token]
    constructor
    · rintro ⟨s, hs⟩
      rcases hg : sm.good now token with _ | s'
      · obtain ⟨err, herr⟩ := (SessionManager.validate_of_not_good hg).1
        cases herr.symm.trans hs
      · exact ⟨s', rfl⟩
    · rintro ⟨s, hs⟩
      exact ⟨_, congrArg Prod.fst (validate_of_good hs)⟩
  rw [hgood]
  constructor
  · rintro ⟨s, hs⟩
    obtain ⟨hsession, hlive⟩ := sessions_of_good hs
    obtain ⟨before, x, after, st, rfl, hstands⟩ := stands_of_sessions hsession
    obtain ⟨username, hissued⟩ := sessions_of_stands hstands
    cases hissued.symm.trans hsession
    exact ⟨before, x, after, st, rfl, hstands,
      (live_refreshAll (h.timely _ _ _ _ _ rfl hstands)).mp hlive⟩
  · rintro ⟨before, x, after, st, rfl, hstands, htimes⟩
    obtain ⟨username, hissued⟩ := sessions_of_stands hstands
    have hlive : ((issue token username st x.1.now).refreshAll
        (after.filterMap (validatedAt token))).live now = true :=
      (live_refreshAll (h.timely _ _ _ _ _ rfl hstands)).mpr htimes
    exact ⟨_, by rw [good, hissued, filter_some, if_pos hlive]⟩

lemma later {now' : Time} (h : Told now past sm) (hle : now ≤ now') : Told now' past sm :=
  ⟨h.alike.later hle, h.timely⟩

lemma handle {c : Call} (h : Told c.now past sm) :
    Told c.now (past ++ [(c, (sm.handle c).1)]) (sm.handle c).2 where
  alike := by
    rw [noted_snoc]
    exact h.alike.note
  timely := by
    intro token st before x after hpast hstands
    rcases eq_nil_or_concat' after with rfl | ⟨after, y, rfl⟩
    · exact isChain_singleton _
    rw [← cons_append, ← append_assoc] at hpast
    obtain ⟨rfl, hy⟩ := append_inj' hpast rfl
    obtain rfl : (c, (sm.handle c).1) = y := (cons.inj hy).1
    have hbefore : Stands token st x after :=
      ⟨hstands.drawn, fun z hz => hstands.kept z (mem_append_left _ hz),
        fun z hz => hstands.once z (mem_append_left _ hz)⟩
    have hchain := h.timely _ _ _ _ _ rfl hbefore
    rw [filterMap_append, filterMap_cons, filterMap_nil]
    rcases hvalid : validatedAt token (c, (sm.handle c).1) with _ | t
    · simpa using hchain
    -- a validation succeeds only in time
    obtain ⟨now, op⟩ := c
    cases op with
    | validate token' =>
      rcases hg : sm.good now token' with _ | s
      · obtain ⟨err, herr⟩ := (SessionManager.validate_of_not_good hg).1
        simp [validatedAt, SessionManager.handle, herr] at hvalid
      · simp only [validatedAt, SessionManager.handle, validate_of_good hg,
          ite_none_right_eq_some, some.injEq] at hvalid
        obtain ⟨rfl, rfl⟩ := hvalid
        obtain ⟨username, hissued⟩ := sessions_of_stands hbefore
        obtain ⟨hsession, hlive⟩ := sessions_of_good ((h.alike token').symm.trans hg)
        cases hissued.symm.trans hsession
        exact ((live_refreshAll hchain).mp hlive).1
    | _ => cases hvalid

lemma run {calls : List Call} (h : Told now past sm) (horder : InOrder calls)
    (hnow : ∀ c ∈ calls, now ≤ c.now) {t : Time} (hle : now ≤ t) (ht : ∀ c ∈ calls, c.now ≤ t) :
    Told t (past ++ sm.history calls) (sm.run calls) := by
  induction calls generalizing now past sm with
  | nil =>
    rw [SessionManager.history, append_nil]
    exact h.later hle
  | cons c calls ih =>
    obtain ⟨hlater, hrest⟩ := pairwise_cons.mp horder
    obtain ⟨hct, ht⟩ := forall_mem_cons.mp ht
    have hc := (h.later (hnow c mem_cons_self)).handle
    have hrun := ih hc hrest hlater hct ht
    rwa [append_assoc, singleton_append] at hrun

lemma new (now : Time) : Told now [] {} where
  alike := Alike.refl _ _
  timely := by
    intro token st before x after hpast
    simp at hpast

end Told

lemma map_fst_history (sm : SessionManager) (calls : List Call) :
    (sm.history calls).map (·.1) = calls := by
  induction calls generalizing sm with
  | nil => rfl
  | cons c calls ih => exact congrArg (c :: ·) (ih _)

def tokens (calls : List Call) : List String := calls.filterMap fun c => c.drawn.map (·.1)

lemma alive_iff_stands {past : List (Call × Answer)} {token : String} {t : Time}
    (hfresh : (tokens (past.map (·.1))).Nodup) : Alive past token t ↔
      ∃ before x after st, past = before ++ x :: after ∧ Stands token st x after ∧
        (x.1.now :: (after.filterMap (validatedAt token) ++ [t])).IsChain
          (fun a b => b - a ≤ idleTimeout st) ∧ (st = .web → t ≤ x.1.now + webMaxLifetime) := by
  constructor
  · rintro ⟨before, x, after, st, rfl, hdrawn, hkept, htimes⟩
    refine ⟨before, x, after, st, rfl, ⟨hdrawn, hkept, fun y hy st' hy' => ?_⟩, htimes⟩
    simp only [tokens, map_append, map_cons, filterMap_append, filterMap_cons,
      hdrawn, map_some] at hfresh
    have hnotMem := (nodup_cons.mp (nodup_append.mp hfresh).2.1).1
    refine hnotMem (mem_filterMap.mpr ⟨y.1, mem_map_of_mem hy, ?_⟩)
    rw [hy', map_some]
  · rintro ⟨before, x, after, st, hpast, hstands, htimes⟩
    exact ⟨before, x, after, st, hpast, hstands.drawn, hstands.kept, htimes⟩

/-- **Sessions live exactly as long as specified.** When no token is created twice and the clock
never goes back, a validation succeeds exactly when the history says that the token is alive,
wherever cleanups come. -/
theorem sessions_live_as_specified (calls : List Call) (horder : InOrder calls)
    (hfresh : (tokens calls).Nodup) :
    (∀ past c future token, calls = past ++ c :: future → c.op = .validate token →
      ((∃ s, ((({} : SessionManager).run past).handle c).1 = .validate (.ok s)) ↔
        Alive (({} : SessionManager).history past) token c.now)) ∧ ∀ calls', InOrder calls' →
      calls'.filter (fun c => !c.isCleanup) = calls.filter (fun c => !c.isCleanup) →
        validations (({} : SessionManager).history calls') =
          validations (({} : SessionManager).history calls) := by
  -- some time before all calls
  have hstart : ∀ calls : List Call, InOrder calls → ∃ now, ∀ c ∈ calls, now ≤ c.now := by
    intro calls horder
    rcases calls with _ | ⟨c, calls⟩
    · exact ⟨0, by simp⟩
    · exact ⟨c.now, forall_mem_cons.mpr ⟨le_refl _, (pairwise_cons.mp horder).1⟩⟩
  constructor
  · rintro past ⟨at', op⟩ future token rfl rfl
    obtain ⟨now, hnow⟩ := hstart _ horder
    obtain ⟨hpast, -, hbefore⟩ := pairwise_append.mp horder
    have htold := (Told.new now).run hpast (fun c hc => hnow c (mem_append_left _ hc))
      (hnow _ (mem_append_right _ mem_cons_self))
      fun c hc => hbefore c hc _ mem_cons_self
    rw [nil_append] at htold
    have hfresh' : (tokens ((({} : SessionManager).history past).map (·.1))).Nodup := by
      rw [map_fst_history]
      rw [tokens, filterMap_append] at hfresh
      exact (nodup_append.mp hfresh).1
    rw [alive_iff_stands hfresh', ← htold.validate_iff]
    simp only [SessionManager.handle, Answer.validate.injEq]
  · intro calls' horder' hsame
    obtain ⟨now, hnow⟩ := hstart _ horder
    obtain ⟨now', hnow'⟩ := hstart _ horder'
    rw [validations_filter (Alike.refl now _) horder hnow,
      validations_filter (Alike.refl now' _) horder' hnow', hsame]

def Sample.calls : List Call :=
  [⟨0, .create (fun _ => .ok [1]) "u" .web⟩, ⟨0, .create (fun _ => .ok [2]) "u" .cli⟩,
    ⟨20 * minute, .validate "01"⟩, ⟨30 * minute, .cleanup⟩, ⟨45 * minute, .validate "01"⟩,
    ⟨45 * minute, .validate "02"⟩]

open LocalAuth.Sample in
theorem sample_sessions : Alive (({} : SessionManager).history (calls.take 4)) "01" (45 * minute) ∧
      ¬ Alive (({} : SessionManager).history (calls.take 5)) "02" (45 * minute) := by
  have h := (sessions_live_as_specified calls (by unfold InOrder; decide) (by decide)).1
  refine ⟨(h (calls.take 4) _ _ "01" rfl rfl).mp ⟨_, rfl⟩, fun halive => ?_⟩
  obtain ⟨s, hs⟩ := (h (calls.take 5) _ _ "02" rfl rfl).mpr halive
  cases hs

end Moebius.LocalAuth
