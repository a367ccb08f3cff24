import Moebius.Crew
import Moebius.Runs
import Moebius.TransferSteps

/-!
Transfers side by side.

The hash is computed from what the temporary path leads to, and what the path leads to when the
check is over is moved into place. So a transfer relies on the file it checks from the moment it is
opened for the check until the report, and on its path until the move. Jobs for one file share
their temporary path: one that creates it anew empties what another one has checked. The signature
a payload may require is never looked at.
-/

namespace Moebius.FileTransfer

open Volume List

variable {β κ : Type}

structure Transfer (β : Type) where
  payload : FileTransferPayload
  stage : Stage β := .starting

def Transfer.step [Inhabited β] (C : Update.Crypto β κ) (A : Agent) (x : Turn β) (v : Drop β)
    (t : Transfer β) : Drop β × Transfer β :=
  ((t.stage.step C A t.payload x v).1, { t with stage := (t.stage.step C A t.payload x v).2 })

abbrev Transfers (β : Type) := Crew (Drop β) (Transfer β)

namespace Transfers

abbrev Act (β : Type) := Crew.Act FileTransferPayload (Turn β)

/-- `HandleJob` starts a goroutine for a job. -/
def start (p : FileTransferPayload) : Transfer β := { payload := p }

def after [Inhabited β] (C : Update.Crypto β κ) (A : Agent) : Transfers β → Act β → Transfers β :=
  Crew.after start (Transfer.step C A)

end Transfers

def RequiresSignature (p : FileTransferPayload) : Prop :=
  p.integrity.any (·.requireSignature) = true
  deriving Decidable

variable (C : Update.Crypto β κ) (keys : String → Option κ)

/-- The data passes the verification with the signing key the server has named. -/
def Verified (info : Files.DownloadResponse) (data : List β) : Prop :=
  ∃ key sig, keys info.signatureKeyID = some key ∧ C.decodeBase64 info.signature = .ok sig ∧
    C.verify key (C.sha256 data) sig = true

/-- A transfer that is about to report `completed` has moved a file with the integrity its payload
asks for. -/
def Transfers.Sound (s : Transfers β) : Prop :=
  ∀ t ∈ s.threads, ∀ r info n, t.stage = .returned r info n → r.status = "completed" →
    (MustCheck t.payload info → C.hex (C.sha256 (s.state.inodes n)) = info.sha256) ∧
      (RequiresSignature t.payload → Verified C keys info (s.state.inodes n))

namespace Transfer

variable (A : Agent) (v : Drop β) (t : Transfer β)

/-- The file the transfer checks, has checked or has moved. -/
def Relies (n : ℕ) : Prop :=
  match t.stage with
  | .hashing _ m _ => n = m
  | .checked info => MustCheck t.payload info ∧ v.names (tempFile A t.payload) = some n
  | .moved info m => MustCheck t.payload info ∧ n = m
  | .returned _ info m => MustCheck t.payload info ∧ n = m
  | _ => False

/-- The path has to lead to the checked file until it is moved. -/
def Needs (q : List String) : Prop :=
  match t.stage with
  | .hashing _ _ _ => q = tempFile A t.payload
  | .checked info => MustCheck t.payload info ∧ q = tempFile A t.payload
  | _ => False

/-- The file the next step empties or writes into. -/
def writes : Option ℕ :=
  match t.stage with
  | .downloading _ => v.names (tempFile A t.payload)
  | .copying _ n _ _ => some n
  | _ => none

/-- The paths the next step takes away or gives to another file. -/
def redirects : List (List String) :=
  match t.stage with
  | .checked _ => [tempFile A t.payload, finalPath A t.payload]
  | .removing _ => [tempFile A t.payload]
  | _ => []

/-- The next step of `t` touches the file or the path `u` relies on. -/
def Disturbs (u : Transfer β) : Prop :=
  (∃ n ∈ t.writes A v, u.Relies A v n) ∨ ∃ q ∈ t.redirects A, u.Needs A q

end Transfer

/-- No job requires a signature, and no step touches what another transfer relies on. -/
def Transfers.Orderly (A : Agent) (s : Transfers β) : Transfers.Act β → Prop
  | .spawn p => ¬ RequiresSignature p
  | .step k _ => ∀ t l u, s.threads[k]? = some t → s.threads[l]? = some u → l ≠ k →
      ¬ t.Disturbs A s.state u

variable {C : Update.Crypto β κ} {st' : Stage β}

section

variable {A : Agent} {v v' : Drop β} {t u : Transfer β}

/-! ### What has been checked stays as it is -/

/-- The path leads to what has been hashed so far; what has been checked has the hash. -/
def Transfer.Intact (C : Update.Crypto β κ) (A : Agent) (v : Drop β) (t : Transfer β) : Prop :=
  match t.stage with
  | .hashing info n seen => MustCheck t.payload info ∧
      v.names (tempFile A t.payload) = some n ∧ seen <+: v.inodes n
  | .checked info => MustCheck t.payload info → ∃ n, v.names (tempFile A t.payload) = some n ∧
      C.hex (C.sha256 (v.inodes n)) = info.sha256
  | .moved info n => MustCheck t.payload info → n < v.next ∧
      C.hex (C.sha256 (v.inodes n)) = info.sha256
  | .returned _ info n => MustCheck t.payload info → n < v.next ∧
      C.hex (C.sha256 (v.inodes n)) = info.sha256
  | _ => True

/-- The files and the paths a transfer relies on are the same in both. -/
structure Transfer.Spared (A : Agent) (u : Transfer β) (v v' : Drop β) : Prop where
  inodes : ∀ n, u.Relies A v n → n < v.next → v'.inodes n = v.inodes n
  names : ∀ q, u.Needs A q → v'.names q = v.names q
  next : v.next ≤ v'.next

lemma Transfer.Intact.relies (h : u.Intact C A v) {q : List String} (hq : u.Needs A q) :
    ∃ n, v.names q = some n ∧ u.Relies A v n := by
  obtain ⟨p, st⟩ := u
  cases st with
  | hashing info n seen =>
    obtain rfl : q = tempFile A p := hq
    exact ⟨n, h.2.1, rfl⟩
  | checked info =>
    obtain ⟨hmust, rfl⟩ : MustCheck p info ∧ q = tempFile A p := hq
    obtain ⟨n, hname, -⟩ := h hmust
    exact ⟨n, hname, hmust, hname⟩
  | _ => exact hq.elim

lemma Transfer.Intact.of_spared (h : u.Intact C A v) (hspared : u.Spared A v v') :
    u.Intact C A v' := by
  obtain ⟨hinodes, hnames, hnext⟩ := hspared
  obtain ⟨p, st⟩ := u
  cases st with
  | hashing info n seen =>
    obtain ⟨hmust, hname, hseen⟩ := h
    refine ⟨hmust, (hnames _ rfl).trans hname, ?_⟩
    rw [hinodes n rfl (v.used hname)]
    exact hseen
  | checked info =>
    intro hmust
    obtain ⟨n, hname, hhash⟩ := h hmust
    refine ⟨n, (hnames _ ⟨hmust, rfl⟩).trans hname, ?_⟩
    rw [hinodes n ⟨hmust, hname⟩ (v.used hname)]
    exact hhash
  | moved info n | returned r info n =>
    intro hmust
    obtain ⟨hlt, hhash⟩ := h hmust
    rw [hinodes n ⟨hmust, rfl⟩ hlt]
    exact ⟨hlt.trans_le hnext, hhash⟩
  | _ => trivial

variable [Inhabited β]

lemma spared_of_not_disturbs (h : ¬ t.Disturbs A v u) (hu : u.Intact C A v)
    (hgoes : Goes C A t.payload v t.stage v' st') : u.Spared A v v' := by
  have hwrites : ∀ n, t.writes A v = some n → ¬ u.Relies A v n := fun n hn hu =>
    h (.inl ⟨n, hn, hu⟩)
  have hredirects : ∀ q ∈ t.redirects A, ¬ u.Needs A q := fun q hq hu => h (.inr ⟨q, hq, hu⟩)
  unfold Transfer.writes at hwrites
  unfold Transfer.redirects at hredirects
  generalize t.stage = st at hgoes hwrites hredirects
  cases hgoes with
  | created =>
    refine ⟨fun n hn hlt => ?_, fun q hq => ?_, next_le_create⟩
    · exact inodes_create_of_ne hlt fun hname => hwrites n hname hn
    · refine names_create_of_ne ?_
      rintro rfl
      obtain ⟨n, hname, hrelies⟩ := hu.relies hq
      exact hwrites n hname hrelies
  | @wrote info m =>
    refine ⟨fun n hn _ => ?_, fun _ _ => rfl, le_rfl⟩
    have hne : n ≠ m := by
      rintro rfl
      exact hwrites n rfl hn
    simp [write, setInode, hne]
  | moved =>
    refine ⟨fun _ _ _ => rfl, fun q hq => ?_, le_rfl⟩
    refine names_rename_of_ne (fun he => ?_) fun he => ?_
    · exact hredirects q (by simp [he]) hq
    · exact hredirects q (by simp [he]) hq
  | removed =>
    refine ⟨fun _ _ _ => rfl, fun q hq => ?_, le_rfl⟩
    exact names_remove_of_ne fun he => hredirects q (by simp [he]) hq
  | _ => exact ⟨fun _ _ _ => rfl, fun _ _ => rfl, le_rfl⟩

/-- The transfer's own step: what has been hashed at the end of the file is the file. -/
lemma Transfer.Intact.goes (h : t.Intact C A v) (hgoes : Goes C A t.payload v t.stage v' st') :
    ({ t with stage := st' } : Transfer β).Intact C A v' := by
  obtain ⟨p, st⟩ := t
  cases hgoes with
  | opened hmust hname => exact ⟨hmust, hname, nil_prefix⟩
  | unchecked hmust => exact fun h => absurd h hmust
  | hashed k =>
    obtain ⟨hmust, hname, hseen⟩ := h
    refine ⟨hmust, hname, ?_⟩
    obtain ⟨rest, hrest⟩ := hseen
    rw [← hrest, drop_left]
    exact (prefix_append_right_inj _).mpr ( take_prefix _ _)
  | passed hend hhash =>
    obtain ⟨-, hname, hseen⟩ := h
    refine fun _ => ⟨_, hname, ?_⟩
    rw [← hseen.eq_of_length_le hend]
    exact hhash
  | moved hname =>
    intro hmust
    obtain ⟨m, hm, hhash⟩ := h hmust
    cases hname.symm.trans hm
    exact ⟨v.used hname, hhash⟩
  | ran => exact h
  | _ => trivial

end

section

variable {A : Agent} {s : Transfers β} {a : Transfers.Act β}

/-- Every transfer has what it relies on. -/
def Transfers.Inv (C : Update.Crypto β κ) (A : Agent) (s : Transfers β) : Prop :=
  s.Paired (fun v t => t.Intact C A v ∧ ¬ RequiresSignature t.payload) fun _ _ => True

lemma sound_of_inv {keys : String → Option κ} (h : s.Inv C A) : s.Sound C keys := by
  intro t ht r info n hstage _
  obtain ⟨k, hk⟩ := mem_iff_getElem?.mp ht
  obtain ⟨hintact, hsig⟩ := h.each hk
  simp only [Transfer.Intact, hstage] at hintact
  exact ⟨fun hmust => (hintact hmust).2, fun h => absurd h hsig⟩

variable [Inhabited β]

lemma inv_after (hord : s.Orderly A a) (h : s.Inv C A) : (s.after C A a).Inv C A := by
  cases a with
  | spawn p => exact h.after_spawn (fun _ _ h => h) ⟨trivial, hord⟩ fun _ _ => trivial
  | step k x =>
    refine h.after_step (fun _ _ h => h) (fun t hk ht => ⟨?_, ht.2⟩)
      fun t l u hk hl hlk ht hu _ => ⟨⟨?_, hu.2⟩, trivial⟩
    · exact ht.1.goes (goes_step C A t.payload x s.state t.stage)
    · exact hu.1.of_spared (spared_of_not_disturbs (hord t l u hk hl hlk) hu.1
        (goes_step C A t.payload x s.state t.stage))

/-- **When a completed transfer has the integrity it demanded.** No job requires a signature, and no
step of a transfer touches the file another one checks, has checked or has moved and not yet
reported. -/
theorem transfers_sound (C : Update.Crypto β κ) (A : Agent) (keys : String → Option κ) (v : Drop β)
    (acts : List (Transfers.Act β))
    (h : Along (Transfers.after C A) (Transfers.Orderly A) acts { state := v }) :
    Transfers.Sound C keys (acts.foldl (Transfers.after C A) { state := v }) :=
  sound_of_inv (h.invariant (fun _ _ hord hinv => inv_after hord hinv) (Crew.paired_nil v))

end

/-! ### Jobs for different files -/

/-- Neither of two jobs works at a path of the other one before it has moved its file. -/
structure Apart (A : Agent) (p q : FileTransferPayload) : Prop where
  temp : tempFile A p ≠ tempFile A q
  left : tempFile A p ≠ finalPath A q
  right : tempFile A q ≠ finalPath A p

lemma Apart.symm {A : Agent} {p q : FileTransferPayload} (h : Apart A p q) : Apart A q p :=
  ⟨h.temp.symm, h.right, h.left⟩

variable (A : Agent)

/-- A job that starts has no path in common with one that is under way. -/
def Transfers.Spaced (s : Transfers β) : Transfers.Act β → Prop
  | .spawn p => ¬ RequiresSignature p ∧ ∀ t ∈ s.threads, ¬ t.stage.Over → Apart A t.payload p
  | .step _ _ => True

/-- The temporary path leads to the file that is open; only the final path leads to a file that has
been moved. -/
def Transfer.Placed (v : Drop β) (t : Transfer β) : Prop :=
  match t.stage with
  | .copying _ n _ _ => v.names (tempFile A t.payload) = some n
  | .hashing _ n _ => v.names (tempFile A t.payload) = some n
  | .moved _ n => n < v.next ∧ ∀ q, v.names q = some n → q = finalPath A t.payload
  | .returned _ _ n => n < v.next ∧ ∀ q, v.names q = some n → q = finalPath A t.payload
  | _ => True

/-- Two transfers that are under way have no path in common. -/
def Transfer.Compatible (t u : Transfer β) : Prop :=
  ¬ t.stage.Over → ¬ u.stage.Over → Apart A t.payload u.payload

section

variable {A : Agent} {p : FileTransferPayload} {v v' : Drop β} {t u : Transfer β} {st : Stage β}

/-- What a step does to the paths: it changes at most its own two, and a path leads to an old file,
to a new one, or it is the final path and leads to the file that has been moved. -/
structure Redirected (A : Agent) (p : FileTransferPayload) (v v' : Drop β) : Prop where
  names : ∀ q, q ≠ tempFile A p → q ≠ finalPath A p → v'.names q = v.names q
  leads : ∀ q n, v'.names q = some n → n < v.next →
    v.names q = some n ∨ v.names (tempFile A p) = some n
  next : v.next ≤ v'.next

lemma placed_of_over (h : u.stage.Over) : u.Placed A v := by
  obtain ⟨p, st⟩ := u
  cases st with
  | failed err | reported r => trivial
  | _ => exact h.elim

lemma Transfer.Placed.of_redirected (hu : u.Placed A v) (hapart : Apart A p u.payload)
    (h : Redirected A p v v') : u.Placed A v' := by
  -- another transfer's temporary path does not lead to a file this one has moved
  have hmoved : ∀ n, (n < v.next ∧ ∀ q, v.names q = some n → q = finalPath A u.payload) →
      n < v'.next ∧ ∀ q, v'.names q = some n → q = finalPath A u.payload := by
    rintro n ⟨hn, hq⟩
    refine ⟨hn.trans_le h.next, fun q hname => ?_⟩
    rcases h.leads q n hname hn with hname | hname
    · exact hq q hname
    · exact absurd (hq _ hname) hapart.left
  have htemp : v'.names (tempFile A u.payload) = v.names (tempFile A u.payload) :=
    h.names _ hapart.temp.symm hapart.right
  obtain ⟨p', st⟩ := u
  cases st with
  | copying info n off rest | hashing info n seen => exact htemp.trans hu
  | moved info n | returned r info n => exact hmoved n hu
  | _ => trivial

variable {n : ℕ} {q : List String}

lemma Transfer.Placed.writes (h : t.Placed A v) (hn : t.writes A v = some n) :
    ¬ t.stage.Over ∧ v.names (tempFile A t.payload) = some n := by
  obtain ⟨p, st⟩ := t
  cases st with
  | downloading info => exact ⟨id, hn⟩
  | copying info m off rest =>
    cases hn
    exact ⟨id, h⟩
  | _ => cases hn

lemma Transfer.Placed.relies (h : u.Placed A v) (hn : u.Relies A v n) (hq : v.names q = some n) :
    ¬ u.stage.Over ∧ (q = tempFile A u.payload ∨ q = finalPath A u.payload) := by
  obtain ⟨p, st⟩ := u
  cases st with
  | hashing info m seen =>
    obtain rfl : n = m := hn
    exact ⟨id, .inl (v.distinct hq h)⟩
  | checked info => exact ⟨id, .inl (v.distinct hq hn.2)⟩
  | moved info m | returned r info m =>
    obtain rfl : n = m := hn.2
    exact ⟨id, .inr (h.2 q hq)⟩
  | _ => exact hn.elim

lemma Transfer.mem_redirects (hq : q ∈ t.redirects A) :
    ¬ t.stage.Over ∧ (q = tempFile A t.payload ∨ q = finalPath A t.payload) := by
  obtain ⟨p, st⟩ := t
  cases st with
  | checked info =>
    rcases mem_cons.mp hq with hq | hq
    · exact ⟨id, .inl hq⟩
    · exact ⟨id, .inr (mem_singleton.mp hq)⟩
  | removing err => exact ⟨id, .inl (mem_singleton.mp hq)⟩
  | _ => cases hq

lemma Transfer.Needs.eq (h : u.Needs A q) : ¬ u.stage.Over ∧ q = tempFile A u.payload := by
  obtain ⟨p, st⟩ := u
  cases st with
  | hashing info n seen => exact ⟨id, h⟩
  | checked info => exact ⟨id, h.2⟩
  | _ => exact h.elim

lemma not_disturbs (ht : t.Placed A v) (hu : u.Placed A v) (hc : t.Compatible A u) :
    ¬ t.Disturbs A v u := by
  rintro (⟨n, hwrites, hrelies⟩ | ⟨q, hredirects, hneeds⟩)
  · obtain ⟨htover, hname⟩ := ht.writes hwrites
    obtain ⟨huover, htemp | hfinal⟩ := hu.relies hrelies hname
    · exact (hc htover huover).temp htemp
    · exact (hc htover huover).left hfinal
  · obtain ⟨huover, rfl⟩ := hneeds.eq
    obtain ⟨htover, htemp | hfinal⟩ := t.mem_redirects hredirects
    · exact (hc htover huover).temp htemp.symm
    · exact (hc htover huover).right hfinal

variable [Inhabited β]

lemma redirected_of_goes (h : Goes C A p v st v' st') : Redirected A p v v' := by
  cases h with
  | created =>
    refine ⟨fun q hq _ => names_create_of_ne hq, fun q n hq hn => ?_, next_le_create⟩
    by_cases hqt : q = tempFile A p
    · subst hqt
      rw [names_create] at hq
      cases hq
      exact .inr (by_contra fun hname => ne_create hn hname rfl)
    · rw [names_create_of_ne hqt] at hq
      exact .inl hq
  | moved hname =>
    refine ⟨fun q hq hq' => names_rename_of_ne hq hq', fun q n hq _ => ?_, le_rfl⟩
    rcases names_of_rename hq with ⟨-, hq⟩ | ⟨-, hq⟩
    · exact .inr hq
    · exact .inl hq
  | removed =>
    refine ⟨fun q hq _ => names_remove_of_ne hq, fun q n hq _ => ?_, le_rfl⟩
    by_cases hqt : q = tempFile A p
    · subst hqt
      simp [remove] at hq
    · rw [names_remove_of_ne hqt] at hq
      exact .inl hq
  | _ => exact ⟨fun _ _ _ => rfl, fun _ _ h _ => .inl h, le_rfl⟩

lemma over_of_goes (h : Goes C A p v st v' st') (hover : st.Over) : v' = v ∧ st'.Over := by
  cases h with
  | gaveUp h => exact absurd hover h
  | reported => exact ⟨rfl, trivial⟩
  | _ => exact hover.elim

lemma Transfer.Placed.goes (h : t.Placed A v) (hgoes : Goes C A t.payload v t.stage v' st') :
    ({ t with stage := st' } : Transfer β).Placed A v' := by
  obtain ⟨p, st⟩ := t
  cases hgoes with
  | created => exact names_create v _
  | wrote => exact h
  | opened _ hname => exact hname
  | hashed => exact h
  | moved hname =>
    refine ⟨v.used hname, fun q hq => ?_⟩
    rcases names_of_rename hq with ⟨rfl, -⟩ | ⟨hne, hq⟩
    · rfl
    · exact absurd (v.distinct hq hname) hne
  | ran => exact h
  | _ => trivial

lemma orderly_of_spaced {acts : List (Transfers.Act β)}
    (h : Along (Transfers.after C A) (Transfers.Spaced A) acts { state := v }) :
    Along (Transfers.after C A) (Transfers.Orderly A) acts { state := v } := by
  refine h.imp_of_invariant
    (I := Crew.Paired (Transfer.Placed A) (Transfer.Compatible A)) (fun s a hspaced hs => ?_)
    (fun s a hspaced hs => ?_) (Crew.paired_nil v)
  · have hsymm : ∀ t u : Transfer β, t.Compatible A u → u.Compatible A t := fun t u hc hu ht =>
      (hc ht hu).symm
    cases a with
    | spawn p =>
      exact hs.after_spawn hsymm trivial fun u hu _ hover => (hspaced.2 u hu hover).symm
    | step k x =>
      refine hs.after_step hsymm (fun t hk ht => ht.goes (goes_step C A t.payload x _ t.stage))
        fun t l u hk hl hlk ht hu hc => ?_
      have hgoes := goes_step C A t.payload x s.state t.stage
      by_cases htover : t.stage.Over
      · obtain ⟨hsame, hover⟩ := over_of_goes hgoes htover
        refine ⟨?_, fun hunder _ => absurd hover hunder⟩
        change u.Placed A (t.stage.step C A t.payload x s.state).1
        rw [hsame]
        exact hu
      · refine ⟨?_, fun _ huover => hc htover huover⟩
        by_cases huover : u.stage.Over
        · exact placed_of_over huover
        · exact hu.of_redirected (hc htover huover) (redirected_of_goes hgoes)
  · cases a with
    | spawn p => exact hspaced.1
    | step k x =>
      exact fun t l u hk hl hlk => not_disturbs (hs.each hk) (hs.each hl)
        (hs.pairs hk hl (Ne.symm hlk))

end

namespace Sample

/-- One hash for the data of the file, another one for everything else; no signature is valid. -/
def crypto : Update.Crypto ℕ Unit where
  sha256 data := data
  hex data := if data = [1, 2] then "good" else "bad"
  decodeBase64 _ := .ok []
  publicKeyField _ := .ok ""
  decodePEM _ := none
  parsePKIX _ := .ok none
  verify _ _ _ := false
  text _ := ""

def agent : Agent := { serverURL := "https://server", dropDir := "/drop" }

def info : Files.DownloadResponse where
  url := "https://data"
  sizeBytes := 2
  chunkSizeBytes := 2
  totalChunks := 1
  sha256 := "good"
  signature := "c2ln"
  signatureKeyID := "key"
  expiresAt := 0

def io : Io ℕ where
  notExist := "no such file"
  client _ := .response 200 [1, 2]
  decodeInfo _ := .ok info
  statfs := some (.ok 100)
  half := { scale := id, percent := "50" }

/-- Steps of the given transfers, with the number of bytes each of them moves. -/
def steps (xs : List (ℕ × ℕ)) : List (Transfers.Act ℕ) :=
  xs.map fun x => .step x.1 { io, size := x.2 }

def check (k : ℕ) : List (ℕ × ℕ) := [(k, 0), (k, 0), (k, 2), (k, 0), (k, 0), (k, 2), (k, 0)]

def file (fileID : String) : FileTransferPayload := { fileID }

def apart : List (Transfers.Act ℕ) :=
  .spawn (file "f") :: .spawn (file "g") ::
    steps (check 0 ++ check 1 ++ [(0, 0), (1, 0), (0, 0), (1, 0)])

/-- A second job for the file begins its download when the first one has checked the data. -/
def race : List (Transfers.Act ℕ) :=
  .spawn (file "f") :: .spawn (file "f") :: steps (check 0 ++ [(1, 0), (1, 0), (0, 0), (0, 0)])

def signed : List (Transfers.Act ℕ) :=
  .spawn { fileID := "f", integrity := some ⟨true, true⟩ } ::
    steps (check 0 ++ [(0, 0), (0, 0)])

def final (acts : List (Transfers.Act ℕ)) : Transfers ℕ :=
  acts.foldl (Transfers.after crypto agent) { state := .empty }

def completed : JobResultSubmission :=
  { status := "completed", message := "file transferred to /drop/f" }

end Sample

open FileTransfer.Sample in
lemma spaced_steps {xs : List (ℕ × ℕ)} {s : Transfers ℕ} :
    Along (Transfers.after crypto agent) (Transfers.Spaced agent)
      (steps xs) s := by
  refine Along.of_forall (fun a ha s => ?_) s
  obtain ⟨x, -, rfl⟩ := mem_map.mp ha
  trivial

open FileTransfer.Sample in
theorem different_files_sound : (final apart).threads[0]? =
        some ⟨file "f", .returned completed info 0⟩ ∧
      (final apart).Sound crypto fun _ => none := by
  have hapart : Apart agent (file "f") (file "g") := ⟨by decide, by decide, by decide⟩
  have hspaced : Along (Transfers.after crypto agent) (Transfers.Spaced agent)
      apart { state := .empty } := by
    refine ⟨⟨by decide, fun t ht => (by cases ht)⟩, ⟨by decide, fun t ht _ => ?_⟩, spaced_steps⟩
    rw [mem_singleton.mp ht]
    exact hapart
  exact ⟨rfl, transfers_sound _ _ _ _ _ (orderly_of_spaced hspaced)⟩

open FileTransfer.Sample in
/-- The first job moves what the second one has emptied into place and reports `completed`; and so
does a job that requires a signature, although none is valid. -/
theorem completed_without_integrity : ((final race).threads[0]? =
        some ⟨file "f", .returned completed info 0⟩ ∧
      (final race).state.inodes 0 = [] ∧
      ¬ (final race).Sound crypto fun _ => none) ∧
    ¬ (final signed).Sound crypto fun _ => some () := by
  have hrace : (final race).threads[0]? = some ⟨file "f", .returned completed info 0⟩ := rfl
  have hempty : (final race).state.inodes 0 = [] := rfl
  have hsigned : (final signed).threads[0]? =
      some ⟨{ fileID := "f", integrity := some ⟨true, true⟩ },
        .returned completed info 0⟩ := rfl
  refine ⟨⟨hrace, hempty, fun h => ?_⟩, fun h => ?_⟩
  · have hhash := (h _ (mem_of_getElem? hrace) _ _ _ rfl rfl).1 (by decide)
    rw [hempty] at hhash
    exact absurd hhash (by decide)
  · obtain ⟨key, sig, -, -, hverify⟩ := (h _ (mem_of_getElem? hsigned) _ _ _ rfl rfl).2 (by decide)
    cases hverify

end Moebius.FileTransfer
