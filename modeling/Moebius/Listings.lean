import Mathlib.Data.Prod.Lex
import Mathlib.Data.String.Basic
import Moebius.FileIsolation
import Moebius.Pages

/-!
The listings of the audit log and of the files.

Both list the newest rows first, with the identifier as the tie-breaker, and both take the
identifier of the last row as the cursor and go on with the rows whose identifier is smaller. The
identifiers are random, so that need not be the rows that come next.
-/

namespace Moebius

open Proc Files Listing List

namespace AuditLog

/-- The filters; a time that is not given or cannot be parsed is left out. -/
structure Query where
  actorID : String := ""
  actorType : String := ""
  action : String := ""
  resourceType : String := ""
  resourceID : String := ""
  sinceTime : Option Time := none
  untilTime : Option Time := none

def Query.matches (q : Query) (r : AuditRow) : Bool :=
  (q.actorID == "" || r.actorID == q.actorID) &&
    (q.actorType == "" || r.actorType == q.actorType) &&
    (q.action == "" || r.action == q.action) &&
    (q.resourceType == "" || r.resourceType == q.resourceType) &&
    (q.resourceID == "" || r.resourceID == q.resourceID) &&
    q.sinceTime.all (· ≤ r.createdAt) && q.untilTime.all (r.createdAt ≤ ·)

structure Base64 where
  encode : String → String
  decode : String → Option String
  decode_encode : ∀ s, decode (encode s) = some s
  decode_empty : decode "" = some ""

variable (B : Base64) (before : String → String → Bool) (scan : Scan AuditRow)

def Base64.cursorID (cursor : String) : Option String :=
  if cursor = "" then none else (B.decode cursor).filter (· ≠ "")

lemma Base64.cursorID_encode (B : Base64) (id : String) :
    B.cursorID (B.encode id) = if id = "" then none else some id := by
  have hne : id ≠ "" → B.encode id ≠ "" := by
    intro h he
    have hid := B.decode_encode id
    rw [he, B.decode_empty, Option.some.injEq] at hid
    exact h hid.symm
  by_cases h : id = ""
  · simp [cursorID, B.decode_encode, h]
  · simp [cursorID, hne h, B.decode_encode, h]

/-- `ORDER BY created_at DESC, id DESC`. -/
def newestFirst (a b : AuditRow) : Prop :=
  b.createdAt < a.createdAt ∨ b.createdAt = a.createdAt ∧ before a.id b.id = false
  deriving Decidable

def selectEntries (tenantID : String) (cursor : Option String) (q : Query) (db : Db) :
    List AuditRow :=
  (scan.order (db.auditLog.select fun r =>
    r.tenantID = tenantID && q.matches r && cursor.all (before r.id))).insertionSort
      (newestFirst before)

/-- `AuditLogHandler.List`: the page, and its limit. -/
def list (n : Option ℤ) (q : Query) (cursor : String) :
    ApiAuth.Handler (Listing AuditRow × ℕ) := fun ctx =>
  if ctx.tenantID = "" then pure (.err 401 "tenant not found")
  else do
    match ← read fun db => (selectEntries before scan ctx.tenantID (B.cursorID cursor) q db).take
        (pageLimit n + 1) with
    | none => pure (.err 500 "failed to query audit log")
    | some entries =>
      pure (.ok 200 (.cut (pageLimit n) (B.encode ·.id) entries, pageLimit n))

end AuditLog

/-! ### Following the pages -/

/-- The page of an answer to a request for the audit log. -/
def auditPage : Reply (Listing AuditRow × ℕ) → Option (Listing AuditRow)
  | .ok _ (page, _) => some page
  | _ => none

def filePage : Reply Page → Option (Listing Files.File)
  | .ok _ page => some ⟨page.data, page.nextCursor, page.hasMore⟩
  | _ => none

def Files.inOrder (cfg : Config) (env : Env) (tenantID search : String) (db : Db) : List FileRow :=
  (env.scanFiles.order (db.files.select fun f =>
    f.tenantID = tenantID && (search == "" || cfg.ilike f.filename search))).insertionSort
      (newestFirst cfg)

lemma pageLimit_pos (n : Option ℤ) : 0 < pageLimit n := by
  unfold pageLimit
  split
  · decide
  · split <;> omega

/-- The database compares texts by a linear order. -/
structure Collates {κ : Type} [LinearOrder κ] (before : String → String → Bool)
    (collate : String → κ) : Prop where
  injective : Function.Injective collate
  before_eq : ∀ a b, before a b = decide (collate a < collate b)

section

variable {κ : Type} [LinearOrder κ] {before : String → String → Bool} {collate : String → κ}

variable {ρ : Type} {id : ρ → String} {time : ρ → Time}

lemma Collates.trans (h : Collates before collate) (a b c : String) (hab : before a b)
    (hbc : before b c) : before a c := by
  rw [h.before_eq, decide_eq_true_eq] at *
  exact hab.trans hbc

/-- The rows behind a cursor come in the order in which all the rows come. -/
lemma Collates.behind (h : Collates before collate) {t : Table id} {r : ρ → ρ → Prop}
    [DecidableRel r]
    (hr : ∀ a b, r a b ↔ time b < time a ∨ time b = time a ∧ before (id a) (id b) = false)
    {m : ρ → Bool} {scan : Scan ρ} (c : String) :
    (scan.order (t.select fun a => m a && before (id a) c)).insertionSort r =
      ((scan.order (t.select m)).insertionSort r).filter fun a => before (id a) c := by
  have hlex : ∀ a b, r a b ↔
      toLex (time b, collate (id b)) ≤ toLex (time a, collate (id a)) := fun a b => by
    rw [hr, Prod.Lex.toLex_le_toLex, h.before_eq, decide_eq_false_iff_not, not_lt]
  have : Std.Total r := ⟨fun a b => by simpa only [hlex] using le_total _ _⟩
  have : IsTrans ρ r := ⟨fun a b c hab hbc => (hlex a c).mpr
    (((hlex b c).mp hbc).trans ((hlex a b).mp hab))⟩
  have hfilter : t.select (fun a => m a && before (id a) c) =
      (t.select m).filter fun a => before (id a) c := by
    unfold Table.select
    rw [filter_filter]
    exact filter_congr fun a _ => Bool.and_comm _ _
  rw [hfilter]
  refine insertionSort_filter (fun a ha b hb hab hba => ?_) scan _
  -- no two rows have one identifier
  have heq := toLex.injective (le_antisymm ((hlex b a).mp hba) ((hlex a b).mp hab))
  exact Table.eq_of_key_eq (mem_filter.mp ha).1 (mem_filter.mp hb).1
    (h.injective (Prod.ext_iff.mp heq).2)

lemma nodup_listed {t : Table id} {r : ρ → ρ → Prop} [DecidableRel r] {m : ρ → Bool}
    {scan : Scan ρ} : (((scan.order (t.select m)).insertionSort r).map id).Nodup :=
  (((perm_insertionSort r _).trans (scan.perm _)).map id).nodup_iff.mpr
    (t.nodup.sublist (filter_sublist.map id))

variable {db : Db}

lemma visits_audit_iff (h : Collates before collate) {B : AuditLog.Base64} {scan : Scan AuditRow}
    {n : Option ℤ} {q : AuditLog.Query} {ctx : Caller} (htenant : ctx.tenantID ≠ "") :
    Visits (fun c => auditPage ((AuditLog.list B before scan n q c ctx).run [] db).1) ""
        (AuditLog.selectEntries before scan ctx.tenantID none q db) ↔
      Turns AuditRow.id before (pageLimit n)
        (AuditLog.selectEntries before scan ctx.tenantID none q db) := by
  have hlist : ∀ c, auditPage ((AuditLog.list B before scan n q c ctx).run [] db).1 =
      some (.cut (pageLimit n) (B.encode ·.id)
        (AuditLog.selectEntries before scan ctx.tenantID (B.cursorID c) q db)) := by
    intro c
    rw [← cut_take, AuditLog.list, if_neg htenant]
    rfl
  refine @Serves.visits_iff _ _ AuditRow.id (B.encode ·.id) _ _ _ ⟨hlist "", fun x _ => ?_⟩
    (pageLimit_pos n) h.trans nodup_listed.of_map
  rw [hlist, B.cursorID_encode]
  split
  · rfl
  · simp only [AuditLog.selectEntries, Option.all_some, Option.all_none, Bool.and_true]
    rw [h.behind (r := AuditLog.newestFirst before) fun _ _ => Iff.rfl]

lemma mapM_eq_some_iff {α β : Type} {f : α → Option β} {l : List α} {l' : List β} :
    l.mapM f = some l' ↔ Forall₂ (fun a b => f a = some b) l l' := by
  induction l generalizing l' with
  | nil => simp [eq_comm]
  | cons a l ih =>
    simp only [mapM_cons, Option.bind_eq_bind, Option.bind_eq_some_iff, forall₂_cons_left_iff, ih]
    grind

lemma id_of_scanFile {row : FileRow} {f : Files.File} (h : scanFile row = some f) :
    f.id = row.id := by
  simp only [scanFile, Option.bind_eq_bind, Option.bind_eq_some_iff] at h
  obtain ⟨_, _, _, _, _, _, _, _, h⟩ := h
  cases h
  rfl

lemma map_id_of_scanFile {rows : List FileRow} {files : List Files.File}
    (h : Forall₂ (fun row f => scanFile row = some f) rows files) :
    files.map (·.id) = rows.map (·.id) := by
  induction h with
  | nil => rfl
  | cons hf _ ih => rw [map_cons, map_cons, id_of_scanFile hf, ih]

lemma filePage_listFiles {cfg : Config} {env : Env} {n : Option ℤ} {c search : String}
    {ctx : Caller} {rows : List FileRow} {files : List Files.File}
    (hfiles : rows.mapM scanFile = some files)
    (hselect : selectFiles cfg env ctx.tenantID (pageLimit n) c search db =
      rows.take (pageLimit n + 1)) :
    filePage ((listFiles cfg env n c search ctx).run [] db).1 =
      some (.cut (pageLimit n) Files.File.id files) := by
  have htake : (rows.take (pageLimit n + 1)).mapM scanFile = some (files.take (pageLimit n + 1)) :=
    mapM_eq_some_iff.mpr (forall₂_take _ (mapM_eq_some_iff.mp hfiles))
  rw [← cut_take]
  unfold listFiles
  simp only [bind_eq, run_nil_bind, run_nil_read, hselect, htake]
  generalize files.take (pageLimit n + 1) = files
  by_cases hmore : pageLimit n < files.length
  · simp [filePage, cut, hmore]
  · simp [filePage, cut, hmore, take_of_length_le (Nat.le_of_not_lt hmore)]

lemma visits_files_iff {cfg : Config} (h : Collates cfg.textBefore collate) (env : Env)
    (n : Option ℤ) (search : String) (ctx : Caller) {files : List Files.File}
    (hfiles : (inOrder cfg env ctx.tenantID search db).mapM scanFile = some files) :
    Visits (fun c => filePage ((listFiles cfg env n c search ctx).run [] db).1) "" files ↔
      Turns Files.File.id cfg.textBefore (pageLimit n) files := by
  have hfirst : filePage ((listFiles cfg env n "" search ctx).run [] db).1 =
      some (.cut (pageLimit n) Files.File.id files) :=
    filePage_listFiles hfiles (by simp [selectFiles, inOrder])
  have hscan := mapM_eq_some_iff.mp hfiles
  refine @Serves.visits_iff _ _ Files.File.id Files.File.id _ _ _ ⟨hfirst, fun f _ => ?_⟩
    (pageLimit_pos n) h.trans (map_id_of_scanFile hscan ▸ nodup_listed).of_map
  split
  · rename_i hid
    rw [hid]
    exact hfirst
  · rename_i hid
    refine filePage_listFiles (mapM_eq_some_iff.mpr
      (rel_filter (p := fun row => cfg.textBefore row.id f.id) (fun row f' hf => ?_) hscan)) ?_
    · simp only [id_of_scanFile hf]
    simp only [selectFiles, inOrder, beq_eq_false_iff_ne.mpr hid, Bool.false_or]
    rw [h.behind (r := newestFirst cfg) fun _ _ => Iff.rfl]

/-- A client that follows the cursor through the audit log or the files gets every matching row
once, the newest first, just if at the end of every page the rows with smaller identifiers are those
that come after; the files have to be read, too. -/
theorem listings_complete (h : Collates before collate) (B : AuditLog.Base64)
    (scan : Scan AuditRow) (cfg : Config) (hcfg : cfg.textBefore = before) (env : Env)
    (n : Option ℤ) (q : AuditLog.Query) (search : String) (ctx : Caller)
    (htenant : ctx.tenantID ≠ "") :
    (Visits (fun c => auditPage ((AuditLog.list B before scan n q c ctx).run [] db).1) ""
        (AuditLog.selectEntries before scan ctx.tenantID none q db) ↔
      Turns AuditRow.id before (pageLimit n)
        (AuditLog.selectEntries before scan ctx.tenantID none q db)) ∧
    ((∃ files, (inOrder cfg env ctx.tenantID search db).mapM scanFile = some files ∧
        Visits (fun c => filePage ((listFiles cfg env n c search ctx).run [] db).1) "" files) ↔
      ∃ files, (inOrder cfg env ctx.tenantID search db).mapM scanFile = some files ∧
        Turns Files.File.id before (pageLimit n) files) := by
  subst hcfg
  exact ⟨visits_audit_iff h htenant, exists_congr fun files =>
    and_congr_right fun hfiles => visits_files_iff h env n search ctx hfiles⟩

end

namespace TwoRows

/-- Without an alphabet. -/
def plain : AuditLog.Base64 := ⟨id, some, fun _ => rfl, rfl⟩

variable (age : Time) (id cursor : String) (createdAt : Time)

def entry : AuditRow :=
  { id, tenantID := "b", actorID := "u", actorType := "user", action := "file.delete"
    resourceType := "file", resourceID := "f", metadata := [], createdAt }

def row : FileRow :=
  { Files.Sample.file with
    id, createdAt, signature := some "", signatureKeyID := some "", mimeType := some ""
    createdBy := some "u" }

/-- The second row is this much newer than the first. -/
def db : Db where
  auditLog := ⟨[entry "x" 0, entry "y" age], (by decide : ["x", "y"].Nodup)⟩
  files := ⟨[row "x" 0, row "y" age], (by decide : ["x", "y"].Nodup)⟩

def before (a b : String) : Bool := a < b

def cfg : Config := { Files.Sample.cfg with textBefore := before }

def ctx : Caller := { tenantID := "b", userID := "u", isAdmin := true, scope := none }

def auditPages : Option (Listing AuditRow) :=
  auditPage ((AuditLog.list plain before .heap (some 1) {} cursor ctx).run [] (db age)).1

def filePages : Option (Listing Files.File) :=
  filePage ((listFiles cfg Files.Sample.env (some 1) cursor "" ctx).run [] (db age)).1

end TwoRows

lemma TwoRows.turns {α : Type} {key : α → String} {a b : α} (ha : key a = "y") (hb : key b = "x") :
    Turns key before 1 [a, b] := by
  have hy : before "y" "y" = false := by decide
  have hx : before "x" "y" = true := by decide
  exact (@ends_append_cons _ 1 _ [] [b] a rfl (by simp)).mpr
    ⟨by simp [Behind, ha, hb, hy, hx], ends_of_le (by simp)⟩

open TwoRows in
theorem listings_of_dated : Visits (auditPages 1) "" [entry "y" 1, entry "x" 0] ∧
      ∃ files, files.map (·.id) = ["y", "x"] ∧ Visits (filePages 1) "" files := by
  have h := @listings_complete _ _ _ id (db 1)
    ⟨Function.injective_id, fun _ _ => rfl⟩ plain .heap cfg rfl Files.Sample.env (some 1) {} "" ctx
    (by decide)
  obtain ⟨files, hfiles, hvisits⟩ := h.2.mpr ⟨_, rfl, turns rfl rfl⟩
  cases hfiles
  exact ⟨h.1.mpr (turns rfl rfl), _, rfl, hvisits⟩

open TwoRows in
/-- The newer row has the smaller identifier, and nothing is behind it. -/
theorem older_row_lost :
    (auditPages (-1) "").map (fun p => (p.data.map (·.id), p.nextCursor, p.hasMore)) =
        some (["x"], "x", true) ∧
      (auditPages (-1) "x").map (fun p => (p.data.map (·.id), p.hasMore)) = some ([], false) ∧
      (filePages (-1) "").map (fun p => (p.data.map (·.id), p.nextCursor, p.hasMore)) =
        some (["x"], "x", true) ∧
      (filePages (-1) "x").map (fun p => (p.data.map (·.id), p.hasMore)) = some ([], false) := by
  decide

end Moebius
