import Mathlib.Data.List.Sort
import Mathlib.Data.List.TakeWhile
import Mathlib.Data.String.Basic
import Mathlib.Tactic.Ring
import Moebius.Proc

/-!
The migrations of the server's database.

The migration files are part of the program. At its start the server reads the highest version
recorded in `schema_migrations`, goes through the files in the order of their names and applies
those of a higher version, each in a transaction of its own that also records its version. The
version is the number a file's name begins with; files are ordered by their names as texts.
-/

namespace Moebius.Migrate

open Proc List

inductive ScanError
  | newline
  | eof
  | expectedInteger
  | outOfRange (token : List Char)

/-- White space as the `fmt` package knows it. -/
def isSpace (c : Char) : Bool :=
  let n := c.toNat
  (0x09 ≤ n && n ≤ 0x0d) || n == 0x20 || n == 0x85 || n == 0xa0 || n == 0x1680 ||
    (0x2000 ≤ n && n ≤ 0x200a) || n == 0x2028 || n == 0x2029 || n == 0x202f || n == 0x205f ||
    n == 0x3000

def skipSpace : List Char → Except ScanError (List Char)
  | [] => .ok []
  | c :: cs =>
    if c = '\n' then .error .newline else if isSpace c then skipSpace cs else .ok (c :: cs)

def acceptSign : List Char → Bool × List Char
  | '-' :: cs => (true, cs)
  | '+' :: cs => (false, cs)
  | cs => (false, cs)

def isDigit (c : Char) : Bool := 48 ≤ c.toNat && c.toNat ≤ 57

def valueOf (token : List Char) : ℕ := token.foldl (fun n c => 10 * n + (c.toNat - 48)) 0

/-- `Sscanf` with `%d`: what follows the digits is not looked at. -/
def scanInt (cs : List Char) : Except ScanError ℤ :=
  match skipSpace cs with
  | .error err => .error err
  | .ok [] => .error .eof
  | .ok (c :: cs) =>
    match acceptSign (c :: cs) with
    | (_, []) => .error .eof
    | (negative, c :: cs) =>
      if isDigit c then
        let token := (c :: cs).takeWhile isDigit
        let v : ℤ := if negative then -(valueOf token : ℤ) else valueOf token
        if -2 ^ 63 ≤ v ∧ v < 2 ^ 63 then .ok v else .error (.outOfRange token)
      else .error .expectedInteger

structure Texts where
  driver : String := ""
  scan : ScanError → String := fun _ => ""

def parseVersion (texts : Texts) (name : String) : Except String ℤ :=
  if '_' ∈ name.toList then
    match scanInt (name.toList.takeWhile (· ≠ '_')) with
    | .error err => .error (texts.scan err)
    | .ok v => .ok v
  else .error ("unexpected format: " ++ name)

structure File where
  name : String
  data : String
  deriving DecidableEq

/-- The scripts that are in effect, in the order in which they came into it, and the versions in
`schema_migrations` if there is such a table. -/
structure Database where
  inEffect : List File := []
  schemaMigrations : Option (List ℤ) := none

namespace Database

variable (db : Database)

def recorded : List ℤ := db.schemaMigrations.getD []

def createTable : Database := { db with schemaMigrations := some db.recorded }

/-- The highest version; without a table there is no answer. -/
def currentVersion : Option ℤ :=
  db.schemaMigrations.map fun versions => versions.max?.getD 0

def execute (file : File) (db : Database) : Database :=
  { db with inEffect := db.inEffect ++ [file] }

/-- The version is the primary key, and an `INT`. -/
def record (version : ℤ) (db : Database) : Option Database :=
  match db.schemaMigrations with
  | none => none
  | some versions =>
    if version ∈ versions ∨ ¬ (-2 ^ 31 ≤ version ∧ version < 2 ^ 31) then none
    else some { db with schemaMigrations := some (versions ++ [version]) }

end Database

/-- What happens inside the transactions of a run, by the names of the files: which statements
fail, and whether the answer to a commit is lost. -/
structure Env where
  texts : Texts := {}
  txFaults : String → List Bool := fun _ => []
  commitLost : String → Bool := fun _ => false

variable (env : Env)

def applyMigration (file : File) (version : ℤ) : Proc Database (Except String Unit) := do
  if ← exec (Database.execute file) then
    if ← attempt (Database.record version) then
      if ← commit then pure (.ok ())
      else pure (.error ("commit " ++ file.name ++ ": " ++ env.texts.driver))
    else pure (.error ("record migration " ++ file.name ++ ": " ++ env.texts.driver))
  else pure (.error ("execute " ++ file.name ++ ": " ++ env.texts.driver))

def hasUpSuffix (name : String) : Bool := ".up.sql".toList.isSuffixOf name.toList

def upNames (dir : List File) : List String :=
  ((dir.map File.name).filter hasUpSuffix).insertionSort (· ≤ ·)

def readFile (dir : List File) (name : String) : Option String :=
  (dir.find? fun file => file.name = name).map File.data

def applyNext (dir : List File) (current : ℤ) (applied : ℕ) (name : String) :
    Proc Database (Except String ℕ) :=
  match parseVersion env.texts name with
  | .error err => done (.error ("parse migration filename " ++ name.quote ++ ": " ++ err))
  | .ok version =>
    if version ≤ current then done (.ok applied)
    else
      match readFile dir name with
      | none => done (.error ("read migration " ++ name ++ ": file does not exist"))
      | some data => do
        match ← transaction (env.txFaults name) (applyMigration env { name, data } version)
            ("begin tx for " ++ name ++ ": " ++ env.texts.driver) with
        | .error err => pure (.error err)
        | .ok () =>
          if env.commitLost name then
            pure (.error ("commit " ++ name ++ ": " ++ env.texts.driver))
          else pure (.ok (applied + 1))

/-- `Run`; the number of migrations applied is what it logs at the end. -/
def run (dir : List File) : Proc Database (Except String ℕ) := do
  if ← exec Database.createTable then
    match (← read Database.currentVersion).join with
    | none => pure (.error ("query current version: " ++ env.texts.driver))
    | some current => loop (applyNext env dir current) (upNames dir) 0
  else pure (.error ("create schema_migrations: " ++ env.texts.driver))

/-! ### Files with a version -/

def digitChar (d : Fin 10) : Char := Char.ofNat (48 + d)

def number (digits : List (Fin 10)) : ℕ := digits.foldl (fun n d => 10 * n + d.val) 0

/-- An up-migration whose name begins with a positive number of the given width. -/
structure Migration (width : ℕ) where
  digits : List (Fin 10)
  description : String
  data : String
  length_digits : digits.length = width
  number_pos : 0 < number digits

variable {width : ℕ}

namespace Migration

def version (m : Migration width) : ℕ := number m.digits

def name (m : Migration width) : String :=
  String.ofList (m.digits.map digitChar ++ '_' :: (m.description.toList ++ ".up.sql".toList))

def file (m : Migration width) : File := { name := m.name, data := m.data }

end Migration

section

variable (d : Fin 10) (digits : List (Fin 10))

lemma toNat_digitChar : (digitChar d).toNat = 48 + d := by
  revert d
  decide

lemma isDigit_digitChar : isDigit (digitChar d) = true := by
  revert d
  decide

lemma digitChar_ne : digitChar d ≠ '_' ∧ digitChar d ≠ '\n' ∧
    digitChar d ≠ '-' ∧ digitChar d ≠ '+' ∧ isSpace (digitChar d) = false := by
  revert d
  decide

lemma digitChar_lt {d e : Fin 10} (h : d < e) : digitChar d < digitChar e := by
  revert d e
  decide

lemma valueOf_map : valueOf (digits.map digitChar) = number digits := by
  unfold valueOf number
  rw [foldl_map]
  simp only [toNat_digitChar, Nat.add_sub_cancel_left]

lemma foldl_number (n : ℕ) :
    digits.foldl (fun n d => 10 * n + d.val) n = n * 10 ^ digits.length + number digits := by
  unfold number
  induction digits generalizing n with
  | nil => simp
  | cons d digits ih =>
    rw [foldl_cons, ih, foldl_cons, ih (10 * 0 + d.val), length_cons, pow_succ]
    ring

lemma number_cons : number (d :: digits) = d * 10 ^ digits.length + number digits := by
  have h := foldl_number digits (10 * 0 + d.val)
  simpa [number] using h

lemma number_lt : number digits < 10 ^ digits.length := by
  induction digits with
  | nil => simp [number]
  | cons d digits ih =>
    have hd : (d : ℕ) + 1 ≤ 10 := d.isLt
    calc number (d :: digits) = d * 10 ^ digits.length + number digits := number_cons d digits
      _ < d * 10 ^ digits.length + 10 ^ digits.length := Nat.add_lt_add_left ih _
      _ = (d + 1) * 10 ^ digits.length := by ring
      _ ≤ 10 * 10 ^ digits.length := Nat.mul_le_mul_right _ hd
      _ = 10 ^ (d :: digits).length := by rw [length_cons, pow_succ]; ring

/-- Among numbers written with equally many digits the texts are ordered as the numbers are,
whatever follows them. -/
lemma text_lt {ds es : List (Fin 10)} (hlength : ds.length = es.length)
    (h : number ds < number es) (r r' : List Char) :
    ds.map digitChar ++ r < es.map digitChar ++ r' := by
  induction ds generalizing es with
  | nil =>
    rw [eq_nil_of_length_eq_zero hlength.symm] at h
    exact absurd h (lt_irrefl _)
  | cons d ds ih =>
    obtain _ | ⟨e, es⟩ := es
    · simp at hlength
    have hlength' : ds.length = es.length := by simpa using hlength
    rw [number_cons, number_cons, hlength'] at h
    simp only [map_cons, cons_append, cons_lt_cons_iff]
    rcases lt_trichotomy d e with hlt | rfl | hgt
    · exact Or.inl (digitChar_lt hlt)
    · exact Or.inr ⟨rfl, ih hlength' (by omega)⟩
    · -- a greater first digit outweighs all that follow
      have hes := number_lt es
      have hde : ((e : ℕ) + 1) * 10 ^ es.length ≤ d * 10 ^ es.length := Nat.mul_le_mul_right _ hgt
      rw [Nat.add_mul, Nat.one_mul] at hde
      omega

end

namespace Migration

variable (m : Migration width)

@[simp] lemma toList_name : m.name.toList =
      m.digits.map digitChar ++ '_' :: (m.description.toList ++ ".up.sql".toList) :=
  String.toList_ofList

lemma hasUpSuffix_name : hasUpSuffix m.name = true := by
  rw [hasUpSuffix, isSuffixOf_iff_suffix, toList_name]
  exact ⟨m.digits.map digitChar ++ '_' :: m.description.toList, by simp⟩

lemma takeWhile_name : m.name.toList.takeWhile (· ≠ '_') = m.digits.map digitChar := by
  have hdigits : ∀ c ∈ m.digits.map digitChar, decide (c ≠ '_') = true := by
    intro c hc
    obtain ⟨d, -, rfl⟩ := mem_map.mp hc
    exact decide_eq_true (digitChar_ne d).1
  rw [toList_name, takeWhile_append_of_pos hdigits]
  simp

/-- The digits are scanned as their number, unless it is too large. -/
lemma scanInt_digits {digits : List (Fin 10)} (hpos : 0 < number digits) :
    (∃ err, scanInt (digits.map digitChar) = .error err) ∨
      scanInt (digits.map digitChar) = .ok (number digits) := by
  obtain _ | ⟨d, digits⟩ := digits
  · exact absurd hpos (by simp [number])
  obtain ⟨-, hnewline, hminus, hplus, hspace⟩ := digitChar_ne d
  have hskip : skipSpace ((d :: digits).map digitChar) = .ok ((d :: digits).map digitChar) := by
    rw [map_cons, skipSpace, if_neg hnewline, if_neg (by simp [hspace])]
  have hsign : acceptSign (digitChar d :: digits.map digitChar) =
      (false, digitChar d :: digits.map digitChar) := by
    unfold acceptSign
    split
    · rename_i heq
      exact absurd (cons.inj heq).1 hminus
    · rename_i heq
      exact absurd (cons.inj heq).1 hplus
    · rfl
  have htoken : (digitChar d :: digits.map digitChar).takeWhile isDigit =
      (d :: digits).map digitChar := by
    rw [← map_cons, takeWhile_eq_self_iff]
    intro c hc
    obtain ⟨d, -, rfl⟩ := mem_map.mp hc
    exact isDigit_digitChar d
  unfold scanInt
  rw [hskip]
  simp only [map_cons, hsign, isDigit_digitChar, if_true, Bool.false_eq_true, if_false]
  rw [htoken, valueOf_map]
  split
  · exact Or.inr rfl
  · exact Or.inl ⟨_, rfl⟩

/-- **The version of a file** is the number its name begins with. -/
lemma parseVersion_name (texts : Texts) : (∃ err, parseVersion texts m.name = .error err) ∨
      parseVersion texts m.name = .ok m.version := by
  have hmem : '_' ∈ m.name.toList := by simp
  unfold parseVersion
  rw [if_pos hmem, takeWhile_name]
  rcases scanInt_digits m.number_pos with ⟨err, h⟩ | h
  · exact Or.inl ⟨_, by rw [h]⟩
  · exact Or.inr (by rw [h]; rfl)

/-- **The order of the names** is the order of the versions. -/
lemma name_lt {m m' : Migration width} (h : m.version < m'.version) : m.name < m'.name := by
  rw [String.lt_iff_toList_lt, toList_name, toList_name]
  exact text_lt (m.length_digits.trans m'.length_digits.symm) h _ _

end Migration

end Moebius.Migrate
