import Moebius.ApiAuth
import Moebius.Enrollment
import Moebius.Server

/-!
Who may download an installer.

The endpoints for installers are not behind the authentication chain and look at the header
themselves: an API key or an enrollment token is to be enough. Their query for a key names a column
`api_keys` does not have, so no key is ever found.
-/

namespace Moebius.Installers

open Proc ApiAuth Enrollment String

section

variable (hashAPIKey : String → String) (C : Crypto) (env : Env) (value : String) (db : Db)

/-- The columns of `api_keys`, which no later migration adds to. -/
def apiKeyColumns : List String :=
  ["id", "tenant_id", "user_id", "name", "key_hash", "role_id", "scope", "is_admin",
    "last_used_at", "expires_at", "created_at"]

/-- The query for a key that has the hash and where `revoked_at IS NULL`. A statement that names an
unknown column is an error. -/
def keyExists (hash : String) (db : Db) : Option Bool :=
  if ["key_hash", "revoked_at"].all (· ∈ apiKeyColumns) then
    some (db.apiKeys.rows.any fun k => k.keyHash = hash)
  else none

/-- `strings.TrimPrefix` of `Bearer `. -/
def trimBearer (authorization : String) : String :=
  if hasPrefix "Bearer " authorization then
    ofList (authorization.toList.drop "Bearer ".toList.length)
  else authorization

def checkAPIKey (token : String) : Proc Db Bool :=
  if hasPrefix "sk_" token then do
    match ← read (keyExists (hashAPIKey token)) with
    | some (some found) => pure found
    | _ => pure false
  else pure false

def checkInstallerAuth (authorization : String) : Proc Db (Except (Reply Unit) Unit) :=
  if authorization = "" then
    pure (.error (.err 401 "authentication required: provide an API key or enrollment token"))
  else do
    if ← checkAPIKey hashAPIKey (trimBearer authorization) then pure (.ok ())
    else
      match ← peek C env (trimBearer authorization) with
      | some _ => pure (.ok ())
      | none => pure (.error (.err 401 "invalid API key or enrollment token"))

def InstallerAccepts : Prop :=
  ((checkInstallerAuth hashAPIKey C env ("Bearer " ++ value)).run [] db).1 = .ok ()

def KeyAccepts : Prop :=
  ∃ who, Reaches (fun _ next => apiKeyHandler hashAPIKey env ("Bearer " ++ value) next anonymous)
    [] db who

def PeekAccepts : Prop := ((peek C env value).run [] db).1.isSome

lemma trimBearer_append : trimBearer ("Bearer " ++ value) = value := by
  have hpfx : hasPrefix "Bearer " ("Bearer " ++ value) = true := by
    simp [hasPrefix, toList_append]
  rw [trimBearer, if_pos hpfx, toList_append, List.drop_left, ofList_toList]

variable {db} in
lemma run_checkAPIKey (token : String) :
    (checkAPIKey hashAPIKey token).run [] db = (false, db) := by
  unfold checkAPIKey
  split <;> rfl

variable {hashAPIKey C env value db}

lemma installerAccepts_iff :
    InstallerAccepts hashAPIKey C env value db ↔ PeekAccepts C env value db := by
  have hne : "Bearer " ++ value ≠ "" := by simp
  rw [InstallerAccepts, checkInstallerAuth, if_neg hne, trimBearer_append, bind_eq, run_nil_bind,
    run_checkAPIKey]
  simp only [Bool.false_eq_true, if_false, bind_eq, run_nil_bind, PeekAccepts]
  rcases ((peek C env value).run [] db).1 with _ | token
  · constructor <;> intro h <;> cases h
  · exact ⟨fun _ => rfl, fun _ => rfl⟩

end

/-- **Who is authenticated.** The installer endpoints accept what `Peek` accepts. So they agree with
the API exactly when the value is no key the middleware accepts, or happens to be a token too. -/
theorem installers_agree_iff (hashAPIKey : String → String) (C : Crypto) (env : Env)
    (value : String) (db : Db) :
    (InstallerAccepts hashAPIKey C env value db ↔ PeekAccepts C env value db) ∧
      ((InstallerAccepts hashAPIKey C env value db ↔
          KeyAccepts hashAPIKey env value db ∨ PeekAccepts C env value db) ↔
        (KeyAccepts hashAPIKey env value db → PeekAccepts C env value db)) := by
  refine ⟨installerAccepts_iff, ?_⟩
  rw [installerAccepts_iff]
  tauto

namespace Sample

def crypto : Crypto :=
  { publicKey := some, fingerprint := fun _ => "", hashToken := id, caChainPEM := "" }

def key : APIKeyRow :=
  { id := "k", tenantID := "t", userID := some "u", keyHash := "sk_k", roleID := some "r" }

def db : Db :=
  { Moebius.Sample.db with
    roles := ⟨[{ id := "r", permissions := ⟨[], true⟩ }], by decide⟩
    apiKeys := ⟨[key], by decide⟩ }

end Sample

open Moebius.Sample in
/-- The API takes the key, and the installer endpoints refuse it. -/
theorem installer_refuses_key : KeyAccepts id (env 10 "n") "sk_k" Sample.db ∧
      ¬ InstallerAccepts id Sample.crypto (env 10 "n") "sk_k" Sample.db :=
  ⟨⟨{ tenantID := "t", userID := "u", isAdmin := false, scope := none, roleID := "r" }, [],
    fun _ _ => rfl⟩, fun h => nomatch h⟩

end Moebius.Installers
