import Mathlib.Data.List.Basic

/-!
The helper that runs the package manager as root.

The helper takes the manager, the action, the package and perhaps a version from its command line,
refuses what a shell would treat specially, and becomes the package manager. No shell is involved:
what counts is how the package manager reads each argument, and it reads one that begins with a
hyphen as an option.
-/

namespace Moebius.PkgHelper

open List

def metacharacters : List Char := ";|&$`\\\"'<>()\x7b\x7d!\n\r\t ".toList

/-- `strings.ContainsAny`, for the shell's metacharacters. -/
def containsMeta (s : String) : Bool := s.toList.any (· ∈ metacharacters)

def validateHelperArgs (args : List String) : Except String Unit :=
  match args with
  | manager :: action :: name :: rest =>
    if 1 < rest.length then
      .error "expected 3-4 arguments: <manager> <action> <package> [version]"
    else if manager ∉ ["apt", "dnf"] then .error ("invalid manager: " ++ manager.quote)
    else if action ∉ ["install", "remove", "update"] then
      .error ("invalid action: " ++ action.quote)
    else if name = "" then .error "empty package name"
    else if containsMeta name then .error "invalid package name: contains shell metacharacters"
    else if rest.any containsMeta then .error "invalid version: contains shell metacharacters"
    else .ok ()
  | _ => .error "expected 3-4 arguments: <manager> <action> <package> [version]"

/-- The package with its version, as a manager that writes `sep` between them takes it. -/
def versioned (sep name version : String) : String :=
  if version = "" then name else name ++ sep ++ version

variable (manager action name version : String)

def buildAptArgs : Except String (String × List String) :=
  let pkg := versioned "=" name version
  match action with
  | "install" => .ok ("apt-get", ["install", "-y", "--no-install-recommends", pkg])
  | "remove" => .ok ("apt-get", ["remove", "-y", name])
  | "update" => .ok ("apt-get", ["install", "-y", "--only-upgrade", pkg])
  | _ => .error ("unsupported action: " ++ action)

def buildDnfArgs : Except String (String × List String) :=
  let pkg := versioned "-" name version
  match action with
  | "install" => .ok ("dnf", ["install", "-y", pkg])
  | "remove" => .ok ("dnf", ["remove", "-y", name])
  | "update" => .ok ("dnf", ["update", "-y", pkg])
  | _ => .error ("unsupported action: " ++ action)

def buildNativeArgs : Except String (String × List String) :=
  match manager with
  | "apt" => buildAptArgs action name version
  | "dnf" => buildDnfArgs action name version
  | _ => .error ("unsupported manager: " ++ manager)

structure Exec where
  path : String
  argv : List String
  env : List String

/-- The helper, on a system that finds programs by `lookPath`. -/
def run (lookPath : String → Except String String) (args : List String) : Except String Exec := do
  validateHelperArgs args
  let (binary, cmdArgs) ←
    buildNativeArgs (args.getD 0 "") (args.getD 1 "") (args.getD 2 "") (args.getD 3 "")
  match lookPath binary with
  | .error err => .error ("package manager not found: " ++ binary ++ ": " ++ err)
  | .ok path =>
    pure
      { path, argv := binary :: cmdArgs
        env := ["PATH=/usr/local/sbin:/usr/local/bin:/usr/sbin:/usr/bin:/sbin:/bin",
          "DEBIAN_FRONTEND=noninteractive", "LC_ALL=C"] }

/-! ### What the package manager is given -/

def isOption (arg : String) : Prop := arg.toList.head? = some '-'
  deriving Decidable

/-- What the builders write themselves, for a manager and an action. -/
def written : String → String → List String
  | "apt", "install" => ["apt-get", "install", "-y", "--no-install-recommends"]
  | "apt", "remove" => ["apt-get", "remove", "-y"]
  | "apt", "update" => ["apt-get", "install", "-y", "--only-upgrade"]
  | "dnf", "install" => ["dnf", "install", "-y"]
  | "dnf", "remove" => ["dnf", "remove", "-y"]
  | "dnf", "update" => ["dnf", "update", "-y"]
  | _, _ => []

/-- The argument that comes from the package and the version. -/
def derived : String :=
  if action = "remove" then name
  else versioned (if manager = "apt" then "=" else "-") name version

lemma buildNativeArgs_eq {manager action : String} {name version : String}
    (hmanager : manager ∈ ["apt", "dnf"]) (haction : action ∈ ["install", "remove", "update"]) :
    ∃ binary cmdArgs, buildNativeArgs manager action name version = .ok (binary, cmdArgs) ∧
      binary :: cmdArgs = written manager action ++ [derived manager action name version] := by
  simp only [mem_cons, not_mem_nil, or_false] at hmanager haction
  rcases hmanager with rfl | rfl <;> rcases haction with rfl | rfl | rfl <;> exact ⟨_, _, rfl, rfl⟩

lemma isOption_derived {name : String} (hname : name ≠ "") {manager action version : String} :
    isOption (derived manager action name version) ↔ isOption name := by
  have happ : ∀ s : String, isOption (name ++ s) ↔ isOption name := fun s => by
    unfold isOption
    rw [String.toList_append, head?_append_of_ne_nil _ (by simpa using hname)]
  unfold derived versioned
  split
  · rfl
  · split
    · rfl
    · rw [String.append_assoc]
      exact happ _

lemma validateHelperArgs_ok {args : List String} (h : validateHelperArgs args = .ok ()) :
    args.getD 0 "" ∈ ["apt", "dnf"] ∧ args.getD 1 "" ∈ ["install", "remove", "update"] ∧
      args.getD 2 "" ≠ "" := by
  unfold validateHelperArgs at h
  split at h
  · split_ifs at h with hlen hmanager haction hname
    exact ⟨hmanager, haction, hname⟩
  · exact absurd h (by simp)

/-- The package manager gets what the builders write and one argument from the input, which is not
an option: that is so exactly if the name does not begin with a hyphen. -/
theorem operand_iff (args : List String) (h : validateHelperArgs args = .ok ()) :
    (∀ lookPath e, run lookPath args = .ok e →
      ∃ operand, e.argv = written (args.getD 0 "") (args.getD 1 "") ++ [operand] ∧
        ¬ isOption operand) ↔ ¬ isOption (args.getD 2 "") := by
  obtain ⟨hmanager, haction, hname⟩ := validateHelperArgs_ok h
  obtain ⟨binary, cmdArgs, hbuild, hargv⟩ := buildNativeArgs_eq hmanager haction
  rw [← isOption_derived hname]
  constructor
  · intro hall
    obtain ⟨operand, hargv', hoperand⟩ := hall (fun _ => .ok "") _ (by
      unfold run
      rw [h, hbuild]
      rfl)
    rw [hargv, append_cancel_left_eq, singleton_inj] at hargv'
    rwa [hargv']
  · intro hoption lookPath e hrun
    refine ⟨_, ?_, hoption⟩
    unfold run at hrun
    rw [h, hbuild] at hrun
    rw [← hargv]
    cases hpath : lookPath binary with
    | error err => simp [bind, Except.bind, hpath] at hrun
    | ok path =>
      simp only [bind, Except.bind, hpath, pure, Except.pure, Except.ok.injEq] at hrun
      rw [← hrun]

theorem operand_of_install : ∃ e, run .ok ["apt", "install", "curl", "8.5.0"] = .ok e ∧
    ∃ operand, e.argv = ["apt-get", "install", "-y", "--no-install-recommends"] ++ [operand] ∧
      ¬ isOption operand :=
  ⟨_, rfl, (operand_iff ["apt", "install", "curl", "8.5.0"] (by decide)).mpr (by decide) .ok _ rfl⟩

/-- A package that is called like an option becomes one: this one has dpkg run a program first. -/
theorem name_as_option :
    validateHelperArgs ["apt", "install", "-oDPkg::Pre-Invoke::=/tmp/x"] = .ok () ∧
      (run .ok ["apt", "install", "-oDPkg::Pre-Invoke::=/tmp/x"]).map (·.argv) =
        .ok ["apt-get", "install", "-y", "--no-install-recommends", "-oDPkg::Pre-Invoke::=/tmp/x"] ∧
      isOption "-oDPkg::Pre-Invoke::=/tmp/x" := by
  decide

end Moebius.PkgHelper
