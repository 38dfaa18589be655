import DiracRucioPolicy.Native.DevSetup

/-!
# What the setup of the development environment does

The setup runs a dozen programs in containers that it has started, after it has initialised
the database and linked the right `setup.py`. Any of them can fail, and the setup is run
again in whatever state the failure has left.

## Key results

- `setup_ready`: whatever the programs do, the setup issues each command only where it can
  work
- `setup_completed`: what a setup that comes to its end has done
-/

namespace DiracRucioPolicy.DevSetup

open Script

/-! ## The host -/

/-- What is under a path. -/
inductive Entry where
  | file
  | directory
  | symlink (target : String)
deriving DecidableEq, Repr

/-- What `docker` does to its state `δ`: a command succeeds or fails, and prints. -/
structure Docker (δ : Type) where
  succeeds : List String → δ → δ → Prop
  fails : List String → δ → δ → Prop
  prints : List String → δ → String → Prop

/-- The state of the host. What `docker` printed last and the commands that have succeeded
    are recorded for the process that runs. -/
structure HostState (δ : Type) where
  uid : Nat
  gid : Nat
  env : String → Option String
  entries : String → List String
  modes : String → Nat
  files : String → Option Entry
  docker : δ
  printed : Option String
  ran : List (List String)

variable {δ : Type}

/-- The state after `docker` has run a command. -/
def HostState.after (s : HostState δ) (cmd : List String) (d : δ) : HostState δ :=
  { s with docker := d, ran := s.ran ++ [cmd] }

/-- A name matches a pattern. Of the patterns only those of the script are of interest, which
    are a `*` in front of a suffix. -/
def matchesPattern (pattern name : String) : Bool :=
  match pattern.toList with
  | '*' :: suffix => suffix.isSuffixOf name.toList
  | _ => pattern = name

/-- The paths of the entries of a directory whose names match the pattern. -/
def HostState.matching (s : HostState δ) (dir pattern : String) : List String :=
  ((s.entries dir).filter (matchesPattern pattern)).map fun name => dir ++ "/" ++ name

/-- A command answers, and changes the host. -/
def answers (D : Docker δ) : (c : Command) → HostState δ → Reply c → HostState δ → Prop
  | .getuid, s, r, s' => r = s.uid ∧ s' = s
  | .getgid, s, r, s' => r = s.gid ∧ s' = s
  | .getenv name, s, r, s' => r = s.env name ∧ s' = s
  | .setenv name value, s, _, s' =>
    s' = { s with env := fun n => if n = name then some value else s.env n }
  | .glob dir pattern, s, r, s' => r = s.matching dir pattern ∧ s' = s
  | .chmod path mode, s, _, s' =>
    s' = { s with modes := fun p => if p = path then mode else s.modes p }
  -- whether a link is found depends on where it leads
  | .exists path, s, r, s' => (s.files path = none → r = false) ∧
      (s.files path = some .file ∨ s.files path = some .directory → r = true) ∧ s' = s
  | .isSymlink path, s, r, s' =>
    (r = true ↔ ∃ target, s.files path = some (.symlink target)) ∧ s' = s
  | .unlink path, s, _, s' => s.files path ≠ none ∧ s.files path ≠ some .directory ∧
      s' = { s with files := fun p => if p = path then none else s.files p }
  | .symlinkTo path target, s, _, s' => s.files path = none ∧
      s' = { s with files := fun p => if p = path then some (.symlink target) else s.files p }
  | .run cmd, s, _, s' => ∃ d, D.succeeds cmd s.docker d ∧ s' = s.after cmd d
  | .capture cmd, s, r, s' => D.prints cmd s.docker r ∧ s' = { s with printed := some r }
  | .sleep _, s, _, s' => s' = s

/-- Every command can raise. A program that fails can have changed the state of `docker`. -/
def raises (D : Docker δ) (c : Command) (s : HostState δ) (e : Error) (s' : HostState δ) : Prop :=
  (e = .os ∧ s' = s) ∨
    ∃ cmd d, c = .run cmd ∧ e = .calledProcess cmd ∧ D.fails cmd s.docker d ∧
      s' = { s with docker := d }

/-- The host with `docker`. -/
def host (D : Docker δ) : World Reply Error (HostState δ) := ⟨answers D, raises D⟩

/-! ## When a command can work -/

/-- The services of an `up`. -/
def upServices : List String → List String
  | "docker" :: "compose" :: "up" :: "-d" :: "--build" :: services => services
  | _ => []

/-- The services that were started by the commands. -/
def started (ran : List (List String)) : List String := ran.flatMap upServices

/-- The service in which `docker compose exec` runs a command, and the command. -/
def execOf : List String → Option (String × List String)
  | "exec" :: "-u" :: _ :: service :: cmd => some (service, cmd)
  | "exec" :: service :: cmd => some (service, cmd)
  | _ => none

/-- The service whose container must be there for the command. -/
def entered : List String → Option String
  | ["restart", service] => some service
  | ["cp", _, target] => some (String.ofList (target.toList.takeWhile (· ≠ ':')))
  | args => (execOf args).map (·.1)

/-- The service in which the command installs a repository, and the repository. -/
def installed (args : List String) : Option (String × String) :=
  match execOf args with
  | some (service, ["pip", "install", "-e", source]) => some (service, source)
  | _ => none

/-- The arguments with which the database is initialised. -/
def initArgs : List String := ["run", "--rm", "--build", "rucio-init"]

/-- The command that initialises it. -/
def initCmd : List String := "docker" :: "compose" :: initArgs

/-- The command that starts the database. -/
def upDbCmd : List String := ["docker", "compose", "up", "-d", "--build", "rucio-db"]

/-- All services of the environment. -/
def allServices : List String := rucioServices ++ diracServices ++ commonServices

/-- The files that are for the user only: those in `certs` whose names end in `.key.pem`, and
    all in `certs/ssh`. The keys in `.certkey.pem` and `.p12` files are not among them. -/
def HostState.Restricted (s : HostState δ) (path : String) : Prop :=
  (∃ name ∈ s.entries "certs", ".key.pem".toList <:+ name.toList ∧ path = "certs/" ++ name) ∨
    ∃ name ∈ s.entries "certs/ssh", path = "certs/ssh/" ++ name

/-- The arguments with which the setup runs `docker compose`. -/
def setupCommands : List (List String) :=
  [["up", "-d", "--build", "rucio-db"],
   initArgs,
   ["up", "-d", "--build"] ++ allServices,
   ["exec", "clients", "pip", "install", "-e", "/src/rucio"],
   ["exec", "-u", "root", "dirac-server", "pip", "install", "-e", "/src/rucio"],
   ["exec", "-u", "root", "rucio-server", "pip", "install", "-e", "/src/rucio"],
   ["restart", "rucio-server"],
   ["exec", "-u", "root", "clients", "/setup_certificates.sh"],
   ["exec", "clients", "/setup_rucio.sh"],
   ["exec", "-u", "root", "clients", "pip", "install", "-e", "/src/DIRAC"],
   ["exec", "-u", "root", "dirac-server", "pip", "install", "-e", "/src/DIRAC"],
   ["restart", "dirac-server"],
   ["exec", "cvmfs-stratum0", "cvmfs_server", "mkfs", "-o", "root", "testvo.example.org"],
   ["exec", "cvmfs-stratum0", "cvmfs_server", "transaction"],
   ["cp", "rucio/rucio_dirac_user.cfg", "cvmfs-stratum0:/tmp/rucio.cfg"],
   ["exec", "cvmfs-stratum0", "mkdir", "-p", "/cvmfs/testvo.example.org/rucio/etc/"],
   ["exec", "cvmfs-stratum0", "mv", "/tmp/rucio.cfg", "/cvmfs/testvo.example.org/rucio/etc/"],
   ["exec", "cvmfs-stratum0", "cvmfs_server", "publish"]]

/-- The repository is given and not empty. -/
def HostState.Repository (s : HostState δ) (name repo : String) : Prop :=
  s.env name = some repo ∧ repo ≠ ""

/-- The `setup.py` that a service installs. -/
def setupTarget (service : String) : String :=
  if service = "rucio-server" then "setup_rucio.py" else "setup_rucio_client.py"

/-- The setup may run `docker compose` with these arguments. -/
structure ReadyFor (args : List String) (s : HostState δ) : Prop where
  checked : s.printed ≠ none
  listed : args ∈ setupCommands
  ids : s.env "USERID" ≠ none ∧ s.env "GROUPID" ≠ none
  restricted : ∀ path, s.Restricted path → s.modes path = 0o600
  -- `ps` printed nothing, and only the database has been started
  init : args = initArgs → s.printed = some "" ∧ s.ran = [upDbCmd]
  entered : ∀ service, entered args = some service → service ∈ started s.ran
  rucio : ∀ service, installed args = some (service, "/src/rucio") →
    ∃ repo, s.Repository "RUCIO_REPOSITORY" repo ∧
      s.files (setupPy repo) = some (.symlink (setupTarget service))
  dirac : ∀ service, installed args = some (service, "/src/DIRAC") →
    ∃ repo, s.Repository "DIRAC_REPOSITORY" repo

/-- The command can work. -/
def Ready : Command → HostState δ → Prop
  | .run cmd, s => ∃ args, cmd = "docker" :: "compose" :: args ∧ ReadyFor args s
  | .capture cmd, s => cmd = psCmd ∧ s.printed = none
  -- no other file is touched, and no other mode set
  | .chmod path mode, s => mode = 0o600 ∧ s.Restricted path
  | .unlink path, s => s.files path ≠ none
  | .symlinkTo path _, s => s.files path = none
  | _, _ => True

/-! ## The commands -/

/-- From a state with `P` the program issues ready commands only, and its result satisfies
    `Q`. -/
abbrev Spec (D : Docker δ) {α : Type} (P : HostState δ → Prop) (p : Host α)
    (Q : α → HostState δ → Prop) : Prop :=
  Triple (host D) Ready (fun _ _ => True) P p Q

section

variable {D : Docker δ} {P : HostState δ → Prop}

/-- Commands that are always ready. -/
theorem spec_issue {c : Command} {Q : Reply c → HostState δ → Prop} (hready : ∀ s, P s → Ready c s)
    (h : ∀ s r s', P s → answers D c s r s' → Q r s') : Spec D P (issue c) Q :=
  Triple.issue hready h fun _ _ _ _ _ => trivial

/-- Commands that are ready in every state and change nothing. -/
theorem spec_query {c : Command} {A : Reply c → HostState δ → Prop}
    (hready : ∀ s : HostState δ, Ready c s)
    (h : ∀ s r s', answers D c s r s' → A r s ∧ s' = s) :
    Spec D P (issue c) fun r s => P s ∧ A r s := by
  refine spec_issue (fun s _ => hready s) ?_
  intro s r s' hs hr
  obtain ⟨ha, rfl⟩ := h s r s' hr
  exact ⟨hs, ha⟩

/-- `os.getuid()` -/
theorem spec_getuid : Spec D P getuid fun uid s => P s ∧ uid = s.uid :=
  spec_query (fun _ => trivial) fun _ _ _ h => h

/-- `os.getgid()` -/
theorem spec_getgid : Spec D P getgid fun gid s => P s ∧ gid = s.gid :=
  spec_query (fun _ => trivial) fun _ _ _ h => h

/-- `os.getenv(name)` answers what is in the environment. -/
theorem spec_getenv {name : String} :
    Spec D P (getenv name) fun value s => P s ∧ value = s.env name :=
  spec_query (fun _ => trivial) fun _ _ _ h => h

/-- `glob` answers the paths that match. -/
theorem spec_glob {dir pattern : String} :
    Spec D P (glob dir pattern) fun paths s => P s ∧ paths = s.matching dir pattern :=
  spec_query (fun _ => trivial) fun _ _ _ h => h

/-- `is_symlink` is true of the links. -/
theorem spec_isSymlink {path : String} :
    Spec D P (isSymlink path) fun found s =>
      P s ∧ (found = true ↔ ∃ target, s.files path = some (.symlink target)) :=
  spec_query (fun _ => trivial) fun _ _ _ h => h

/-- `exists` is true of what is there, except perhaps of a link. -/
theorem spec_exists {path : String} :
    Spec D P («exists» path) fun found s => P s ∧ (found = true → s.files path ≠ none) ∧
      (found = false → s.files path = none ∨ ∃ target, s.files path = some (.symlink target)) := by
  refine spec_query (fun _ => trivial) ?_
  intro s found s' h
  obtain ⟨hnone, hentry, rfl⟩ := h
  refine ⟨⟨?_, ?_⟩, rfl⟩
  · intro hfound hfiles
    rw [hnone hfiles] at hfound
    cases hfound
  · intro hfound
    cases hfiles : s'.files path with
    | none => exact Or.inl rfl
    | some entry =>
      cases entry with
      | symlink target => exact Or.inr ⟨target, rfl⟩
      | file =>
        rw [hentry (Or.inl hfiles)] at hfound
        cases hfound
      | directory =>
        rw [hentry (Or.inr hfiles)] at hfound
        cases hfound

/-- Sleeping changes nothing. -/
theorem spec_sleep {seconds : Nat} : Spec D P (sleep seconds) fun _ => P := by
  refine spec_issue (fun _ _ => trivial) ?_
  intro s r s' hs h
  rw [show s' = s from h]
  exact hs

/-- `os.environ[name] = value` -/
theorem spec_setenv {name value : String} {Q : HostState δ → Prop}
    (h : ∀ s, P s → Q { s with env := fun n => if n = name then some value else s.env n }) :
    Spec D P (setenv name value) fun _ => Q := by
  refine spec_issue (fun _ _ => trivial) ?_
  intro s r s' hs hr
  rw [show s' = _ from hr]
  exact h s hs

/-- A command for `docker compose` must be ready, and is recorded when it succeeds. -/
theorem spec_compose {args : List String} {Q : HostState δ → Prop}
    (hready : ∀ s, P s → ReadyFor args s)
    (hnext : ∀ s d, P s → Q (s.after ("docker" :: "compose" :: args) d)) :
    Spec D P (compose args) fun _ => Q := by
  refine spec_issue ?_ ?_
  · intro s hs
    exact ⟨args, rfl, hready s hs⟩
  · intro s r s' hs h
    obtain ⟨d, -, rfl⟩ := h
    exact hnext s d hs

end

/-! ## Before the containers -/

/-- Only the empty text has no lines. -/
theorem linesFrom_eq_nil_iff {line cs : List Char} :
    linesFrom line cs = [] ↔ line = [] ∧ cs = [] := by
  fun_induction linesFrom line cs with
  | case1 => simp
  | case2 line h => simp [h]
  | case3 => simp
  | case4 => simp
  | case5 line c cs _ _ ih => simp [ih]

/-- `splitlines` of a text is empty when the text is. -/
theorem splitlines_eq_nil_iff {s : String} : splitlines s = [] ↔ s = "" := by
  rw [splitlines, linesFrom_eq_nil_iff, String.toList_eq_nil_iff]
  exact and_iff_right rfl

/-- A set of lines is empty when the list is. -/
theorem eraseDups_length_pos_iff {α : Type} [BEq α] {xs : List α} :
    0 < xs.eraseDups.length ↔ xs ≠ [] := by
  cases xs with
  | nil => simp
  | cons x xs => simp [List.eraseDups_cons]

/-- The ids of the user are set. -/
def HostState.Ids (s : HostState δ) : Prop := s.env "USERID" ≠ none ∧ s.env "GROUPID" ≠ none

/-- The files that are for the user only have that mode. -/
def HostState.KeysSafe (s : HostState δ) : Prop :=
  ∀ path, s.Restricted path → s.modes path = 0o600

/-- The options override the environment. -/
structure Chosen (args : Args) (s : HostState δ) : Prop where
  rucio : ∀ repo, args.rucio = some repo → s.env "RUCIO_REPOSITORY" = some repo
  dirac : ∀ repo, args.dirac = some repo → s.env "DIRAC_REPOSITORY" = some repo

/-- Nothing has been asked of `docker`. -/
structure Start (s : HostState δ) : Prop where
  printed : s.printed = none
  ran : s.ran = []

/-- The environment is ready. -/
structure Fresh (args : Args) (s : HostState δ) : Prop extends Start s where
  ids : s.Ids
  chosen : Chosen args s

/-- The script can run `docker`. -/
structure Prepared (args : Args) (s : HostState δ) : Prop where
  ids : s.Ids
  keys : s.KeysSafe
  chosen : Chosen args s

section

variable {D : Docker δ} {args : Args}

/-- The module sets both ids before anything else. -/
theorem spec_setIds : Spec D Start setIds fun _ s => Start s ∧ s.Ids := by
  refine Triple.bind (Q := fun _ => Start) (Triple.map ?_) fun uid => ?_
  · exact spec_getuid.conseq (fun _ hs => hs) fun _ _ hs => hs.1
  refine Triple.bind (Q := fun _ => Start) (Triple.map ?_) fun gid => ?_
  · exact spec_getgid.conseq (fun _ hs => hs) fun _ _ hs => hs.1
  refine Triple.bind spec_getenv fun userid => ?_
  refine Triple.bind (spec_setenv (Q := fun s => Start s ∧ s.env "USERID" ≠ none) ?_) fun _ => ?_
  · intro s hs
    exact ⟨⟨hs.1.printed, hs.1.ran⟩, by simp⟩
  refine Triple.bind spec_getenv fun groupid => ?_
  apply spec_setenv
  intro s hs
  exact ⟨⟨hs.1.1.printed, hs.1.1.ran⟩, by simpa using hs.1.2, by simp⟩

/-- The options are put into the environment. -/
theorem spec_setRepositories :
    Spec D (fun s => Start s ∧ s.Ids) (setRepositories args) fun _ => Fresh args := by
  refine Triple.bind (Q := fun _ s => Start s ∧ s.Ids ∧
    ∀ repo, args.rucio = some repo → s.env "RUCIO_REPOSITORY" = some repo) ?_ fun _ => ?_
  · cases args.rucio with
    | none => exact Triple.pure fun s hs => ⟨hs.1, hs.2, nofun⟩
    | some repo =>
      apply spec_setenv
      intro s hs
      obtain ⟨hstart, hids⟩ := hs
      exact ⟨⟨hstart.printed, hstart.ran⟩, by simpa [HostState.Ids] using hids, by simp⟩
  · cases hdirac : args.dirac with
    | none =>
      refine Triple.pure fun s hs => ?_
      obtain ⟨hstart, hids, hrucio⟩ := hs
      exact ⟨hstart, hids, hrucio, by simp [hdirac]⟩
    | some repo =>
      apply spec_setenv
      intro s hs
      obtain ⟨hstart, hids, hrucio⟩ := hs
      exact ⟨⟨hstart.printed, hstart.ran⟩, by simpa [HostState.Ids] using hids,
        by simpa using hrucio, by simp [hdirac]⟩

/-- A file for its owner only. -/
def HostState.secure (s : HostState δ) (path : String) : HostState δ :=
  { s with modes := fun p => if p = path then 0o600 else s.modes p }

/-- What is known of the environment does not depend on modes. -/
theorem Fresh.secure {s : HostState δ} (h : Fresh args s) (path : String) :
    Fresh args (s.secure path) :=
  ⟨⟨h.printed, h.ran⟩, h.ids, h.chosen.rucio, h.chosen.dirac⟩

/-- The loops of `chmod_certs`. -/
theorem spec_secure {P : HostState δ → Prop} {paths : List String}
    (hready : ∀ s, P s → ∀ path ∈ paths, s.Restricted path)
    (hP : ∀ s path, P s → P (s.secure path)) :
    Spec D P (forM paths fun path => chmod path 0o600) fun _ s =>
      P s ∧ ∀ path ∈ paths, s.modes path = 0o600 := by
  have hloop : Spec D (fun s => P s ∧ ∀ path ∈ ([] : List String), s.modes path = 0o600)
      (forM paths fun path => chmod path 0o600)
      fun _ s => P s ∧ ∀ path ∈ paths, s.modes path = 0o600 := by
    refine Triple.forM (I := fun done s => P s ∧ ∀ path ∈ done, s.modes path = 0o600) ?_
    intro done path hpath
    refine spec_issue ?_ ?_
    · intro s hs
      exact ⟨rfl, hready s hs.1 path hpath⟩
    · intro s r s' hs h
      obtain ⟨hs, hdone⟩ := hs
      rw [show s' = s.secure path from h]
      refine ⟨hP s path hs, ?_⟩
      intro p hp
      show (if p = path then 0o600 else s.modes p) = 0o600
      split
      · rfl
      · rename_i hne
        cases List.mem_append.mp hp with
        | inl hp => exact hdone p hp
        | inr hp => exact absurd (List.mem_singleton.mp hp) hne
  exact hloop.conseq (fun s hs => ⟨hs, nofun⟩) fun _ _ hs => hs

/-- The files that are for the user only are those that the two patterns match. -/
theorem restricted_iff {s : HostState δ} {path : String} :
    s.Restricted path ↔
      path ∈ s.matching "certs" "*.key.pem" ∨ path ∈ s.matching "certs/ssh" "*" := by
  have hkey : ∀ name, matchesPattern "*.key.pem" name = true ↔
      ".key.pem".toList <:+ name.toList := fun _ => List.isSuffixOf_iff_suffix
  have hall : ∀ name, matchesPattern "*" name = true := by
    intro name
    exact List.isSuffixOf_iff_suffix.mpr List.nil_suffix
  simp only [HostState.Restricted, HostState.matching, List.mem_map, List.mem_filter, hkey, hall,
    and_true, and_assoc]
  apply or_congr
  · apply exists_congr
    intro name
    rw [eq_comm (a := path)]
    rfl
  · apply exists_congr
    intro name
    rw [eq_comm (a := path)]
    rfl

/-- `chmod_certs` restricts the files and touches no other. -/
theorem spec_chmodCerts :
    Spec D (Fresh args) chmodCerts fun _ s => Start s ∧ Prepared args s := by
  refine Triple.bind spec_glob fun keys => ?_
  refine Triple.bind (spec_secure ?_ ?_) fun _ => ?_
  · intro s hs path hpath
    rw [hs.2] at hpath
    exact restricted_iff.mpr (Or.inl hpath)
  · intro s path hs
    exact ⟨hs.1.secure path, hs.2⟩
  refine Triple.bind spec_glob fun sshKeys => ?_
  refine (spec_secure ?_ ?_).conseq (fun s hs => hs) ?_
  · intro s hs path hpath
    rw [hs.2] at hpath
    exact restricted_iff.mpr (Or.inr hpath)
  · intro s path hs
    obtain ⟨⟨⟨hfresh, hkeys⟩, hsafe⟩, hssh⟩ := hs
    refine ⟨⟨⟨hfresh.secure path, hkeys⟩, ?_⟩, hssh⟩
    -- a key that is safe stays safe
    intro p hp
    show (if p = path then 0o600 else s.modes p) = 0o600
    split
    · rfl
    · exact hsafe p hp
  · intro _ s hs
    obtain ⟨⟨⟨⟨hfresh, hkeys⟩, hsafe⟩, hssh⟩, hsafe'⟩ := hs
    refine ⟨hfresh.toStart, hfresh.ids, ?_, hfresh.chosen⟩
    intro path hpath
    cases restricted_iff.mp hpath with
    | inl h => exact hsafe path (hkeys ▸ h)
    | inr h => exact hsafe' path (hssh ▸ h)

/-- `ps` is asked, and the answer is no when it prints nothing. -/
theorem spec_anyRunning {P : HostState δ → Prop} (hstart : ∀ s, P s → s.printed = none)
    {R : HostState δ → Prop} (hP : ∀ s out, P s → R { s with printed := some out }) :
    Spec D P (anyRunning []) fun running s =>
      R s ∧ s.printed ≠ none ∧ (running = false ↔ s.printed = some "") := by
  refine Triple.bind (Q := fun out s => R s ∧ s.printed = some out) ?_ fun out => ?_
  · refine spec_issue ?_ ?_
    · intro s hs
      exact ⟨rfl, hstart s hs⟩
    · intro s r s' hs h
      obtain ⟨-, rfl⟩ := h
      exact ⟨hP s r hs, rfl⟩
  · refine Triple.pure fun s hs => ?_
    obtain ⟨hs, hprinted⟩ := hs
    refine ⟨hs, by simp [hprinted], ?_⟩
    rw [hprinted, Option.some.injEq, ← splitlines_eq_nil_iff, decide_eq_false_iff_not,
      eraseDups_length_pos_iff, not_not]

/-- `docker` changes nothing of that. -/
theorem Prepared.after {s : HostState δ} (h : Prepared args s) (cmd : List String) (d : δ) :
    Prepared args (s.after cmd d) :=
  ⟨h.ids, h.keys, h.chosen.rucio, h.chosen.dirac⟩

/-- Commands that install no repository. -/
theorem Prepared.readyFor {s : HostState δ} {cmd : List String} (h : Prepared args s)
    (hchecked : s.printed ≠ none) (hlisted : cmd ∈ setupCommands)
    (hinit : cmd = initArgs → s.printed = some "" ∧ s.ran = [upDbCmd])
    (hentered : ∀ service, entered cmd = some service → service ∈ started s.ran)
    (hinstalled : installed cmd = none) : ReadyFor cmd s where
  checked := hchecked
  listed := hlisted
  ids := h.ids
  restricted := h.keys
  init := hinit
  entered := hentered
  rucio := fun _ hsome => by rw [hinstalled] at hsome; cases hsome
  dirac := fun _ hsome => by rw [hinstalled] at hsome; cases hsome

/-- The database has been initialised by this process if `ps` printed nothing. -/
structure Checked (args : Args) (s : HostState δ) : Prop extends Prepared args s where
  printed : s.printed ≠ none
  init : s.printed = some "" → initCmd ∈ s.ran

/-- The database is started and initialised if `ps` prints nothing. -/
theorem spec_initDatabase :
    Spec D (fun s => Start s ∧ Prepared args s) initDatabase fun _ => Checked args := by
  refine Triple.bind (spec_anyRunning (R := fun s => s.ran = [] ∧ Prepared args s) ?_ ?_)
    fun running => Triple.when ?_ ?_
  · intro s hs
    exact hs.1.printed
  · intro s out hs
    exact ⟨hs.1.ran, hs.2.ids, hs.2.keys, hs.2.chosen.rucio, hs.2.chosen.dirac⟩
  · intro hrunning
    rw [Bool.not_eq_true'] at hrunning
    -- first the database
    refine Triple.bind (Q := fun _ s => s.ran = [upDbCmd] ∧ Prepared args s ∧ s.printed = some "")
      (spec_compose ?_ ?_) fun _ => spec_compose ?_ ?_
    · intro s hs
      exact hs.1.2.readyFor hs.2.1 (by decide) (fun h => absurd h (by decide)) nofun rfl
    · intro s d hs
      obtain ⟨⟨hran, hprep⟩, hprinted, hempty⟩ := hs
      refine ⟨?_, hprep.after _ d, hempty.mp hrunning⟩
      show s.ran ++ _ = _
      rw [hran]
      rfl
    · intro s hs
      obtain ⟨hran, hprep, hprinted⟩ := hs
      exact hprep.readyFor (by simp [hprinted]) (by decide) (fun _ => ⟨hprinted, hran⟩) nofun rfl
    · intro s d hs
      obtain ⟨hran, hprep, hprinted⟩ := hs
      exact ⟨hprep.after _ d, by simp [HostState.after, hprinted],
        fun _ => List.mem_append_right _ List.mem_cons_self⟩
  · intro hrunning s hs
    rw [Bool.not_eq_false'] at hrunning
    obtain ⟨⟨hran, hprep⟩, hprinted, hempty⟩ := hs
    refine ⟨hprep, hprinted, fun h => ?_⟩
    rw [hempty.mpr h] at hrunning
    cases hrunning

/-! ## In the containers -/

/-- A further command can start further services. -/
theorem started_append {ran : List (List String)} {cmd : List String} :
    started (ran ++ [cmd]) = started ran ++ upServices cmd := by
  simp [started]

/-- All services have been started. -/
structure AllUp (args : Args) (s : HostState δ) : Prop extends Checked args s where
  up : ∀ service ∈ allServices, service ∈ started s.ran

/-- What has been run stays recorded. -/
theorem Checked.after {s : HostState δ} (h : Checked args s) (cmd : List String) (d : δ) :
    Checked args (s.after cmd d) :=
  ⟨h.toPrepared.after cmd d, h.printed, fun hprinted => List.mem_append_left _ (h.init hprinted)⟩

/-- A started service stays recorded. -/
theorem AllUp.after {s : HostState δ} (h : AllUp args s) (cmd : List String) (d : δ) :
    AllUp args (s.after cmd d) := by
  refine ⟨h.toChecked.after cmd d, fun service hservice => ?_⟩
  show service ∈ started (s.ran ++ [cmd])
  rw [started_append]
  exact List.mem_append_left _ (h.up service hservice)

/-- The second `up` starts all services. -/
theorem spec_upAll :
    Spec D (Checked args) (composeUp (rucioServices ++ diracServices ++ commonServices))
      fun _ => AllUp args := by
  refine spec_compose ?_ ?_
  · intro s hs
    exact hs.readyFor hs.printed (by decide) (fun h => absurd h (by decide)) nofun rfl
  · intro s d hs
    refine ⟨hs.after _ d, fun service hservice => ?_⟩
    show service ∈ started (s.ran ++ [_])
    rw [started_append]
    exact List.mem_append_right _ hservice

/-- A command of the setup, in a container, that installs nothing. -/
def plain (cmd : List String) : Bool :=
  cmd ∈ setupCommands && cmd ≠ initArgs && (entered cmd).all (· ∈ allServices) &&
    (installed cmd).isNone

/-- What implies that all services are up, and stays true whatever `docker` does. -/
structure Inside (args : Args) (P : HostState δ → Prop) : Prop where
  allUp : ∀ s, P s → AllUp args s
  after : ∀ s cmd d, P s → P (s.after cmd d)

/-- Once all services are up, plain commands are ready. -/
theorem Inside.readyFor {P : HostState δ → Prop} (hP : Inside args P) {cmd : List String}
    (hplain : plain cmd = true) {s : HostState δ} (hs : P s) : ReadyFor cmd s := by
  simp only [plain, Bool.and_eq_true, decide_eq_true_eq, Option.all_eq_true,
    Option.isNone_iff_eq_none] at hplain
  obtain ⟨⟨⟨hlisted, hinit⟩, hentered⟩, hinstalled⟩ := hplain
  have hup := hP.allUp s hs
  exact hup.readyFor hup.printed hlisted (fun h => absurd h hinit)
    (fun service hservice => hup.up service (hentered service hservice)) hinstalled

/-- They keep what is known. -/
theorem Inside.spec_plain {P : HostState δ → Prop} (hP : Inside args P) {cmd : List String}
    (hplain : plain cmd = true) : Spec D P (compose cmd) fun _ => P :=
  spec_compose (fun _ hs => hP.readyFor hplain hs) fun s d hs => hP.after s _ d hs

/-- A repository is installed in a service. -/
theorem Inside.spec_install {P : HostState δ → Prop} (hP : Inside args P) {cmd : List String}
    {service source : String} (hlisted : cmd ∈ setupCommands) (hinit : cmd ≠ initArgs)
    (hentered : entered cmd = some service) (hinstalled : installed cmd = some (service, source))
    (hservice : service ∈ allServices)
    (hrucio : source = "/src/rucio" → ∀ s, P s → ∃ repo, s.Repository "RUCIO_REPOSITORY" repo ∧
      s.files (setupPy repo) = some (.symlink (setupTarget service)))
    (hdirac : source = "/src/DIRAC" → ∀ s, P s → ∃ repo, s.Repository "DIRAC_REPOSITORY" repo) :
    Spec D P (compose cmd) fun _ => P := by
  refine spec_compose ?_ fun s d hs => hP.after s _ d hs
  intro s hs
  have hup := hP.allUp s hs
  refine ⟨hup.printed, hlisted, hup.ids, hup.keys, fun h => absurd h hinit, ?_, ?_, ?_⟩
  · intro x hx
    rw [hentered, Option.some.injEq] at hx
    exact hup.up x (hx ▸ hservice)
  · intro x hx
    rw [hinstalled, Option.some.injEq, Prod.mk.injEq] at hx
    rw [← hx.1]
    exact hrucio hx.2 s hs
  · intro x hx
    rw [hinstalled, Option.some.injEq, Prod.mk.injEq] at hx
    exact hdirac hx.2 s hs

/-! ## Linking `setup.py` -/

/-- An existing path is unlinked. -/
theorem spec_unlink {P : HostState δ → Prop} {path : String}
    (hP : ∀ s files, P s → P { s with files := files }) :
    Spec D (fun s => P s ∧ s.files path ≠ none) (unlink path) fun _ s =>
      P s ∧ s.files path = none := by
  refine spec_issue ?_ ?_
  · intro s hs
    exact hs.2
  · intro s _ s' hs h
    obtain ⟨-, -, rfl⟩ := h
    exact ⟨hP s _ hs.1, if_pos rfl⟩

/-- A link is made where nothing is. -/
theorem spec_symlinkTo {P : HostState δ → Prop} {path target : String}
    (hP : ∀ s files, P s → P { s with files := files }) :
    Spec D (fun s => P s ∧ s.files path = none) (symlinkTo path target) fun _ s =>
      P s ∧ s.files path = some (.symlink target) := by
  refine spec_issue ?_ ?_
  · intro s hs
    exact hs.2
  · intro s _ s' hs h
    obtain ⟨-, rfl⟩ := h
    exact ⟨hP s _ hs.1, if_pos rfl⟩

/-- Whatever was under the path, it is replaced by the link. -/
theorem spec_replaceLink {P : HostState δ → Prop} {path target : String}
    (hP : ∀ s files, P s → P { s with files := files }) :
    Spec D P (do
      let found ← «exists» path
      let found ← .or found (isSymlink path)
      when found (unlink path)
      symlinkTo path target) fun _ s => P s ∧ s.files path = some (.symlink target) := by
  refine Triple.bind spec_exists fun found => ?_
  refine Triple.bind (Q := fun found s => P s ∧ (found = true → s.files path ≠ none) ∧
    (found = false → s.files path = none)) (Triple.or ?_ ?_) fun found => ?_
  · intro hfound s hs
    exact ⟨hs.1, fun _ => hs.2.1 hfound, nofun⟩
  · intro hfound
    refine spec_isSymlink.conseq (fun s hs => hs) ?_
    intro isLink s hs
    obtain ⟨⟨hs, -, hmissing⟩, hlink⟩ := hs
    refine ⟨hs, ?_, ?_⟩
    · intro h hnone
      obtain ⟨target, htarget⟩ := hlink.mp h
      rw [hnone] at htarget
      cases htarget
    · intro h
      refine (hmissing hfound).resolve_right fun htarget => ?_
      rw [hlink.mpr htarget] at h
      cases h
  refine Triple.bind (Q := fun _ s => P s ∧ s.files path = none) (Triple.when ?_ ?_) fun _ =>
    spec_symlinkTo hP
  · intro hfound
    exact (spec_unlink hP).conseq (fun s hs => ⟨hs.1, hs.2.1 hfound⟩) fun _ _ hs => hs
  · intro hfound s hs
    exact ⟨hs.1, hs.2.2 hfound⟩

/-- `setup.py` of the repository becomes the link that is asked for. -/
theorem spec_symlinkRucioSetup {P : HostState δ → Prop} {client : Bool} {repo : String}
    (hrepo : ∀ s, P s → s.env "RUCIO_REPOSITORY" = some repo)
    (hP : ∀ s files, P s → P { s with files := files }) :
    Spec D P (symlinkRucioSetup client) fun _ s => P s ∧ s.files (setupPy repo) =
      some (.symlink (if client then "setup_rucio_client.py" else "setup_rucio.py")) := by
  refine Triple.bind spec_getenv fun value => ?_
  intro s hs
  obtain rfl : value = some repo := hs.2.trans (hrepo s hs.1)
  exact spec_replaceLink hP s hs.1

/-! ## The whole setup -/

/-- All services are up, and `setup.py` of the repository is the link of that name. -/
structure LinkedAs (args : Args) (repo target : String) (s : HostState δ) : Prop
    extends AllUp args s where
  repository : s.Repository "RUCIO_REPOSITORY" repo
  link : s.files (setupPy repo) = some (.symlink target)

/-- The link does not depend on `docker`. -/
theorem inside_linkedAs {repo target : String} :
    Inside args (LinkedAs (δ := δ) args repo target) where
  allUp := fun _ hs => hs.toAllUp
  after := fun _ cmd d hs => ⟨hs.toAllUp.after cmd d, hs.repository, hs.link⟩

/-- Linking keeps all services up. -/
theorem spec_link {client : Bool} {repo : String} {P : HostState δ → Prop}
    (hP : ∀ s, P s → AllUp args s ∧ s.Repository "RUCIO_REPOSITORY" repo) :
    Spec D P (symlinkRucioSetup client) fun _ =>
      LinkedAs args repo (if client then "setup_rucio_client.py" else "setup_rucio.py") := by
  have hlink : Spec D (fun s => AllUp args s ∧ s.Repository "RUCIO_REPOSITORY" repo)
      (symlinkRucioSetup client) fun _ s =>
        (AllUp args s ∧ s.Repository "RUCIO_REPOSITORY" repo) ∧ s.files (setupPy repo) =
          some (.symlink (if client then "setup_rucio_client.py" else "setup_rucio.py")) :=
    spec_symlinkRucioSetup (fun s hs => hs.2.1) fun s files hs =>
      ⟨⟨⟨⟨hs.1.ids, hs.1.keys, hs.1.chosen.rucio, hs.1.chosen.dirac⟩, hs.1.printed, hs.1.init⟩,
        hs.1.up⟩, hs.2⟩
  exact hlink.conseq hP fun _ s hs => ⟨hs.1.1, hs.1.2, hs.2⟩

/-- The client installs with its `setup.py`, and then the server with its own. -/
theorem spec_installRucio {repo : String} :
    Spec D (fun s => AllUp args s ∧ s.Repository "RUCIO_REPOSITORY" repo) installRucio
      fun _ => LinkedAs args repo "setup_rucio.py" := by
  refine Triple.bind (spec_link fun s hs => hs) fun _ => ?_
  refine Triple.bind (inside_linkedAs.spec_install (by decide) (by decide) rfl rfl (by decide)
    (fun _ s hs => ⟨repo, hs.repository, hs.link⟩) (fun h => absurd h (by decide))) fun _ => ?_
  refine Triple.bind (inside_linkedAs.spec_install (by decide) (by decide) rfl rfl (by decide)
    (fun _ s hs => ⟨repo, hs.repository, hs.link⟩) (fun h => absurd h (by decide))) fun _ => ?_
  refine Triple.bind (spec_link fun s hs => ⟨hs.toAllUp, hs.repository⟩) fun _ => ?_
  refine Triple.bind (inside_linkedAs.spec_install (by decide) (by decide) rfl rfl (by decide)
    (fun _ s hs => ⟨repo, hs.repository, hs.link⟩) (fun h => absurd h (by decide))) fun _ => ?_
  exact Triple.bind (inside_linkedAs.spec_plain (by decide)) fun _ => spec_sleep

/-- A variable counts when it is set and not empty. -/
theorem truthy_eq_true_iff {value : Option String} :
    truthy value = true ↔ ∃ repo, value = some repo ∧ repo ≠ "" := by
  simp [truthy, Option.any_eq_true]

/-- All services are up, and the repository is linked for the server, if there is one. -/
structure Linked (args : Args) (s : HostState δ) : Prop extends AllUp args s where
  link : ∀ repo, s.Repository "RUCIO_REPOSITORY" repo →
    s.files (setupPy repo) = some (.symlink "setup_rucio.py")

/-- Nor does the link for the server. -/
theorem inside_linked : Inside args (Linked (δ := δ) args) where
  allUp := fun _ hs => hs.toAllUp
  after := fun _ cmd d hs => ⟨hs.toAllUp.after cmd d, hs.link⟩

/-- With a repository the setup installs it, and without one nothing is to be linked. -/
theorem spec_linkRepository {rucio : Option String} :
    Spec D (fun s => AllUp args s ∧ rucio = s.env "RUCIO_REPOSITORY")
      (when (truthy rucio) installRucio) fun _ => Linked args := by
  refine Triple.when ?_ ?_
  · intro htruthy
    obtain ⟨repo, rfl, hne⟩ := truthy_eq_true_iff.mp htruthy
    refine spec_installRucio.conseq (fun s hs => ⟨hs.1, hs.2.symm, hne⟩) ?_
    intro _ s hs
    refine ⟨hs.toAllUp, fun repo' hrepo' => ?_⟩
    obtain rfl : repo' = repo := Option.some.inj (hrepo'.1.symm.trans hs.repository.1)
    exact hs.link
  · intro hfalsy s hs
    refine ⟨hs.1, fun repo hrepo => ?_⟩
    have htruthy := truthy_eq_true_iff.mpr ⟨repo, hs.2.trans hrepo.1, hrepo.2⟩
    rw [hfalsy] at htruthy
    cases htruthy

/-- DIRAC is installed when its repository is given. -/
theorem spec_installDirac {dirac : Option String} :
    Spec D (fun s => Linked args s ∧ dirac = s.env "DIRAC_REPOSITORY")
      (when (truthy dirac) installDirac) fun _ => Linked args := by
  have hinside : Inside (δ := δ) args fun s => Linked args s ∧ dirac = s.env "DIRAC_REPOSITORY" :=
    ⟨fun _ hs => hs.1.toAllUp, fun s cmd d hs => ⟨inside_linked.after s cmd d hs.1, hs.2⟩⟩
  refine Triple.when ?_ fun _ s hs => hs.1
  intro htruthy
  obtain ⟨repo, rfl, hne⟩ := truthy_eq_true_iff.mp htruthy
  refine Triple.bind (hinside.spec_install (by decide) (by decide) rfl rfl (by decide)
    (fun h => absurd h (by decide)) fun _ s hs => ⟨repo, hs.2.symm, hne⟩) fun _ => ?_
  refine (hinside.spec_install (by decide) (by decide) rfl rfl (by decide)
    (fun h => absurd h (by decide)) fun _ s hs => ⟨repo, hs.2.symm, hne⟩).conseq
      (fun _ hs => hs) fun _ s hs => hs.1

/-- All commands for CVMFS run in its container. -/
theorem spec_setupCvmfs : Spec D (Linked args) setupCvmfs fun _ => Linked args := by
  refine Triple.bind (inside_linked.spec_plain (by decide)) fun _ => ?_
  refine Triple.bind (inside_linked.spec_plain (by decide)) fun _ => ?_
  refine Triple.bind (inside_linked.spec_plain (by decide)) fun _ => ?_
  refine Triple.bind (inside_linked.spec_plain (by decide)) fun _ => ?_
  refine Triple.bind (inside_linked.spec_plain (by decide)) fun _ => ?_
  exact inside_linked.spec_plain (by decide)

/-- The parts of the setup, one after the other. -/
theorem spec_setup :
    Spec D (fun s => Start s ∧ s.Ids) (setup args) fun _ => Linked args := by
  refine Triple.bind spec_setRepositories fun _ => ?_
  refine Triple.bind spec_chmodCerts fun _ => ?_
  refine Triple.bind spec_initDatabase fun _ => ?_
  refine Triple.bind spec_upAll fun _ => ?_
  refine Triple.bind spec_sleep fun _ => ?_
  refine Triple.bind spec_getenv fun rucio => ?_
  refine Triple.bind spec_linkRepository fun _ => ?_
  refine Triple.bind (inside_linked.spec_plain (by decide)) fun _ => ?_
  refine Triple.bind (inside_linked.spec_plain (by decide)) fun _ => ?_
  refine Triple.bind spec_getenv fun dirac => ?_
  refine Triple.bind spec_installDirac fun _ => ?_
  refine Triple.bind spec_getenv fun rucio => ?_
  refine Triple.bind (Q := fun _ => Linked args) (Triple.or ?_ ?_) fun either => ?_
  · intro _ s hs
    exact hs.1
  · intro _
    exact Triple.map (spec_getenv.conseq (fun _ hs => hs) fun _ s hs => hs.1.1)
  refine Triple.bind (Triple.when ?_ fun _ _ hs => hs) fun _ => spec_setupCvmfs
  intro _
  exact Triple.bind (inside_linked.spec_plain (by decide)) fun _ => spec_sleep

/-- The whole run of the script. -/
theorem spec_main :
    Spec D Start (main (.setup args)) fun _ => Linked args :=
  Triple.bind spec_setIds fun _ => spec_setup

end

end DiracRucioPolicy.DevSetup
