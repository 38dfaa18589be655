import DiracRucioPolicy.ForStd.Script

/-!
# Setting up the development environment

The script `dev_setup.py` as a program that acts on the host: it reads and sets environment
variables, changes files, and runs `docker compose`. Its log messages are left out.
-/

namespace DiracRucioPolicy.DevSetup

/-! ## The host -/

/-- What the script asks of the host. -/
inductive Command where
  | getuid
  | getgid
  | getenv (name : String)
  | setenv (name value : String)
  | glob (dir pattern : String)
  | chmod (path : String) (mode : Nat)
  | exists (path : String)
  | isSymlink (path : String)
  | unlink (path : String)
  | symlinkTo (path target : String)
  | run (cmd : List String)      -- `sp.run(cmd, check=True)`
  | capture (cmd : List String)  -- `sp.run(cmd, capture_output=True).stdout`
  | sleep (seconds : Nat)
deriving DecidableEq, Repr

/-- The types of the answers. -/
def Reply : Command → Type
  | .getuid | .getgid => Nat
  | .getenv _ => Option String
  | .glob _ _ => List String
  | .exists _ | .isSymlink _ => Bool
  | .capture _ => String
  | .setenv _ _ | .chmod _ _ | .unlink _ | .symlinkTo _ _ | .run _ | .sleep _ => Unit

/-- The exceptions: a program failed that was run with `check=True`, or the system raised. -/
inductive Error where
  | calledProcess (cmd : List String)
  | os
deriving DecidableEq, Repr

/-- A program on the host. -/
abbrev Host := Script Reply Error

open Script (when)

/-- `os.getuid()` -/
def getuid : Host Nat := .issue Command.getuid

/-- `os.getgid()` -/
def getgid : Host Nat := .issue Command.getgid

/-- `os.getenv(name)` -/
def getenv (name : String) : Host (Option String) := .issue (Command.getenv name)

/-- `os.environ[name] = value` -/
def setenv (name value : String) : Host Unit := .issue (Command.setenv name value)

/-- `Path(dir).glob(pattern)` -/
def glob (dir pattern : String) : Host (List String) := .issue (Command.glob dir pattern)

/-- `path.chmod(mode)` -/
def chmod (path : String) (mode : Nat) : Host Unit := .issue (Command.chmod path mode)

/-- `path.exists()` -/
def «exists» (path : String) : Host Bool := .issue (Command.exists path)

/-- `path.is_symlink()` -/
def isSymlink (path : String) : Host Bool := .issue (Command.isSymlink path)

/-- `path.unlink()` -/
def unlink (path : String) : Host Unit := .issue (Command.unlink path)

/-- `path.symlink_to(target)` -/
def symlinkTo (path target : String) : Host Unit := .issue (Command.symlinkTo path target)

/-- `sp.run(cmd, check=True)` -/
def run (cmd : List String) : Host Unit := .issue (Command.run cmd)

/-- `sp.run(cmd, capture_output=True).stdout` -/
def capture (cmd : List String) : Host String := .issue (Command.capture cmd)

/-- `time.sleep(seconds)` -/
def sleep (seconds : Nat) : Host Unit := .issue (Command.sleep seconds)

/-- `bool(os.getenv(name))` for what `getenv` answered. -/
def truthy (value : Option String) : Bool := value.any (· ≠ "")

/-! ## Lines -/

/-- The characters at which `str.splitlines` breaks a line. -/
def isLineBreak (c : Char) : Bool :=
  c ∈ ['\n', '\r', '\x0b', '\x0c', '\x1c', '\x1d', '\x1e', '\x85', '\u2028', '\u2029']

/-- The lines of a text, where `line` holds the reversed start of the first one. -/
def linesFrom (line : List Char) : List Char → List String
  | [] => if line = [] then [] else [String.ofList line.reverse]
  | '\r' :: '\n' :: cs => String.ofList line.reverse :: linesFrom [] cs
  | c :: cs =>
    if isLineBreak c then String.ofList line.reverse :: linesFrom [] cs
    else linesFrom (c :: line) cs

/-- `s.splitlines()` -/
def splitlines (s : String) : List String := linesFrom [] s.toList

/-! ## The services -/

/-- `RUCIO_SERVICES` -/
def rucioServices : List String :=
  ["rucio-db", "rucio-server", "rucio-storage-1", "rucio-storage-2", "rucio-storage-3",
   "rucio-conveyor-poller", "rucio-conveyor-submitter", "rucio-conveyor-finisher",
   "rucio-conveyor-evaluator", "fts", "ftsdb"]

/-- `DIRAC_SERVICES` -/
def diracServices : List String := ["dirac-server", "dirac-ce", "dirac-db", "cvmfs-stratum0"]

/-- `COMMON_SERVICES` -/
def commonServices : List String := ["clients"]

/-! ## The functions of the script -/

/-- The module's code: the ids of the user that the containers run as. -/
def setIds : Host Unit := do
  let currentUid ← toString <$> getuid
  let currentGid ← toString <$> getgid
  let userid ← getenv "USERID"
  setenv "USERID" (userid.getD (if currentUid ≠ "0" then currentUid else "1000"))
  let groupid ← getenv "GROUPID"
  setenv "GROUPID" (groupid.getD (if currentGid ≠ "0" then currentGid else "1000"))

/-- Makes `certs/*.key.pem` and `certs/ssh/*` readable by the user only. -/
def chmodCerts : Host Unit := do
  let keys ← glob "certs" "*.key.pem"
  forM keys fun path => chmod path 0o600
  let sshKeys ← glob "certs/ssh" "*"
  forM sshKeys fun path => chmod path 0o600

/-- Runs `docker compose`. -/
def compose (args : List String) : Host Unit := run (["docker", "compose"] ++ args)

/-- Runs a command in the container of a service. -/
def composeExec (service : String) (cmd : List String) (user : Option String) : Host Unit :=
  compose (["exec"] ++ user.elim [] (["-u", ·]) ++ [service] ++ cmd)

/-- `Path(repo) / "setup.py"` -/
def setupPy (repo : String) : String := repo ++ "/setup.py"

/-- Links `setup.py` of the repository to that of the client or of the server. -/
def symlinkRucioSetup (client : Bool) : Host Unit := do
  let repo ← getenv "RUCIO_REPOSITORY"
  match repo with
  | none => pure ()
  | some repo =>
    let link := setupPy repo
    let found ← «exists» link
    let found ← .or found (isSymlink link)
    when found (unlink link)
    symlinkTo link (if client then "setup_rucio_client.py" else "setup_rucio.py")

/-- Builds and starts services. -/
def composeUp (services : List String) : Host Unit := compose (["up", "-d", "--build"] ++ services)

/-- Stops services, and removes their volumes. -/
def composeDown (services : List String) : Host Unit :=
  compose (["down", "--remove-orphans", "--volumes"] ++ services)

/-- Copies a file into a container. -/
def composeCp (source target : String) : Host Unit := compose ["cp", source, target]

/-- The command that prints the services that are running. -/
def psCmd : List String :=
  ["docker", "compose", "ps", "--format", "\x7b\x7b.Service\x7d\x7d"]

/-- `ps` shows one of the services, or any where none are given. -/
def anyRunning (services : List String) : Host Bool := do
  let stdout ← capture psCmd
  let runningServices := (splitlines stdout).eraseDups
  if services.length = 0 then
    pure (0 < runningServices.length)
  else
    pure (0 < (runningServices.filter (· ∈ services)).length)

/-- The options of `setup`, as absolute paths. -/
structure Args where
  rucio : Option String
  dirac : Option String
deriving DecidableEq, Repr

/-- Where the repositories for development are, as options or as environment variables. -/
def setRepositories (args : Args) : Host Unit := do
  args.rucio.forM (setenv "RUCIO_REPOSITORY")
  args.dirac.forM (setenv "DIRAC_REPOSITORY")

/-- The database is initialised first, and only when `ps` shows nothing that runs. -/
def initDatabase : Host Unit := do
  let running ← anyRunning []
  when (!running) do
    composeUp ["rucio-db"]
    compose ["run", "--rm", "--build", "rucio-init"]

/-- Installs the repository of Rucio in the containers. -/
def installRucio : Host Unit := do
  symlinkRucioSetup true
  composeExec "clients" ["pip", "install", "-e", "/src/rucio"] none
  composeExec "dirac-server" ["pip", "install", "-e", "/src/rucio"] (some "root")
  symlinkRucioSetup false
  composeExec "rucio-server" ["pip", "install", "-e", "/src/rucio"] (some "root")
  compose ["restart", "rucio-server"]
  sleep 15

/-- Installs the repository of DIRAC in the containers. -/
def installDirac : Host Unit := do
  composeExec "clients" ["pip", "install", "-e", "/src/DIRAC"] (some "root")
  composeExec "dirac-server" ["pip", "install", "-e", "/src/DIRAC"] (some "root")

/-- Makes the file system and publishes the configuration of Rucio on it. -/
def setupCvmfs : Host Unit := do
  composeExec "cvmfs-stratum0" ["cvmfs_server", "mkfs", "-o", "root", "testvo.example.org"] none
  composeExec "cvmfs-stratum0" ["cvmfs_server", "transaction"] none
  composeCp "rucio/rucio_dirac_user.cfg" "cvmfs-stratum0:/tmp/rucio.cfg"
  composeExec "cvmfs-stratum0" ["mkdir", "-p", "/cvmfs/testvo.example.org/rucio/etc/"] none
  composeExec "cvmfs-stratum0"
    ["mv", "/tmp/rucio.cfg", "/cvmfs/testvo.example.org/rucio/etc/"] none
  composeExec "cvmfs-stratum0" ["cvmfs_server", "publish"] none

/-- Sets up the environment. -/
def setup (args : Args) : Host Unit := do
  setRepositories args
  chmodCerts
  initDatabase
  -- then all the rest
  composeUp (rucioServices ++ diracServices ++ commonServices)
  sleep 15
  let rucio ← getenv "RUCIO_REPOSITORY"
  when (truthy rucio) installRucio
  composeExec "clients" ["/setup_certificates.sh"] (some "root")
  composeExec "clients" ["/setup_rucio.sh"] none
  let dirac ← getenv "DIRAC_REPOSITORY"
  when (truthy dirac) installDirac
  let rucio ← getenv "RUCIO_REPOSITORY"
  let either ← .or (truthy rucio) (truthy <$> getenv "DIRAC_REPOSITORY")
  when either do
    compose ["restart", "dirac-server"]
    sleep 15
  setupCvmfs

/-- Tears it down. -/
def teardown : Host Unit := composeDown []

/-- The subcommands. -/
inductive Subcommand where
  | setup (args : Args)
  | teardown
deriving DecidableEq, Repr

/-- A run of the program. -/
def main : Subcommand → Host Unit
  | .setup args => do setIds; setup args
  | .teardown => do setIds; teardown

end DiracRucioPolicy.DevSetup
