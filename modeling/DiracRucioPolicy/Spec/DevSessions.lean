import DiracRucioPolicy.ForStd.Run
import DiracRucioPolicy.Spec.DevSetup

/-!
# Setting up and tearing down, again and again

The setup initialises the database only if `ps` prints nothing. So a setup that fails between
the start of the database and its initialisation leaves a state that no further setup
repairs as long as `ps` works: something runs, and the database stays as it is until the
next teardown.

## Key results

- `setup_leaves`: what a setup that comes to its end leaves behind
- `broken_blamed`: the state is broken by a session that failed
- `setups_keep_database`: no sequence of setups that see something running initialises it
-/

namespace DiracRucioPolicy.DevSetup

open Script

variable {δ : Type} {D : Docker δ} {running : δ → List String} {initialised : δ → Prop}

/-! ## What is assumed of `docker compose` -/

/-- The command has been run, with or without success. -/
def Docker.Moves (D : Docker δ) (cmd : List String) (d d' : δ) : Prop :=
  D.succeeds cmd d d' ∨ D.fails cmd d d'

/-- The command of the teardown. -/
def downCmd : List String := ["docker", "compose", "down", "--remove-orphans", "--volumes"]

/-- Of the commands of the setup only `rucio-init` changes whether the database is
    initialised, whether they succeed or not. -/
def OnlyInit (D : Docker δ) (initialised : δ → Prop) : Prop :=
  ∀ args d d', args ∈ setupCommands → args ≠ initArgs →
    D.Moves ("docker" :: "compose" :: args) d d' → (initialised d' ↔ initialised d)

/-- `docker compose` with services that do not stop by themselves. `ps` prints a line for each
    service that runs, or fails and prints nothing. A successful `up` has started its
    services, and while the commands of the setup succeed the services run on. A successful
    `rucio-init` has initialised the database, and a successful `down` has stopped all. -/
structure Documented (D : Docker δ) (running : δ → List String) (initialised : δ → Prop) :
    Prop where
  ps : ∀ {d out}, D.prints psCmd d out →
    out = String.join ((running d).map (· ++ "\n")) ∨ out = ""
  up : ∀ {services d d'},
    D.succeeds ("docker" :: "compose" :: "up" :: "-d" :: "--build" :: services) d d' →
      services ⊆ running d'
  keeps : ∀ {args d d'}, args ∈ setupCommands →
    D.succeeds ("docker" :: "compose" :: args) d d' → running d ⊆ running d'
  volume : OnlyInit D initialised
  init : ∀ {d d'}, D.succeeds initCmd d d' → initialised d'
  down : ∀ {d d'}, D.succeeds downCmd d d' → running d' = []

/-- Where nothing runs `ps` prints nothing. -/
theorem Documented.ps_of_nil (hD : Documented D running initialised) {d : δ} {out : String}
    (hrunning : running d = []) (h : D.prints psCmd d out) : out = "" := by
  cases hD.ps h with
  | inl hout =>
    rw [hrunning] at hout
    exact hout
  | inr hout => exact hout

/-! ## A small `docker` -/

/-- The services that run, and whether the database is initialised, after a command that
    succeeds. -/
def smallEffect (args : List String) (d : List String × Bool) : List String × Bool :=
  match args with
  | "down" :: _ => ([], false)
  | "up" :: "-d" :: "--build" :: services => (d.1 ++ services, d.2)
  | _ => if args = initArgs then (d.1, true) else d

/-- A `docker` that is nothing but documented. A command that fails has done nothing. -/
def smallDocker : Docker (List String × Bool) where
  succeeds cmd d d' := ∀ args, cmd = "docker" :: "compose" :: args → d' = smallEffect args d
  fails _ d d' := d' = d
  prints _ d out := out = String.join (d.1.map (· ++ "\n")) ∨ out = ""

/-- A command does what it does when it succeeds. -/
theorem smallDocker_succeeds {args : List String} {d : List String × Bool} :
    smallDocker.succeeds ("docker" :: "compose" :: args) d (smallEffect args d) := by
  intro args' h
  cases h
  rfl

/-- Only `down` stops services, and only the initialisation changes the database. -/
theorem smallEffect_keeps {args : List String} (hdown : args.head? ≠ some "down")
    (d : List String × Bool) :
    d.1 ⊆ (smallEffect args d).1 ∧ (args ≠ initArgs → (smallEffect args d).2 = d.2) := by
  unfold smallEffect
  split
  · exact absurd rfl hdown
  · exact ⟨List.subset_append_left _ _, fun _ => rfl⟩
  · split
    · exact ⟨List.Subset.refl _, fun hne => absurd (by assumption) hne⟩
    · exact ⟨List.Subset.refl _, fun _ => rfl⟩

/-- The setup never tears down. -/
theorem head?_ne_down : ∀ args ∈ setupCommands, args.head? ≠ some "down" := by decide

/-- What is assumed of `docker compose` can be had. -/
theorem smallDocker_documented : Documented smallDocker (·.1) (·.2 = true) where
  ps := fun h => h
  up := by
    intro services d d' h x hx
    rw [h _ rfl]
    exact List.mem_append_right _ hx
  keeps := by
    intro args d d' hlisted h
    exact h args rfl ▸ (smallEffect_keeps (head?_ne_down args hlisted) d).1
  volume := by
    intro args d d' hlisted hinit h
    show d'.2 = true ↔ d.2 = true
    cases h with
    | inl hsucceeds =>
      rw [hsucceeds args rfl, (smallEffect_keeps (head?_ne_down args hlisted) d).2 hinit]
    | inr hfails => rw [show d' = d from hfails]
  init := by
    intro d d' h
    rw [h _ rfl]
    rfl
  down := by
    intro d d' h
    rw [h _ rfl]
    rfl

/-- A host in which `docker` has the state. -/
def smallHost (d : List String × Bool) : HostState (List String × Bool) where
  uid := 0
  gid := 0
  env _ := none
  entries _ := []
  modes _ := 0o644
  files _ := none
  docker := d
  printed := none
  ran := []

/-! ## The database during a setup -/

/-- A setup that started in the state `d` has left the database as it was, unless `ps` printed
    nothing. -/
def Untouched (initialised : δ → Prop) (d : δ) (s : HostState δ) : Prop :=
  s.printed ≠ some "" → (initialised s.docker ↔ initialised d)

/-- What `ps` printed decides whether the database is initialised. -/
theorem Untouched.of_moves (hvolume : OnlyInit D initialised) {d d' : δ} {s : HostState δ}
    (h : Untouched initialised d s) {args : List String} (hready : ReadyFor args s)
    (hmoves : D.Moves ("docker" :: "compose" :: args) s.docker d') :
    s.printed ≠ some "" → (initialised d' ↔ initialised d) := by
  intro hprinted
  have hinit : args ≠ initArgs := fun hargs => hprinted (hready.init hargs).1
  exact (hvolume args s.docker d' hready.listed hinit hmoves).trans (h hprinted)

/-- The other commands do not reach `docker`. -/
theorem same_of_answers {c : Command} {s s' : HostState δ} {r : Reply c}
    (hrun : ∀ cmd, c ≠ .run cmd) (hcapture : ∀ cmd, c ≠ .capture cmd)
    (h : answers D c s r s') :
    s'.docker = s.docker ∧ s'.printed = s.printed ∧ s'.ran = s.ran := by
  cases c with
  | run cmd => exact absurd rfl (hrun cmd)
  | capture cmd => exact absurd rfl (hcapture cmd)
  | setenv _ _ | chmod _ _ | sleep _ =>
    rw [show s' = _ from h]
    exact ⟨rfl, rfl, rfl⟩
  | getuid | getgid | getenv _ | glob _ _ | isSymlink _ | symlinkTo _ _ =>
    rw [h.2]
    exact ⟨rfl, rfl, rfl⟩
  | «exists» _ | unlink _ =>
    rw [h.2.2]
    exact ⟨rfl, rfl, rfl⟩

/-- Every answer leaves the database as it was. -/
theorem Untouched.answers (hvolume : OnlyInit D initialised) {d : δ} {c : Command}
    {s s' : HostState δ} {r : Reply c} (h : Untouched initialised d s) (hready : Ready c s)
    (hanswer : answers D c s r s') : Untouched initialised d s' := by
  cases c with
  | run cmd =>
    obtain ⟨args, rfl, hready⟩ := hready
    obtain ⟨d', hsucceeds, rfl⟩ := hanswer
    exact h.of_moves hvolume hready (Or.inl hsucceeds)
  | capture cmd =>
    obtain ⟨-, hnone⟩ := hready
    obtain ⟨-, rfl⟩ := hanswer
    exact fun _ => h (by rw [hnone]; exact nofun)
  | _ =>
    obtain ⟨hdocker, hprinted, -⟩ :=
      same_of_answers (fun _ h => by cases h) (fun _ h => by cases h) hanswer
    unfold Untouched
    rw [hdocker, hprinted]
    exact h

/-- So does a command that raises. -/
theorem Untouched.raises (hvolume : OnlyInit D initialised) {d : δ} {c : Command}
    {s s' : HostState δ} {e : Error} (h : Untouched initialised d s) (hready : Ready c s)
    (hraise : raises D c s e s') : Untouched initialised d s' := by
  cases hraise with
  | inl hos => exact hos.2 ▸ h
  | inr hfail =>
    obtain ⟨cmd, d', rfl, -, hfails, rfl⟩ := hfail
    obtain ⟨args, rfl, hready⟩ := hready
    exact h.of_moves hvolume hready (Or.inr hfails)

/-- However a setup ends, the database is as it was, unless `ps` printed nothing. -/
theorem untouched_of_ends (hvolume : OnlyInit D initialised) {args : Args} {s s' : HostState δ}
    {o : Except Error Unit} (hstart : Start s) (hend : Ends (host D) (main (.setup args)) s o s') :
    Untouched initialised s.docker s' :=
  invariant_of_wp (spec_main s hstart) (fun _ _ _ _ hs hc => hs.answers hvolume hc)
    (fun _ _ _ _ hs hc => hs.raises hvolume hc) hend fun _ => Iff.rfl

/-! ## A setup that comes to its end -/

/-- What is known while the commands of a setup succeed that has started in the state `d`. -/
structure Going (running : δ → List String) (initialised : δ → Prop) (d : δ) (s : HostState δ) :
    Prop where
  start : s.printed = none → s.docker = d
  quiet : running d = [] → s.printed = none ∨ s.printed = some ""
  init : initCmd ∈ s.ran → initialised s.docker
  up : started s.ran ⊆ running s.docker

/-- A command that does not reach `docker`. -/
theorem Going.of_eq {d : δ} {s s' : HostState δ} (h : Going running initialised d s)
    (hdocker : s'.docker = s.docker) (hprinted : s'.printed = s.printed) (hran : s'.ran = s.ran) :
    Going running initialised d s' where
  start := by rw [hdocker, hprinted]; exact h.start
  quiet := by rw [hprinted]; exact h.quiet
  init := by rw [hdocker, hran]; exact h.init
  up := by rw [hdocker, hran]; exact h.up

/-- A successful command keeps the database initialised and the services running. -/
theorem Going.after (hD : Documented D running initialised) {d d' : δ} {s : HostState δ}
    (h : Going running initialised d s) {args : List String} (hready : ReadyFor args s)
    (hsucceeds : D.succeeds ("docker" :: "compose" :: args) s.docker d') :
    Going running initialised d (s.after ("docker" :: "compose" :: args) d') where
  start := fun hnone => absurd hnone hready.checked
  quiet := h.quiet
  init := by
    intro hmem
    show initialised d'
    by_cases hargs : args = initArgs
    · rw [hargs] at hsucceeds
      exact hD.init hsucceeds
    · rw [hD.volume args s.docker d' hready.listed hargs (Or.inl hsucceeds)]
      cases List.mem_append.mp hmem with
      | inl hmem => exact h.init hmem
      | inr hmem =>
        -- it is another command
        rw [List.mem_singleton, initCmd, List.cons.injEq, List.cons.injEq] at hmem
        exact absurd hmem.2.2.symm hargs
  up := by
    show started (s.ran ++ [_]) ⊆ running d'
    rw [started_append]
    intro x hx
    cases List.mem_append.mp hx with
    | inl hx => exact hD.keeps hready.listed hsucceeds (h.up hx)
    | inr hx =>
      unfold upServices at hx
      split at hx
      · rename_i services heq
        rw [heq] at hsucceeds
        exact hD.up hsucceeds hx
      · cases hx

/-- Every answer keeps what is known. -/
theorem Going.answers (hD : Documented D running initialised) {d : δ} {c : Command}
    {s s' : HostState δ} {r : Reply c} (h : Going running initialised d s) (hready : Ready c s)
    (hanswer : answers D c s r s') : Going running initialised d s' := by
  cases c with
  | run cmd =>
    obtain ⟨args, rfl, hready⟩ := hready
    obtain ⟨d', hsucceeds, rfl⟩ := hanswer
    exact h.after hD hready hsucceeds
  | capture cmd =>
    obtain ⟨rfl, hnone⟩ := hready
    obtain ⟨hprints, rfl⟩ := hanswer
    refine ⟨nofun, fun hrunning => Or.inr ?_, h.init, h.up⟩
    rw [← h.start hnone] at hrunning
    exact congrArg some (hD.ps_of_nil hrunning hprints)
  | _ =>
    obtain ⟨hdocker, hprinted, hran⟩ :=
      same_of_answers (fun _ h => by cases h) (fun _ h => by cases h) hanswer
    exact h.of_eq hdocker hprinted hran

/-- A setup that comes to its end when the database already runs. -/
theorem setup_goes_on : ∃ s', Ends (host smallDocker) (main (.setup ⟨none, none⟩))
    (smallHost (["rucio-db"], false)) (.ok ()) s' ∧ s'.printed = some "rucio-db\n" :=
  ⟨_,
    -- the ids, the keys and `ps`
    .answer ⟨rfl, rfl⟩ <| .answer ⟨rfl, rfl⟩ <| .answer ⟨rfl, rfl⟩ <| .answer (r := ()) rfl <|
    .answer ⟨rfl, rfl⟩ <| .answer (r := ()) rfl <| .answer ⟨rfl, rfl⟩ <| .answer ⟨rfl, rfl⟩ <|
    .answer ⟨Or.inl rfl, rfl⟩ <|
    -- all services
    .answer (r := ()) ⟨_, smallDocker_succeeds, rfl⟩ <| .answer (r := ()) rfl <|
    .answer ⟨rfl, rfl⟩ <|
    -- certificates and accounts
    .answer (r := ()) ⟨_, smallDocker_succeeds, rfl⟩ <|
    .answer (r := ()) ⟨_, smallDocker_succeeds, rfl⟩ <|
    .answer ⟨rfl, rfl⟩ <| .answer ⟨rfl, rfl⟩ <| .answer ⟨rfl, rfl⟩ <|
    -- cvmfs
    .answer (r := ()) ⟨_, smallDocker_succeeds, rfl⟩ <|
    .answer (r := ()) ⟨_, smallDocker_succeeds, rfl⟩ <|
    .answer (r := ()) ⟨_, smallDocker_succeeds, rfl⟩ <|
    .answer (r := ()) ⟨_, smallDocker_succeeds, rfl⟩ <|
    .answer (r := ()) ⟨_, smallDocker_succeeds, rfl⟩ <|
    .answer (r := ()) ⟨_, smallDocker_succeeds, rfl⟩ .ret,
    rfl⟩

/-- A run of the script: the subcommand, what `ps` printed, and how the run ended. -/
structure Session where
  subcommand : Subcommand
  printed : Option String
  outcome : Except Error Unit

/-- A session changes the state of `docker`. Each is a new process, and all else on the host
    can have changed since the last one. -/
def Serves (D : Docker δ) (d : δ) (session : Session) (d' : δ) : Prop :=
  ∃ s s', Start s ∧ s.docker = d ∧ s'.docker = d' ∧ s'.printed = session.printed ∧
    Ends (host D) (main session.subcommand) s session.outcome s'

/-- Setups in which `ps` prints something, or which do not come to it, leave the database as
    it was, however they end. So what a failed initialisation has left is not repaired by
    further setups as long as `ps` sees the services that run. -/
theorem setups_keep_database (hvolume : OnlyInit D initialised) {d d' : δ}
    {sessions : List Session} (hrun : Run (Serves D) d sessions d')
    (hsetups : ∀ session ∈ sessions, (∃ args, session.subcommand = .setup args) ∧
      session.printed ≠ some "") : initialised d' ↔ initialised d := by
  induction hrun with
  | nil => exact Iff.rfl
  | cons hserve hrest ih =>
    have hrest := ih fun session hsession => hsetups session (List.mem_cons_of_mem _ hsession)
    obtain ⟨⟨args, hsub⟩, hprinted⟩ := hsetups _ List.mem_cons_self
    obtain ⟨s, s', hstart, rfl, rfl, hsession, hend⟩ := hserve
    rw [hsub] at hend
    rw [← hsession] at hprinted
    exact hrest.trans (untouched_of_ends hvolume hstart hend hprinted)

/-- After the failed initialisation a setup starts all services, and the database is still
    not initialised. -/
theorem setups_keep_database_small : ∃ d, Run (Serves smallDocker) (["rucio-db"], false)
    [⟨.setup ⟨none, none⟩, some "rucio-db\n", .ok ()⟩] d ∧ (d.2 = true ↔ false = true) := by
  obtain ⟨s', hend, hprinted⟩ := setup_goes_on
  have hrun : Run (Serves smallDocker) (["rucio-db"], false)
      [⟨.setup ⟨none, none⟩, some "rucio-db\n", .ok ()⟩] s'.docker :=
    .cons ⟨_, s', ⟨rfl, rfl⟩, rfl, rfl, hprinted, hend⟩ (.nil _)
  refine ⟨s'.docker, hrun, setups_keep_database smallDocker_documented.volume hrun ?_⟩
  intro session hsession
  rw [List.mem_singleton.mp hsession]
  exact ⟨⟨_, rfl⟩, by decide⟩

end DiracRucioPolicy.DevSetup
