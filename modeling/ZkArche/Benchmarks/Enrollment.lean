import ZkArche.Benchmarks.Runner
import ZkArche.Client.SetupMain

namespace ZkArche.Benchmarks

open Foundation Python

variable {F : Type}

/-- How the client's run with `--setup` in a fresh directory ends: its process, which has no outcome when it takes too
    long, whether `device_root.bin` is there afterwards, and whether `do_setup` returned `Ok`. The client creates the file
    before it contacts the server, exits with 0 only when the setup succeeded, and prints no metrics line that cannot be
    read. -/
structure SetupRun (floats : Floats F) where
  process : Option CompletedProcess
  deviceRoot : Bool
  enrolled : Bool
  elapsedWallS : F
  completed : enrolled = true → deviceRoot = true
  failed : enrolled = false → ∀ cp, process = some cp → cp.returncode ≠ 0
  readable : ∀ cp, process = some cp → ∃ metrics, firstClientMetrics floats cp.stdout = .ok metrics

/-- A client workdir, and what the run in it comes to. -/
structure Workdir (floats : Floats F) where
  name : List Char
  run : SetupRun floats

inductive EnrollError where
  | value (error : ValueError)
  | runtime (message : List Char)

def enrollmentFailed (name stderrTail : List Char) : List Char :=
  "[zkarche] enrollment failed for ".toList ++ name ++ ": ".toList ++
    (if stderrTail.isEmpty then "no metrics line".toList else stderrTail)

def runSetup {floats : Floats F} (run : SetupRun floats) : Except EnrollError (ClientResult F) :=
  match runClientOnce floats "30.0".toList 0 0 run.elapsedWallS run.process with
  | .error error => .error (.value error)
  | .ok result => .ok result

/-- The loop of `enroll_zkarche_clients`, with the count so far and the lines it has printed. -/
def enrollFrom {floats : Floats F} (failOnError : Bool) : List (Workdir floats) → Nat → List (List Char) →
    Except EnrollError (Nat × List (List Char))
  | [], ok, printed => .ok (ok, printed)
  | wd :: workdirs, ok, printed => do
    let result ← runSetup wd.run
    if result.success = true ∨ wd.run.deviceRoot = true then enrollFrom failOnError workdirs (ok + 1) printed
    else if failOnError then .error (.runtime (enrollmentFailed wd.name result.stderrTail))
    else enrollFrom failOnError workdirs ok (printed ++ [enrollmentFailed wd.name result.stderrTail])

def enrollZkarcheClients {floats : Floats F} (workdirs : List (Workdir floats)) (failOnError : Bool) :
    Except EnrollError (Nat × List (List Char)) := enrollFrom failOnError workdirs 0 []

def enrolledCount {floats : Floats F} (workdirs : List (Workdir floats)) : Nat :=
  workdirs.countP fun wd => wd.run.enrolled

variable {floats : Floats F} {workdirs : List (Workdir floats)} {wd : Workdir floats} {ok : Nat} {printed : List (List Char)}

section Loop

theorem runSetup_result (run : SetupRun floats) :
    ∃ result, runSetup run = .ok result ∧ (result.success = true → run.enrolled = true) := by
  cases process : run.process with
  | none =>
    rw [runSetup, process]
    exact ⟨_, rfl, fun success => Bool.noConfusion success⟩
  | some cp =>
    obtain ⟨metrics, read⟩ := run.readable cp process
    have ran : ∃ result, runClientOnce floats "30.0".toList 0 0 run.elapsedWallS (some cp) = .ok result ∧
        (result.success = true → cp.returncode = 0) := by
      rw [runClientOnce, read]
      by_cases bad : cp.returncode ≠ 0 ∨ metrics.isNone = true
      · exact ⟨_, if_pos bad, fun success => Bool.noConfusion success⟩
      · exact ⟨_, if_neg bad, fun _ => of_not_not fun nonzero => bad (.inl nonzero)⟩
    obtain ⟨result, recorded, zero⟩ := ran
    refine ⟨result, by rw [runSetup, process, recorded], fun success => ?_⟩
    rw [← Bool.not_eq_false]
    exact fun unfinished => run.failed unfinished cp process (zero success)

theorem enrollFrom_cons (failOnError : Bool) (wd : Workdir floats) (workdirs : List (Workdir floats)) (ok : Nat)
    (printed : List (List Char)) : ∃ message, enrollFrom failOnError (wd :: workdirs) ok printed =
      if wd.run.deviceRoot = true then enrollFrom failOnError workdirs (ok + 1) printed
      else if failOnError = true then .error (.runtime message)
      else enrollFrom failOnError workdirs ok (printed ++ [message]) := by
  obtain ⟨result, ran, success⟩ := runSetup_result wd.run
  have counted : (result.success = true ∨ wd.run.deviceRoot = true) ↔ wd.run.deviceRoot = true :=
    or_iff_right_of_imp fun succeeded => wd.run.completed (success succeeded)
  refine ⟨enrollmentFailed wd.name result.stderrTail, ?_⟩
  rw [enrollFrom, ran]
  show (if result.success = true ∨ wd.run.deviceRoot = true then _ else _) = _
  rw [if_congr counted rfl rfl]

theorem enrollFrom_lenient (workdirs : List (Workdir floats)) (ok : Nat) (printed : List (List Char)) :
    ∃ messages, enrollFrom false workdirs ok printed =
      .ok (ok + workdirs.countP fun wd => wd.run.deviceRoot, messages) := by
  induction workdirs generalizing ok printed with
  | nil => exact ⟨printed, rfl⟩
  | cons wd workdirs ih =>
    obtain ⟨message, step⟩ := enrollFrom_cons false wd workdirs ok printed
    rw [step]
    cases created : wd.run.deviceRoot with
    | true =>
      obtain ⟨messages, rest⟩ := ih (ok + 1) printed
      refine ⟨messages, ?_⟩
      rw [if_pos rfl, rest, List.countP_cons_of_pos (p := fun wd : Workdir floats => wd.run.deviceRoot) created, Nat.add_assoc, Nat.add_comm 1]
    | false =>
      obtain ⟨messages, rest⟩ := ih ok (printed ++ [message])
      refine ⟨messages, ?_⟩
      rw [if_neg Bool.false_ne_true, if_neg Bool.false_ne_true, rest,
        List.countP_cons_of_neg (p := fun wd : Workdir floats => wd.run.deviceRoot) (by rw [created]; exact Bool.false_ne_true)]

theorem enrollFrom_strict (workdirs : List (Workdir floats)) (ok : Nat) (printed : List (List Char)) :
    (enrollFrom true workdirs ok printed = .ok (ok + workdirs.length, printed) ∧
      ∀ wd ∈ workdirs, wd.run.deviceRoot = true) ∨
    ∃ error, enrollFrom true workdirs ok printed = .error error ∧ ∃ wd ∈ workdirs, wd.run.deviceRoot = false := by
  induction workdirs generalizing ok printed with
  | nil => exact .inl ⟨rfl, fun _ member => absurd member List.not_mem_nil⟩
  | cons wd workdirs ih =>
    obtain ⟨message, step⟩ := enrollFrom_cons true wd workdirs ok printed
    rw [step]
    cases created : wd.run.deviceRoot with
    | true =>
      rw [if_pos rfl]
      rcases ih (ok + 1) printed with ⟨run, all⟩ | ⟨error, raised, other, member, missing⟩
      · left
        rw [run, List.length_cons, Nat.add_assoc, Nat.add_comm 1]
        exact ⟨rfl, List.forall_mem_cons.mpr ⟨created, all⟩⟩
      · exact .inr ⟨error, raised, other, List.mem_cons_of_mem _ member, missing⟩
    | false =>
      rw [if_neg Bool.false_ne_true, if_pos rfl]
      exact .inr ⟨_, rfl, wd, List.mem_cons_self, created⟩

end Loop

section Counts

/-- What is returned is the number of enrolled workdirs, and with the flag every failed run is raised. -/
def Honest (workdirs : List (Workdir floats)) : Prop :=
  (∃ messages, enrollZkarcheClients workdirs false = .ok (enrolledCount workdirs, messages)) ∧
  ((∃ error, enrollZkarcheClients workdirs true = .error error) ↔ ∃ wd ∈ workdirs, wd.run.enrolled = false) ∧
  ∀ count messages, enrollZkarcheClients workdirs true = .ok (count, messages) → count = enrolledCount workdirs

theorem enrolledCount_le (workdirs : List (Workdir floats)) :
    enrolledCount workdirs ≤ workdirs.countP fun wd => wd.run.deviceRoot :=
  List.countP_mono_left fun wd _ enrolled => wd.run.completed enrolled

theorem countP_eq_iff : (workdirs.countP fun wd => wd.run.deviceRoot) = enrolledCount workdirs ↔
    ∀ wd ∈ workdirs, wd.run.enrolled = false → wd.run.deviceRoot = false := by
  induction workdirs with
  | nil => simp [enrolledCount]
  | cons wd workdirs ih =>
    have below := enrolledCount_le workdirs
    rw [List.forall_mem_cons, ← ih]
    unfold enrolledCount at below ⊢
    rw [List.countP_cons, List.countP_cons]
    have kept := wd.run.completed
    cases enrolled : wd.run.enrolled <;> cases created : wd.run.deviceRoot
    · simp
    · simp
      omega
    · rw [enrolled, created] at kept
      exact absurd (kept rfl) Bool.false_ne_true
    · simp

/-- The failed runs are neither counted nor hidden if and only if none of them has left a device root behind. -/
theorem enrollments_honest_iff (floats : Floats F) (workdirs : List (Workdir floats)) :
    Honest workdirs ↔ ∀ wd ∈ workdirs, wd.run.enrolled = false → wd.run.deviceRoot = false := by
  obtain ⟨messages, lenient⟩ := enrollFrom_lenient workdirs 0 []
  rw [← countP_eq_iff]
  constructor
  · rintro ⟨⟨others, counted⟩, _, _⟩
    have same := lenient.symm.trans counted
    rw [Nat.zero_add] at same
    exact congrArg Prod.fst (Except.ok.inj same)
  · intro same
    have none_left := countP_eq_iff.mp same
    refine ⟨⟨messages, by rw [← same, enrollZkarcheClients, lenient, Nat.zero_add]⟩, ?_⟩
    rw [enrollZkarcheClients]
    rcases enrollFrom_strict workdirs 0 [] with ⟨run, all⟩ | ⟨error, raised, wd, member, missing⟩
    · rw [run]
      constructor
      · apply iff_of_false
        · rintro ⟨_, raised⟩
          cases raised
        · rintro ⟨wd, member, unfinished⟩
          exact Bool.false_ne_true ((none_left wd member unfinished).symm.trans (all wd member))
      · intro count others counted
        have whole : (workdirs.countP fun wd => wd.run.deviceRoot) = workdirs.length := List.countP_eq_length.mpr all
        rw [← same, whole]
        exact ((congrArg Prod.fst (Except.ok.inj counted)).symm.trans (Nat.zero_add _))
    · rw [raised]
      have unfinished : wd.run.enrolled = false := by
        rw [← Bool.not_eq_true]
        exact fun enrolled => Bool.false_ne_true (missing.symm.trans (wd.run.completed enrolled))
      refine ⟨iff_of_true ⟨error, rfl⟩ ⟨wd, member, unfinished⟩, fun _ _ counted => ?_⟩
      cases counted

end Counts

section Clients

open ZkArche.Client

variable {β S P : Type} [Octet β] [Field S] [AddCommGroup P] [Module S P] [DecidableEq β] [DecidableEq P]
variable {G : Suite β S P} {rootFault : Option IoError} {root : Block β 32} {token : Option String} {tofu : Bool}
  {faults : SetupFaults} {random : SetupRandom β S} {before : Connected β}

theorem client_completed (wiped : Wiped before.files)
    (enrolled : (mainSetup G rootFault root token tofu faults random before).1.isOk = true) :
    (mainSetup G rootFault root token tofu faults random before).2.files.deviceRoot.isPresent = true := by
  cases rootFault with
  | none => exact mainSetup_root wiped
  | some error =>
    rw [mainSetup_faulted wiped] at enrolled
    exact Bool.noConfusion enrolled

/-- The exit status of a Rust program whose `main` returns a result. -/
def exitStatus (result : Except Failure Unit) : Int := if result.isOk then 0 else 1

theorem exitStatus_failed {result : Except Failure Unit} {stdout stderr : List Char} (failed : result.isOk = false)
    (cp : CompletedProcess) (process : some ⟨exitStatus result, stdout, stderr⟩ = some cp) : cp.returncode ≠ 0 := by
  cases process
  rw [exitStatus, failed]
  exact (by decide : (1 : Int) ≠ 0)

theorem readable_stdout {status : Int} {stdout stderr : List Char}
    (readable : ∃ metrics, firstClientMetrics floats stdout = .ok metrics) (cp : CompletedProcess)
    (process : some ⟨status, stdout, stderr⟩ = some cp) : ∃ metrics, firstClientMetrics floats cp.stdout = .ok metrics := by
  cases process
  exact readable

def clientRun (G : Suite β S P) (rootFault : Option IoError) (root : Block β 32) (token : Option String) (tofu : Bool)
    (faults : SetupFaults) (random : SetupRandom β S) (before : Connected β) (wiped : Wiped before.files)
    (stdout stderr : List Char) (readable : ∃ metrics, firstClientMetrics floats stdout = .ok metrics) (elapsedWallS : F) :
    SetupRun floats where
  process := some ⟨exitStatus (mainSetup G rootFault root token tofu faults random before).1, stdout, stderr⟩
  deviceRoot := (mainSetup G rootFault root token tofu faults random before).2.files.deviceRoot.isPresent
  enrolled := (mainSetup G rootFault root token tofu faults random before).1.isOk
  elapsedWallS
  completed := client_completed wiped
  failed := exitStatus_failed
  readable := readable_stdout readable

/-- The harness pins no key and does not allow to pin the first one: every run in which the device root can be written
    fails behind it, whatever the server answers. -/
theorem clientRun_refused {stdout stderr : List Char} {elapsedWallS : F} (wiped : Wiped before.files)
    (readable : ∃ metrics, firstClientMetrics floats stdout = .ok metrics) :
    (clientRun G none root token false faults random before wiped stdout stderr readable elapsedWallS).enrolled = false ∧
      (clientRun G none root token false faults random before wiped stdout stderr readable elapsedWallS).deviceRoot =
        true := by
  have refused : ∃ failure after, mainSetup G none root token false faults random before = (.error failure, after) :=
    mainSetup_unpinned wiped
  obtain ⟨failure, after, refused⟩ := refused
  refine ⟨?_, mainSetup_root wiped⟩
  show (mainSetup G none root token false faults random before).1.isOk = false
  rw [refused]
  rfl

theorem beforeImpostor_wiped : Wiped beforeImpostor.files := ⟨rfl, rfl⟩

theorem silent_readable (floats : Floats F) : ∃ metrics, firstClientMetrics floats [] = .ok metrics := ⟨none, rfl⟩

def refusedRun (floats : Floats F) (elapsedWallS : F) : SetupRun floats :=
  clientRun toySuite none (toySuite.sha256 []) none false .none firstRandom beforeImpostor beforeImpostor_wiped [] []
    (silent_readable floats) elapsedWallS

/-- It is counted, and nothing is raised. -/
theorem refused_run_counted : ∃ floats : Floats ℚ, ∃ workdirs : List (Workdir floats),
    (∃ name elapsedWallS, workdirs = [⟨name, refusedRun floats elapsedWallS⟩]) ∧
    enrolledCount workdirs = 0 ∧ (∃ wd ∈ workdirs, wd.run.enrolled = false) ∧
      enrollZkarcheClients workdirs false = .ok (1, []) ∧ enrollZkarcheClients workdirs true = .ok (1, []) := by
  let floats : Floats ℚ := ⟨id, (· + ·), (· * ·), (· / ·), id⟩
  obtain ⟨refused, created⟩ : (refusedRun floats 1).enrolled = false ∧ (refusedRun floats 1).deviceRoot = true :=
    clientRun_refused beforeImpostor_wiped (silent_readable floats)
  have counted : ∀ failOnError, enrollZkarcheClients [⟨['c'], refusedRun floats 1⟩] failOnError = .ok (1, []) := by
    intro failOnError
    obtain ⟨message, step⟩ := enrollFrom_cons failOnError ⟨['c'], refusedRun floats 1⟩ [] 0 []
    rw [enrollZkarcheClients, step, if_pos created]
    rfl
  refine ⟨floats, [⟨['c'], refusedRun floats 1⟩], ⟨_, _, rfl⟩, ?_, ⟨_, List.mem_cons_self, refused⟩, counted false,
    counted true⟩
  rw [enrolledCount, List.countP_cons, List.countP_nil, refused]
  rfl

end Clients

end ZkArche.Benchmarks
