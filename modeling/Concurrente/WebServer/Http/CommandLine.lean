import Concurrente.WebServer.Http.HttpRequest

/-!
# The command line of the server

The role comes first, and the options of a master have fixed places.  A master
whose maximum of connections is no number is started as a worker, the capacity
of the queues is read from the place of that maximum, and numbers are kept with
the 32 bits of an `unsigned int`.
-/

namespace Concurrente.WebServer.Http

/-- The members of `HttpServer` that are set from the command line. -/
structure ServerOptions where
  role : Text
  port : Text
  queuesCapacity : UInt32
  maxConnections : UInt32
  maxWorkerConnections : UInt32
  deriving DecidableEq

/-- The role of the server that distributes the work. -/
def masterRole : Text := "master".toList

/-- The role of a server that calculates. -/
def workerRole : Text := "worker".toList

/-- `DEFAULT_PORT`. -/
def defaultPort : Text := "8080".toList

/-- `SEM_VALUE_MAX`. -/
def semValueMax : UInt32 := 2147483647

/-- The members of a new server, on a machine with a number of threads. -/
def defaultOptions (hardwareConcurrency : UInt32) : ServerOptions :=
  { role := masterRole
    port := defaultPort
    queuesCapacity := semValueMax
    maxConnections := hardwareConcurrency
    maxWorkerConnections := 4 }

/-- The last part of `analyzeArguments`: whether the server is a master. -/
def analyzeQueuesCapacity (argv : List Text) (options : ServerOptions) :
    Except StdException (Bool × ServerOptions) :=
  if argv.length < 6 then .ok (true, options)
  else
    -- the same argument as for the maximum of connections
    match stoull (argv.getD 4 []) with
    | .ok capacity =>
        .ok (true, { options with queuesCapacity := capacity.toUInt32 })
    | .error (.invalidArgument _) =>
        .ok (true, { options with queuesCapacity := semValueMax })
    | .error exception => .error exception

/-- The part of `analyzeArguments` from the maximum of connections on. -/
def analyzeMaxConnections (argv : List Text) (options : ServerOptions) :
    Except StdException (Bool × ServerOptions) :=
  if argv.length < 5 then .ok (true, options)
  else
    match stoull (argv.getD 4 []) with
    | .ok connections =>
        analyzeQueuesCapacity argv
          { options with maxConnections := connections.toUInt32 }
    | .error (.invalidArgument _) => .ok (false, options)
    | .error exception => .error exception

/-- The part of `analyzeArguments` for a master. -/
def analyzeMasterArguments (argv : List Text) (options : ServerOptions) :
    Except StdException (Bool × ServerOptions) :=
  if argv.length < 3 then
    .error (.invalidArgument "must specify max worker connections".toList)
  else
    match stoul (argv.getD 2 []) with
    | .ok connections =>
        analyzeMaxConnections argv
          { options with
            maxWorkerConnections := connections.toUInt32
            port := argv.getD 3 options.port }
    | .error (.invalidArgument _) =>
        .error (.invalidArgument "invalid worker connections".toList)
    | .error exception => .error exception

/-- `HttpServer::analyzeArguments`: its result and the members it leaves. -/
def analyzeArguments (hardwareConcurrency : UInt32) (argv : List Text) :
    Except StdException (Bool × ServerOptions) :=
  let options := defaultOptions hardwareConcurrency
  if argv.length < 2 then
    .error (.invalidArgument "insufficient arguments".toList)
  else if argv.tail.any fun argument => (find "help".toList argument).isSome then
    .error (.invalidArgument "help requested".toList)
  else
    let role := argv.getD 1 []
    if role = workerRole then .ok (false, { options with role })
    else if role ≠ masterRole then
      .error (.invalidArgument "must specify the role of the server".toList)
    else analyzeMasterArguments argv { options with role }

/-! ## What is expected -/

/-- The number at the start of an argument. -/
def number (argument : Text) : Option Int :=
  (scanNumeral argument).map Numeral.value

/-- The number at a place of the command line. -/
def numberAt (argv : List Text) (index : Nat) : Option Int :=
  argv[index]?.bind number

/-- An outcome as the command line is documented.  `run` starts a worker when
the result is false. -/
def Documented (hardwareConcurrency : UInt32) (argv : List Text) :
    Except StdException (Bool × ServerOptions) → Prop
  | .ok (false, _) => argv[1]? = some workerRole
  | .ok (true, options) =>
      argv[1]? = some masterRole ∧
        numberAt argv 2 = some (options.maxWorkerConnections.toNat : Int) ∧
        options.port = argv[3]?.getD defaultPort ∧
        (options.maxConnections.toNat : Int) =
          (numberAt argv 4).getD hardwareConcurrency.toNat ∧
        (options.queuesCapacity.toNat : Int) =
          (numberAt argv 5).getD semValueMax.toNat
  | .error (.invalidArgument _) =>
      argv[1]? ≠ some workerRole ∧
        ¬ (argv[1]? = some masterRole ∧ (numberAt argv 2).isSome = true)
  | .error _ => False

/-- A number that an `unsigned int` can hold. -/
def Fits (value : Int) : Prop := 0 ≤ value ∧ value < 2 ^ 32

/-- The numbers of a master fit, the maximum of connections is one if it is
given, and it is the capacity asked for if another argument follows. -/
def Usable (argv : List Text) : Prop :=
  argv[1]? = some masterRole → ∀ workers, numberAt argv 2 = some workers →
    Fits workers ∧
      (4 < argv.length → ∃ connections, numberAt argv 4 = some connections ∧
        Fits connections ∧
        (5 < argv.length →
          connections = (numberAt argv 5).getD semValueMax.toNat))

/-! ## Conversions -/

/-- What is kept of a number. -/
theorem toUInt32_numeral {numeral : Numeral} (bound : numeral.magnitude < 2 ^ 64) :
    (((if numeral.negative then -UInt64.ofNat numeral.magnitude
      else UInt64.ofNat numeral.magnitude).toUInt32.toNat : Nat) : Int) =
      numeral.value % 2 ^ 32 := by
  have size : (UInt64.ofNat numeral.magnitude).toNat = numeral.magnitude :=
    UInt64.toNat_ofNat_of_lt' bound
  rw [UInt64.toNat_toUInt32, Numeral.value]
  split
  · have whole : UInt64.size = 2 ^ 64 := rfl
    rw [UInt64.toNat_neg, size, whole]
    omega
  · rw [size]
    omega

theorem fits_iff {value : Int} : value = value % 2 ^ 32 ↔ Fits value := by
  unfold Fits
  omega

theorem not_fits_of_large {numeral : Numeral} (large : ¬ numeral.magnitude < 2 ^ 64) :
    ¬ Fits numeral.value := by
  unfold Fits Numeral.value
  split <;> omega

/-- The outcomes of the two conversions. -/
inductive Converted (argument : Text) : Except StdException UInt64 → Prop
  | invalid {what} (none : number argument = none) :
      Converted argument (.error (.invalidArgument what))
  | large {what} (value : Int) (some : number argument = some value)
      (large : ¬ Fits value) : Converted argument (.error (.outOfRange what))
  | kept (value : Int) (result : UInt64) (some : number argument = some value)
      (kept : (result.toUInt32.toNat : Int) = value % 2 ^ 32) :
      Converted argument (.ok result)

/-- The two conversions only differ in the texts of their exceptions. -/
theorem converted_scan (argument what : Text) :
    Converted argument
      (match scanNumeral argument with
      | none => .error (.invalidArgument what)
      | some numeral =>
          if numeral.magnitude < 2 ^ 64 then
            .ok (if numeral.negative then -UInt64.ofNat numeral.magnitude
              else UInt64.ofNat numeral.magnitude)
          else .error (.outOfRange what)) := by
  cases scanned : scanNumeral argument with
  | none => exact .invalid (by simp [number, scanned])
  | some numeral =>
      have some : number argument = some numeral.value := by simp [number, scanned]
      dsimp only
      split
      next bound => exact .kept _ _ some (toUInt32_numeral bound)
      next large => exact .large _ some (not_fits_of_large large)

theorem converted_stoul (argument : Text) : Converted argument (stoul argument) :=
  converted_scan argument _

theorem converted_stoull (argument : Text) : Converted argument (stoull argument) :=
  converted_scan argument _

/-! ## The outcomes -/

theorem eq_toNat_iff {word : UInt32} {value : Int}
    (kept : (word.toNat : Int) = value % 2 ^ 32) :
    value = word.toNat ↔ Fits value := by
  rw [← fits_iff, kept]

@[simp] theorem workerRole_ne_masterRole : workerRole ≠ masterRole := by decide

@[simp] theorem masterRole_ne_workerRole : masterRole ≠ workerRole := by decide

section Master

variable {hardwareConcurrency : UInt32} {program workers port connections : Text}
  {options : ServerOptions} {others : List Text}

theorem analyzeQueuesCapacity_of_ok {result : UInt64}
    (parsed : stoull connections = .ok result) :
    analyzeQueuesCapacity
        (program :: masterRole :: workers :: port :: connections :: others)
        options =
      .ok (true, if others = [] then options
        else { options with queuesCapacity := result.toUInt32 }) := by
  cases others with
  | nil => rfl
  | cons capacity others =>
      rw [analyzeQueuesCapacity, if_neg (by simp)]
      simp only [List.getD_cons_succ, List.getD_cons_zero, parsed]
      rfl

/-- A maximum of connections that is given has to be a number that fits, and
the capacity asked for. -/
theorem documented_maxConnections
    (listens : options.port = port)
    (before : options.queuesCapacity = semValueMax) :
    Documented hardwareConcurrency
        (program :: masterRole :: workers :: port :: connections :: others)
        (analyzeMaxConnections
          (program :: masterRole :: workers :: port :: connections :: others)
          options) ↔
      number workers = some (options.maxWorkerConnections.toNat : Int) ∧
      ∃ value, number connections = some value ∧ Fits value ∧
        ∀ capacity ∈ others.head?,
          value = (number capacity).getD semValueMax.toNat := by
  have result := converted_stoull connections
  rw [analyzeMaxConnections, if_neg (by simp)]
  simp only [List.getD_cons_succ, List.getD_cons_zero]
  cases parsed : stoull connections with
  | error exception =>
      rw [parsed] at result
      cases result with
      | invalid none => simp [Documented, none]
      | large value some large => simp [Documented, some, large]
  | ok result' =>
      rw [parsed] at result
      cases result with
      | kept value _ some kept =>
          simp only [analyzeQueuesCapacity_of_ok parsed, some]
          generalize result'.toUInt32 = word at kept
          have same := eq_toNat_iff kept
          have same' := eq_comm.trans same
          cases others with
          | nil => simp [Documented, numberAt, some, same', listens, before]
          | cons capacity others =>
              simp only [Documented, numberAt]
              simp [some, same', listens]
              intro _ fits
              rw [same'.mpr fits]

/-- The options of a master. -/
theorem documented_masterArguments {arguments : List Text}
    (listens : options.port = defaultPort)
    (before : options.queuesCapacity = semValueMax)
    (connects : options.maxConnections = hardwareConcurrency) :
    Documented hardwareConcurrency (program :: masterRole :: arguments)
        (analyzeMasterArguments (program :: masterRole :: arguments) options) ↔
      Usable (program :: masterRole :: arguments) := by
  cases arguments with
  | nil => simp [analyzeMasterArguments, Documented, Usable, numberAt]
  | cons workers arguments =>
      have result := converted_stoul workers
      rw [analyzeMasterArguments, if_neg (by simp)]
      simp only [List.getD_cons_succ, List.getD_cons_zero]
      cases parsed : stoul workers with
      | error exception =>
          rw [parsed] at result
          cases result with
          | invalid none => simp [Documented, Usable, numberAt, none]
          | large value some large =>
              simp [Documented, Usable, numberAt, some, large]
      | ok result' =>
          rw [parsed] at result
          cases result with
          | kept value _ some kept =>
              dsimp only
              generalize result'.toUInt32 = word at kept
              have same := eq_toNat_iff kept
              match arguments with
              | [] =>
                  simp [analyzeMaxConnections, Documented, Usable, numberAt, some,
                    listens, before, connects, same]
              | [port] =>
                  simp [analyzeMaxConnections, Documented, Usable, numberAt, some,
                    before, connects, same]
              | port :: connections :: others =>
                  have listened :
                      (port :: connections :: others).getD 0 options.port = port :=
                    rfl
                  rw [listened]
                  have maximum := @documented_maxConnections hardwareConcurrency
                    program workers port connections
                    { options with maxWorkerConnections := word, port } others
                    rfl before
                  refine maximum.trans ?_
                  cases others <;> simp [Usable, numberAt, some, same]

end Master

/-- Without `help` the outcome is the documented one exactly for the command
lines that can be used. -/
theorem documented_iff (hardwareConcurrency : UInt32) {argv : List Text}
    (noHelp : ∀ argument ∈ argv.tail, find "help".toList argument = none) :
    Documented hardwareConcurrency argv
        (analyzeArguments hardwareConcurrency argv) ↔ Usable argv := by
  have help : ¬ (argv.tail.any fun argument =>
      (find "help".toList argument).isSome) = true := by
    rw [List.any_eq_true]
    rintro ⟨argument, member, occurs⟩
    rw [noHelp argument member] at occurs
    exact absurd occurs (by simp)
  unfold analyzeArguments
  match argv with
  | [] => simp [Documented, Usable]
  | [program] => simp [Documented, Usable]
  | program :: role :: arguments =>
      dsimp only
      rw [if_neg (by simp), if_neg help]
      simp only [List.getD_cons_succ, List.getD_cons_zero]
      by_cases worker : role = workerRole
      · rw [if_pos worker]
        subst worker
        simp [Documented, Usable]
      by_cases master : role = masterRole
      · rw [if_neg worker, if_neg (not_not.mpr master)]
        subst master
        exact documented_masterArguments rfl rfl rfl
      · rw [if_neg worker, if_pos master]
        simp [Documented, Usable, worker, master]

/-- The command line of a master with every option. -/
def masterLine (port connections capacity : String) : List Text :=
  ["web_server".toList, masterRole, "2".toList, port.toList,
    connections.toList, capacity.toList]

theorem documented_masterLine :
    analyzeArguments 8 (masterLine "8080" "64" "64") =
        .ok (true, { defaultOptions 8 with
          maxWorkerConnections := 2
          port := "8080".toList
          maxConnections := 64
          queuesCapacity := 64 }) ∧
      Documented 8 (masterLine "8080" "64" "64")
        (analyzeArguments 8 (masterLine "8080" "64" "64")) := by
  refine ⟨by decide, (documented_iff 8 (by decide)).mpr ?_⟩
  intro _ workers given
  have two : numberAt (masterLine "8080" "64" "64") 2 = some 2 := by decide
  obtain rfl : 2 = workers := Option.some.inj (two.symm.trans given)
  exact ⟨by norm_num [Fits], fun _ => ⟨64, by decide, by norm_num [Fits], fun _ => by decide⟩⟩

/-- A maximum of connections that is no number starts a worker. -/
theorem master_runs_worker :
    analyzeArguments 8 (masterLine "8080" "many" "64") =
        .ok (false, { defaultOptions 8 with maxWorkerConnections := 2 }) ∧
      ¬ Documented 8 (masterLine "8080" "many" "64")
        (analyzeArguments 8 (masterLine "8080" "many" "64")) := by
  have outcome : analyzeArguments 8 (masterLine "8080" "many" "64") =
      .ok (false, { defaultOptions 8 with maxWorkerConnections := 2 }) := by
    decide
  refine ⟨outcome, ?_⟩
  rw [outcome]
  exact fun documented => absurd documented (by simp [Documented, masterLine])

end Concurrente.WebServer.Http
