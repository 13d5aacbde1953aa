import Concurrente.WebServer.Http.ProductionLine
import Concurrente.WebServer.Http.UnitAccounting

/-!
# The units in the production line

Which stages the threads and the channels hold, and that every step of every
thread keeps the account of all units.
-/

namespace Concurrente.WebServer

open Library Network

/-! ## Texts -/

/-- The loads of a text on its way to a worker. -/
def requestLoads (applications : List HttpApp) (text : Text) : List Load :=
  if text = stopText then []
  else
    match (RequestServer.readRequestFromMaster applications (linesOf text)).1 with
    | .ok (some unit) => [unit.original.load (.remote unit)]
    | _ => [.broken]

/-- The loads of a text on its way to the master. -/
def responseLoads (text : Text) : List Load :=
  if text = stopText then []
  else
    match CalcWebApp.responseFields (linesOf text).tail with
    | .ok (address, index) => [DataUnit.load ⟨address, index⟩ (.replied text)]
    | .error _ => [.broken]

theorem linesOf_stopText : linesOf stopText = ["-1".toList] := by decide

theorem messageText_ne_stopText (first second third fourth : Text) :
    messageText first second third fourth ≠ stopText := by
  intro same
  have count := congrArg (List.count '\n') same
  simp only [messageText, List.count_append, List.count_cons_self] at count
  have once : stopText.count '\n' = 1 := by decide
  omega

/-- A text that reaches a worker is the stop line or brings a unit. -/
theorem requestLoads_cases (applications : List HttpApp)
    (text : Text) :
    text = stopText ∨ requestLoads applications text = [.broken] ∨
      ∃ unit, (RequestServer.readRequestFromMaster applications
          (linesOf text)).1 = .ok (some unit) ∧
        requestLoads applications text = [unit.original.load (.remote unit)] := by
  by_cases stops : text = stopText
  · exact .inl stops
  · rw [requestLoads, if_neg stops]
    split
    · exact .inr (.inr ⟨_, ‹_›, rfl⟩)
    · exact .inr (.inl rfl)

/-- A text that reaches the master is the stop line or the answer of a unit. -/
theorem responseLoads_cases (text : Text) :
    text = stopText ∨ responseLoads text = [.broken] ∨
      ∃ unit : DataUnit, responseLoads text = [unit.load (.replied text)] := by
  by_cases stops : text = stopText
  · exact .inl stops
  · rw [responseLoads, if_neg stops]
    cases CalcWebApp.responseFields (linesOf text).tail with
    | error => exact .inr (.inl rfl)
    | ok fields => exact .inr (.inr ⟨⟨fields.1, fields.2⟩, rfl⟩)

section Texts

variable {applications : List HttpApp} {app : CalcWebApp} {data : CalcData}
  {unit : DataUnit} {query : Int64}

@[simp] theorem requestLoads_stopText : requestLoads applications stopText = [] :=
  if_pos rfl

@[simp] theorem responseLoads_stopText : responseLoads stopText = [] :=
  if_pos rfl

theorem requestLoads_requestText
    (registered : data.Registered applications app)
    (valid : unit.concurrentData ≠ 0) (query : Int64) :
    requestLoads applications
        (CalcWebApp.requestText data.appIndex unit query) =
      [unit.load (.remote (CalcWebApp.createWorkUnit data.appIndex
        unit.concurrentData unit.resultIndex query))] := by
  have read := RequestServer.readRequestFromMaster_requestText
    registered.application valid query []
  rw [List.append_nil] at read
  have other : CalcWebApp.requestText data.appIndex unit query ≠ stopText :=
    messageText_ne_stopText _ _ _ _
  rw [requestLoads, if_neg other, read]
  rfl

theorem responseLoads_responseText (valid : unit.concurrentData ≠ 0)
    (appIndex : UInt64) (query : Int64) :
    responseLoads (app.answer appIndex unit query).responseText =
      [unit.load (.replied (app.answer appIndex unit query).responseText)] := by
  have lines : linesOf (app.answer appIndex unit query).responseText = _ :=
    List.append_nil (messageText ..) ▸ linesOf_messageText
      (newline_notMem_unsignedToString appIndex)
      (newline_notMem_unsignedToString unit.concurrentData)
      (newline_notMem_unsignedToString unit.resultIndex)
      (newline_notMem_resultText (app.answer appIndex unit query).values) []
  have read : CalcWebApp.responseFields
      (linesOf (app.answer appIndex unit query).responseText).tail =
      .ok (unit.concurrentData, unit.resultIndex) := by
    simp [lines, CalcWebApp.responseFields, valid, bind, Except.bind, pure,
      Except.pure]
  have other : (app.answer appIndex unit query).responseText ≠ stopText :=
    messageText_ne_stopText _ _ _ _
  rw [responseLoads, if_neg other, read]

theorem CalcWebApp.answer_processed (app : CalcWebApp) (appIndex : UInt64)
    (unit : DataUnit) (query : Int64) :
    (app.answer appIndex unit query).resultIndex.toNat <
      (app.answer appIndex unit query).concurrentData.results.length := by
  simp [answer, createWorkUnit]

theorem CalcData.Registered.finished {heap : Heap}
    (registered : data.Registered applications app)
    (live : heap unit.concurrentData = some data)
    (valid : unit.concurrentData ≠ 0)
    (awaits : data.Awaits unit.resultIndex query) :
    (app.answer data.appIndex unit query).Finished applications heap where
  registered := ⟨app, registered.application⟩
  processed := app.answer_processed ..
  address := valid
  range := ⟨data, live, (List.getElem?_eq_some_iff.mp awaits.empty).1⟩

end Texts

/-! ## Loads -/

/-- The loads of a lost text stay behind. -/
def Load.lose : Load → Load
  | .object address (.unit index _) => .object address (.unit index .lost)
  | load => load

@[simp] def HttpConnectionHandler.loads : HttpConnectionHandler → List Load
  | .producing data => [.object data .whole]
  | _ => []

@[simp] def Decomposer.loads : Decomposer → List Load
  | .decomposing data _ => [.object data .whole]
  | .producing units _ => units.map (·.load .queued)
  | .failed _ => [.broken]
  | _ => []

@[simp] def Distributor.loads {Worker : Type} : Distributor Worker → List Load
  | .consuming unit => [unit.load .queued]
  | .sending _ unit text => [unit.load (.serialized text)]
  | .producing unit => [unit.load .queued]
  | .failed _ => [.broken]
  | _ => []

@[simp] def Calculator.loads : Calculator DataUnit → List Load
  | .processing unit => [unit.load .queued]
  | .producing unit => [unit.load .processed]
  | .failed _ => [.broken]
  | _ => []

@[simp] def WorkerConnectionHandler.loads {Worker : Type} :
    WorkerConnectionHandler Worker → List Load
  | .routing _ text => responseLoads text
  | .producing _ unit => [unit.load .processed]
  | .failed _ => [.broken]
  | _ => []

@[simp] def ResponseAssembler.loads : ResponseAssembler → List Load
  | .assembling unit _ => [unit.load .processed]
  | .producing data _ => [.object data .assembled]
  | .failed _ => [.broken]
  | _ => []

@[simp] def ClientResponder.loads : ClientResponder → List Load
  | .responding data => [.object data .handed]
  | .failed _ => [.broken]
  | _ => []

@[simp] def RequestServer.loads : RequestServer → List Load
  | .producing unit => [unit.original.load (.remote unit)]
  | .failed _ => [.broken]
  | _ => []

@[simp] def Calculator.workerLoads : Calculator WorkUnit → List Load
  | .processing unit => [unit.original.load (.remote unit)]
  | .producing unit => [unit.original.load (.answered unit)]
  | .failed _ => [.broken]
  | _ => []

@[simp] def ResponseClient.loads : ResponseClient → List Load
  | .sending text _ => responseLoads text
  | .failed _ => [.broken]
  | _ => []

namespace Configuration

variable (config : Configuration)

/-- The loads of an item in a channel. -/
@[simp] def itemLoads : (channel : Channel config) → config.Item channel → List Load
  | .decomposerQueue, some data => [.object data .whole]
  | .distributorQueue, some unit => [unit.load .queued]
  | .dataUnitsQueue, some unit => [unit.load .queued]
  | .assemblerQueue, some unit => [unit.load .processed]
  | .responderQueue, some data => [.object data .handed]
  | .toWorker _, text => requestLoads config.applications text
  | .workerUnits _, some unit => [unit.original.load (.remote unit)]
  | .workerResponses _, some unit => [unit.original.load (.answered unit)]
  | .toMaster _, text => responseLoads text
  | _, _ => []

/-- The loads of a thread. -/
@[simp] def threadLoads : (node : Node config) → config.Thread node → List Load
  | .connectionHandler _ => HttpConnectionHandler.loads
  | .decomposer => Decomposer.loads
  | .distributor => Distributor.loads
  | .calculator _ => Calculator.loads
  | .workerConnectionHandler _ => WorkerConnectionHandler.loads
  | .responseAssembler => ResponseAssembler.loads
  | .clientResponder => ClientResponder.loads
  | .requestServer _ => RequestServer.loads
  | .workerCalculator _ _ => Calculator.workerLoads
  | .responseClient _ => ResponseClient.loads
  | .signalHandler => fun _ => []
  | .masterServer => fun _ => []

/-- The loads that are lost with a text.  When the distributor learns that it
could not send a unit it still has it. -/
@[simp] def lostLoads : (channel : Channel config) → config.Item channel → Bool →
    List Load
  | .toWorker _, _, false => []
  | channel, item, _ => (config.itemLoads channel item).map .lose

/-- The stages that items and threads hold. -/
def unitWeights :
    Weights config.Item config.Thread (Address → Multiset Stage) where
  item channel item := loadWeight (config.itemLoads channel item)
  thread node thread := loadWeight (config.threadLoads node thread)
  lost channel item reported :=
    loadWeight (config.lostLoads channel item reported)

@[simp] theorem unitWeights_item (channel : Channel config)
    (item : config.Item channel) :
    config.unitWeights.item channel item =
      loadWeight (config.itemLoads channel item) := rfl

@[simp] theorem unitWeights_thread (node : Node config)
    (thread : config.Thread node) :
    config.unitWeights.thread node thread =
      loadWeight (config.threadLoads node thread) := rfl

@[simp] theorem unitWeights_lost (channel : Channel config)
    (item : config.Item channel) (reported : Bool) :
    config.unitWeights.lost channel item reported =
      loadWeight (config.lostLoads channel item reported) := rfl

/-- All units of all objects are accounted for. -/
abbrev UnitsKept (shared : Shared config) (stages : Address → Multiset Stage)
    (_ : List (Sent (Shared config) config.Item)) : Prop :=
  Accounted config.applications shared.heap stages

end Configuration

end Concurrente.WebServer
