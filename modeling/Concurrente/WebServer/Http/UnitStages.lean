import Concurrente.WebServer.Http.WireFormat

/-!
# The units of a request

An object is first handed on whole, then in units, then whole again.  `Place`
says how far a unit has come, and `ObjectAt` which stages the units of the
object at an address may be in, for the data the object holds then.
-/

namespace Concurrente.WebServer

/-- How far a unit has come, and the form it has there. -/
inductive Place where
  | queued
  | serialized (text : Text)
  | remote (unit : WorkUnit)
  | answered (unit : WorkUnit)
  | replied (text : Text)
  | processed
  | lost
  deriving DecidableEq, Repr

/-- What a thread or a channel holds of an object.  `broken` marks data that no
thread can use. -/
inductive Stage where
  | whole
  | unit (index : UInt64) (place : Place)
  | assembled
  | handed
  | broken
  deriving DecidableEq, Repr

/-- A stage of the object at an address. -/
inductive Load where
  | object (address : Address) (stage : Stage)
  | broken
  deriving DecidableEq, Repr

/-- A record of the master in a place. -/
def DataUnit.load (unit : DataUnit) (place : Place) : Load :=
  .object unit.concurrentData (.unit unit.resultIndex place)

/-- The stages by address; broken data is seen everywhere. -/
def Load.weight : Load → Address → Multiset Stage
  | .object address stage => Pi.single address {stage}
  | .broken => fun _ => {.broken}

/-- The stages of several loads. -/
def loadWeight (loads : List Load) : Address → Multiset Stage :=
  (loads.map Load.weight).sum

@[simp] theorem loadWeight_nil : loadWeight [] = 0 := rfl

theorem loadWeight_cons (load : Load) (loads : List Load) :
    loadWeight (load :: loads) = load.weight + loadWeight loads := by
  simp [loadWeight]

@[simp] theorem loadWeight_singleton (load : Load) :
    loadWeight [load] = load.weight := by
  rw [loadWeight_cons, loadWeight_nil, add_zero]

/-! ## The data of an object -/

namespace CalcWebApp

/-- The unit a worker has processed. -/
def answer (app : CalcWebApp) (appIndex : UInt64) (unit : DataUnit)
    (query : Int64) : WorkUnit :=
  let work := createWorkUnit appIndex unit.concurrentData unit.resultIndex query
  { work with concurrentData :=
      { work.concurrentData with results := [app.processQuery query []] } }

@[simp] theorem answer_original (app : CalcWebApp) (appIndex : UInt64)
    (unit : DataUnit) (query : Int64) :
    (app.answer appIndex unit query).original = unit := rfl

@[simp] theorem answer_values (app : CalcWebApp) (appIndex : UInt64)
    (unit : DataUnit) (query : Int64) :
    (app.answer appIndex unit query).values = app.processQuery query [] := rfl

end CalcWebApp

namespace CalcData

/-- An object of an application, as its handlers create it. -/
structure Registered (applications : List HttpApp) (app : CalcWebApp)
    (data : CalcData) : Prop where
  application : applications[data.appIndex.toNat]? = some (.calc app)
  asked : data.queries ≠ []
  few : data.queries.length < 2 ^ 64
  slots : data.results.length = data.queries.length

/-- A query whose slot is still empty. -/
structure Awaits (data : CalcData) (index : UInt64) (query : Int64) : Prop where
  query : data.queries[index.toNat]? = some query
  empty : data.results[index.toNat]? = some []

/-- The slot of a query holds what the application stores for it. -/
def Answered (app : CalcWebApp) (data : CalcData) (index : UInt64) : Prop :=
  ∃ query, data.queries[index.toNat]? = some query ∧
    data.results[index.toNat]? = some (app.processQuery query [])

/-- Every slot holds what the application stores for its query. -/
def Complete (app : CalcWebApp) (data : CalcData) : Prop :=
  data.results = data.queries.map fun query => app.processQuery query []

/-- Nothing has been done for the object. -/
structure Untouched (data : CalcData) : Prop where
  pending : data.pendingQueries = data.queries.length
  empty : ∀ result ∈ data.results, result = []

theorem Complete.of_answered {applications : List HttpApp} {app : CalcWebApp}
    {data : CalcData} (registered : data.Registered applications app)
    (answered : ∀ index : UInt64, index.toNat < data.queries.length →
      data.Answered app index) :
    data.Complete app := by
  apply List.ext_getElem?
  intro position
  by_cases inside : position < data.queries.length
  · have exact_ : (UInt64.ofNat position).toNat = position :=
      UInt64.toNat_ofNat_of_lt' (inside.trans registered.few)
    obtain ⟨query, asked, result⟩ :=
      answered (.ofNat position) (by rwa [exact_])
    rw [exact_] at asked result
    simp [asked, result]
  · have beyond : data.results.length ≤ position := by
      rw [registered.slots]
      omega
    simp only [List.getElem?_map]
    rw [List.getElem?_eq_none beyond, List.getElem?_eq_none (by omega)]
    rfl

end CalcData

/-- What a place requires of the object the unit belongs to. -/
inductive Place.Fits (app : CalcWebApp) (data : CalcData) (unit : DataUnit) :
    Place → Prop where
  | queued {query : Int64} (awaits : data.Awaits unit.resultIndex query) :
      Fits app data unit .queued
  | serialized {query : Int64} (awaits : data.Awaits unit.resultIndex query) :
      Fits app data unit
        (.serialized (CalcWebApp.requestText data.appIndex unit query))
  | remote {query : Int64} (awaits : data.Awaits unit.resultIndex query) :
      Fits app data unit
        (.remote (CalcWebApp.createWorkUnit data.appIndex unit.concurrentData
          unit.resultIndex query))
  | answered {query : Int64} (awaits : data.Awaits unit.resultIndex query) :
      Fits app data unit (.answered (app.answer data.appIndex unit query))
  | replied {query : Int64} (awaits : data.Awaits unit.resultIndex query) :
      Fits app data unit
        (.replied (app.answer data.appIndex unit query).responseText)
  | processed (answered : data.Answered app unit.resultIndex) :
      Fits app data unit .processed
  | lost : Fits app data unit .lost

section Fits

variable {app : CalcWebApp} {data : CalcData} {unit : DataUnit}

theorem Place.Fits.of_queued (fits : Fits app data unit .queued) :
    ∃ query, data.Awaits unit.resultIndex query := by
  cases fits with
  | queued awaits => exact ⟨_, awaits⟩

theorem Place.Fits.of_serialized {text : Text}
    (fits : Fits app data unit (.serialized text)) :
    ∃ query, data.Awaits unit.resultIndex query ∧
      text = CalcWebApp.requestText data.appIndex unit query := by
  cases fits with
  | serialized awaits => exact ⟨_, awaits, rfl⟩

theorem Place.Fits.of_remote {work : WorkUnit}
    (fits : Fits app data unit (.remote work)) :
    ∃ query, data.Awaits unit.resultIndex query ∧
      work = CalcWebApp.createWorkUnit data.appIndex unit.concurrentData
        unit.resultIndex query := by
  cases fits with
  | remote awaits => exact ⟨_, awaits, rfl⟩

theorem Place.Fits.of_answered {work : WorkUnit}
    (fits : Fits app data unit (.answered work)) :
    ∃ query, data.Awaits unit.resultIndex query ∧
      work = app.answer data.appIndex unit query := by
  cases fits with
  | answered awaits => exact ⟨_, awaits, rfl⟩

theorem Place.Fits.of_replied {text : Text}
    (fits : Fits app data unit (.replied text)) :
    ∃ query, data.Awaits unit.resultIndex query ∧
      text = (app.answer data.appIndex unit query).responseText := by
  cases fits with
  | replied awaits => exact ⟨_, awaits, rfl⟩

end Fits

/-- The stages of some units of an object. -/
def stagesOf (units : Multiset (UInt64 × Place)) : Multiset Stage :=
  units.map fun unit => .unit unit.1 unit.2

namespace CalcData

/-- An object that is worked on: the pending units are those that are not
marked as ready, and the slots of the others are filled. -/
structure Working (app : CalcWebApp) (data : CalcData) (address : Address)
    (units : Multiset (UInt64 × Place)) : Prop where
  indices : (units.map Prod.fst).Nodup
  pending : data.pendingQueries = units.card
  fits : ∀ unit ∈ units, unit.2.Fits app data
    { concurrentData := address, resultIndex := unit.1 }
  finished : ∀ index : UInt64, index.toNat < data.queries.length →
    index ∉ units.map Prod.fst → data.Answered app index

end CalcData

/-- The stages that the object at an address may be in. -/
inductive ObjectAt (applications : List HttpApp) (address : Address) :
    Option CalcData → Multiset Stage → Prop where
  | absent : ObjectAt applications address none 0
  | whole {data : CalcData} {app : CalcWebApp} (valid : address ≠ 0)
      (registered : data.Registered applications app)
      (untouched : data.Untouched) :
      ObjectAt applications address (some data) {.whole}
  | decomposed {data : CalcData} {app : CalcWebApp} {units : Multiset (UInt64 × Place)}
      (valid : address ≠ 0) (registered : data.Registered applications app)
      (unfinished : units ≠ 0) (working : data.Working app address units) :
      ObjectAt applications address (some data) (stagesOf units)
  | assembled {data : CalcData} {app : CalcWebApp} (valid : address ≠ 0)
      (registered : data.Registered applications app)
      (finished : data.pendingQueries = 0) (complete : data.Complete app) :
      ObjectAt applications address (some data) {.assembled}
  | handed {data : CalcData} {app : CalcWebApp} (valid : address ≠ 0)
      (registered : data.Registered applications app)
      (finished : data.pendingQueries = 0) (complete : data.Complete app) :
      ObjectAt applications address (some data) {.handed}

/-! ## Units of one object -/

section Units

variable {applications : List HttpApp} {app : CalcWebApp} {data : CalcData}
  {address : Address} {units : Multiset (UInt64 × Place)} {index : UInt64} {place : Place}

theorem stagesOf_cons (unit : UInt64 × Place)
    (units : Multiset (UInt64 × Place)) :
    stagesOf (unit ::ₘ units) = .unit unit.1 unit.2 ::ₘ stagesOf units :=
  Multiset.map_cons ..

/-- A stage of the units of an object is one of its units. -/
theorem exists_of_stagesOf_eq {rest : Multiset Stage} {stage : Stage}
    (split : stagesOf units = rest + {stage}) :
    ∃ unit others, stage = .unit unit.1 unit.2 ∧ units = unit ::ₘ others ∧
      rest = stagesOf others := by
  have member : stage ∈ stagesOf units := by simp [split]
  obtain ⟨unit, inside, rfl⟩ := Multiset.mem_map.mp member
  obtain ⟨others, rfl⟩ := Multiset.exists_cons_of_mem inside
  refine ⟨unit, others, rfl, rfl, ?_⟩
  rw [stagesOf_cons, add_comm, Multiset.singleton_add,
    Multiset.cons_inj_right] at split
  exact split.symm

/-- Changing the slot of one unit concerns no other unit. -/
theorem Place.Fits.of_other {unit : DataUnit} {results : List (List Int64)}
    (fits : place.Fits app data unit)
    (same : results[unit.resultIndex.toNat]? =
      data.results[unit.resultIndex.toNat]?) (pending : Nat) :
    place.Fits app { data with results, pendingQueries := pending } unit := by
  have kept {query : Int64} (awaits : data.Awaits unit.resultIndex query) :
      CalcData.Awaits { data with results, pendingQueries := pending }
        unit.resultIndex query :=
    ⟨awaits.query, same.trans awaits.empty⟩
  cases fits with
  | queued awaits => exact .queued (kept awaits)
  | serialized awaits => exact .serialized (kept awaits)
  | remote awaits => exact .remote (kept awaits)
  | answered awaits => exact .answered (kept awaits)
  | replied awaits => exact .replied (kept awaits)
  | processed answered =>
      obtain ⟨query, asked, result⟩ := answered
      exact .processed ⟨query, asked, same.trans result⟩
  | lost => exact .lost

/-- One unit moves on, and only its own slot may change. -/
theorem CalcData.Working.replace {next : Place} {results : List (List Int64)}
    (working : data.Working app address ((index, place) ::ₘ units))
    (same : ∀ other, other ≠ index.toNat → results[other]? = data.results[other]?)
    (fits : next.Fits app { data with results }
      { concurrentData := address, resultIndex := index }) :
    CalcData.Working app { data with results } address
      ((index, next) ::ₘ units) where
  indices := by simpa using working.indices
  pending := by simpa using working.pending
  fits unit member := by
    have distinct := working.indices
    rw [Multiset.map_cons, Multiset.nodup_cons] at distinct
    rcases Multiset.mem_cons.mp member with rfl | inside
    · exact fits
    · have ne : unit.1 ≠ index := fun equal =>
        distinct.1 (Multiset.mem_map.mpr ⟨unit, inside, equal⟩)
      refine (working.fits unit (Multiset.mem_cons_of_mem inside)).of_other ?_ _
      exact same _ fun equal => ne (UInt64.toNat_inj.mp equal)
  finished other inside absent := by
    have ne : other ≠ index := by
      rintro rfl
      simp at absent
    obtain ⟨query, asked, result⟩ :=
      working.finished other inside (by simpa using absent)
    refine ⟨query, asked, (same _ fun equal => ne ?_).trans result⟩
    exact UInt64.toNat_inj.mp equal

/-- A processed unit is marked as ready. -/
theorem CalcData.Working.mark
    (working : data.Working app address ((index, .processed) ::ₘ units)) :
    data.markUnitReady.Working app address units := by
  have marked : data.markUnitReady = { data with pendingQueries := units.card } := by
    have pending := working.pending
    simp only [Multiset.card_cons] at pending
    simp [markUnitReady, pending]
  have distinct := working.indices
  rw [Multiset.map_cons, Multiset.nodup_cons] at distinct
  rw [marked]
  refine ⟨distinct.2, rfl, fun unit member => ?_, fun other inside absent => ?_⟩
  · exact (working.fits unit (Multiset.mem_cons_of_mem member)).of_other rfl _
  · by_cases same : other = index
    · subst same
      have own := working.fits (other, .processed) (Multiset.mem_cons_self _ _)
      cases own with
      | processed answered => exact answered
    · refine working.finished other inside ?_
      simpa [same] using absent

/-- The units of an object before any of them has moved. -/
def queuedUnits (indices : List UInt64) : Multiset (UInt64 × Place) :=
  ↑(indices.map fun index => (index, Place.queued))

theorem loadWeight_queuedUnits (address : Address) (indices : List UInt64) :
    loadWeight (indices.map fun index =>
        DataUnit.load ⟨address, index⟩ .queued) =
      Pi.single address (stagesOf (queuedUnits indices)) := by
  induction indices with
  | nil => simp [queuedUnits, stagesOf]
  | cons index indices ih =>
      rw [List.map_cons, loadWeight_cons, ih]
      exact (Pi.single_add address _ _).symm

/-- The indices of the units an object is decomposed into. -/
def CalcData.indices (data : CalcData) : List UInt64 :=
  (List.range data.pendingQueries).map UInt64.ofNat

theorem CalcData.decompose_eq (data : CalcData) (address : Address) :
    data.decompose address =
      data.indices.map fun index => ⟨address, index⟩ := by
  simp [decompose, indices, Function.comp_def]

section Decompose

variable (untouched : data.Untouched)
  (registered : data.Registered applications app)

include untouched registered

theorem CalcData.mem_indices {index : UInt64} :
    index ∈ data.indices ↔ index.toNat < data.queries.length := by
  rw [indices, untouched.pending, List.mem_map]
  constructor
  · rintro ⟨position, inRange, rfl⟩
    have bound := List.mem_range.mp inRange
    rwa [UInt64.toNat_ofNat_of_lt' (bound.trans registered.few)]
  · exact fun bound => ⟨index.toNat, List.mem_range.mpr bound, by simp⟩

theorem CalcData.nodup_indices : data.indices.Nodup := by
  refine List.Nodup.map_on ?_ List.nodup_range
  intro first inFirst second inSecond same
  rw [untouched.pending, List.mem_range] at inFirst inSecond
  have equal := congrArg UInt64.toNat same
  rwa [UInt64.toNat_ofNat_of_lt' (inFirst.trans registered.few),
    UInt64.toNat_ofNat_of_lt' (inSecond.trans registered.few)] at equal

/-- An untouched object is decomposed into all its units. -/
theorem CalcData.Untouched.working :
    data.Working app address (queuedUnits data.indices) where
  indices := by
    simpa [queuedUnits, Function.comp_def] using
      CalcData.nodup_indices untouched registered
  pending := by simp [queuedUnits, CalcData.indices]
  fits unit member := by
    simp only [queuedUnits, Multiset.mem_coe, List.mem_map] at member
    obtain ⟨index, inside, rfl⟩ := member
    have bound := (CalcData.mem_indices untouched registered).mp inside
    have slot : index.toNat < data.results.length := by rwa [registered.slots]
    have asked : data.queries[index.toNat]? = some data.queries[index.toNat] :=
      List.getElem?_eq_getElem bound
    refine .queued ⟨asked, ?_⟩
    rw [List.getElem?_eq_getElem slot,
      untouched.empty _ (List.getElem_mem slot)]
  finished other inside absent := by
    refine (absent ?_).elim
    simpa [queuedUnits, Function.comp_def] using
      (CalcData.mem_indices untouched registered).mpr inside

theorem CalcData.Untouched.queuedUnits_ne_zero :
    queuedUnits data.indices ≠ 0 := by
  intro none
  have card := congrArg Multiset.card none
  simp only [queuedUnits, CalcData.indices, untouched.pending, Multiset.coe_card,
    List.length_map, List.length_range, Multiset.card_zero] at card
  exact registered.asked (List.length_eq_zero_iff.mp card)

end Decompose

end Units

end Concurrente.WebServer
