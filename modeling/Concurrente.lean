import Concurrente.Common.Conversions
import Concurrente.Common.CountedLoop
import Concurrente.Common.Lines
import Concurrente.Common.NumberTexts
import Concurrente.Common.SignedIntegers
import Concurrente.Common.Splitting
import Concurrente.Common.Uri
import Concurrente.Common.Util
import Concurrente.Library.CollectiveOperations
import Concurrente.Library.CountedRuns
import Concurrente.Library.FlatRecords
import Concurrente.Library.ListBlocks
import Concurrente.Library.LockstepRuns
import Concurrente.Library.Loops
import Concurrente.Library.NetworkBudget
import Concurrente.Library.NetworkSchedule
import Concurrente.Library.OrderedMap
import Concurrente.Library.Programs
import Concurrente.Library.StopTokens
import Concurrente.Library.ThreadNetwork
import Concurrente.Library.TrialDivision
import Concurrente.NBody.Common.RealNumbers
import Concurrente.NBody.Common.RealVector
import Concurrente.NBody.Common.Util
import Concurrente.NBody.Simulation.Absorption
import Concurrente.NBody.Simulation.ActiveCount
import Concurrente.NBody.Simulation.Arguments
import Concurrente.NBody.Simulation.CollectiveAgreement
import Concurrente.NBody.Simulation.CollisionGeometry
import Concurrente.NBody.Simulation.CollisionPhase
import Concurrente.NBody.Simulation.Distribution
import Concurrente.NBody.Simulation.FrozenBodies
import Concurrente.NBody.Simulation.HeaviestFirst
import Concurrente.NBody.Simulation.Loading
import Concurrente.NBody.Simulation.LocalCollisions
import Concurrente.NBody.Simulation.LockstepSimulation
import Concurrente.NBody.Simulation.Momentum
import Concurrente.NBody.Simulation.Processes
import Concurrente.NBody.Simulation.QuietCollisions
import Concurrente.NBody.Simulation.RigidMotions
import Concurrente.NBody.Simulation.Simulation
import Concurrente.NBody.Simulation.Statistics
import Concurrente.NBody.Simulation.Termination
import Concurrente.NBody.Simulation.UpdatePhase
import Concurrente.NBody.Universe.Body
import Concurrente.NBody.Universe.Distances
import Concurrente.NBody.Universe.Universe
import Concurrente.NBody.Universe.UniverseFile
import Concurrente.WebServer.Calculator.GoldbachCalculator
import Concurrente.WebServer.Calculator.Prime
import Concurrente.WebServer.Calculator.PrimeFactCalculator
import Concurrente.WebServer.Http.AnswerOrder
import Concurrente.WebServer.Http.AnswerRecords
import Concurrente.WebServer.Http.AnsweredPages
import Concurrente.WebServer.Http.BlockedThreads
import Concurrente.WebServer.Http.ClientConnections
import Concurrente.WebServer.Http.ClientSession
import Concurrente.WebServer.Http.CommandLine
import Concurrente.WebServer.Http.ConnectionClosing
import Concurrente.WebServer.Http.Contacts
import Concurrente.WebServer.Http.Disconnection
import Concurrente.WebServer.Http.Distributor
import Concurrente.WebServer.Http.HeaderParsing
import Concurrente.WebServer.Http.HttpMessage
import Concurrente.WebServer.Http.HttpRequest
import Concurrente.WebServer.Http.HttpResponse
import Concurrente.WebServer.Http.InevitableAnswers
import Concurrente.WebServer.Http.LateRegistration
import Concurrente.WebServer.Http.LineBudget
import Concurrente.WebServer.Http.MalformedMessages
import Concurrente.WebServer.Http.MasterLife
import Concurrente.WebServer.Http.MasterProcess
import Concurrente.WebServer.Http.ProductionLine
import Concurrente.WebServer.Http.Progress
import Concurrente.WebServer.Http.RequestBody
import Concurrente.WebServer.Http.RequestDelivery
import Concurrente.WebServer.Http.RequestHistory
import Concurrente.WebServer.Http.RequestRouting
import Concurrente.WebServer.Http.RequestStream
import Concurrente.WebServer.Http.ResponseHeader
import Concurrente.WebServer.Http.ResponseOrder
import Concurrente.WebServer.Http.ResponsePages
import Concurrente.WebServer.Http.ResponseStream
import Concurrente.WebServer.Http.Routing
import Concurrente.WebServer.Http.ServerLifecycle
import Concurrente.WebServer.Http.ServerThreads
import Concurrente.WebServer.Http.ServiceSchedule
import Concurrente.WebServer.Http.Shutdown
import Concurrente.WebServer.Http.Signals
import Concurrente.WebServer.Http.StopConditions
import Concurrente.WebServer.Http.ThreadSteps
import Concurrente.WebServer.Http.UnitAccounting
import Concurrente.WebServer.Http.UnitConservation
import Concurrente.WebServer.Http.UnitFlow
import Concurrente.WebServer.Http.UnitStages
import Concurrente.WebServer.Http.WireFormat
import Concurrente.WebServer.Http.WorkerAdmission
import Concurrente.WebServer.Http.WorkerConnections
import Concurrente.WebServer.Http.WorkerPool
import Concurrente.WebServer.Network.Delivery
import Concurrente.WebServer.Network.LineReading
import Concurrente.WebServer.Network.Reading
import Concurrente.WebServer.Network.Sending
import Concurrente.WebServer.Network.Socket
import Concurrente.WebServer.Network.TcpClient
import Concurrente.WebServer.Network.TcpServer
import Concurrente.WebServer.ProdCons.AtomicQueue
import Concurrente.WebServer.ProdCons.Queue
import Concurrente.WebServer.ProdCons.QueueCompletion
import Concurrente.WebServer.ProdCons.ThreadTeam
import Concurrente.WebServer.WebApp.AnswerMarkup
import Concurrente.WebServer.WebApp.CalcData
import Concurrente.WebServer.WebApp.CalcResponse
import Concurrente.WebServer.WebApp.CalcWebApp
import Concurrente.WebServer.WebApp.ChainedApps
import Concurrente.WebServer.WebApp.GoldbachData
import Concurrente.WebServer.WebApp.HomeWebApp
import Concurrente.WebServer.WebApp.NumberForm
import Concurrente.WebServer.WebApp.PrimeFactData
import Concurrente.WebServer.WebApp.RequestNumbers
