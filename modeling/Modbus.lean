import Modbus.Connection.Bus
import Modbus.Connection.Scripted
import Modbus.Document.Json
import Modbus.Main
import Modbus.Shape
import Modbus.Slave.Client
import Modbus.Slave.Session
import Modbus.Proofs.Packing
import Modbus.Proofs.Reading
import Modbus.Proofs.RequestCodec
import Modbus.Proofs.ResponseCodec
import Modbus.Proofs.DirectAccess
import Modbus.Proofs.ReplySize
import Modbus.Connection.Wire
import Modbus.Connection.Network
import Modbus.Proofs.FrameReading
import Modbus.Proofs.FrameForms
import Modbus.Proofs.Shapes
import Modbus.Proofs.CanonicalRequests
import Modbus.Proofs.FrameStreams
import Modbus.Proofs.WireExchange
import Modbus.Proofs.TransactionOutcome
import Modbus.Proofs.StaleAnswers
import Modbus.Proofs.EndToEnd
import Modbus.Proofs.Refusals
import Modbus.Proofs.StationReplies
import Modbus.Proofs.ConnectionService
import Modbus.Proofs.ServingRounds
import Modbus.Proofs.Silences
import Modbus.Proofs.Overhearing
import Modbus.Proofs.Bursts
import Modbus.Proofs.SharedLine
import Modbus.Connection.Feed
import Modbus.Proofs.StreamAlignment
import Modbus.Proofs.Resynchronisation
import Modbus.Proofs.DamagedRequests
import Modbus.Slave.Tasks
import Modbus.Proofs.DatagramRouting
import Modbus.Proofs.RequestLoop
import Modbus.Proofs.SharedCounter
import Modbus.Proofs.ReadTimes
import Modbus.Proofs.RegistryHistory
import Modbus.Proofs.RegisteredPorts
import Modbus.Proofs.PlainImages
import Modbus.Proofs.Effects
import Modbus.Proofs.AcceptedAnswers
import Modbus.Proofs.ReadShapes
import Modbus.Proofs.TableMaps
import Modbus.Proofs.MalformedAnswers
import Modbus.Proofs.Notifications
import Modbus.Proofs.CompoundRequests
import Modbus.Proofs.AnnouncedLengths
import Modbus.Proofs.SendableRequests
import Modbus.Proofs.BitErrors
import Modbus.Proofs.SharedPorts
import Modbus.Proofs.LoneDatagrams
import Modbus.Proofs.Echoes
import Modbus.Proofs.MessageGaps
import Modbus.Proofs.BitPositions
import Modbus.Proofs.QueueHistory
import Modbus.Proofs.TargetText
import Modbus.Proofs.SlaveLifecycle
