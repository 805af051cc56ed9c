import YkLock.Proofs.CoilInterlock
import YkLock.Proofs.ErrorDetection
import YkLock.Proofs.GrantedRequest
import YkLock.Proofs.RefusedFrames
import YkLock.Proofs.SentFrames
import YkLock.Proofs.RegisterMachine
import YkLock.Proofs.Readdressing
import YkLock.Proofs.ReceiveBuffers
import YkLock.Proofs.AddressSelectivity
import YkLock.Proofs.PowerUpDefaults
import YkLock.Proofs.FaultyTransfers
import YkLock.Proofs.WriteLatency
import YkLock.Proofs.MultiWrites
import YkLock.Proofs.RebootTransparency
import YkLock.Proofs.UsableTypes
import YkLock.Proofs.OperationResult
import YkLock.Proofs.LinePairs
import YkLock.Proofs.PortZero
import YkLock.Proofs.Dispatch
import YkLock.Proofs.SnWrites
import YkLock.Proofs.FailedReads
import YkLock.Proofs.RepeatedFrames
import YkLock.Threads.ButtonMutex
import YkLock.Threads.CanReceive
import YkLock.Threads.LostUpdate
import YkLock.Buttons.PressPatterns
import YkLock.Buttons.ButtonRequests
import YkLock.Drivers.ReceiveThread
import YkLock.Drivers.SingleBox
import YkLock.Drivers.TransmitReports
import YkLock.Drivers.WireTransfer
import YkLock.Drivers.I2cTranscripts
import YkLock.Drivers.I2cRecovery
import YkLock.Network.NodesApart
import YkLock.Threads.MutexPriorities
