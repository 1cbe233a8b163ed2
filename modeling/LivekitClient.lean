import LivekitClient.CellHeap
import LivekitClient.EmulationPrevention
import LivekitClient.Runs
import LivekitClient.Types
import LivekitClient.KeyProvider
import LivekitClient.FrameCryptor
import LivekitClient.E2eeManager
import LivekitClient.PublisherEncryption
import LivekitClient.E2eeInterleaving
import LivekitClient.DataPacket
import LivekitClient.EncryptedDataPath
import LivekitClient.DataStreamCompression
import LivekitClient.IncomingDataStreams
import LivekitClient.StreamReassembly
import LivekitClient.OutgoingDataStreams
import LivekitClient.RoomStore
import LivekitClient.JoinInterleaving
import LivekitClient.MediaReconnect
import LivekitClient.Recovery
import LivekitClient.StreamStore
import LivekitClient.StreamHandlers
import LivekitClient.StreamingDelivery
import LivekitClient.StreamSenders
import LivekitClient.StreamWriter
import LivekitClient.ZlibSessions
import LivekitClient.CompressedStreams
import LivekitClient.StoredDeflate
import LivekitClient.WriterCompression
import LivekitClient.CApi
import LivekitClient.StreamCompletion
import LivekitClient.TrackStore
import LivekitClient.KeyedFold
import LivekitClient.RoomView
import LivekitClient.ReconnectView
import LivekitClient.RoomNotifications
import LivekitClient.RoomSessions
import LivekitClient.ForcedReconnect
import LivekitClient.ClosedRoom
import LivekitClient.SessionStates
import LivekitClient.SignalAttempts
import LivekitClient.PublisherNegotiation
import LivekitClient.LocalPublications
import LivekitClient.ResumeAnswers
import LivekitClient.RpcResponses
import LivekitClient.RpcIdentities
import LivekitClient.RpcCalls
import LivekitClient.RpcCancellation
import LivekitClient.WebsocketMessages
import LivekitClient.PublishTrack
import LivekitClient.TrackResolvers
import LivekitClient.TrackSubscriptions
import LivekitClient.TrackHandles
import LivekitClient.ByteMemory
import LivekitClient.OutputStructs
import LivekitClient.SourceReferences
import LivekitClient.PublishedFlags
import LivekitClient.SendThenStore
import LivekitClient.TrackPreferences
import LivekitClient.SharedKeys
import LivekitClient.KeyOperations
import LivekitClient.Backpressure
import LivekitClient.BufferStatus
import LivekitClient.VideoEncoding
import LivekitClient.SubscribedQualities
import LivekitClient.WriteChunks
import LivekitClient.RecoveryRun
import LivekitClient.ParticipantSnapshots
import LivekitClient.DataRatchet
import LivekitClient.TextSearch
import LivekitClient.Urls
import LivekitClient.UrlPrinting
import LivekitClient.PercentEncoding
import LivekitClient.SignalUrl
import LivekitClient.FrameIvs
import LivekitClient.Hysteresis
import LivekitClient.WritableWaits
import LivekitClient.AudioSource
import LivekitClient.BlockStream
import LivekitClient.MicrophoneSource
import LivekitClient.FrameQueue
import LivekitClient.InflationTurns
import LivekitClient.StoredInflation
import LivekitClient.BoundedInflation
import LivekitClient.WebsocketSending
import LivekitClient.WebsocketHandshake
import LivekitClient.RatchetedSessions
import LivekitClient.PingTimers
import LivekitClient.PingDeadlock
import LivekitClient.IceCandidates
import LivekitClient.EncryptedSessions
import LivekitClient.EncryptedStreams
