import AsioForwarder.AccountDeletion
import AsioForwarder.AccountNames
import AsioForwarder.AdminJson
import AsioForwarder.AdminPort
import AsioForwarder.Authority
import AsioForwarder.Config
import AsioForwarder.Confinement
import AsioForwarder.Credentials
import AsioForwarder.DeliveryOrder
import AsioForwarder.DeliveryStream
import AsioForwarder.DisconnectPolicy
import AsioForwarder.FrameContent
import AsioForwarder.FrameDecoders
import AsioForwarder.FrameIo
import AsioForwarder.FrameRun
import AsioForwarder.FrameStage
import AsioForwarder.HandleFrame
import AsioForwarder.Hub
import AsioForwarder.IdleReceiver
import AsioForwarder.Interaction
import AsioForwarder.IteratedHash
import AsioForwarder.JsonText
import AsioForwarder.JsonWriter
import AsioForwarder.Link
import AsioForwarder.LinkChannel
import AsioForwarder.ListUsersReply
import AsioForwarder.LoginGate
import AsioForwarder.LoginOrder
import AsioForwarder.LoginOutcomes
import AsioForwarder.MessageDelivery
import AsioForwarder.Metrics
import AsioForwarder.MissingIds
import AsioForwarder.Msgpack
import AsioForwarder.MsgpackCodec
import AsioForwarder.MysqlStore
import AsioForwarder.PayloadTransparency
import AsioForwarder.PyInbox
import AsioForwarder.PyReceiver
import AsioForwarder.PySender
import AsioForwarder.ReadableFrames
import AsioForwarder.ReceivedEvents
import AsioForwarder.RecvModeInvariant
import AsioForwarder.Registry
import AsioForwarder.RegistryInvariant
import AsioForwarder.RelayClient
import AsioForwarder.ReplyAgreement
import AsioForwarder.ReplyContent
import AsioForwarder.ReplyDecoding
import AsioForwarder.RequestHistory
import AsioForwarder.RequestOutcomes
import AsioForwarder.RequestReplies
import AsioForwarder.RequestStream
import AsioForwarder.Rotation
import AsioForwarder.RoundRobin
import AsioForwarder.RoutingCache
import AsioForwarder.SdkClient
import AsioForwarder.SdkEvent
import AsioForwarder.SdkWriter
import AsioForwarder.SendQueue
import AsioForwarder.SequenceNumbers
import AsioForwarder.Server
import AsioForwarder.ServerInvariant
import AsioForwarder.SessionCensus
import AsioForwarder.SessionKick
import AsioForwarder.SessionLedger
import AsioForwarder.SessionOutput
import AsioForwarder.SessionProgress
import AsioForwarder.SessionTimers
import AsioForwarder.Sha256
import AsioForwarder.Sha256Conformance
import AsioForwarder.Sha256Standard
import AsioForwarder.SharedInbox
import AsioForwarder.StoreEffects
import AsioForwarder.Subsequence
import AsioForwarder.TableWellFormed
import AsioForwarder.TcpSession
import AsioForwarder.Termination
import AsioForwarder.TransitionRun
import AsioForwarder.UserTableUpdate
import AsioForwarder.UserUpdate
import AsioForwarder.UserUpdateTypes
import AsioForwarder.WireFormat
