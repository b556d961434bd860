import DiscoC.Framework.System
import DiscoC.Framework.Store
import DiscoC.Framework.JobPool
import DiscoC.Framework.Lru
import DiscoC.Framework.Ownership
import DiscoC.Framework.Yields
import DiscoC.Framework.Copying
import DiscoC.Framework.Separation
import DiscoC.Framework.Fairness
import DiscoC.Framework.Fallible
import DiscoC.Framework.Slots
import DiscoC.Framework.Partition
import DiscoC.Utils.Cache
import DiscoC.Utils.CacheInvariant
import DiscoC.Utils.CacheCapacity
import DiscoC.Utils.CacheLru
import DiscoC.Utils.CacheLife
import DiscoC.Utils.CacheReentry
import DiscoC.Utils.CacheFailure
import DiscoC.Utils.PrioQueue
import DiscoC.Utils.PrioQueueOrder
import DiscoC.Utils.PrioQueueConservation
import DiscoC.Utils.ThreadPool
import DiscoC.Utils.ThreadPoolInvariant
import DiscoC.Utils.ThreadPoolDeadline
import DiscoC.Utils.ThreadPoolShutdown
import DiscoC.Utils.ThreadPoolWakeup
import DiscoC.Utils.ThreadPoolProgress
import DiscoC.Utils.ThreadPoolPrompt
import DiscoC.Utils.EnvParse
import DiscoC.External.CString
import DiscoC.External.CJson
import DiscoC.External.CJsonObject
import DiscoC.Web.Request
import DiscoC.Web.ResponseHandling
import DiscoC.Web.RequestLife
import DiscoC.Web.ResponseBuffer
import DiscoC.Web.RequestOwner
import DiscoC.Web.RequestProgress
import DiscoC.Web.RetryDeadline
import DiscoC.Web.RequestRetries
import DiscoC.Web.RequestFiles
import DiscoC.Web.Multipart
import DiscoC.Web.Gateway
import DiscoC.Web.GatewayResume
import DiscoC.Web.GatewayFrames
import DiscoC.Web.Websocket
import DiscoC.Web.WebsocketLife
import DiscoC.Web.Heartbeat
import DiscoC.Web.HeartbeatRefinement
import DiscoC.Web.HeartbeatLife
import DiscoC.Web.HeartbeatProgress
import DiscoC.Web.HeartbeatPace
import DiscoC.Web.Reassembly
import DiscoC.Discord.Disco
import DiscoC.Discord.User
import DiscoC.Discord.Channel
import DiscoC.Discord.Component
import DiscoC.Discord.Embed
import DiscoC.Discord.EmbedJson
import DiscoC.Discord.Message
import DiscoC.Discord.CreateMessage
import DiscoC.Discord.CreateMessageJson
import DiscoC.Discord.RecordOwnership
import DiscoC.Discord.ComponentOwnership
import DiscoC.Discord.MessageOwnership
import DiscoC.Discord.EmbedOwnership
import DiscoC.Discord.Ownership
import DiscoC.Discord.RecordCopying
import DiscoC.Discord.ChannelCopying
import DiscoC.Discord.ComponentCopying
import DiscoC.Discord.OptionArms
import DiscoC.Discord.ArrayDecoding
import DiscoC.Discord.ComponentDecoding
import DiscoC.Discord.MessageArrays
import DiscoC.Discord.MessageCopying
import DiscoC.Discord.Event
import DiscoC.Discord.EventRead
import DiscoC.Discord.EventDispatch
import DiscoC.Discord.Client
import DiscoC.Discord.OldVersions
import DiscoC.Discord.CopyAgain
import DiscoC.Discord.CopyReturns
import DiscoC.Discord.CopySeparation
import DiscoC.Discord.CacheVersions
import DiscoC.Discord.ClientCache
import DiscoC.Discord.EventReceive
import DiscoC.Discord.ClientLife
import DiscoC.Discord.ClientMemory
import DiscoC.Discord.MessageCommands
import DiscoC.Discord.Command
import DiscoC.Discord.CommandJson
import DiscoC.Discord.SnowflakeText
import DiscoC.Discord.OptionOrder
import DiscoC.Discord.InteractionCallback
import DiscoC.Discord.AutocompleteChoices
import DiscoC.Discord.ApiQueue
import DiscoC.Discord.AttachmentBodies
import DiscoC.Discord.FormatBuffers
import DiscoC.Discord.EndpointUrls
import DiscoC.Discord.RequestCallbacks
import DiscoC.Discord.GetMessage
