import QtChat.Interleave.Pool
import QtChat.Wire.Framing
import QtChat.Server.System
import QtChat.Properties.OfflineDelivery
import QtChat.Properties.ChatRouting
import QtChat.Properties.SessionFrame
import QtChat.Properties.OfflineDrain
import QtChat.Properties.Reconnect
import QtChat.Properties.ChatLogout
import QtChat.Properties.PoolInvariant
import QtChat.Properties.PoolWakeup
import QtChat.Properties.PoolShutdown
import QtChat.Properties.ObserverDrain
import QtChat.Properties.Resubscribe
import QtChat.Properties.DeadServer
import QtChat.Properties.HeartbeatAgreement
import QtChat.Properties.LoginHandover
import QtChat.Properties.RowsAgree
import QtChat.Properties.PacketLimit
import QtChat.Properties.KickIsolation
import QtChat.Properties.ConcurrentLogins
import QtChat.Properties.MalformedRequests
import QtChat.Properties.LiveEntries
import QtChat.Properties.SilentConnections
import QtChat.Properties.NeverStuck
import QtChat.Properties.QuietLogout
import QtChat.Properties.DisplacedLogin
import QtChat.Properties.MessageOrder
import QtChat.Properties.PoolTimeout
import QtChat.Properties.AcquireDeadline
import QtChat.Properties.DisplayedName
import QtChat.Properties.OpenConversation
import QtChat.Properties.LogShutdown
import QtChat.Properties.LogRolling
import QtChat.Properties.AllOrNothing
import QtChat.Properties.FriendLists
import QtChat.Properties.NoDeadlock
import QtChat.Properties.OfflineSql
import QtChat.Properties.TreeStates
import QtChat.Properties.SqlBuffer
import QtChat.Properties.BinaryDump
import QtChat.Properties.ConfigRewrite
import QtChat.Properties.NullContext
import QtChat.Properties.LoginAgain
import QtChat.Properties.CloseCleanup
import QtChat.Properties.GroupAgreement
import QtChat.Properties.FriendPresence
import QtChat.Properties.PacketOrigins
import QtChat.Properties.RequestDelivery
import QtChat.Properties.ConsoleCommands
import QtChat.Properties.LeakScan
import QtChat.Properties.PoolSuffices
import QtChat.Properties.BadgesShown
import QtChat.Properties.ChatsShown
