import Rzu.Library.LittleEndian
import Rzu.Library.Keystream
import Rzu.Library.Consumer
import Rzu.Net.Stream
import Rzu.Net.PacketSession
import Rzu.Net.Framing
import Rzu.Net.FrameByFrame
import Rzu.Net.Segmentation
import Rzu.Net.EncryptedSession
import Rzu.Net.Transparency
import Rzu.Cipher.RC4Cipher
import Rzu.Net.Reconnect
import Rzu.Auth.State
import Rzu.Library.Run
import Rzu.Auth.ClientData
import Rzu.Auth.GameData
import Rzu.Auth.ClientSession
import Rzu.Auth.System
import Rzu.Auth.Consistency
import Rzu.Auth.Registry
import Rzu.Auth.ClientEvents
import Rzu.Auth.Pairing
import Rzu.Auth.PlayerEvents
import Rzu.Auth.Ownership
import Rzu.Auth.Isolation
import Rzu.Library.Trace
import Rzu.Auth.OneTimeKey
import Rzu.Auth.PlayerCount
import Rzu.Proxy.AccountList
import Rzu.Proxy.Resynchronization
import Rzu.Library.FixedWidth
import Rzu.Packet.MessageBuffer
import Rzu.Packet.Declaration
import Rzu.Packet.AnnouncedSize
import Rzu.Packet.Overwrite
import Rzu.Packet.RoundTrip
import Rzu.Packet.Hostile
import Rzu.Auth.ClientPackets
import Rzu.Auth.Frames
import Rzu.Auth.FrameIsolation
import Rzu.Auth.FrameLeaks
import Rzu.Auction.AuctionFile
import Rzu.Auction.GenericWriter
import Rzu.Auction.SimpleDiffWriter
import Rzu.Auction.ComplexDiffWriter
import Rzu.Auction.Restart
import Rzu.Auction.Facts
import Rzu.Auction.Modes
import Rzu.Packet.StructBuffer
import Rzu.Auction.FileStructs
import Rzu.Packet.FieldSizes
import Rzu.Auction.FileLayout
import Rzu.Auction.AuctionWriter
import Rzu.Packet.ReadKeeps
import Rzu.Auction.WriterValues
import Rzu.Auction.FileRoundTrip
import Rzu.Auction.Manager
import Rzu.Auction.PageCustody
import Rzu.Auction.CategoryEnds
import Rzu.Auth.ClientIndexes
import Rzu.Server.BanManager
import Rzu.Server.Bans
import Rzu.Server.SessionServer
import Rzu.Upload.References
import Rzu.Game.LoginServer
import Rzu.Game.PendingLogins
import Rzu.Library.DoWhile
import Rzu.Log.LogPacketSession
import Rzu.Library.Blocks
import Rzu.Log.LogDecoding
import Rzu.Converter.SpecificPacketConverter
import Rzu.Packet.Widths
import Rzu.Converter.Login
import Rzu.Converter.Credentials
import Rzu.Packet.Appending
import Rzu.Converter.PaddingCiphers
import Rzu.Converter.MisreadLogins
import Rzu.Pipeline.Delivery
import Rzu.Pipeline.WakeUps
import Rzu.Auth.RefusedLogins
import Rzu.Auth.SessionPairs
import Rzu.Auth.AccountLists
import Rzu.Net.AbortedSessions
import Rzu.Filter.Listeners
import Rzu.Filter.ServerList
import Rzu.Filter.UrlList
import Rzu.Proxy.AuthSession
import Rzu.Proxy.DeferredDelivery
import Rzu.Packet.EndFields
import Rzu.Client.ClientAuthSession
import Rzu.Client.SentPasswords
import Rzu.Client.PasswordAgreement
import Rzu.Auction.GracePeriod
import Rzu.Upload.IconServerSession
import Rzu.Upload.PushedRequests
import Rzu.Auction.CategoryBounds
import Rzu.Database.DbQueryBinding
import Rzu.Database.InsertBatches
import Rzu.Database.ProcessResult
import Rzu.Database.DbQueryJobRef
import Rzu.Database.JobReferences
import Rzu.Auction.CategoryTimes
import Rzu.Auction.AdjoiningWindows
import Rzu.Library.Zlib
import Rzu.Auction.GzipFiles
import Rzu.Auction.GzipRoundTrip
import Rzu.Cipher.ZlibCipher
import Rzu.Packet.IntegerEncodings
import Rzu.Cipher.ZlibRoundTrip
import Rzu.Client.ServerSelection
import Rzu.Net.OutputCipher
import Rzu.Log.LogLines
import Rzu.Core.Dispatch
import Rzu.Upload.OpenedPaths
import Rzu.Net.StreamLifecycle
import Rzu.Library.Search
import Rzu.Library.Json
import Rzu.Packet.EncodedString
import Rzu.Library.FloatText
import Rzu.Packet.Description
import Rzu.Packet.JSONWriter
import Rzu.Packet.PacketJson
import Rzu.Core.WildcardMatch
import Rzu.Core.GlobMatching
import Rzu.Core.MatchAttempts
import Rzu.Core.LostMatches
import Rzu.Core.StringSplit
import Rzu.Library.Numeral
import Rzu.Library.UnorderedMap
import Rzu.Mirror.GameData
import Rzu.Mirror.PartyChat
import Rzu.Mirror.ConnectionToServer
import Rzu.Mirror.ChatBounds
import Rzu.Mirror.HandlerEffects
import Rzu.Mirror.GameSession
import Rzu.Mirror.AbsentData
import Rzu.Mirror.ClientUpdate
import Rzu.Mirror.KeysAgree
import Rzu.Mirror.PartyRoster
import Rzu.Mirror.StrayMessages
import Rzu.Mirror.PrintableParty
import Rzu.Mirror.PartyReplay
import Rzu.Mirror.ReplayedParties
import Rzu.Mirror.HandleCoverage
import Rzu.Library.ReplaceAll
import Rzu.Mirror.HandleText
import Rzu.Mirror.HandleSwap
import Rzu.Mirror.HandleGenerator
import Rzu.Game.PositionManager
import Rzu.Auction.RawDataReads
import Rzu.Game.Inventory
import Rzu.Game.WornItems
import Rzu.Converter.PacketIds
import Rzu.Converter.RequestIds
import Rzu.Game.LobbyHandler
import Rzu.Game.LobbySafety
import Rzu.Gateway.IrcClient
import Rzu.Game.CharacterLimit
import Rzu.Gateway.IrcBuffers
import Rzu.Mirror.CreaturePosition
import Rzu.Auction.OldFiles
import Rzu.Upload.RequestSearch
import Rzu.Auth.LiveObjects
import Rzu.Cipher.RC4Table
import Rzu.Packet.SentOn
import Rzu.Packet.Delivered
