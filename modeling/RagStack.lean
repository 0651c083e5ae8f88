import RagStack.Core.Effect
import RagStack.Core.JsString
import RagStack.Core.Utf8
import RagStack.Core.ReadCommitted
import RagStack.Core.RelyGuarantee
import RagStack.Core.Constraints
import RagStack.Core.Overwrites
import RagStack.Core.PointerChain
import RagStack.Core.LoneRun
import RagStack.Core.Serial
import RagStack.Core.Runs
import RagStack.Core.WhileLoop
import RagStack.Core.LeaseStore
import RagStack.Core.DigestChain
import RagStack.Core.CursorPaging
import RagStack.Core.Except
import RagStack.Core.GroupBy
import RagStack.Core.LocalTime
import RagStack.Chats.Types
import RagStack.Chats.Helpers
import RagStack.Chats.ContextWindowHelpers
import RagStack.Chats.World
import RagStack.Chats.Repository
import RagStack.Chats.HistoryService
import RagStack.Chats.ContextWindowService
import RagStack.Chats.StreamService
import RagStack.Chats.StreamController
import RagStack.Chats.Lemmas.ContextWindow
import RagStack.Chats.Lemmas.Frame
import RagStack.Chats.Lemmas.Throws
import RagStack.Chats.StreamEvents
import RagStack.Chats.Lifecycle
import RagStack.Chats.GenerationLocks
import RagStack.Chats.LockService
import RagStack.Chats.LockExclusion
import RagStack.Chats.LockRenewal
import RagStack.Chats.CacheCoherence
import RagStack.Chats.ChatsService
import RagStack.Chats.ChatsTransactions
import RagStack.Chats.Isolation
import RagStack.Chats.GeneratedIds
import RagStack.Chats.PromptFits
import RagStack.Chats.HistoryCuts
import RagStack.Chats.SummaryMemory
import RagStack.Chats.FailedSummarization
import RagStack.Chats.RepeatedPrompt
import RagStack.Chats.Lemmas.History
import RagStack.Chats.PromptShape
import RagStack.Web.PendingStream
import RagStack.Web.Conversation
import RagStack.Web.StreamRefinement
import RagStack.Web.UseChatStream
import RagStack.Web.ConsumeSse
import RagStack.Web.SseRoundTrip
import RagStack.Accounts.Schema
import RagStack.Accounts.Repository
import RagStack.Accounts.AuthService
import RagStack.Accounts.Rotation
import RagStack.Accounts.RotationFamilies
import RagStack.Accounts.FamilyRevocation
import RagStack.Accounts.SignOutAll
import RagStack.Accounts.Transfer
import RagStack.Accounts.ChatTransfer
import RagStack.Accounts.UsageTransfer
import RagStack.Models.Repository
import RagStack.Models.AdministrationService
import RagStack.Models.DefaultSwitch
import RagStack.Models.SingleDefault
import RagStack.Models.UpdateHistory
import RagStack.Models.UpdateAlone
import RagStack.Models.UpdateOrder
import RagStack.Models.UpdateRaces
import RagStack.Models.ConcurrentUpdates
import RagStack.Admin.ChatSummaryHelpers
import RagStack.Admin.ChatSummaryService
import RagStack.Admin.SummaryTraces
import RagStack.Admin.SummaryChain
import RagStack.Admin.CleanSummary
import RagStack.Admin.StoredSummaries
import RagStack.Web.ChatSidebar
import RagStack.Web.MessagePages
import RagStack.Web.RecencyGroups
import RagStack.Usage.Reporting
import RagStack.Usage.ReportsAgree
import RagStack.Core.AllOrNothing
import RagStack.Admin.AdminAuth
import RagStack.Admin.RefreshOnce
import RagStack.Admin.ApiClient
import RagStack.Ollama.OllamaClient
import RagStack.Ollama.StreamedLines
import RagStack.Ollama.StreamRequest
import RagStack.Ollama.UpstreamAbort
import RagStack.Ollama.CompletionFrames
import RagStack.Admin.SummaryRequests
import RagStack.Core.LockSections
import RagStack.Chats.GenerationSections
import RagStack.Chats.ChatRequests
import RagStack.Chats.WriteIsolation
import RagStack.Core.LikePattern
import RagStack.Admin.UserSearch
import RagStack.Usage.ListPages
import RagStack.Security.RequestGuards
import RagStack.Security.DoubleSubmit
import RagStack.Accounts.CallEffects
import RagStack.Accounts.AccessSessions
import RagStack.Accounts.UsageLedger
import RagStack.Accounts.AnonymousCookies
import RagStack.Models.RegistryMigration
import RagStack.Core.SingleCommit
import RagStack.Core.Tally
import RagStack.Core.PastKeys
import RagStack.Core.Utf16
import RagStack.Core.Json
import RagStack.Core.JsonRoundTrip
import RagStack.Core.JsonParse
import RagStack.Web.EventJson
import RagStack.Web.ReplyOverWire
import RagStack.Core.Calendar
import RagStack.Admin.DateRange
