import OpenRouter.Base.Transition
import OpenRouter.Backend.Metering
import OpenRouter.Backend.Tenancy
import OpenRouter.Backend.Stripe
import OpenRouter.Backend.CurrentAuth
import OpenRouter.Backend.KeyLife
import OpenRouter.Backend.Suspension
import OpenRouter.Backend.OAuth
import OpenRouter.Frontend.Bff
import OpenRouter.Frontend.SignIn
import OpenRouter.Gateway.AuthCache
import OpenRouter.Gateway.RateLimit
import OpenRouter.Gateway.Anthropic
import OpenRouter.Gateway.Commit
import OpenRouter.Gateway.RoutedModel
import OpenRouter.Gateway.Middleware
import OpenRouter.Gateway.Access
import OpenRouter.Gateway.Breakers
import OpenRouter.Gateway.Untripped
import OpenRouter.Gateway.Provenance
import OpenRouter.Gateway.Chunks
import OpenRouter.Gateway.StreamedMessage
import OpenRouter.Gateway.Flushing
import OpenRouter.Gateway.Reload
import OpenRouter.Gateway.Loaders
import OpenRouter.Backend.Reservations
import OpenRouter.Backend.AuthServicer
import OpenRouter.Backend.Spending
import OpenRouter.Gateway.Fallback
import OpenRouter.Gateway.Registry
import OpenRouter.Gateway.ScriptLog
import OpenRouter.Wire.KeyMetadata
import OpenRouter.Backend.Provisioning
import OpenRouter.Backend.Routing
import OpenRouter.Backend.RoutingReload
import OpenRouter.Base.TextDecoder
import OpenRouter.Cli.SseChunks
import OpenRouter.Wire.EventChunks
import OpenRouter.Gateway.Closing
import OpenRouter.Gateway.ErrorReplies
import OpenRouter.Gateway.Parameters
import OpenRouter.Backend.Ranking
import OpenRouter.Backend.Providers
import OpenRouter.Backend.Completions
import OpenRouter.Wire.Conversations
import OpenRouter.Backend.TokenBilling
import OpenRouter.Backend.Purchase
import OpenRouter.Backend.Logging
import OpenRouter.Base.Separators
import OpenRouter.Base.Regex
import OpenRouter.Backend.Guardrails
import OpenRouter.Gateway.Eviction
import OpenRouter.Wire.Credentials
import OpenRouter.Gateway.ClientPool
import OpenRouter.Base.JsonTokens
import OpenRouter.Gateway.CacheKeys
import OpenRouter.Cli.LineEndings
import OpenRouter.Gateway.ClosedStream
import OpenRouter.Backend.Uploads
import OpenRouter.Base.StableSort
import OpenRouter.Wire.LatencyOrder
import OpenRouter.Gateway.Configuration
import OpenRouter.Base.Multimap
import OpenRouter.Frontend.Passthrough
import OpenRouter.Cli.Login
import OpenRouter.Base.DecimalText
import OpenRouter.Base.AsciiJson
import OpenRouter.Backend.PricingCache
import OpenRouter.Backend.Mappers
import OpenRouter.Base.StringLiterals
import OpenRouter.Frontend.Snippets
import OpenRouter.Base.Base64
import OpenRouter.Base.JsonStyles
import OpenRouter.Base.JsValues
import OpenRouter.Cli.ApiClient
import OpenRouter.Cli.Chat
import OpenRouter.Cli.Config
import OpenRouter.Cli.Credentials
import OpenRouter.Frontend.ApiClient
import OpenRouter.Backend.Errors
import OpenRouter.Backend.Audit
import OpenRouter.Gateway.AccessLog
import OpenRouter.Gateway.Lifecycle
import OpenRouter.Mocks.Scenarios
import OpenRouter.Wire.Admission
import OpenRouter.Wire.ChatTurns
import OpenRouter.Wire.ErrorEnvelopes
import OpenRouter.Wire.SharedRedis
import OpenRouter.Backend.PricingRaces
import OpenRouter.Wire.KeyForms
import OpenRouter.Wire.MockedTurns
