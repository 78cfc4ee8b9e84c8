import LorePia.Discovery.Saga
import LorePia.Discovery.Cancel
import LorePia.Discovery.Billing
import LorePia.Discovery.Embedding
import LorePia.DiscoveryStore.Log
import LorePia.Chat.Leak
import LorePia.Shell.Stream
import LorePia.Conversations.Imported
import LorePia.Conversations.Terminal
import LorePia.Conversations.Migration
import LorePia.Catalog.Activation
import LorePia.Assistant.Egress
import LorePia.Assistant.Answers
import LorePia.Assistant.Grounding
import LorePia.Content.Inspection
import LorePia.Conversations.Actions
import LorePia.Catalog.Signing
import LorePia.Catalog.Diff
import LorePia.Evidence.Credentials
import LorePia.ProviderStore.Upgrade
import LorePia.Conversations.Replay
import LorePia.Conversations.Recent
import LorePia.Parameters.Conflicts
import LorePia.Providers.Leftover
import LorePia.Parameters.Control
import LorePia.Providers.StreamLimits
import LorePia.Capabilities.Observations
import LorePia.Providers.ModelListing
import LorePia.Providers.RequestPreview
import LorePia.Platform.Keychain
