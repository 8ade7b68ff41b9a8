import LibreRoute.Admin.Revocation
import LibreRoute.Admin.LiveAccess
import LibreRoute.Admin.ChannelGroup
import LibreRoute.Admin.CommandControl
import LibreRoute.Admin.ViewModel
import LibreRoute.Admin.Removal
import LibreRoute.Sync.Launch
import LibreRoute.Sync.Restore
import LibreRoute.Sync.Attempts
import LibreRoute.Sync.Acceptance
import LibreRoute.Update.Alignment
import LibreRoute.Update.Checkpoints
import LibreRoute.Bridge.Authentication
import LibreRoute.Bridge.ForwardedHead
import LibreRoute.Admin.SignedText
import LibreRoute.Sync.Lifetime
import LibreRoute.Admin.SnapshotOrder
import LibreRoute.Update.StreamCoverage
import LibreRoute.Update.Submit
import LibreRoute.Routing.Backup
import LibreRoute.Routing.DomainRules
import LibreRoute.Service.ChannelState
import LibreRoute.Tunnels.ReadCache
import LibreRoute.Tunnels.JitsiRooms
