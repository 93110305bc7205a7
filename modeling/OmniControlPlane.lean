import OmniControlPlane.DataPlane.Agreement
import OmniControlPlane.DataPlane.Doh
import OmniControlPlane.DataPlane.Formats
import OmniControlPlane.DataPlane.Profiles
import OmniControlPlane.DataPlane.Questions
import OmniControlPlane.DataPlane.Worker
import OmniControlPlane.Deployment.Bindings
import OmniControlPlane.Deployment.Calls
import OmniControlPlane.Deployment.Completion
import OmniControlPlane.Deployment.Connections
import OmniControlPlane.Deployment.Credentials
import OmniControlPlane.Deployment.Deletion
import OmniControlPlane.Deployment.DnsTunnel
import OmniControlPlane.Deployment.Nodes
import OmniControlPlane.Deployment.Operations
import OmniControlPlane.Deployment.PanelInput
import OmniControlPlane.Deployment.PanelSource
import OmniControlPlane.Deployment.Panels
import OmniControlPlane.Deployment.Revocation
import OmniControlPlane.Deployment.SubscriptionCredential
import OmniControlPlane.DnsCenter.Cidr
import OmniControlPlane.DnsCenter.Enumeration
import OmniControlPlane.DnsCenter.Probe
import OmniControlPlane.DnsCenter.Rescan
import OmniControlPlane.DnsCenter.Response
import OmniControlPlane.DnsCenter.Rounds
import OmniControlPlane.DnsCenter.Scan
import OmniControlPlane.Geoip.Delegated
import OmniControlPlane.Geoip.Refresh
import OmniControlPlane.Lib.Aead
import OmniControlPlane.Lib.Base64
import OmniControlPlane.Lib.Chunks
import OmniControlPlane.Lib.Dns
import OmniControlPlane.Lib.Double
import OmniControlPlane.Lib.JavaScript
import OmniControlPlane.Lib.Json
import OmniControlPlane.Lib.JsonFront
import OmniControlPlane.Lib.Lapse
import OmniControlPlane.Lib.Meter
import OmniControlPlane.Lib.Mime
import OmniControlPlane.Lib.OrderedMap
import OmniControlPlane.Lib.Retention
import OmniControlPlane.Lib.Sliding
import OmniControlPlane.Lib.Slots
import OmniControlPlane.Lib.Sql
import OmniControlPlane.Lib.StringLiteral
import OmniControlPlane.Lib.Text
import OmniControlPlane.Lib.TwoRun
import OmniControlPlane.Lib.Typestate
import OmniControlPlane.Lib.Uri
import OmniControlPlane.Lib.Utf8
import OmniControlPlane.Lib.Yaml
import OmniControlPlane.Lib.YamlBlocks
import OmniControlPlane.Panel.Admission
import OmniControlPlane.Panel.Agent
import OmniControlPlane.Panel.Alarms
import OmniControlPlane.Panel.Api
import OmniControlPlane.Panel.Backup
import OmniControlPlane.Panel.Billing
import OmniControlPlane.Panel.BlockList
import OmniControlPlane.Panel.ClashYaml
import OmniControlPlane.Panel.CleanIps
import OmniControlPlane.Panel.Columns
import OmniControlPlane.Panel.ConnectResponse
import OmniControlPlane.Panel.Connection
import OmniControlPlane.Panel.Conservation
import OmniControlPlane.Panel.CsrfGate
import OmniControlPlane.Panel.Destination
import OmniControlPlane.Panel.Devices
import OmniControlPlane.Panel.DnsCache
import OmniControlPlane.Panel.Eviction
import OmniControlPlane.Panel.FirstConnect
import OmniControlPlane.Panel.Front
import OmniControlPlane.Panel.Generator
import OmniControlPlane.Panel.Guard
import OmniControlPlane.Panel.Handshake
import OmniControlPlane.Panel.Header
import OmniControlPlane.Panel.Ledger
import OmniControlPlane.Panel.Maintenance
import OmniControlPlane.Panel.Migrate
import OmniControlPlane.Panel.Password
import OmniControlPlane.Panel.PasswordRecord
import OmniControlPlane.Panel.Proxy
import OmniControlPlane.Panel.RequestLimit
import OmniControlPlane.Panel.Response
import OmniControlPlane.Panel.RoundTrip
import OmniControlPlane.Panel.Router
import OmniControlPlane.Panel.Secrecy
import OmniControlPlane.Panel.SessionCookie
import OmniControlPlane.Panel.Sessions
import OmniControlPlane.Panel.SettingsCache
import OmniControlPlane.Panel.Setup
import OmniControlPlane.Panel.SigningKey
import OmniControlPlane.Panel.SingBox
import OmniControlPlane.Panel.SocksRequest
import OmniControlPlane.Panel.Statements
import OmniControlPlane.Panel.Status
import OmniControlPlane.Panel.StoredUuid
import OmniControlPlane.Panel.Strikes
import OmniControlPlane.Panel.Term
import OmniControlPlane.Panel.Tunnel
import OmniControlPlane.Panel.Udp
import OmniControlPlane.Panel.Upstream
import OmniControlPlane.Panel.Vless
import OmniControlPlane.Phantom.Pack
import OmniControlPlane.Portal.ApiTokens
import OmniControlPlane.Portal.Dnstt
import OmniControlPlane.Portal.Donations
import OmniControlPlane.Portal.FlowReports
import OmniControlPlane.Portal.Flows
import OmniControlPlane.Portal.Front
import OmniControlPlane.Portal.Links
import OmniControlPlane.Portal.RateLimit
import OmniControlPlane.Portal.Requests
import OmniControlPlane.Portal.SessionCookie
import OmniControlPlane.Portal.Telegram
import OmniControlPlane.Portal.Tenancy
import OmniControlPlane.Portal.Webhook
import OmniControlPlane.Portal.Wizard
import OmniControlPlane.Security.Envelope
import OmniControlPlane.Sleeper.Beacon
import OmniControlPlane.Sleeper.Commands
import OmniControlPlane.Sleeper.Window
import OmniControlPlane.Telemetry.CensorshipMap
import OmniControlPlane.Telemetry.CleanIpCrowd
import OmniControlPlane.Telemetry.CleanIpRanking
import OmniControlPlane.Telemetry.CleanIpReport
import OmniControlPlane.Telemetry.Feeds
import OmniControlPlane.Telemetry.Network
import OmniControlPlane.Telemetry.Poison
import OmniControlPlane.Telemetry.Race
import OmniControlPlane.WhiteHole.Capacity
import OmniControlPlane.WhiteHole.DeadDrop
import OmniControlPlane.WhiteHole.Ranking
