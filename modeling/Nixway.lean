import Nixway.Theory.Prog
import Nixway.Theory.Pool
import Nixway.Theory.Rely
import Nixway.Theory.Lockstep
import Nixway.Theory.Table
import Nixway.Theory.Text
import Nixway.Store.Schema
import Nixway.Store.Slug
import Nixway.Store.Queries
import Nixway.Store.Integrity
import Nixway.Deploy.Names
import Nixway.Deploy.Traffic
import Nixway.Deploy.Archive
import Nixway.Deploy.Reports
import Nixway.Deploy.Dispatch
import Nixway.Deploy.Outcome
import Nixway.Deploy.Rollout
import Nixway.Deploy.Schedule
import Nixway.Deploy.Terminal
import Nixway.Deploy.Settle
import Nixway.Deploy.Promotion
import Nixway.Deploy.History
import Nixway.Deploy.Agreement
import Nixway.Deploy.Teardown
import Nixway.Deploy.Environment
import Nixway.Deploy.Sync
import Nixway.Deploy.Weights
import Nixway.Deploy.Reweigh
import Nixway.Agent.Traefik
import Nixway.Agent.Overlap
import Nixway.Agent.Connect
import Nixway.Agent.Streams
import Nixway.Agent.Correlator
import Nixway.Scale.Autoscale
import Nixway.Scale.Calls
import Nixway.Scale.Cooldown
import Nixway.Access.Tokens
import Nixway.Access.Routes
import Nixway.Access.Minting
import Nixway.Deploy.AppDomain
import Nixway.Deploy.Routed
import Nixway.Deploy.Verified
import Nixway.Deploy.Ports
import Nixway.Access.LastOwner
import Nixway.Access.Granted
import Nixway.Github.Webhook
import Nixway.Github.Once
import Nixway.Github.Lifecycle
import Nixway.Github.Reconcile
import Nixway.Dns.Cloudflare
import Nixway.Github.Tokens
import Nixway.Apps.Delete
import Nixway.Apps.Requests
import Nixway.Apps.Deployable
import Nixway.Apps.SetDomain
import Nixway.Intake.Handlers
import Nixway.Intake.Confined
import Nixway.Agent.Deploying
import Nixway.Database.Await
import Nixway.Database.Backups
import Nixway.Database.Completed
import Nixway.Database.Cron
import Nixway.Database.Scheduled
import Nixway.Apps.ContainerTerminal
import Nixway.Intake.Metrics
import Nixway.Scale.Duration
import Nixway.Observability.Alerts
import Nixway.Observability.Notifications
import Nixway.Secrets.Reveal
import Nixway.Observability.ScrapeConfig
import Nixway.Theory.Paths
import Nixway.Volumes.Service
import Nixway.Volumes.Removal
import Nixway.Volumes.Resize
import Nixway.Volumes.Move
import Nixway.Volumes.Databases
import Nixway.Volumes.Placement
import Nixway.Volumes.InUse
import Nixway.Servers.StatusWatcher
import Nixway.Theory.Runs
import Nixway.Cluster.Network
import Nixway.Cluster.Membership
import Nixway.Cluster.Mesh
import Nixway.Theory.Panics
import Nixway.Deploy.Checked
import Nixway.Intake.Panics
import Nixway.Agent.KeyGen
import Nixway.Theory.Crew
import Nixway.Theory.Ordered
import Nixway.Agent.Configs
import Nixway.Agent.ContainerExec
import Nixway.Theory.Utf8
import Nixway.Database.Query
import Nixway.Agent.DatabaseQuery
import Nixway.Database.Answered
import Nixway.Theory.Lexical
import Nixway.Database.Gate
import Nixway.Database.Ddl
import Nixway.Database.ReadOnly
import Nixway.Cluster.Converges
import Nixway.Theory.Expiring
import Nixway.Database.RateLimit
import Nixway.Deploy.Prune
import Nixway.Deploy.Precedence
import Nixway.Deploy.Trigger
import Nixway.Deploy.BuildNode
import Nixway.Deploy.Race
import Nixway.Servers.Provisioning
import Nixway.Agent.Building
import Nixway.Theory.Lines
import Nixway.Agent.BuildLogs
import Nixway.Theory.Ranked
import Nixway.Deploy.Placement
import Nixway.Database.Retention
import Nixway.Database.Recorded
import Nixway.Volumes.Provisioning
import Nixway.Volumes.Restore
import Nixway.Apps.DomainNames
import Nixway.Scale.AllOrNothing
import Nixway.Theory.Yaml
import Nixway.Agent.RouteText
import Nixway.Theory.Quoted
import Nixway.Agent.HostRule
import Nixway.Agent.RouteRules
import Nixway.Volumes.FreeNames
import Nixway.Volumes.ContainerNames
import Nixway.Volumes.Rebinding
import Nixway.Deploy.Links
import Nixway.Agent.PostInit
import Nixway.Theory.Literals
import Nixway.Agent.PostInitMongo
import Nixway.Theory.Shell
import Nixway.Agent.BackupCommands
import Nixway.Volumes.Created
import Nixway.Theory.Settings
import Nixway.Cluster.FullMesh
import Nixway.Agent.Backoff
import Nixway.Github.Repositories
import Nixway.Theory.Parts
import Nixway.Cluster.Slug
import Nixway.Database.CronFields
import Nixway.Database.CatchUp
import Nixway.Theory.Octets
import Nixway.Theory.FirstFree
import Nixway.Cluster.Addresses
import Nixway.Cluster.Networks
import Nixway.Theory.Template
import Nixway.Database.BrowserQueries
import Nixway.Theory.Scanner
import Nixway.Servers.RemoteCommand
