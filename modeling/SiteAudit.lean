import SiteAudit.Audit.Breadth
import SiteAudit.Audit.Exposure
import SiteAudit.Audit.InternetBypass
import SiteAudit.Audit.Isolation
import SiteAudit.Audit.IsolationExceptions
import SiteAudit.Audit.ManagementAccess
import SiteAudit.Audit.NetworkPosture
import SiteAudit.Audit.Orphans
import SiteAudit.Audit.Placement
import SiteAudit.Audit.Run
import SiteAudit.Audit.Settings
import SiteAudit.Audit.Shadowing
import SiteAudit.CommandLine.Clock
import SiteAudit.CommandLine.Disk
import SiteAudit.CommandLine.Failure
import SiteAudit.CommandLine.Grammar
import SiteAudit.CommandLine.Invocation
import SiteAudit.CommandLine.Reading
import SiteAudit.CommandLine.Run
import SiteAudit.Config.Basic
import SiteAudit.Config.Layers
import SiteAudit.Config.Variables
import SiteAudit.Device
import SiteAudit.Display.Audit
import SiteAudit.Display.Color
import SiteAudit.Display.Config
import SiteAudit.Display.Format
import SiteAudit.Display.Inventory
import SiteAudit.Display.Trace
import SiteAudit.Export.Field
import SiteAudit.Export.Inventory
import SiteAudit.Export.Networks
import SiteAudit.Export.Rules
import SiteAudit.Finding.Basic
import SiteAudit.Finding.Kind
import SiteAudit.Finding.Report
import SiteAudit.Finding.Severity
import SiteAudit.Firewall.Flow
import SiteAudit.Firewall.Group
import SiteAudit.Firewall.Ports
import SiteAudit.Firewall.Protocol
import SiteAudit.Firewall.Rule
import SiteAudit.Firewall.Verdict
import SiteAudit.Firewall.Zone
import SiteAudit.Json.Basic
import SiteAudit.Json.Double
import SiteAudit.Json.Reader
import SiteAudit.Json.Writer
import SiteAudit.Layout.Table
import SiteAudit.Main
import SiteAudit.Net.Address
import SiteAudit.Net.Block
import SiteAudit.Net.Domain
import SiteAudit.Net.Entries
import SiteAudit.Network.Basic
import SiteAudit.Network.Classification
import SiteAudit.Network.Purpose
import SiteAudit.Numeral
import SiteAudit.Numeral.Scientific
import SiteAudit.PortForward
import SiteAudit.Record.Fields
import SiteAudit.Record.Finding
import SiteAudit.Record.Inventory
import SiteAudit.Record.Rule
import SiteAudit.Scope.Comparison
import SiteAudit.Scope.Rule
import SiteAudit.Scope.Target
import SiteAudit.Site.Basic
import SiteAudit.Site.Reach
import SiteAudit.Site.Trace
import SiteAudit.Text.Ascii
import SiteAudit.Text.Blank
import SiteAudit.Text.Columns
import SiteAudit.Text.Letter
import SiteAudit.Text.LowerCase
import SiteAudit.Text.Pieces
import SiteAudit.Text.Ranges
import SiteAudit.Text.Reader
import SiteAudit.Text.Sorted
import SiteAudit.Toml.Basic
import SiteAudit.Toml.Moment
import SiteAudit.Toml.Reader
import SiteAudit.Toml.Writer
import SiteAudit.Yaml.Scalar
import SiteAudit.Yaml.Writer
import SiteAudit.Proofs.AddressSets
import SiteAudit.Proofs.Comparisons
import SiteAudit.Proofs.FirstMatch
import SiteAudit.Proofs.Containment
import SiteAudit.Proofs.AddressTrace
import SiteAudit.Proofs.DeadRules
import SiteAudit.Proofs.FreshConnections
import SiteAudit.Proofs.RuleOrder
import SiteAudit.Proofs.RuleTables
import SiteAudit.Proofs.AddedBlocks
import SiteAudit.Proofs.ScoreSums
import SiteAudit.Proofs.StorageOrder
import SiteAudit.Proofs.IdleRules
import SiteAudit.Proofs.AddedRules
import SiteAudit.Proofs.UnsupportedTargets
import SiteAudit.Proofs.FindingGrades
import SiteAudit.Proofs.CheckFamilies
import SiteAudit.Proofs.Dialects
import SiteAudit.Proofs.ProtocolNames
import SiteAudit.Proofs.StoredFields
import SiteAudit.Proofs.StoredForms
import SiteAudit.Proofs.ExitStatus
import SiteAudit.Proofs.IsolationTraces
import SiteAudit.Proofs.NetworkOrder
import SiteAudit.Proofs.CommonTraffic
import SiteAudit.Proofs.Reach
import SiteAudit.Proofs.InternetReach
import SiteAudit.Proofs.Exceptions
import SiteAudit.Proofs.PortSets
import SiteAudit.Proofs.WiderRules
import SiteAudit.Proofs.VerdictSelection
import SiteAudit.Proofs.OfflineNetworks
import SiteAudit.Proofs.AddedAllows
import SiteAudit.Proofs.ForwardTargets
import SiteAudit.Proofs.DevicePlacement
import SiteAudit.Proofs.RuleDocuments
import SiteAudit.Proofs.FirstOccurrences
import SiteAudit.Proofs.NetworkDocuments
import SiteAudit.Proofs.GroupReferences
import SiteAudit.Proofs.PortGroups
import SiteAudit.Proofs.NormalForms
import SiteAudit.Proofs.ProtocolRelations
import SiteAudit.Proofs.NameKeywords
