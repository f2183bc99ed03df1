import NetProfile.Advisory
import NetProfile.Catalogue
import NetProfile.Choice
import NetProfile.CommandLine
import NetProfile.CommandLine.Arguments
import NetProfile.CommandLine.Printout
import NetProfile.Configuration
import NetProfile.Contract
import NetProfile.Contract.List
import NetProfile.Contract.Scalar
import NetProfile.Dict
import NetProfile.Edit
import NetProfile.Edit.Context
import NetProfile.Edit.Plan
import NetProfile.Error
import NetProfile.Fault
import NetProfile.Inventory
import NetProfile.Json
import NetProfile.Json.Decode
import NetProfile.Json.Printer
import NetProfile.Json.Reader
import NetProfile.Json.Token
import NetProfile.Main
import NetProfile.MergePolicy
import NetProfile.Mode
import NetProfile.Net.Address
import NetProfile.Net.Family
import NetProfile.Net.Names
import NetProfile.Net.Subnet
import NetProfile.Net.Uuid
import NetProfile.Numeral
import NetProfile.OptionMap
import NetProfile.Profile
import NetProfile.Profile.Change
import NetProfile.Profile.Json
import NetProfile.Proofs.Choice
import NetProfile.Proofs.Contract.Admits
import NetProfile.Proofs.Contract.Form
import NetProfile.Proofs.Contract.Items
import NetProfile.Proofs.Contract.Reads
import NetProfile.Proofs.Contract.Scalar
import NetProfile.Proofs.Dict
import NetProfile.Proofs.Edit.Batch
import NetProfile.Proofs.Edit.Companions
import NetProfile.Proofs.Edit.Effect
import NetProfile.Proofs.Edit.Footprint
import NetProfile.Proofs.Edit.FreeTexts
import NetProfile.Proofs.Edit.Holding
import NetProfile.Proofs.Edit.Identity
import NetProfile.Proofs.Edit.Independence
import NetProfile.Proofs.Edit.KeyedLists
import NetProfile.Proofs.Edit.Legal
import NetProfile.Proofs.Edit.ReadOnly
import NetProfile.Proofs.Edit.Refusal
import NetProfile.Proofs.Edit.Removal
import NetProfile.Proofs.Edit.Reset
import NetProfile.Proofs.Edit.ResolverOptions
import NetProfile.Proofs.Edit.Run
import NetProfile.Proofs.Edit.Secrecy
import NetProfile.Proofs.Edit.WepKey
import NetProfile.Proofs.Edit.WepKeyType
import NetProfile.Proofs.Inventory
import NetProfile.Proofs.Json.Decode
import NetProfile.Proofs.Json.Number
import NetProfile.Proofs.Json.Reader
import NetProfile.Proofs.Json.Reordered
import NetProfile.Proofs.Json.Token
import NetProfile.Proofs.KeyedList
import NetProfile.Proofs.MergePolicy
import NetProfile.Proofs.Net.Address
import NetProfile.Proofs.Net.Names
import NetProfile.Proofs.Net.Subnet
import NetProfile.Proofs.Net.Uuid
import NetProfile.Proofs.Numeral
import NetProfile.Proofs.OptionMap
import NetProfile.Proofs.Profile.Change
import NetProfile.Proofs.Profile.Commute
import NetProfile.Proofs.Profile.Json
import NetProfile.Proofs.Profile.Secrets
import NetProfile.Proofs.Reading
import NetProfile.Proofs.Reading.Blame
import NetProfile.Proofs.Reading.Joined
import NetProfile.Proofs.Record.LinkWatcher
import NetProfile.Proofs.Record.LinkWatcherKeys
import NetProfile.Proofs.Record.Qdisc
import NetProfile.Proofs.Record.QdiscGrammar
import NetProfile.Proofs.Record.ResolverOptions
import NetProfile.Proofs.Record.Route
import NetProfile.Proofs.Record.RouteGrammar
import NetProfile.Proofs.Record.VirtualFunction
import NetProfile.Proofs.Scalar.Bits
import NetProfile.Proofs.Scalar.Enumeration
import NetProfile.Proofs.Scalar.FlagSet
import NetProfile.Proofs.Scalar.Integer
import NetProfile.Proofs.Scalar.IntegerGrammar
import NetProfile.Proofs.Scalar.Octets
import NetProfile.Proofs.Scalar.OctetsGrammar
import NetProfile.Proofs.Settings.Flags
import NetProfile.Proofs.Settings.Lists
import NetProfile.Proofs.Settings.RoundTrip
import NetProfile.Proofs.Settings.Standard
import NetProfile.Proofs.SlotArray
import NetProfile.Proofs.SlotArrayGrammar
import NetProfile.Proofs.Text.Case
import NetProfile.Proofs.Text.Fields
import NetProfile.Proofs.Text.Trim
import NetProfile.Proofs.Text.Words
import NetProfile.Proofs.TextRule
import NetProfile.Proofs.Value.Json
import NetProfile.Property
import NetProfile.Property.Kinds
import NetProfile.Property.View
import NetProfile.Record.LinkWatcher
import NetProfile.Record.PriorityMap
import NetProfile.Record.Qdisc
import NetProfile.Record.ResolverOptions
import NetProfile.Record.Route
import NetProfile.Record.VirtualFunction
import NetProfile.Scalar.Enumeration
import NetProfile.Scalar.Flags
import NetProfile.Scalar.HardwareAddress
import NetProfile.Scalar.Integer
import NetProfile.Scalar.Octets
import NetProfile.Scalar.Truth
import NetProfile.Settings.Aggregate
import NetProfile.Settings.Authentication
import NetProfile.Settings.Bridge
import NetProfile.Settings.Connection
import NetProfile.Settings.DataCenter
import NetProfile.Settings.Ethernet
import NetProfile.Settings.Infiniband
import NetProfile.Settings.Ip
import NetProfile.Settings.Modem
import NetProfile.Settings.Offload
import NetProfile.Settings.OpenVSwitch
import NetProfile.Settings.Overlay
import NetProfile.Settings.PointToPoint
import NetProfile.Settings.Standard
import NetProfile.Settings.Vpn
import NetProfile.Settings.Wifi
import NetProfile.SlotArray
import NetProfile.Text.Blank
import NetProfile.Text.Case
import NetProfile.Text.Fields
import NetProfile.Text.Quoted
import NetProfile.Text.Unshown
import NetProfile.Text.Utf8
import NetProfile.TextRule
import NetProfile.Toml
import NetProfile.Toml.Entries
import NetProfile.Toml.Moment
import NetProfile.Toml.Number
import NetProfile.Toml.Quoted
import NetProfile.Toml.Reader
import NetProfile.Toml.Token
import NetProfile.Value
import NetProfile.Value.Description
import NetProfile.Value.Json
import NetProfile.Wireless
