import GatewayConsole.Account.Selection
import GatewayConsole.Account.Token
import GatewayConsole.Account.User
import GatewayConsole.Calendar.Date
import GatewayConsole.Calendar.Duration
import GatewayConsole.Calendar.Instant
import GatewayConsole.Command.Arguments
import GatewayConsole.Command.CommandLine
import GatewayConsole.Command.Error
import GatewayConsole.Command.Header
import GatewayConsole.Command.Home
import GatewayConsole.Command.Modules
import GatewayConsole.Command.Notice
import GatewayConsole.Command.Options
import GatewayConsole.Command.Pricing
import GatewayConsole.Command.Run
import GatewayConsole.Command.Settings
import GatewayConsole.Command.Tokens
import GatewayConsole.Command.World
import GatewayConsole.Decimal.Layout
import GatewayConsole.Decimal.Reading
import GatewayConsole.Decimal.Shortest
import GatewayConsole.Gateway.Client
import GatewayConsole.Gateway.Envelope
import GatewayConsole.Gateway.Error
import GatewayConsole.Gateway.Exchange
import GatewayConsole.Gateway.Payload
import GatewayConsole.Gateway.Retry
import GatewayConsole.Gateway.Status
import GatewayConsole.HomePage
import GatewayConsole.InputError
import GatewayConsole.Json.Document
import GatewayConsole.Json.Numeral
import GatewayConsole.Json.Printer
import GatewayConsole.Json.Record
import GatewayConsole.Json.Token
import GatewayConsole.Json.Tree
import GatewayConsole.Main
import GatewayConsole.Navigation.Destination
import GatewayConsole.Navigation.Header
import GatewayConsole.Navigation.Link
import GatewayConsole.Navigation.LinkJson
import GatewayConsole.Navigation.Module
import GatewayConsole.Navigation.Switches
import GatewayConsole.Power
import GatewayConsole.Pricing.Billing
import GatewayConsole.Pricing.Catalog
import GatewayConsole.Pricing.Choice
import GatewayConsole.Pricing.Criteria
import GatewayConsole.Pricing.Facet
import GatewayConsole.Pricing.Matching
import GatewayConsole.Pricing.Model
import GatewayConsole.Pricing.Page
import GatewayConsole.Pricing.Tags
import GatewayConsole.Pricing.View
import GatewayConsole.Proofs.Account.RowSets
import GatewayConsole.Proofs.Account.SelectedRows
import GatewayConsole.Proofs.Account.SeparatePages
import GatewayConsole.Proofs.Account.TokenReports
import GatewayConsole.Proofs.Calendar.DateText
import GatewayConsole.Proofs.Command.ClosedNotices
import GatewayConsole.Proofs.Command.EditedSwitches
import GatewayConsole.Proofs.Command.FailedEdits
import GatewayConsole.Proofs.Command.HiddenKeys
import GatewayConsole.Proofs.Command.Logins
import GatewayConsole.Proofs.Command.Reading
import GatewayConsole.Proofs.Command.RememberedStatus
import GatewayConsole.Proofs.Command.ResumedView
import GatewayConsole.Proofs.Command.SavedReplies
import GatewayConsole.Proofs.Command.ShownSettings
import GatewayConsole.Proofs.Command.Tasks
import GatewayConsole.Proofs.Gateway.Attempts
import GatewayConsole.Proofs.Gateway.Calls
import GatewayConsole.Proofs.Gateway.GivingUp
import GatewayConsole.Proofs.Gateway.GrantedChanges
import GatewayConsole.Proofs.Gateway.OptionServer
import GatewayConsole.Proofs.Gateway.OptionTable
import GatewayConsole.Proofs.Gateway.Pauses
import GatewayConsole.Proofs.Gateway.Sending
import GatewayConsole.Proofs.Json.CompactForm
import GatewayConsole.Proofs.Json.ReadBack
import GatewayConsole.Proofs.Json.TokenText
import GatewayConsole.Proofs.Json.Tokens
import GatewayConsole.Proofs.Json.WrittenRecord
import GatewayConsole.Proofs.Navigation.HeaderLinks
import GatewayConsole.Proofs.Navigation.Outlines
import GatewayConsole.Proofs.Navigation.Places
import GatewayConsole.Proofs.Navigation.WrittenDestinations
import GatewayConsole.Proofs.Navigation.WrittenLinks
import GatewayConsole.Proofs.Navigation.WrittenSwitches
import GatewayConsole.Proofs.Pricing.ByDimension
import GatewayConsole.Proofs.Pricing.CatalogTexts
import GatewayConsole.Proofs.Pricing.FacetCounts
import GatewayConsole.Proofs.Pricing.FacetTotals
import GatewayConsole.Proofs.Pricing.FacetValues
import GatewayConsole.Proofs.Pricing.MarkedOptions
import GatewayConsole.Proofs.Pricing.ModelFields
import GatewayConsole.Proofs.Pricing.NormalTags
import GatewayConsole.Proofs.Pricing.Offers
import GatewayConsole.Proofs.Pricing.Pages
import GatewayConsole.Proofs.Pricing.Rearrangement
import GatewayConsole.Proofs.Pricing.Searching
import GatewayConsole.Proofs.Pricing.SingleCriteria
import GatewayConsole.Proofs.Pricing.TagLists
import GatewayConsole.Proofs.Pricing.WireValues
import GatewayConsole.Proofs.Pricing.WrittenCatalog
import GatewayConsole.Proofs.Pricing.WrittenView
import GatewayConsole.Proofs.Report.InertReports
import GatewayConsole.Proofs.Settings.KeptStore
import GatewayConsole.Proofs.Settings.Persistence
import GatewayConsole.Proofs.Settings.Reloading
import GatewayConsole.Proofs.Settings.ServerAddress
import GatewayConsole.Proofs.Settings.Written
import GatewayConsole.Proofs.Storage.Effects
import GatewayConsole.Proofs.Storage.FailedSaving
import GatewayConsole.Proofs.Storage.Links
import GatewayConsole.Proofs.Storage.Locations
import GatewayConsole.Proofs.Storage.MadeDirectories
import GatewayConsole.Proofs.Storage.Operations
import GatewayConsole.Proofs.Storage.Permissions
import GatewayConsole.Proofs.Storage.Replacement
import GatewayConsole.Proofs.Storage.Saving
import GatewayConsole.Proofs.Storage.Temporary
import GatewayConsole.Proofs.Storage.Ways
import GatewayConsole.Proofs.Text.Collation
import GatewayConsole.Proofs.Text.Digits
import GatewayConsole.Proofs.Text.Keyed
import GatewayConsole.Proofs.Text.LowerCase
import GatewayConsole.Proofs.Text.PartsInLowerCase
import GatewayConsole.Proofs.Text.Trimming
import GatewayConsole.Report.Contents
import GatewayConsole.Report.Header
import GatewayConsole.Report.Pricing
import GatewayConsole.Report.Styled
import GatewayConsole.Report.Tokens
import GatewayConsole.Settings.Basic
import GatewayConsole.Settings.Store
import GatewayConsole.Storage.Disk
import GatewayConsole.Storage.Path
import GatewayConsole.Storage.Save
import GatewayConsole.Text.Blank
import GatewayConsole.Text.CaseData
import GatewayConsole.Text.Collation
import GatewayConsole.Text.CombiningClass
import GatewayConsole.Text.Keyed
import GatewayConsole.Text.LowerCase
import GatewayConsole.Text.Marks
import GatewayConsole.Text.Split
import GatewayConsole.Text.Table
import GatewayConsole.Text.Translator
import GatewayConsole.Text.WholeNumber
import GatewayConsole.Url.Address
import GatewayConsole.Url.Escape
import GatewayConsole.Url.Host
import GatewayConsole.Url.HostName
import GatewayConsole.Url.HostName.Alphabet
import GatewayConsole.Url.HostName.Composition
import GatewayConsole.Url.HostName.Direction
import GatewayConsole.Url.HostName.Joiner
import GatewayConsole.Url.HostName.Replacement
import GatewayConsole.Url.Punycode
