import ServiceWiring.Main
import ServiceWiring.Session
import ServiceWiring.Settings
import ServiceWiring.Diagnostic.Document
import ServiceWiring.Proofs.Tables
import ServiceWiring.Proofs.Trails
import ServiceWiring.Proofs.Documents
import ServiceWiring.Proofs.Aliases
import ServiceWiring.Proofs.LetterCase
import ServiceWiring.Proofs.ServiceClasses
import ServiceWiring.Proofs.ClassNames
import ServiceWiring.Proofs.Subscriptions
import ServiceWiring.Proofs.Accessors
import ServiceWiring.Proofs.CallSites
import ServiceWiring.Proofs.Dispatches
import ServiceWiring.Proofs.Sessions
import ServiceWiring.Proofs.EventOrder
import ServiceWiring.Proofs.Setups
import ServiceWiring.Proofs.Diagnostics
import ServiceWiring.Proofs.Spellings
import ServiceWiring.Proofs.Suppressions
import ServiceWiring.Proofs.DegradedMode
import ServiceWiring.Proofs.ElementOrder
import ServiceWiring.Proofs.Loading
import ServiceWiring.Proofs.LineEnds
import ServiceWiring.Proofs.ConfiguredEngines
import ServiceWiring.Proofs.Enumeration
import ServiceWiring.Proofs.Arguments
import ServiceWiring.Proofs.ConsoleTexts
import ServiceWiring.Proofs.LookupCommand
import ServiceWiring.Proofs.NameCommand
import ServiceWiring.Proofs.Exemptions
import ServiceWiring.Proofs.References
import ServiceWiring.Proofs.DocumentedParts
import ServiceWiring.Proofs.IssueHistory
import ServiceWiring.Proofs.Rounds
import ServiceWiring.Proofs.EmptyClasses
import ServiceWiring.Proofs.Redefinitions
import ServiceWiring.Proofs.TestScope
import ServiceWiring.Proofs.TomlReaders
import ServiceWiring.Proofs.TomlNumerals
import ServiceWiring.Proofs.TomlDocuments
import ServiceWiring.Proofs.LoadedSettings
import ServiceWiring.Proofs.Paths
import ServiceWiring.Proofs.SettingsRecords
import ServiceWiring.Proofs.ResolvedSettings
import ServiceWiring.Proofs.SettingsSections
import ServiceWiring.Proofs.IssueRecords
import ServiceWiring.Proofs.LocatorWalks
