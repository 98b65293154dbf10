import NodeLookup.Main
import NodeLookup.Server.Writing
import NodeLookup.Proofs.Text.Utf8
import NodeLookup.Proofs.Text.Utf16
import NodeLookup.Proofs.Exchange.Following
import NodeLookup.Proofs.Url.PercentEncoding
import NodeLookup.Proofs.Url.Appending
import NodeLookup.Proofs.Url.QueryPairs
import NodeLookup.Proofs.Url.Hosts
import NodeLookup.Proofs.Url.Reading
import NodeLookup.Proofs.Client.ServerAddress
import NodeLookup.Proofs.Client.Answering
import NodeLookup.Proofs.Client.Scope
import NodeLookup.Proofs.Lookup.Existence
import NodeLookup.Proofs.Lookup.Containment
import NodeLookup.Proofs.Lookup.Agreement
import NodeLookup.Proofs.Lookup.Separation
import NodeLookup.Proofs.Json.Recovery
import NodeLookup.Proofs.Json.Numeral
import NodeLookup.Proofs.Json.Spelling
import NodeLookup.Proofs.Json.Document
import NodeLookup.Proofs.ServiceError.Slots
import NodeLookup.Proofs.ServiceError.Envelope
import NodeLookup.Proofs.Server.Recovery
import NodeLookup.Proofs.Client.Sending
import NodeLookup.Proofs.Lookup.Construction
import NodeLookup.Proofs.Lookup.Questions
import NodeLookup.Proofs.Lookup.Requests
import NodeLookup.Proofs.Command.Outcome
import NodeLookup.Proofs.Lookup.Secrecy
import NodeLookup.Proofs.Json.Form
import NodeLookup.Proofs.Json.Judging
import NodeLookup.Proofs.Json.Meaning
import NodeLookup.Proofs.Json.Rewriting
import NodeLookup.Proofs.Server.Presentation
import NodeLookup.Proofs.Json.Fields
import NodeLookup.Proofs.Json.Counting
import NodeLookup.Proofs.Server.Listing
import NodeLookup.Proofs.Lookup.Naming
import NodeLookup.Proofs.Lookup.Certainty
import NodeLookup.Proofs.ServiceError.Missing
import NodeLookup.Proofs.Lookup.Addresses
import NodeLookup.Proofs.Client.NameQuery
import NodeLookup.Proofs.Settings.Precedence
import NodeLookup.Proofs.Settings.Emptiness
import NodeLookup.Proofs.Text.Repair
import NodeLookup.Proofs.Client.Classification
import NodeLookup.Proofs.Lookup.Prefixes
import NodeLookup.Proofs.Lookup.TypeAndState
import NodeLookup.Proofs.Yaml.Naturals
import NodeLookup.Proofs.Settings.Files
import NodeLookup.Proofs.Lookup.Misconfiguration
import NodeLookup.Proofs.Lookup.Regions
