import ConferenceAuth.Config.Process
import ConferenceAuth.Deployment
import ConferenceAuth.Gateway.Description
import ConferenceAuth.Proofs.Authority.Trust
import ConferenceAuth.Proofs.Gateway.Atomicity
import ConferenceAuth.Proofs.Gateway.Building
import ConferenceAuth.Proofs.Gateway.Journal
import ConferenceAuth.Proofs.Gateway.Ordering
import ConferenceAuth.Proofs.Session.Age
import ConferenceAuth.Proofs.Session.History
import ConferenceAuth.Proofs.Session.Accounting
import ConferenceAuth.Proofs.Http.Precedence
import ConferenceAuth.Proofs.Backend.Upkeep
import ConferenceAuth.Proofs.Http.Disclosure
import ConferenceAuth.Proofs.Backend.Gauge
import ConferenceAuth.Proofs.Registry.History
import ConferenceAuth.Proofs.Server.Binding
import ConferenceAuth.Proofs.Server.Cycles
import ConferenceAuth.Proofs.Gateway.Errors
import ConferenceAuth.Proofs.Backend.Transitions
import ConferenceAuth.Proofs.Gateway.Tally
import ConferenceAuth.Proofs.Gateway.Periods
import ConferenceAuth.Proofs.Authority.Admission
import ConferenceAuth.Proofs.Config.Agreement
import ConferenceAuth.Proofs.Http.Login
import ConferenceAuth.Proofs.Http.RoundTrip
import ConferenceAuth.Proofs.Authority.Address
import ConferenceAuth.Proofs.Gateway.Release
import ConferenceAuth.Proofs.Session.Schedule
import ConferenceAuth.Proofs.Net.BindAddress
import ConferenceAuth.Proofs.Config.Reading
import ConferenceAuth.Proofs.Config.ServerSettings
import ConferenceAuth.Proofs.Authority.Selection
import ConferenceAuth.Proofs.Config.GatewaySettings
import ConferenceAuth.Proofs.Registry.Lookup
import ConferenceAuth.Proofs.Session.Composition
import ConferenceAuth.Proofs.Config.Integers
import ConferenceAuth.Proofs.Config.VariableNames
