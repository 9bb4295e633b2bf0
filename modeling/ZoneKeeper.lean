import ZoneKeeper.Cloudflare.Session
import ZoneKeeper.Main
import ZoneKeeper.Memory.Session
import ZoneKeeper.Proofs.Course
import ZoneKeeper.Proofs.ZoneGuard
import ZoneKeeper.Proofs.Failures
import ZoneKeeper.Proofs.Memory.Effect
import ZoneKeeper.Proofs.Memory.Convergence
import ZoneKeeper.Proofs.Memory.Ledger
import ZoneKeeper.Proofs.Memory.Refinement
import ZoneKeeper.Proofs.Memory.Advance
import ZoneKeeper.Proofs.Memory.AppendOnly
import ZoneKeeper.Proofs.Memory.Tally
import ZoneKeeper.Proofs.Memory.Atomicity
import ZoneKeeper.Proofs.Memory.Identity
import ZoneKeeper.Proofs.Memory.Frame
import ZoneKeeper.Proofs.Memory.Commute
import ZoneKeeper.Proofs.Json.Forms
import ZoneKeeper.Proofs.Cloudflare.DryRun
import ZoneKeeper.Proofs.TokenSecrecy
import ZoneKeeper.Proofs.Cloudflare.Agreement
import ZoneKeeper.Proofs.Cloudflare.Verdicts
import ZoneKeeper.Proofs.ListedNames
import ZoneKeeper.Proofs.Changes
import ZoneKeeper.Proofs.Command.ExitCode
import ZoneKeeper.Proofs.Address
import ZoneKeeper.Proofs.Command.Options
import ZoneKeeper.Proofs.Command.Padding
import ZoneKeeper.Proofs.Cloudflare.Envelope
import ZoneKeeper.Proofs.Cloudflare.Reports
import ZoneKeeper.Proofs.Cloudflare.BaseHost
import ZoneKeeper.Proofs.DomainName
import ZoneKeeper.Proofs.Journal
import ZoneKeeper.Proofs.OwnNames
import ZoneKeeper.Proofs.Cloudflare.Restated
import ZoneKeeper.Proofs.ShortNames
import ZoneKeeper.Proofs.Cloudflare.Lookups
import ZoneKeeper.Proofs.Command.ConfiguredAddress
import ZoneKeeper.Proofs.Command.Complaints
import ZoneKeeper.Proofs.Text.Utf16
