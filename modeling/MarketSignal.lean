import MarketSignal.Draft.Request
import MarketSignal.Journal.Line
import MarketSignal.Main
import MarketSignal.Service.Answering
import MarketSignal.Storage.Project
import MarketSignal.Storage.Statement
import MarketSignal.Proofs.Number.Rounding
import MarketSignal.Proofs.Number.Shortest
import MarketSignal.Proofs.Json.Number
import MarketSignal.Proofs.Json.Quoted
import MarketSignal.Proofs.Json.RoundTrip
import MarketSignal.Proofs.Json.Plain
import MarketSignal.Proofs.Run
import MarketSignal.Proofs.Scenario.Typed
import MarketSignal.Proofs.Scenario.Textual
import MarketSignal.Proofs.Scenario.RoundTrip
import MarketSignal.Proofs.Storage.Disk
import MarketSignal.Proofs.Storage.RecordStore
import MarketSignal.Proofs.Storage.Holding
import MarketSignal.Proofs.Storage.Library
import MarketSignal.Proofs.Storage.Durability
import MarketSignal.Proofs.Storage.Persistence
import MarketSignal.Proofs.Storage.Loading
import MarketSignal.Proofs.Signal.Score
import MarketSignal.Proofs.Signal.Evaluation
import MarketSignal.Proofs.Draft.Keys
import MarketSignal.Proofs.Draft.Step
import MarketSignal.Proofs.Draft.Freshness
import MarketSignal.Proofs.Storage.Posting
import MarketSignal.Proofs.Storage.Waiting
import MarketSignal.Proofs.Storage.Delivery
import MarketSignal.Proofs.Storage.Retrying
import MarketSignal.Proofs.Number.Order
import MarketSignal.Proofs.Signal.Threshold
import MarketSignal.Proofs.Storage.Place
import MarketSignal.Proofs.Storage.Footprint
import MarketSignal.Proofs.Storage.PlainKey
import MarketSignal.Proofs.Storage.Reading
import MarketSignal.Proofs.Storage.Mapping
import MarketSignal.Proofs.Storage.Working
import MarketSignal.Proofs.Storage.Assignments
import MarketSignal.Proofs.Storage.Atomicity
import MarketSignal.Proofs.Storage.Media
import MarketSignal.Proofs.Storage.Refusing
import MarketSignal.Proofs.Storage.Seeding
import MarketSignal.Proofs.Document.Grammar
import MarketSignal.Proofs.Document.Verdict
import MarketSignal.Proofs.Document.Accepted
import MarketSignal.Proofs.Signal.Reordering
import MarketSignal.Proofs.Scenario.Findings
import MarketSignal.Proofs.Signal.Rearranging
import MarketSignal.Proofs.Draft.Saving
import MarketSignal.Proofs.Notices
import MarketSignal.Proofs.Signal.Collecting
import MarketSignal.Proofs.Draft.Issuing
import MarketSignal.Proofs.Draft.Locality
import MarketSignal.Proofs.Draft.Failing
import MarketSignal.Proofs.Storage.Interleaving
import MarketSignal.Proofs.Settings.Precedence
import MarketSignal.Proofs.Json.Limit
import MarketSignal.Proofs.Service.Form
import MarketSignal.Proofs.Service.Answering
import MarketSignal.Proofs.Service.Evaluating
import MarketSignal.Proofs.Service.Entrances
import MarketSignal.Proofs.Service.Writing
import MarketSignal.Proofs.Derailing
import MarketSignal.Proofs.Storage.Derailing
import MarketSignal.Proofs.Storage.Stalling
import MarketSignal.Proofs.Signal.Misshapen
import MarketSignal.Proofs.CommandLine.Reading
import MarketSignal.Proofs.CommandLine.Performing
import MarketSignal.Proofs.CommandLine.Reporting
import MarketSignal.Proofs.Signal.Selection
import MarketSignal.Proofs.Storage.Leftover
import MarketSignal.Proofs.Json.Overlong
import MarketSignal.Proofs.Document.Restoring
import MarketSignal.Proofs.Storage.Damaged
import MarketSignal.Proofs.Draft.Undoing
import MarketSignal.Proofs.Service.Normalizing
import MarketSignal.Proofs.Document.Respelling
import MarketSignal.Proofs.Json.Equality
import MarketSignal.Proofs.Signal.Influence
import MarketSignal.Proofs.Number.Product
import MarketSignal.Proofs.Number.Numeral
import MarketSignal.Proofs.Storage.Patience
import MarketSignal.Proofs.Storage.Remarks
import MarketSignal.Proofs.Storage.Silence
import MarketSignal.Proofs.Settings.Refusing
import MarketSignal.Proofs.Text.LetterCase
import MarketSignal.Proofs.Settings.OneLine
import MarketSignal.Proofs.Settings.Guessing
