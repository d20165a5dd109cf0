import Ingress.Api.MediaType
import Ingress.Api.Response
import Ingress.Api.Router
import Ingress.Api.Server
import Ingress.Api.SyncRequest
import Ingress.CommandLine.Definitions
import Ingress.CommandLine.Options
import Ingress.CommandLine.Word
import Ingress.Config
import Ingress.Controller
import Ingress.Crd.Definition
import Ingress.Crd.Kind
import Ingress.Crd.Schema
import Ingress.Json.Compact
import Ingress.Json.Double
import Ingress.Json.Numeral
import Ingress.Json.Outline
import Ingress.Json.Quoted
import Ingress.Json.Reader
import Ingress.Json.Shape
import Ingress.Json.Skip
import Ingress.Json.Text
import Ingress.Json.Value
import Ingress.Log
import Ingress.Main
import Ingress.Pass.Apply
import Ingress.Pass.Cluster
import Ingress.Pass.Loop
import Ingress.Pass.Managed
import Ingress.Pass.Reconcile
import Ingress.Pass.Summary
import Ingress.Pass.Trigger
import Ingress.Proofs.Api.Answer
import Ingress.Proofs.Api.Children
import Ingress.Proofs.Api.Listing
import Ingress.Proofs.Api.Published
import Ingress.Proofs.Json.Compact
import Ingress.Proofs.Json.Ensures
import Ingress.Proofs.Json.Path
import Ingress.Proofs.Json.Reading
import Ingress.Proofs.Json.Recovery
import Ingress.Proofs.Json.Scalar
import Ingress.Proofs.Json.Series
import Ingress.Proofs.Json.Written
import Ingress.Proofs.Pass.Account
import Ingress.Proofs.Pass.Calm
import Ingress.Proofs.Pass.Conduct
import Ingress.Proofs.Pass.Confinement
import Ingress.Proofs.Pass.Convergence
import Ingress.Proofs.Pass.Ledger
import Ingress.Proofs.Pass.LiveObject
import Ingress.Proofs.Pass.LostUpdate
import Ingress.Proofs.Pass.Outage
import Ingress.Proofs.Pass.Ownership
import Ingress.Proofs.Pass.Phase
import Ingress.Proofs.Pass.Race
import Ingress.Proofs.Pass.Racer
import Ingress.Proofs.Pass.Reckoning
import Ingress.Proofs.Pass.Reconcile
import Ingress.Proofs.Pass.Refusal
import Ingress.Proofs.Pass.Retention
import Ingress.Proofs.Pass.Simulation
import Ingress.Proofs.Pass.Site
import Ingress.Proofs.Pass.Teardown
import Ingress.Proofs.Pass.World
import Ingress.Proofs.Pass.WriteCount
import Ingress.Proofs.Resource.Calendar
import Ingress.Proofs.Resource.HttpProxy
import Ingress.Proofs.Resource.Label
import Ingress.Proofs.Resource.Managed
import Ingress.Proofs.Resource.Metadata
import Ingress.Proofs.Resource.RoundTrip
import Ingress.Proofs.Resource.Route
import Ingress.Proofs.Resource.Timestamp
import Ingress.Proofs.Resource.VirtualService
import Ingress.Proofs.Store.Content
import Ingress.Proofs.Store.History
import Ingress.Proofs.Store.Memory
import Ingress.Proofs.Store.Prune
import Ingress.Proofs.Store.Record
import Ingress.Proofs.Store.Script
import Ingress.Proofs.Store.Settle
import Ingress.Proofs.Synthesis.Alignment
import Ingress.Proofs.Synthesis.Backend
import Ingress.Proofs.Synthesis.CheckedSplit
import Ingress.Proofs.Synthesis.Endpoint
import Ingress.Proofs.Synthesis.EvenSplit
import Ingress.Proofs.Synthesis.Exposure
import Ingress.Proofs.Synthesis.FirstMatch
import Ingress.Proofs.Synthesis.Group
import Ingress.Proofs.Synthesis.Hostname
import Ingress.Proofs.Synthesis.Isolation
import Ingress.Proofs.Synthesis.Mirror
import Ingress.Proofs.Synthesis.Order
import Ingress.Proofs.Synthesis.Outcome
import Ingress.Proofs.Synthesis.Percentage
import Ingress.Proofs.Synthesis.Provider
import Ingress.Proofs.Synthesis.Relaxation
import Ingress.Proofs.Synthesis.Removal
import Ingress.Proofs.Synthesis.Rule
import Ingress.Proofs.Synthesis.RuleView
import Ingress.Proofs.Synthesis.Synthesizer
import Ingress.Proofs.Synthesis.Template
import Ingress.Proofs.Synthesis.Traffic
import Ingress.Proofs.Synthesis.TrafficSplit
import Ingress.Proofs.Synthesis.Verdict
import Ingress.Proofs.Synthesis.Weight
import Ingress.Proofs.Watch.Coalescing
import Ingress.Proofs.Watch.LoopRun
import Ingress.Proofs.Watch.Prompt
import Ingress.Proofs.Watch.WatchedLoop
import Ingress.Remote.Address
import Ingress.Remote.Collection
import Ingress.Remote.Exchange
import Ingress.Remote.FormEncoding
import Ingress.Remote.Store
import Ingress.Resource.Basic
import Ingress.Resource.HttpProxy
import Ingress.Resource.Labels
import Ingress.Resource.Metadata
import Ingress.Resource.Route
import Ingress.Resource.Service
import Ingress.Resource.Timestamp
import Ingress.Resource.VirtualService
import Ingress.Sha256
import Ingress.Snapshot
import Ingress.Store.Basic
import Ingress.Store.Error
import Ingress.Store.Faulty
import Ingress.Store.Memory
import Ingress.Store.Selector
import Ingress.Synthesis.BackendService
import Ingress.Synthesis.Error
import Ingress.Synthesis.Hostname
import Ingress.Synthesis.Naming
import Ingress.Synthesis.Renderer
import Ingress.Synthesis.Rule
import Ingress.Synthesis.Synthesizer
import Ingress.Synthesis.Weight
import Ingress.Text.Blank
import Ingress.Text.Duration
import Ingress.Text.Printable
import Ingress.Text.Quoted
import Ingress.Text.Split
import Ingress.Watch.Event
import Ingress.Watch.Feed
import Ingress.Watch.Line
import Ingress.Watch.Service
import Ingress.Yaml.Block
import Ingress.Yaml.Cursor
import Ingress.Yaml.Document
import Ingress.Yaml.Layout
import Ingress.Yaml.Node
import Ingress.Yaml.Scalar
import Ingress.Yaml.Shape
import Ingress.Yaml.Token
