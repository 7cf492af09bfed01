import DeviceMessaging.Api
import DeviceMessaging.CacheDirective
import DeviceMessaging.Device
import DeviceMessaging.DeviceConnection.Action
import DeviceMessaging.DeviceConnection.Api
import DeviceMessaging.DeviceConnection.Backend
import DeviceMessaging.DeviceConnection.Client
import DeviceMessaging.DeviceConnection.Registry
import DeviceMessaging.Endpoint.Kind
import DeviceMessaging.Endpoint.Table
import DeviceMessaging.Error
import DeviceMessaging.Job
import DeviceMessaging.Journal
import DeviceMessaging.Json
import DeviceMessaging.Keyed
import DeviceMessaging.Operations
import DeviceMessaging.Pool
import DeviceMessaging.Proofs.Api.Routing
import DeviceMessaging.Proofs.CacheDirective
import DeviceMessaging.Proofs.DeviceConnection.ClientCall
import DeviceMessaging.Proofs.DeviceConnection.Dispatch
import DeviceMessaging.Proofs.DeviceConnection.Interference
import DeviceMessaging.Proofs.DeviceConnection.Isolation
import DeviceMessaging.Proofs.DeviceConnection.Outcomes
import DeviceMessaging.Proofs.DeviceConnection.Parents
import DeviceMessaging.Proofs.DeviceConnection.Questions
import DeviceMessaging.Proofs.DeviceConnection.Readiness
import DeviceMessaging.Proofs.DeviceConnection.SpanLife
import DeviceMessaging.Proofs.Endpoint.Aliases
import DeviceMessaging.Proofs.Endpoint.Grammar
import DeviceMessaging.Proofs.Endpoint.History
import DeviceMessaging.Proofs.Job.Acts
import DeviceMessaging.Proofs.Job.Course
import DeviceMessaging.Proofs.Job.Renaming
import DeviceMessaging.Proofs.Job.Reported
import DeviceMessaging.Proofs.Journal
import DeviceMessaging.Proofs.LastWord
import DeviceMessaging.Proofs.Operations
import DeviceMessaging.Proofs.Pool.Alone
import DeviceMessaging.Proofs.Pool.Interference
import DeviceMessaging.Proofs.Pool.Log
import DeviceMessaging.Proofs.Pool.Openings
import DeviceMessaging.Proofs.Pool.Reported
import DeviceMessaging.Proofs.Pool.Sequel
import DeviceMessaging.Proofs.PropertyBag.Meaning
import DeviceMessaging.Proofs.PropertyBag.RoundTrip
import DeviceMessaging.Proofs.Registry.Ledger
import DeviceMessaging.Proofs.Registry.Sessions
import DeviceMessaging.Proofs.RequestSpan
import DeviceMessaging.Proofs.Service.Layers
import DeviceMessaging.Proofs.Service.Readiness
import DeviceMessaging.Proofs.Text.Letters
import DeviceMessaging.Proofs.Text.Numeral
import DeviceMessaging.Proofs.Text.Segments
import DeviceMessaging.Proofs.Text.Trim
import DeviceMessaging.Proofs.Topic.Acceptance
import DeviceMessaging.Proofs.Topic.Base
import DeviceMessaging.Proofs.Topic.EmptyEnds
import DeviceMessaging.Proofs.Topic.Identity
import DeviceMessaging.Proofs.Topic.Independence
import DeviceMessaging.Proofs.Topic.Rendering
import DeviceMessaging.Proofs.Trace.RoundTrip
import DeviceMessaging.PropertyBag
import DeviceMessaging.Publish
import DeviceMessaging.Request
import DeviceMessaging.RequestSpan
import DeviceMessaging.Service.Basic
import DeviceMessaging.Service.Logged
import DeviceMessaging.Service.Usage
import DeviceMessaging.Settings.Basic
import DeviceMessaging.Settings.Place
import DeviceMessaging.Settings.Source
import DeviceMessaging.Status
import DeviceMessaging.Telemetry.Address
import DeviceMessaging.Telemetry.Callsite
import DeviceMessaging.Telemetry.Config
import DeviceMessaging.Telemetry.Directive
import DeviceMessaging.Telemetry.Filter
import DeviceMessaging.Telemetry.LogLine
import DeviceMessaging.Telemetry.Setup
import DeviceMessaging.Telemetry.Threshold
import DeviceMessaging.Text.Alphanumeric
import DeviceMessaging.Text.Blank
import DeviceMessaging.Text.CodePoints
import DeviceMessaging.Text.Fold
import DeviceMessaging.Text.LetterCase
import DeviceMessaging.Text.LowerCase
import DeviceMessaging.Text.Number
import DeviceMessaging.Text.Numeral
import DeviceMessaging.Text.Pattern.Basic
import DeviceMessaging.Text.Pattern.Class
import DeviceMessaging.Text.Pattern.Escape
import DeviceMessaging.Text.Pattern.Machine
import DeviceMessaging.Text.Pattern.Reader
import DeviceMessaging.Text.Pattern.Switches
import DeviceMessaging.Text.Printable
import DeviceMessaging.Text.Quoted
import DeviceMessaging.Text.Split
import DeviceMessaging.TopicPath
import DeviceMessaging.Trace.Context
import DeviceMessaging.Trace.Headers
import DeviceMessaging.Trace.State
