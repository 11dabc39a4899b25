import OneHost.Address.Ip
import OneHost.Address.Socket
import OneHost.Certificate.Anchor
import OneHost.Certificate.Element
import OneHost.Certificate.Encoding
import OneHost.Certificate.Identities
import OneHost.Certificate.Leaf
import OneHost.Certificate.Moment
import OneHost.Certificate.Pem
import OneHost.CommandLine.Arguments
import OneHost.CommandLine.Interface
import OneHost.CommandLine.Run
import OneHost.Connection.Cache
import OneHost.Connection.Channel
import OneHost.Connection.Conversation
import OneHost.Connection.Failure
import OneHost.Connection.Handling
import OneHost.Connection.Line
import OneHost.Connection.Transport
import OneHost.Dispatch.Configured
import OneHost.Dispatch.Dispatcher
import OneHost.Dispatch.Error
import OneHost.Document.Basic
import OneHost.Document.Failures
import OneHost.Document.Messages
import OneHost.Document.Pools
import OneHost.Document.Sessions
import OneHost.Document.Settings
import OneHost.Event
import OneHost.Folder
import OneHost.Health.Outcome
import OneHost.Health.Prober
import OneHost.Health.Report
import OneHost.Health.State
import OneHost.Hostname.Matching
import OneHost.Hostname.ServerName
import OneHost.Http.Edit
import OneHost.Http.Headers
import OneHost.Http.Message
import OneHost.Http.Status
import OneHost.Http.Target
import OneHost.Http.Uri
import OneHost.Http.Wire
import OneHost.Loopback.Link
import OneHost.Loopback.Server
import OneHost.Main
import OneHost.Pool.Configured
import OneHost.Pool.Endpoint
import OneHost.Pool.Roster
import OneHost.Pool.Rotation
import OneHost.Pool.State
import OneHost.Pool.Step
import OneHost.Proofs.Address.Authority
import OneHost.Proofs.Address.Characters
import OneHost.Proofs.Certificate.CommonNames
import OneHost.Proofs.Connection.Answers
import OneHost.Proofs.Connection.Arrivals
import OneHost.Proofs.Connection.Carrying
import OneHost.Proofs.Connection.Counting
import OneHost.Proofs.Connection.Eviction
import OneHost.Proofs.Connection.Keeping
import OneHost.Proofs.Connection.Order
import OneHost.Proofs.Connection.Past
import OneHost.Proofs.Connection.Progress
import OneHost.Proofs.Connection.Records
import OneHost.Proofs.Connection.Securing
import OneHost.Proofs.Connection.Whereabouts
import OneHost.Proofs.Dispatch.Addressing
import OneHost.Proofs.Dispatch.Contacts
import OneHost.Proofs.Dispatch.Delivery
import OneHost.Proofs.Dispatch.Outcome
import OneHost.Proofs.Dispatch.Repetition
import OneHost.Proofs.Dispatch.Retry
import OneHost.Proofs.Dispatch.Tolerance
import OneHost.Proofs.Health.Route
import OneHost.Proofs.Hostname.Covering
import OneHost.Proofs.Hostname.Lettercase
import OneHost.Proofs.Hostname.OwnName
import OneHost.Proofs.Hostname.Spelling
import OneHost.Proofs.Hostname.Wildcards
import OneHost.Proofs.Http.Aiming
import OneHost.Proofs.Http.Fields
import OneHost.Proofs.Http.Probing
import OneHost.Proofs.Http.Resources
import OneHost.Proofs.Pool.Asking
import OneHost.Proofs.Pool.Chronicle
import OneHost.Proofs.Pool.Closing
import OneHost.Proofs.Pool.Continuity
import OneHost.Proofs.Pool.Disposal
import OneHost.Proofs.Pool.Interleaving
import OneHost.Proofs.Pool.Publishing
import OneHost.Proofs.Pool.Queueing
import OneHost.Proofs.Pool.Recording
import OneHost.Proofs.Pool.Replacement
import OneHost.Proofs.Pool.Reporting
import OneHost.Proofs.Pool.Retirement
import OneHost.Proofs.Pool.Rounds
import OneHost.Proofs.Pool.Serialization
import OneHost.Proofs.Pool.Service
import OneHost.Proofs.Pool.Sharing
import OneHost.Proofs.Pool.Steps
import OneHost.Proofs.Pool.Tending
import OneHost.Proofs.Pool.Transitions
import OneHost.Proofs.Pool.Turns
import OneHost.Proofs.Pool.WellFormed
import OneHost.Proofs.Pool.Withdrawal
import OneHost.Proofs.Pool.Working
import OneHost.Proofs.Resolution.FirstPlaces
import OneHost.Proofs.Session.Pinning
import OneHost.Proofs.Settings.Acceptance
import OneHost.Proofs.Settings.Agreement
import OneHost.Proofs.Settings.Variables
import OneHost.Proofs.Text.Bytes
import OneHost.Proofs.Text.Decoding
import OneHost.Proofs.Text.Lettering
import OneHost.Proofs.Trust.Acceptance
import OneHost.Proofs.Yaml.Inline
import OneHost.Proofs.Yaml.Lexing
import OneHost.Protocol
import OneHost.Resolution.Answer
import OneHost.Resolution.Configured
import OneHost.Session.Basic
import OneHost.Session.Command
import OneHost.Session.Error
import OneHost.Settings.Environment
import OneHost.Settings.EnvironmentFile
import OneHost.Settings.Loading
import OneHost.Settings.Reading
import OneHost.Settings.Server
import OneHost.Text.Alphanumeric
import OneHost.Text.Base64
import OneHost.Text.Blank
import OneHost.Text.CodeRange
import OneHost.Text.Dump
import OneHost.Text.Lowercase
import OneHost.Text.Number
import OneHost.Text.Printable
import OneHost.Text.Punycode
import OneHost.Text.Quoted
import OneHost.Text.Split
import OneHost.Text.Utf8
import OneHost.Time.Duration
import OneHost.Timeline.Link
import OneHost.Timeline.Script
import OneHost.Timeline.World
import OneHost.Trust.Chain
import OneHost.Trust.Client
import OneHost.Trust.Roots
import OneHost.Trust.Verifier
import OneHost.Yaml.Cursor
import OneHost.Yaml.Meaning
import OneHost.Yaml.Scalar
import OneHost.Yaml.Token
import OneHost.Yaml.Tree
