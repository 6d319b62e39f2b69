import GpuFleet.Api.Client
import GpuFleet.Api.Exchange
import GpuFleet.Api.Form
import GpuFleet.Api.Objects
import GpuFleet.Api.Target
import GpuFleet.Cluster.Failure
import GpuFleet.Cluster.Rehearsal
import GpuFleet.Cluster.Server
import GpuFleet.Cluster.Store
import GpuFleet.Cluster.Write
import GpuFleet.Digest.Fnv
import GpuFleet.Digest.Object
import GpuFleet.Drift.Extract
import GpuFleet.Drift.Fingerprint
import GpuFleet.Drift.Projection
import GpuFleet.Json.Basic
import GpuFleet.Json.Fields
import GpuFleet.Json.Patch
import GpuFleet.Json.Pointer
import GpuFleet.Json.Raw
import GpuFleet.Json.Reader
import GpuFleet.Json.Text
import GpuFleet.Kube.Catalog.Container
import GpuFleet.Kube.Catalog.Meta
import GpuFleet.Kube.Catalog.Object
import GpuFleet.Kube.Catalog.Pod
import GpuFleet.Kube.Catalog.Volume
import GpuFleet.Kube.Container
import GpuFleet.Kube.DaemonSet
import GpuFleet.Kube.FromYaml
import GpuFleet.Kube.Labels
import GpuFleet.Kube.Meta
import GpuFleet.Kube.Node
import GpuFleet.Kube.Shape
import GpuFleet.Kube.Volume
import GpuFleet.Main
import GpuFleet.Manifest.Error
import GpuFleet.Manifest.Render
import GpuFleet.Manifest.Source
import GpuFleet.Manifest.Tree
import GpuFleet.Misconfiguration
import GpuFleet.NodeLabels.Edit
import GpuFleet.NodeLabels.Patch
import GpuFleet.NodeLabels.Traits
import GpuFleet.NodeLabels.Update
import GpuFleet.NodeLabels.Vocabulary
import GpuFleet.Number.Binary64
import GpuFleet.Number.Decimal
import GpuFleet.Number.Digits
import GpuFleet.Number.Numeral
import GpuFleet.Number.Shortest
import GpuFleet.Number.Width
import GpuFleet.Operand.Basic
import GpuFleet.Operand.Plan
import GpuFleet.Operator.Deployment
import GpuFleet.Operator.Labelling
import GpuFleet.Operator.Pass
import GpuFleet.Policy.Authority
import GpuFleet.Policy.Rejection
import GpuFleet.Policy.Schema
import GpuFleet.Policy.Spec
import GpuFleet.Policy.Status
import GpuFleet.Policy.Wire
import GpuFleet.Proofs.Json.NumberText
import GpuFleet.Proofs.Json.StringText
import GpuFleet.Retry.Backoff
import GpuFleet.Retry.Record
import GpuFleet.Settings
import GpuFleet.Text.Blank
import GpuFleet.Text.Quoted
import GpuFleet.Text.Unprintable
import GpuFleet.Text.Utf8
import GpuFleet.Time.Duration
import GpuFleet.Time.Instant
import GpuFleet.Time.Rfc3339
import GpuFleet.Watch.Schedule
import GpuFleet.Watch.Watcher
import GpuFleet.Workload.Basic
import GpuFleet.Workload.Detection
import GpuFleet.Workload.Resolution
import GpuFleet.Yaml.Document
import GpuFleet.Yaml.Glyph
import GpuFleet.Yaml.Node
import GpuFleet.Yaml.Scalar
import GpuFleet.Yaml.Tag
import GpuFleet.Yaml.Token
import GpuFleet.Yaml.Token.Block
import GpuFleet.Yaml.Token.Flow
import GpuFleet.Yaml.Token.Gap
import GpuFleet.Yaml.Token.Layout
import GpuFleet.Yaml.Token.Name
import GpuFleet.Yaml.Value
import GpuFleet.Proofs.Json.Reading
import GpuFleet.Proofs.Json.Canonical
import GpuFleet.Proofs.Digest.Sparse
import GpuFleet.Proofs.Kube.NormalForm
import GpuFleet.Proofs.Drift.Faithful
import GpuFleet.Proofs.Drift.Agreement
import GpuFleet.Proofs.Drift.Emptiness
import GpuFleet.Proofs.Cluster.Run
import GpuFleet.Proofs.Operator.Settlement
import GpuFleet.Proofs.Operator.Deployment
import GpuFleet.Proofs.NodeLabels.Patch
import GpuFleet.Proofs.NodeLabels.Update
import GpuFleet.Proofs.Cluster.Listing
import GpuFleet.Proofs.Operator.Labelling
import GpuFleet.Proofs.Operator.Report
import GpuFleet.Proofs.Policy.Authority
import GpuFleet.Proofs.Operator.Pass
import GpuFleet.Proofs.Operator.Repetition
import GpuFleet.Proofs.NodeLabels.Decision
import GpuFleet.Proofs.NodeLabels.Safety
import GpuFleet.Proofs.Json.Merge
import GpuFleet.Proofs.NodeLabels.Merging
import GpuFleet.Proofs.Cluster.Keeps
import GpuFleet.Proofs.Operator.Ending
import GpuFleet.Proofs.Cluster.Charge
import GpuFleet.Proofs.Operator.Turns
import GpuFleet.Proofs.Watch.Acts
import GpuFleet.Proofs.Watch.Attention
import GpuFleet.Proofs.Retry.Backoff
import GpuFleet.Proofs.Retry.Record
import GpuFleet.Proofs.Watch.Retrying
import GpuFleet.Proofs.Operator.Course
import GpuFleet.Proofs.Operator.Rest
import GpuFleet.Proofs.Operator.Stopping
import GpuFleet.Proofs.Policy.Reporting
import GpuFleet.Proofs.NodeLabels.Result
import GpuFleet.Proofs.NodeLabels.Change
import GpuFleet.Proofs.Json.Fields
import GpuFleet.Proofs.Policy.Published
import GpuFleet.Proofs.Policy.Places
import GpuFleet.Proofs.Policy.Admission
import GpuFleet.Proofs.Time.Calendar
import GpuFleet.Proofs.Time.Legible
import GpuFleet.Proofs.Json.Same
import GpuFleet.Proofs.Digest.Collision
import GpuFleet.Proofs.NodeLabels.Flavour
import GpuFleet.Proofs.Operator.Independence
import GpuFleet.Proofs.Drift.Order
import GpuFleet.Proofs.Operator.Application
import GpuFleet.Proofs.Manifest.Environment
import GpuFleet.Proofs.Manifest.Rendering
import GpuFleet.Proofs.Manifest.Files
import GpuFleet.Proofs.Manifest.Reading
import GpuFleet.Proofs.Retry.Delays
import GpuFleet.Proofs.Workload.Detection
import GpuFleet.Proofs.Number.Numeral
import GpuFleet.Proofs.Text.Trim
import GpuFleet.Proofs.Settings
import GpuFleet.Proofs.Operand.Wiring
import GpuFleet.Proofs.Text.Split
import GpuFleet.Proofs.Digest.NameSuffix
import GpuFleet.Proofs.Policy.ImageReference
