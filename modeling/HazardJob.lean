import HazardJob.Text.Alphanumeric
import HazardJob.Text.LowerCase
import HazardJob.Text.Quoted
import HazardJob.Text.WordChar
import HazardJob.Binary64.Numeral
import HazardJob.Binary64.Text
import HazardJob.Literal.Reader
import HazardJob.Imt.Reader
import HazardJob.SortedMap
import HazardJob.Files.Path
import HazardJob.Mode
import HazardJob.Site
import HazardJob.CorrelationModel
import HazardJob.MaximumDistance
import HazardJob.ImtLevels
import HazardJob.Param.Basic
import HazardJob.Param.Record
import HazardJob.Files.Tree
import HazardJob.Input
import HazardJob.Document.Reader
import HazardJob.Gsim.LogicTree
import HazardJob.Gsim.Builtin
import HazardJob.Job.Draft
import HazardJob.Job.File
import HazardJob.Calculator
import HazardJob.Report
import HazardJob.CommandLine
import HazardJob.Main
import HazardJob.Proofs.Job.Consistency
import HazardJob.Proofs.Binary64.Numeral
import HazardJob.Proofs.Binary64.Rounding
import HazardJob.Proofs.Binary64.Text
import HazardJob.Proofs.Imt.Name
import HazardJob.Proofs.ImtLevels
import HazardJob.Proofs.Job.Launch
import HazardJob.Proofs.Param.Assigned
import HazardJob.Proofs.Param.Coerce
import HazardJob.Proofs.Document.Reread
import HazardJob.Proofs.Job.Written
import HazardJob.Proofs.Job.Stable
import HazardJob.Proofs.Job.Reload
import HazardJob.Proofs.Files.Absolute
import HazardJob.Proofs.Job.Resolved
import HazardJob.Proofs.Job.Anchored
import HazardJob.Proofs.Job.Roles
import HazardJob.Proofs.Gsim.Registry
import HazardJob.Proofs.Job.Predicted
import HazardJob.Proofs.Literal.Language
import HazardJob.Proofs.Imt.Order
import HazardJob.Proofs.Imt.Grammar
import HazardJob.Proofs.Imt.Spelling
import HazardJob.Proofs.Gsim.LogicTree
import HazardJob.Proofs.Gsim.Truncated
import HazardJob.Proofs.Job.RiskMeasures
import HazardJob.Proofs.Job.Ascending
import HazardJob.Proofs.Job.Numbers
import HazardJob.Proofs.Job.Unknown
import HazardJob.Proofs.Binary64.Order
import HazardJob.Proofs.ImtLevels.Pairs
import HazardJob.Proofs.Job.Distance
import HazardJob.Proofs.Job.Defaults
import HazardJob.Proofs.Job.Models
import HazardJob.Proofs.Document.Fault
import HazardJob.Proofs.Document.Layout
import HazardJob.Proofs.Param.Listing
