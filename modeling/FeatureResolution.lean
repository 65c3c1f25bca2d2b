import FeatureResolution.Main
import FeatureResolution.Proofs.CycleSearch
import FeatureResolution.Proofs.Checks
import FeatureResolution.Proofs.WellFormed
import FeatureResolution.Proofs.Construction
import FeatureResolution.Proofs.Closure
import FeatureResolution.Proofs.Explanation
import FeatureResolution.Proofs.Pins
import FeatureResolution.Proofs.Build
import FeatureResolution.Proofs.Monotone
import FeatureResolution.Proofs.Agreement
import FeatureResolution.Proofs.Extension
import FeatureResolution.Proofs.Order
import FeatureResolution.Proofs.Table
import FeatureResolution.Proofs.Representation
import FeatureResolution.Proofs.FeatureText
import FeatureResolution.Proofs.CargoArguments
import FeatureResolution.Proofs.SharedRegistry
import FeatureResolution.Proofs.Declarations
import FeatureResolution.Proofs.Schema
import FeatureResolution.Proofs.CheckedFile
import FeatureResolution.Proofs.Profile
import FeatureResolution.Proofs.BuildReport
import FeatureResolution.Proofs.Commands
import FeatureResolution.Proofs.ClosureOperator
import FeatureResolution.Proofs.Safety
import FeatureResolution.Proofs.RequestSafety
import FeatureResolution.Proofs.RunOutput
import FeatureResolution.Proofs.Pattern
import FeatureResolution.Proofs.VersionGrammar
import FeatureResolution.Proofs.RequirementText
import FeatureResolution.Proofs.VersionText
import FeatureResolution.Proofs.RequirementPattern
import FeatureResolution.Proofs.RequirementReading
import FeatureResolution.Proofs.TextLabel
import FeatureResolution.Proofs.SchemaReport
import FeatureResolution.Proofs.ManifestReading
import FeatureResolution.Proofs.ManifestSafety
import FeatureResolution.Proofs.DeclaredVersions
import FeatureResolution.Proofs.FlagNames
import FeatureResolution.Proofs.CommandWords
import FeatureResolution.Proofs.ProfileMode
import FeatureResolution.Proofs.UnsupportedChoice
import FeatureResolution.Proofs.FirstDefect
import FeatureResolution.Proofs.ReportedCycle
import FeatureResolution.Proofs.PinConsistency
import FeatureResolution.Proofs.Lockstep
import FeatureResolution.Proofs.DevelopmentBuilds
import FeatureResolution.Proofs.CompatibleRange
import FeatureResolution.Proofs.SurfaceUnion
import FeatureResolution.Proofs.PinsSection
import FeatureResolution.Proofs.LayeredDocuments
import FeatureResolution.Proofs.LayeredSettings
import FeatureResolution.Proofs.TrimmedText
import FeatureResolution.Proofs.LayeringLaws
import FeatureResolution.Proofs.PrintedFlags
import FeatureResolution.Proofs.SearchInvariant
import FeatureResolution.Proofs.Layers
