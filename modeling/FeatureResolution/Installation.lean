import FeatureResolution.Path

/-!
# Places in an installation

Where the files of an installation stand below its root directory.
-/

namespace FeatureResolution.Installation

/-- The name of the program. -/
def programName : String := "flagpin"

/-- The settings file. -/
def settingsFile : String := "config/" ++ programName ++ "-config.yaml"

/-- The manifest that is used unless the settings name another. -/
def manifestFile : String := programName ++ "/manifests/serde.yaml"

/-- The directory of profiles that is used unless the settings name another. -/
def profileDirectory : String := programName ++ "/profiles"

/-- The directory of the schemas. -/
def schemaDirectory : String := programName ++ "/schemas"

/-- The name of the file that holds the schema of manifests. -/
def manifestSchema : String := "feature-manifest-schema.json"

/-- The name of the file that holds the schema of profiles. -/
def profileSchema : String := "build-profile-schema.json"

/-- The notice to the reader. -/
def noticeFile : String := "README.md"

/-- The file of a profile in the directory of profiles. -/
def profileFile (name : String) : String := profileDirectory ++ "/" ++ name ++ ".yaml"

end FeatureResolution.Installation
