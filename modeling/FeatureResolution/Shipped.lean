import FeatureResolution.FileTree
import FeatureResolution.Installation
import FeatureResolution.Shipped.SchemaFile

/-!
# The files of an installation

An installation comes with a settings file, the manifest of the artifact `serde`, three profiles,
two schemas and a notice to the reader, which is no document. `Shipped.files` are these files with
their places below the installation's root directory, and `FileTree.install` puts them there.
-/

namespace FeatureResolution.Shipped

/-- The settings of an installation. -/
def settings : Document :=
  .map [
    (.text "registry", .map [(.text "manifest", .text Installation.manifestFile)]),
    (.text "profiles", .map [(.text "dir", .text Installation.profileDirectory)]),
    (.text "build", .map [(.text "mode", .text "release"), (.text "default_features", .bool true)]),
    (.text "output", .map [(.text "format", .text "list")])]

/-- The flags of `serde` and of its derive companion. -/
def serdeManifest : Document :=
  .map [
    (.text "artifact", .map [(.text "name", .text "serde"), (.text "version", .text "1.0.139")]),
    (.text "default", .list [.text "std", .text "mesalock_sgx"]),
    (.text "flags", .list [
      .map [
        (.text "name", .text "derive"),
        (.text "description", .text "Provide derive(Serialize, Deserialize) macros."),
        (.text "implies", .list [.text "serde_derive"]),
        (.text "provides", .list [.text "derive:Serialize", .text "derive:Deserialize"])],
      .map [
        (.text "name", .text "std"),
        (.text "description", .text (
          "Provide impls for common standard library types like Vec<T> and HashMap<K, " ++
          "V>. Requires a dependency on the Rust standard library.")),
        (.text "provides", .list [
          .text "impl:Vec<T>",
          .text "impl:HashMap<K, V>",
          .text "impl:HashSet<T>",
          .text "impl:String",
          .text "impl:Box<T>",
          .text "impl:Cow<T>",
          .text "impl:PathBuf",
          .text "impl:OsString",
          .text "impl:SystemTime",
          .text "trait:std::error::Error"])],
      .map [
        (.text "name", .text "unstable"),
        (.text "description", .text (
          "Provide impls for types that require unstable functionality. Tracking issue: " ++
          "https://github.com/serde-rs/serde/issues/812")),
        (.text "provides", .list [.text "impl:!"])],
      .map [
        (.text "name", .text "alloc"),
        (.text "description", .text (
          "Provide impls for types in the core allocation and collections library " ++
          "including String, Box<T>, Vec<T>, and Cow<T>. A subset of std that may be " ++
          "enabled without depending on all of std.")),
        (.text "provides", .list [
          .text "impl:String",
          .text "impl:Box<T>",
          .text "impl:Vec<T>",
          .text "impl:Cow<T>",
          .text "impl:BTreeMap<K, V>"])],
      .map [
        (.text "name", .text "rc"),
        (.text "description", .text (
          "Opt into impls for Rc<T> and Arc<T>. Serializing and deserializing these " ++
          "types does not preserve identity and may result in multiple copies of the " ++
          "same data.")),
        (.text "provides", .list [.text "impl:Rc<T>", .text "impl:Arc<T>"])],
      .map [
        (.text "name", .text "mesalock_sgx"),
        (.text "description", .text "Build against the SGX trusted standard library."),
        (.text "implies", .list [.text "sgx_tstd", .text "std"]),
        (.text "provides", .list [.text "target:sgx"])],
      .map [
        (.text "name", .text "deserialize_in_place"),
        (.text "description", .text (
          "Generate Deserialize::deserialize_in_place from the derive companion.")),
        (.text "implies", .list [.text "serde_derive"]),
        (.text "provides", .list [.text "method:Deserialize::deserialize_in_place"])],
      .map [
        (.text "name", .text "serde_derive"),
        (.text "kind", .text "dependency"),
        (.text "description", .text "Code-generation companion providing the derive macros."),
        (.text "artifact", .text "serde_derive"),
        (.text "requirement", .text "=1.0.139"),
        (.text "dev_requirement", .text "1.0"),
        (.text "provides", .list [.text "crate:serde_derive"])],
      .map [
        (.text "name", .text "sgx_tstd"),
        (.text "kind", .text "dependency"),
        (.text "description", .text "Trusted standard library for SGX enclaves, taken from git."),
        (.text "source", .map [
          (.text "git", .text "https://github.com/yunuseozer/incubator-teaclave-sgx-sdk.git"),
          (.text "rev", .text "v1.1.4-upgrade")]),
        (.text "provides", .list [.text "crate:sgx_tstd"])]]),
    (.text "conflicts", .list [])]

/-- A development build against a local companion. -/
def deriveDev : Document :=
  .map [
    (.text "name", .text "derive-dev"),
    (.text "description", .text "Development build against a local derive companion checkout."),
    (.text "features", .list [.text "derive", .text "deserialize_in_place"]),
    (.text "mode", .text "dev"),
    (.text "artifacts", .map [(.text "serde_derive", .text "1.0.140")])]

/-- A build without the standard library. -/
def noStd : Document :=
  .map [
    (.text "name", .text "no-std"),
    (.text "description",
      .text "Allocation-only build without the standard library or SGX target."),
    (.text "features", .list [.text "alloc"]),
    (.text "default_features", .bool false),
    (.text "mode", .text "release")]

/-- The build of a playground. -/
def playground : Document :=
  .map [
    (.text "name", .text "playground"),
    (.text "description", .text "Feature set used for the online playground build."),
    (.text "features", .list [.text "derive", .text "rc"]),
    (.text "mode", .text "release"),
    (.text "artifacts", .map [(.text "serde_derive", .text "1.0.139")])]

/-- The files of an installation, each with what reading it as a document yields. -/
def files : List (String × Except Fault Document) :=
  [(Installation.settingsFile, .ok settings),
   (Installation.manifestFile, .ok serdeManifest),
   (Installation.profileFile "derive-dev", .ok deriveDev),
   (Installation.profileFile "no-std", .ok noStd),
   (Installation.profileFile "playground", .ok playground),
   (Installation.schemaDirectory ++ "/" ++ Installation.manifestSchema, .ok manifestSchema),
   (Installation.schemaDirectory ++ "/" ++ Installation.profileSchema, .ok profileSchema),
   (Installation.noticeFile, .error (.unparsable .word))]

end FeatureResolution.Shipped

namespace FeatureResolution

/-- Puts the files of an installation below a directory. -/
def FileTree.install (tree : FileTree) (root : List String) : FileTree :=
  Shipped.files.foldl
    (fun tree (path, content) =>
      tree.put (root ++ (Path.ofText path).parts) (.file content)) tree

end FeatureResolution
