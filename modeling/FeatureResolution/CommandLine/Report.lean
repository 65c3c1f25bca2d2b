import FeatureResolution.Error

/-!
# Reports

A command prints its report piece by piece. Making a piece may fail; then the report ends there,
and what was printed before stays printed.
-/

namespace FeatureResolution.CommandLine

/-- What a command printed, and the failure it ended with, if it did not end well. -/
structure Report where
  printed : String
  failure : Option Error
deriving DecidableEq, Repr

namespace Report

/-- The report that consists of the given pieces up to the first that cannot be made. -/
def ofPieces : List (Except Error String) → Report
  | [] => ⟨"", none⟩
  | .ok piece :: rest =>
    let later := ofPieces rest
    ⟨piece ++ later.printed, later.failure⟩
  | .error error :: _ => ⟨"", some error⟩

/-- The report that ends with a failure before anything is printed. -/
def failed (error : Error) : Report :=
  ⟨"", some error⟩

/-- The pieces of a report, or its failure at once when they cannot even be set out. -/
def ofExcept : Except Error (List (Except Error String)) → Report
  | .ok pieces => ofPieces pieces
  | .error error => failed error

end Report

/-- A line of text. -/
def line (text : String) : String :=
  text ++ "\n"

/-- The rule above and below a heading. -/
def banner : String :=
  line (String.ofList (List.replicate 60 '='))

end FeatureResolution.CommandLine
