import Casebook.Config.Basic
import Casebook.Toml.Document
import Casebook.Toml.Record
import Casebook.Toml.Render

/-! Settings as documents. -/

namespace Casebook

namespace Marker

/-- The entries of a marker. -/
def toDocument (m : Marker) : Toml.Table :=
  [("prefix", .string m.lead),
    ("open_bracket", .string m.openBracket.toString),
    ("close_bracket", .string m.closeBracket.toString),
    ("terminator", .string m.tail)]

/-- The marker of a record. -/
def ofRecord (v : Toml.Value) : Except Toml.Fault Marker := do
  let start : Marker := {}
  .ok
    {
      lead := ← v.field "prefix" 0 Toml.Value.asText start.lead
      openBracket := ← v.field "open_bracket" 1 Toml.Value.asChar start.openBracket
      closeBracket := ← v.field "close_bracket" 2 Toml.Value.asChar start.closeBracket
      tail := ← v.field "terminator" 3 Toml.Value.asText start.tail
    }

end Marker

namespace ScanSettings

/-- Texts as an array. -/
def textsValue (texts : List String) : Toml.Value :=
  .array (texts.map .string)

/-- The entries of the settings of a scan. A depth that is not limited has none. -/
def toDocument (s : ScanSettings) : Toml.Table :=
  [("extensions", textsValue s.extensions),
    ("exclude_dirs", textsValue s.excludeDirs),
    ("exclude_patterns", textsValue s.excludePatterns)]
    ++ (s.maxDepth.toList.map fun (depth : Nat) => ("max_depth", Toml.Value.integer depth))
    ++ [("follow_links", .boolean s.followLinks),
      ("skip_unreadable", .boolean s.skipUnreadable),
      ("strict", .boolean s.strict),
      ("syntax", .table s.marker.toDocument)]

/-- The settings of a scan in a record. -/
def ofRecord (v : Toml.Value) : Except Toml.Fault ScanSettings := do
  let start : ScanSettings := {}
  .ok
    {
      extensions := ← v.field "extensions" 0 Toml.Value.asTexts start.extensions
      excludeDirs := ← v.field "exclude_dirs" 1 Toml.Value.asTexts start.excludeDirs
      excludePatterns := ← v.field "exclude_patterns" 2 Toml.Value.asTexts start.excludePatterns
      maxDepth := ← v.field "max_depth" 3 (fun depth => depth.asCount.map some) start.maxDepth
      followLinks := ← v.field "follow_links" 4 Toml.Value.asFlag start.followLinks
      skipUnreadable := ← v.field "skip_unreadable" 5 Toml.Value.asFlag start.skipUnreadable
      strict := ← v.field "strict" 6 Toml.Value.asFlag start.strict
      marker := ← v.field "syntax" 7 (Toml.Value.asRecord Marker.ofRecord) start.marker
    }

end ScanSettings

namespace OutputSettings

/-- The entries of the settings of the output. -/
def toDocument (o : OutputSettings) : Toml.Table :=
  [("directory", .string o.directory),
    ("stem", .string o.stem),
    ("extension", .string o.extension),
    ("start_index", .integer o.startIndex),
    ("overwrite", .boolean o.overwrite)]

/-- The settings of the output in a record. -/
def ofRecord (v : Toml.Value) : Except Toml.Fault OutputSettings := do
  let start : OutputSettings := {}
  .ok
    {
      directory := ← v.field "directory" 0 Toml.Value.asText start.directory
      stem := ← v.field "stem" 1 Toml.Value.asText start.stem
      extension := ← v.field "extension" 2 Toml.Value.asText start.extension
      startIndex := ← v.field "start_index" 3 Toml.Value.asCount start.startIndex
      overwrite := ← v.field "overwrite" 4 Toml.Value.asFlag start.overwrite
    }

end OutputSettings

namespace Config

/-- The document of some settings. -/
def toDocument (c : Config) : Toml.Table :=
  [("scan", .table c.scan.toDocument), ("output", .table c.output.toDocument)]

/-- The settings in a document. What it does not say keeps its default. -/
def ofDocument (document : Toml.Table) : Except Toml.Fault Config := do
  let start : Config := {}
  let v : Toml.Value := .table document
  .ok
    {
      scan := ← v.field "scan" 0 (Toml.Value.asRecord ScanSettings.ofRecord) start.scan
      output := ← v.field "output" 1 (Toml.Value.asRecord OutputSettings.ofRecord) start.output
    }

/-- The text of the document of some settings, if their numbers fit in one. -/
def render (c : Config) : Except Toml.Fault String :=
  c.toDocument.render

/-- The settings in the text of a document. -/
def ofText (text : String) : Except Toml.Fault Config := do
  ofDocument (← Toml.Table.ofText text)

end Config

end Casebook
