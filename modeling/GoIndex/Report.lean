import GoIndex.Catalog.Ranking
import GoIndex.Catalog.Relations
import GoIndex.Catalog.Summary
import GoIndex.Data.Value
import GoIndex.Index

/-!
# Reports

Declarations and answers as data values, in the shape in which they are printed.
-/

namespace GoIndex

open Data

/-- A member as a value. -/
def Member.report (m : Member) : Value :=
  .record [
    ("name", .text m.name),
    ("type", .text m.type),
    ("parameters", .texts m.parameters),
    ("return_type", .text m.returnType),
    ("is_method", .bool m.isMethod),
    ("is_call_signature", .bool m.isCallSignature),
    ("is_index_signature", .bool m.isIndexSignature)]

/-- A declaration as a value. -/
def Declaration.report (d : Declaration) : Value :=
  .record [
    ("name", .text d.name),
    ("kind", .text d.kind.label),
    ("source_file", .text d.sourceFile),
    ("module", .text d.module),
    ("signature", .text d.signature),
    ("line_number", .int d.lineNumber),
    ("full_block", .textOrNull d.fullBlock),
    ("members", .list (d.members.map Member.report)),
    ("documentation", .textOrNull d.documentation),
    ("literal_value", .textOrNull d.literalValue)]

/-- A hit as a value. -/
def Hit.report (hit : Hit) : Value :=
  .record [
    ("declaration", hit.declaration.report),
    ("score", .int hit.score),
    ("matched_in", .texts (hit.labels.map Label.text))]

/-- Counts as a value, all kinds in order. -/
def Counts.report (counts : Counts) : Value :=
  .record (Kind.all.map fun kind => (kind.label, .int (counts kind)))

/-- Tallied names as a value. -/
def tallyReport (tally : List (String × Nat)) : Value :=
  .list (tally.map fun row => .list [.text row.1, .int row.2])

/-- A topic as a value; `hit` gives the shape of a hit. -/
def Topic.report (hit : Hit → Value) (topic : Topic) : Value :=
  .record [
    ("topic", .text topic.topic),
    ("results", .list (topic.hits.map hit)),
    ("modules", tallyReport topic.modules),
    ("kinds", tallyReport (topic.kinds.map fun row => (row.1.label, row.2)))]

/-- The statistics of a module as a value. -/
def ModuleStatistics.report (statistics : ModuleStatistics) : Value :=
  .record [
    ("module", .text statistics.module),
    ("counts", Counts.report statistics.counts),
    ("total", .int statistics.total)]

/-- The summary of a module as a value; `highlight` gives the shape of a highlight. -/
def ModuleSummary.report (highlight : Declaration → Value) (summary : ModuleSummary) : Value :=
  .record [
    ("module", .text summary.module),
    ("total", .int summary.total),
    ("counts", Counts.report summary.counts),
    ("files", .texts summary.files),
    ("highlights", .list (summary.highlights.map highlight))]

/-- The statistics of a catalog as a value. -/
def LibraryStatistics.report (statistics : LibraryStatistics) : Value :=
  .record [
    ("total", .int statistics.total),
    ("counts", Counts.report statistics.counts),
    ("modules", .list (statistics.modules.map ModuleStatistics.report)),
    ("top_contracts", .texts statistics.topInterfaces),
    ("top_types", .texts statistics.topTypes),
    ("top_functions", .texts statistics.topFunctions)]

/-- Relations as a value; `target` gives the shape of the target. -/
def Relations.report (target : Declaration → Value) (relations : Relations) : Value :=
  .record [
    ("target", target relations.target),
    ("parents", .texts relations.parents),
    ("children", .texts relations.children)]

/-- The dependencies of a module as a value. -/
def Index.Dependencies.report (dependencies : Index.Dependencies) : Value :=
  .record [
    ("module", .text dependencies.module),
    ("imports", .texts dependencies.imports),
    ("exports", .texts dependencies.exports),
    ("re_exports", .texts dependencies.reExports)]

end GoIndex
