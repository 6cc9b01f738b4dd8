import GoIndex.Proofs.Data.Json
import GoIndex.Report

/-!
# Reports are plain

Every report is made of records, lists, texts, integers and truth values, and nothing else. It is
therefore a plain value, and its printed form is JSON.
-/

namespace GoIndex

open Data

namespace Data.Value

attribute [simp] Plain.null Plain.bool Plain.int Plain.text

@[simp]
theorem plain_list {items : List Value} :
    (Value.list items).Plain ↔ ∀ item ∈ items, item.Plain := by
  constructor
  · intro h
    cases h with
    | list h => exact h
  · exact .list

/-- A record is plain when its fields are. -/
@[simp]
theorem plain_record {fields : List (String × Value)} :
    (Value.record fields).Plain ↔ ∀ field ∈ fields, field.2.Plain := by
  rw [record]
  constructor
  · intro h field hfield
    cases h with
    | map _ hvalues => exact hvalues _ (List.mem_map_of_mem hfield)
  · intro h
    refine .map (fun entry hentry => ?_) fun entry hentry => ?_
    · obtain ⟨field, -, rfl⟩ := List.mem_map.mp hentry
      exact ⟨field.1, rfl⟩
    · obtain ⟨field, hfield, rfl⟩ := List.mem_map.mp hentry
      exact h field hfield

@[simp]
theorem plain_texts (texts : List String) : (Value.texts texts).Plain := by
  simp [Value.texts]

@[simp]
theorem plain_textOrNull (text? : Option String) : (Value.textOrNull text?).Plain := by
  cases text? <;> simp [textOrNull]

end Data.Value

@[simp]
theorem Member.plain_report (m : Member) : m.report.Plain := by
  simp [Member.report]

@[simp]
theorem Declaration.plain_report (d : Declaration) : d.report.Plain := by
  simp [Declaration.report]

@[simp]
theorem Hit.plain_report (hit : Hit) : hit.report.Plain := by
  simp [Hit.report]

@[simp]
theorem Counts.plain_report (counts : Counts) : (Counts.report counts).Plain := by
  simp [Counts.report]

@[simp]
theorem plain_tallyReport (tally : List (String × Nat)) : (tallyReport tally).Plain := by
  rw [tallyReport, Value.plain_list]
  intro row hrow
  obtain ⟨count, -, rfl⟩ := List.mem_map.mp hrow
  simp

@[simp]
theorem Topic.plain_report (topic : Topic) : (topic.report Hit.report).Plain := by
  simp [Topic.report]

@[simp]
theorem ModuleStatistics.plain_report (statistics : ModuleStatistics) :
    statistics.report.Plain := by
  simp [ModuleStatistics.report]

@[simp]
theorem ModuleSummary.plain_report (summary : ModuleSummary) :
    (summary.report Declaration.report).Plain := by
  simp [ModuleSummary.report]

@[simp]
theorem LibraryStatistics.plain_report (statistics : LibraryStatistics) :
    statistics.report.Plain := by
  simp [LibraryStatistics.report]

@[simp]
theorem Relations.plain_report (relations : Relations) :
    (relations.report Declaration.report).Plain := by
  simp [Relations.report]

@[simp]
theorem Index.Dependencies.plain_report (dependencies : Index.Dependencies) :
    dependencies.report.Plain := by
  simp [Index.Dependencies.report]

end GoIndex
