import Mathlib.Data.List.Nodup
import GoIndex.Proofs.Data.Yaml.Keys
import GoIndex.Settings.Load

/-!
# Settings in layers

The project's settings are laid over the user's (`mergeLayers_lays_project_over_user`). What this
does to a field is read off the path that leads to it, through its section, by the laws of maps laid
over each other. They ask that no key stands twice in a map, and a settings file gives no other maps
(`proper_of_readDocument`).

The value of a field in two layers is the project's, or else the user's, with one exception
(`layered`): two maps are laid over each other, so that neither of them is handed to validation as
it was (`maps_of_a_field_are_merged`).
-/

namespace GoIndex

open Data

/-! ### Fields -/

/-- The names of the sections. -/
def sectionNames : List String :=
  ["scan", "search"]

/-- What entries hold under a section and a name in it. -/
def fieldAt? (entries : Entries) (part name : String) : Option Value :=
  Value.at? [.text part, .text name] (.map entries)

/-- Whether the sections are maps, as far as they are there. -/
def HasSections (entries : Entries) : Prop :=
  ∀ part ∈ sectionNames, ∀ value, valueAt? (.text part) entries = some value → value.isMap

/-- The map that a settings file stands for is proper, however deep it is looked at. -/
theorem proper_of_readDocument {source : Yaml.Source} {document : Yaml.Document}
    (h : readDocument (some source) = .ok (some document)) (depth : Nat) :
    (Value.map (document.entries depth)).Proper := by
  unfold readDocument at h
  dsimp only at h
  split at h
  · next parsed hparse =>
    obtain rfl := Option.some.inj (Except.ok.inj h)
    exact Yaml.Document.proper_entries (Yaml.nodup_keysOf_entriesAt hparse) depth
  all_goals cases h

/-! ### A field in two layers -/

/-- The value of a field in two layers: the project's, else the user's; two maps are laid over each
other. -/
def layered : (project user : Option Value) → Option Value
  | some (.map above), some (.map below) => some (.map (mergeEntries below above))
  | some value, _ => some value
  | none, value => value

theorem layered_eq (project user : Option Value) :
    layered project user = (project.map (·.over user)).or user := by
  rcases project with _ | value | items | above
  · rfl
  · rw [Option.map_some, Value.over_scalar]
    rfl
  · rw [Option.map_some, Value.over_list]
    rfl
  · obtain ⟨below, rfl, hover⟩ | ⟨hnot, hover⟩ := Value.map_over_cases above user
    · rw [Option.map_some, hover]
      rfl
    · rw [Option.map_some, hover]
      rcases user with _ | value | items | below
      · rfl
      · rfl
      · rfl
      · exact absurd rfl (hnot below)

/-- **A field of two layers** is the project's value, or else the user's. -/
theorem fieldAt?_mergeEntries {user project : Entries} (hproject : (Value.map project).Proper)
    (h : HasSections project) {part : String} (hpart : part ∈ sectionNames) (name : String) :
    fieldAt? (mergeEntries user project) part name =
      layered (fieldAt? project part name) (fieldAt? user part name) := by
  have hmerged : Value.map (mergeEntries user project) =
      (Value.map project).over (some (.map user)) := (Value.over_map_map project user).symm
  rw [layered_eq]
  cases hfield : fieldAt? project part name with
  | some value =>
    rw [fieldAt?, hmerged, Value.at?_over_of_some hproject hfield]
    rfl
  | none =>
    rw [fieldAt?, hmerged, Value.at?_over_of_none hproject hfield]
    · rfl
    -- the way to a field leads through the whole and through its section
    intro front value hfront hne hvalue
    rcases front with _ | ⟨first, _ | ⟨second, rest⟩⟩
    · obtain rfl := Option.some.inj hvalue
      rfl
    · obtain ⟨rfl, -⟩ := List.cons_prefix_cons.mp hfront
      rw [Value.at?_map_cons, Option.bind_eq_some_iff] at hvalue
      obtain ⟨held, hheld, hsame⟩ := hvalue
      obtain rfl := Option.some.inj hsame
      exact h part hpart held hheld
    · obtain ⟨rfl, hrest⟩ := List.cons_prefix_cons.mp hfront
      obtain ⟨rfl, hlast⟩ := List.cons_prefix_cons.mp hrest
      obtain rfl := List.prefix_nil.mp hlast
      exact absurd rfl hne

/-- **The project's settings are laid over the user's.**

* Laying one map over another is told path by path (`LaidOver`); it keeps maps proper, once is as
  good as twice, and the empty map changes nothing on either side.
* Of two layers whose sections are maps or missing, each field that is handed to validation is the
  project's value if there is one, else the user's, and nothing if neither has one; only where both
  are maps it is the one laid over the other. -/
theorem mergeLayers_lays_project_over_user :
    (∀ base upper : Entries, (Value.map upper).Proper →
      LaidOver base upper (mergeEntries base upper) ∧
        ((Value.map base).Proper → (Value.map (mergeEntries base upper)).Proper) ∧
        mergeEntries (mergeEntries base upper) upper = mergeEntries base upper ∧
        mergeEntries [] upper = upper ∧ mergeEntries base [] = base) ∧
    ∀ user project : Entries, (Value.map user).Proper → (Value.map project).Proper →
      HasSections user → HasSections project → ∀ part ∈ sectionNames, ∀ name,
        fieldAt? (mergeLayers user project) part name =
          layered (fieldAt? project part name) (fieldAt? user part name) := by
  refine ⟨fun base upper hupper => ⟨laidOver_mergeEntries hupper base, fun hbase => ?_,
    mergeEntries_mergeEntries hupper base, mergeEntries_nil_left hupper.nodup_keysOf,
    mergeEntries_nil base⟩, ?_⟩
  · rw [← Value.over_map_map]
    exact Value.proper_over hupper fun value hvalue => Option.some.inj hvalue ▸ hbase
  · intro user project huser hproject _ hsections part hpart name
    rw [mergeLayers, mergeEntries_nil_left huser.nodup_keysOf,
      fieldAt?_mergeEntries hproject hsections hpart]

/-! ### Two layers -/

/-- A layer with two sections of scalars. -/
private def sections (scan search : List (String × Scalar)) : Entries :=
  let part (fields : List (String × Scalar)) : Value :=
    .map (fields.map fun field => (.text field.1, .scalar field.2))
  [(.text "scan", part scan), (.text "search", part search)]

private theorem hasSections_sections (scan search : List (String × Scalar)) :
    HasSections (sections scan search) := by
  intro part hpart value hvalue
  rcases List.mem_pair.mp hpart with rfl | rfl <;> cases hvalue <;> rfl

private theorem proper_sections {scan search : List (String × Scalar)}
    (hscan : (scan.map Prod.fst).Nodup) (hsearch : (search.map Prod.fst).Nodup) :
    (Value.map (sections scan search)).Proper := by
  have hpart {fields : List (String × Scalar)} (h : (fields.map Prod.fst).Nodup) :
      (Value.map (fields.map fun field => (.text field.1, .scalar field.2))).Proper := by
    refine .map ?_ fun entry hentry => ?_
    · have htext : Function.Injective Scalar.text := fun _ _ heq => Scalar.text.inj heq
      have hkeys : keysOf (fields.map fun field => (Scalar.text field.1, Value.scalar field.2)) =
          (fields.map Prod.fst).map Scalar.text := by
        simp [keysOf, Scalar.asKey]
      rw [hkeys]
      exact h.map htext
    · obtain ⟨field, -, rfl⟩ := List.mem_map.mp hentry
      exact .scalar field.2
  have hnames : (keysOf (sections scan search)).Nodup := by
    simp [sections, keysOf, Scalar.asKey]
  refine .map hnames fun entry hentry => ?_
  rcases List.mem_pair.mp hentry with rfl | rfl
  · exact hpart hscan
  · exact hpart hsearch

/-- The settings of a user. -/
private def ofUser : Entries :=
  sections [("root_marker", .text "W"), ("source_suffix", .text ".x")] [("default_limit", .int 5)]

/-- The settings of a project. -/
private def ofProject : Entries :=
  sections [("source_suffix", .text ".y"), ("test_suffix", .text "_t.y")] [("topic_limit", .int 3)]

/-- Both layers have a suffix, and the project's counts; what only one of them has is handed as it
is, and what neither has is not handed at all. -/
theorem mergeLayers_lays_project_over_user_of_two :
    let handed := fieldAt? (mergeLayers ofUser ofProject)
    handed "scan" "source_suffix" = some (.text ".y") ∧
      handed "scan" "root_marker" = some (.text "W") ∧
      handed "scan" "test_suffix" = some (.text "_t.y") ∧
      handed "scan" "skip_dirs" = none ∧
      handed "search" "default_limit" = some (.int 5) ∧
      handed "search" "topic_limit" = some (.int 3) ∧
      mergeEntries (mergeEntries ofUser ofProject) ofProject = mergeEntries ofUser ofProject := by
  intro handed
  obtain ⟨hmerge, hfield⟩ := mergeLayers_lays_project_over_user
  have huser : (Value.map ofUser).Proper := proper_sections (by decide) (by decide)
  have hproject : (Value.map ofProject).Proper := proper_sections (by decide) (by decide)
  have hlaw := hfield ofUser ofProject huser hproject (hasSections_sections _ _)
    (hasSections_sections _ _)
  have hscan (name : String) := hlaw "scan" (by decide) name
  have hsearch (name : String) := hlaw "search" (by decide) name
  exact ⟨(hscan _).trans rfl, (hscan _).trans rfl, (hscan _).trans rfl, (hscan _).trans rfl,
    (hsearch _).trans rfl, (hsearch _).trans rfl, (hmerge ofUser ofProject hproject).2.2.1⟩

/-- A layer with a map for the suffix of source files. -/
private def suffixMap (key : String) (value : Int) : Entries :=
  [(.text "scan", .map [(.text "source_suffix", .map [(.text key, .int value)])])]

private theorem hasSections_suffixMap (key : String) (value : Int) :
    HasSections (suffixMap key value) := by
  intro part hpart found hfound
  rcases List.mem_pair.mp hpart with rfl | rfl
  · obtain rfl := Option.some.inj hfound
    rfl
  · cases hfound

/-- Where both layers have a map for a field, the project's value is not what is handed to
validation: the map that is handed has the keys of both. -/
theorem maps_of_a_field_are_merged :
    HasSections (suffixMap "a" 1) ∧ HasSections (suffixMap "b" 2) ∧
    fieldAt? (suffixMap "b" 2) "scan" "source_suffix" = some (.map [(.text "b", .int 2)]) ∧
    fieldAt? (mergeLayers (suffixMap "a" 1) (suffixMap "b" 2)) "scan" "source_suffix" =
      some (.map [(.text "a", .int 1), (.text "b", .int 2)]) ∧
    fieldAt? (mergeLayers (suffixMap "a" 1) (suffixMap "b" 2)) "scan" "source_suffix" ≠
      fieldAt? (suffixMap "b" 2) "scan" "source_suffix" := by
  have hproject : fieldAt? (suffixMap "b" 2) "scan" "source_suffix" =
      some (.map [(.text "b", .int 2)]) := rfl
  have hhanded : fieldAt? (mergeLayers (suffixMap "a" 1) (suffixMap "b" 2)) "scan"
      "source_suffix" = some (.map [(.text "a", .int 1), (.text "b", .int 2)]) := rfl
  refine ⟨hasSections_suffixMap "a" 1, hasSections_suffixMap "b" 2, hproject, hhanded, ?_⟩
  rw [hproject, hhanded]
  simp

end GoIndex
