import GoIndex.Proofs.Source.Block

/-!
# The stops of a scan

A scan stops at the headings that it meets and passes over everything else. `stops` lists them, each
with the lines before and behind it, and the declarations of a scan are those of its stops in turn
(`scanLines_eq_flatMap_stops`). What a scan as a whole does follows from three facts about stops:

* a stop lies in the text: the lines above it, its own and those behind it are all the lines there
  are (`Stop.whole_of_mem_stops`);
* a stop begins only behind the lines that an earlier one has taken (`pairwise_stops`);
* the declarations of a stop stand, in order, on the lines that it has taken
  (`Stop.lineNumber_mem_extent`, `Stop.pairwise_declarations`).
-/

namespace GoIndex.Source

open Text

/-- A heading where a scan stops, with the lines above it, nearest first, and the lines behind
it. -/
structure Stop where
  above : List Line
  heading : Heading
  line : Line
  rest : List Line

namespace Stop

/-- The lines that a stop takes. -/
def block (s : Stop) : List Line :=
  (s.heading.extent (s.line :: s.rest)).1

/-- The lines that a stop leaves. -/
def left (s : Stop) : List Line :=
  (s.heading.extent (s.line :: s.rest)).2

/-- The declarations that a stop gives. -/
def declarations (origin : Origin) (s : Stop) : List Declaration :=
  s.heading.declarations origin s.above s.line s.rest

theorem block_append_left (s : Stop) : s.block ++ s.left = s.line :: s.rest :=
  s.heading.extent_append _

theorem block_pos (s : Stop) : 0 < s.block.length := by
  obtain ⟨more, hmore⟩ := s.heading.extent_fst_eq_cons s.line s.rest
  rw [block, hmore]
  exact Nat.succ_pos _

end Stop

/-- The stops of a scan of the lines below `above`, which has the nearest line first. -/
def stops (above : List Line) : List Line → List Stop
  | [] => []
  | line :: rest =>
    match Heading.ofLine? (trim line) with
    | none => stops (line :: above) rest
    | some h =>
      ⟨above, h, line, rest⟩ ::
        stops ((h.extent (line :: rest)).1.reverse ++ above) (h.extent (line :: rest)).2
termination_by lines => lines.length
decreasing_by
  · exact Nat.lt_succ_self rest.length
  · exact h.length_extent_lt line rest

/-- A scan gives what its stops give. -/
theorem scanLines_eq_flatMap_stops (origin : Origin) (above lines : List Line) :
    scanLines origin above lines = (stops above lines).flatMap (Stop.declarations origin) := by
  fun_induction scanLines origin above lines with
  | case1 => rw [stops, List.flatMap_nil]
  | case2 above line rest hnone ih => rw [stops, hnone, ih]
  | case3 above line rest h hsome ih =>
    rw [stops, hsome, List.flatMap_cons, ← ih, Stop.declarations]

/-! ### Where stops stand -/

/-- A stop is made of the lines of the text, and it stands on its heading. -/
theorem Stop.whole_of_mem_stops {above lines : List Line} {s : Stop} (hs : s ∈ stops above lines) :
    s.above.reverse ++ s.line :: s.rest = above.reverse ++ lines ∧
      above.length ≤ s.above.length ∧ Heading.ofLine? (trim s.line) = some s.heading := by
  fun_induction stops above lines with
  | case1 => simp at hs
  | case2 above line rest hnone ih =>
    obtain ⟨hwhole, hlen, hheading⟩ := ih hs
    refine ⟨by simpa using hwhole, ?_, hheading⟩
    rw [List.length_cons] at hlen
    omega
  | case3 above line rest h hsome ih =>
    rcases List.mem_cons.mp hs with rfl | hs
    · exact ⟨rfl, Nat.le_refl _, hsome⟩
    · obtain ⟨hwhole, hlen, hheading⟩ := ih hs
      refine ⟨?_, ?_, hheading⟩
      · rw [hwhole, List.reverse_append, List.reverse_reverse, List.append_assoc,
          h.extent_append]
      · rw [List.length_append] at hlen
        omega

/-- What a stop takes ends within the text. -/
theorem Stop.end_le_of_mem_stops {lines : List Line} {s : Stop} (hs : s ∈ stops [] lines) :
    s.above.length + s.block.length ≤ lines.length := by
  obtain ⟨hwhole, -, -⟩ := whole_of_mem_stops hs
  have hlen := congrArg List.length hwhole
  have hblock := congrArg List.length s.block_append_left
  simp only [List.length_append, List.length_reverse, List.length_nil, Nat.zero_add] at hlen hblock
  omega

/-- The lines from a stop on. -/
theorem Stop.drop_of_mem_stops {lines : List Line} {s : Stop} (hs : s ∈ stops [] lines) :
    lines.drop s.above.length = s.line :: s.rest := by
  obtain ⟨hwhole, -, -⟩ := whole_of_mem_stops hs
  have hdrop := congrArg (List.drop s.above.reverse.length) hwhole
  simpa using hdrop.symm

/-- What a stop takes is a stretch of the text. -/
theorem Stop.block_eq_of_mem_stops {lines : List Line} {s : Stop} (hs : s ∈ stops [] lines) :
    s.block = (lines.drop s.above.length).take s.block.length := by
  rw [drop_of_mem_stops hs, ← s.block_append_left, List.take_left]

/-- **Order of stops**: a later stop begins behind all that an earlier one has taken. -/
theorem pairwise_stops (above lines : List Line) :
    (stops above lines).Pairwise fun s t => s.above.length + s.block.length ≤ t.above.length := by
  fun_induction stops above lines with
  | case1 => exact List.Pairwise.nil
  | case2 above line rest hnone ih => exact ih
  | case3 above line rest h hsome ih =>
    refine List.pairwise_cons.mpr ⟨fun t ht => ?_, ih⟩
    -- the scan goes on below all that was taken, and a stop has at least the lines above the scan
    obtain ⟨-, hlen, -⟩ := Stop.whole_of_mem_stops ht
    rw [List.length_append, List.length_reverse] at hlen
    simp only [Stop.block]
    omega

/-! ### What a stop gives -/

/-- The entries of a group stand between its first and its last line. -/
theorem distance_lt_of_mem_groupEntries {block : List Line} {r : Entry × Nat}
    (hr : r ∈ groupEntries block) : 1 ≤ r.2 ∧ r.2 + 1 < block.length := by
  obtain ⟨⟨line, i⟩, hline, hentry⟩ := List.mem_filterMap.mp hr
  obtain ⟨entry, -, rfl⟩ := Option.map_eq_some_iff.mp hentry
  have hle := List.le_snd_of_mem_zipIdx hline
  have hlt := List.snd_lt_of_mem_zipIdx hline
  simp only [List.length_dropLast, List.length_tail] at hlt
  exact ⟨hle, by omega⟩

/-- The entries of a group come in the order of their lines. -/
theorem pairwise_groupEntries (block : List Line) :
    (groupEntries block).Pairwise fun r t => r.2 < t.2 := by
  rw [groupEntries, List.pairwise_filterMap]
  have hidx : ((block.tail.dropLast.zipIdx 1).map Prod.snd).Pairwise (· < ·) := by
    rw [List.zipIdx_map_snd]
    exact List.pairwise_lt_range'
  refine (List.pairwise_map.mp hidx).imp fun {a b} hab r hr t ht => ?_
  obtain ⟨_, -, rfl⟩ := Option.map_eq_some_iff.mp hr
  obtain ⟨_, -, rfl⟩ := Option.map_eq_some_iff.mp ht
  exact hab

namespace Stop

/-- What a stop without a group gives is one declaration, on the line of the heading. -/
theorem declarations_eq_singleton (origin : Origin) (s : Stop)
    (hgroup : ∀ kind, s.heading ≠ .group kind) :
    ∃ d, s.declarations origin = [d] ∧ d.lineNumber = s.above.length + 1 := by
  obtain ⟨above, heading, line, rest⟩ := s
  cases heading with
  | group kind => exact absurd rfl (hgroup kind)
  | _ => exact ⟨_, rfl, rfl⟩

/-- What a stop at a group gives is the exported entries, each on its own line. -/
theorem declarations_group (origin : Origin) (s : Stop) {kind : ValueKind}
    (hgroup : s.heading = .group kind) :
    s.declarations origin = ((groupEntries s.block).filter (isExported ·.1.name)).map fun r =>
      origin.grouped s.above kind.kind r.1 r.2 := by
  obtain ⟨above, heading, line, rest⟩ := s
  obtain rfl : heading = .group kind := hgroup
  rfl

/-- The declarations of a stop stand on lines that it has taken. -/
theorem lineNumber_mem_extent {origin : Origin} {s : Stop} {d : Declaration}
    (hd : d ∈ s.declarations origin) :
    (s.above.length : Int) < d.lineNumber ∧ d.lineNumber ≤ s.above.length + s.block.length := by
  by_cases hgroup : ∃ kind, s.heading = .group kind
  · obtain ⟨kind, hkind⟩ := hgroup
    rw [s.declarations_group origin hkind] at hd
    obtain ⟨r, hr, rfl⟩ := List.mem_map.mp hd
    obtain ⟨hpos, hlt⟩ := distance_lt_of_mem_groupEntries (List.mem_filter.mp hr).1
    simp only [Origin.grouped]
    omega
  · obtain ⟨d', hd', hline⟩ :=
      s.declarations_eq_singleton origin fun kind hkind => hgroup ⟨kind, hkind⟩
    obtain rfl : d = d' := by simpa [hd'] using hd
    have hpos := s.block_pos
    omega

/-- The declarations of a stop come in the order of their lines. -/
theorem pairwise_declarations (origin : Origin) (s : Stop) :
    (s.declarations origin).Pairwise fun a b => a.lineNumber < b.lineNumber := by
  by_cases hgroup : ∃ kind, s.heading = .group kind
  · obtain ⟨kind, hkind⟩ := hgroup
    rw [s.declarations_group origin hkind, List.pairwise_map]
    refine ((pairwise_groupEntries s.block).filter _).imp fun {r t} hrt => ?_
    simp only [Origin.grouped]
    omega
  · obtain ⟨d, hd, -⟩ :=
      s.declarations_eq_singleton origin fun kind hkind => hgroup ⟨kind, hkind⟩
    rw [hd]
    exact List.pairwise_singleton _ d

/-- The declarations of a stop name the file and the module that they come from. -/
theorem origin_of_mem_declarations {origin : Origin} {s : Stop} {d : Declaration}
    (hd : d ∈ s.declarations origin) :
    d.sourceFile = origin.sourceFile ∧ d.module = origin.module := by
  obtain ⟨above, heading, line, rest⟩ := s
  cases heading with
  | group kind =>
    obtain ⟨r, -, rfl⟩ := List.mem_map.mp hd
    exact ⟨rfl, rfl⟩
  | _ =>
    obtain rfl := List.mem_singleton.mp hd
    exact ⟨rfl, rfl⟩

/-- A declaration with a block is the only one of its stop; it stands on the heading, and its block
is all that the stop has taken. -/
theorem fullBlock_of_mem_declarations {origin : Origin} {s : Stop} {d : Declaration}
    {block : String} (hd : d ∈ s.declarations origin) (hblock : d.fullBlock = some block) :
    s.declarations origin = [d] ∧ d.lineNumber = s.above.length + 1 ∧
      block = String.ofList (unlines s.block) := by
  obtain ⟨above, heading, line, rest⟩ := s
  cases heading with
  | interface name | struct name =>
    obtain rfl := List.mem_singleton.mp hd
    exact ⟨rfl, rfl, (Option.some.inj hblock).symm⟩
  | type name equated value | method receiver name | function name | single kind name value =>
    obtain rfl := List.mem_singleton.mp hd
    exact nomatch hblock
  | group kind =>
    obtain ⟨r, -, rfl⟩ := List.mem_map.mp hd
    exact nomatch hblock

end Stop

end GoIndex.Source
