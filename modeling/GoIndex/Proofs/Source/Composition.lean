import Mathlib.Data.List.Basic
import GoIndex.Proofs.Source.Stops
import GoIndex.Proofs.Text.Lines

/-!
# Scanning two texts as one

When every block of a text has closed, what follows the text is scanned as if it stood alone
(`outlines_append_newline`): the declarations of the whole are those of the first part and then
those of the second, further down by as many lines as the first part has.

Two things are left out of the comparison, since they do look across the seam: a function header may
go on in the second part, and a comment at the end of the first may document what the second begins
with. An `Outline` is a declaration without them.

The argument is about stops alone. More lines at the end change only what lies behind a stop
(`stops_append`), more lines at the start only what lies above it (`stops_append_above`), and an
outline depends on neither, but for its line number.
-/

namespace GoIndex

/-- What a declaration says without its signature and its documentation. -/
structure Outline where
  name : String
  kind : Kind
  sourceFile : String
  module : String
  lineNumber : Int
  fullBlock : Option String
  members : List Member
  literalValue : Option String
  deriving DecidableEq, Repr

/-- The outline of a declaration. -/
def Declaration.outline (d : Declaration) : Outline where
  name := d.name
  kind := d.kind
  sourceFile := d.sourceFile
  module := d.module
  lineNumber := d.lineNumber
  fullBlock := d.fullBlock
  members := d.members
  literalValue := d.literalValue

/-- The same outline, so many lines further down. -/
def Outline.moveDown (count : Nat) (o : Outline) : Outline :=
  { o with lineNumber := o.lineNumber + count }

namespace Source

open Text

/-- The outlines of the declarations in a text. -/
def outlines (origin : Origin) (text : List Char) : List Outline :=
  (scan origin text).map Declaration.outline

namespace Stop

/-- Whether the block of a stop has closed; a stop without a block has nothing to close. -/
def isClosed (s : Stop) : Bool :=
  s.heading.delimiters?.all fun d => (Balance.behindAll d {} s.block).isClosed

/-- The outlines of the declarations that a stop gives. -/
def outlines (origin : Origin) (s : Stop) : List Outline :=
  (s.declarations origin).map Declaration.outline

/-- A stop with more lines at the end of the text. -/
def followedBy (more : List Line) (s : Stop) : Stop :=
  { s with rest := s.rest ++ more }

/-- A stop with more lines at the start of the text, nearest first. -/
def below (above : List Line) (s : Stop) : Stop :=
  { s with above := s.above ++ above }

theorem extent_followedBy {s : Stop} (hclosed : s.isClosed) (more : List Line) :
    s.heading.extent (s.line :: (s.rest ++ more)) = (s.block, s.left ++ more) := by
  refine Heading.extent_cons_append (fun d hd => ?_) more
  rw [isClosed, Option.mem_def.mp hd] at hclosed
  exact hclosed

/-- Lines behind a closed stop leave its outlines as they are. -/
theorem outlines_followedBy (origin : Origin) {s : Stop} (hclosed : s.isClosed)
    (more : List Line) : (s.followedBy more).outlines origin = s.outlines origin := by
  have hblock := congrArg Prod.fst (extent_followedBy hclosed more)
  obtain ⟨above, heading, line, rest⟩ := s
  -- only a block reads further than the line of the heading
  cases heading with
  | interface name | struct name =>
    simp only [outlines, declarations, followedBy, Heading.declarations]
    rw [hblock]
    rfl
  | group kind =>
    simp only [outlines, declarations, followedBy, Heading.declarations]
    rw [hblock]
    rfl
  | type name equated value | method receiver name | function name | single kind name value =>
    rfl

/-- Lines above a stop move its outlines down. -/
theorem outlines_below (origin : Origin) (above : List Line) (s : Stop) :
    (s.below above).outlines origin =
      (s.outlines origin).map (Outline.moveDown above.length) := by
  have hcount : ((s.above ++ above).length : Int) = s.above.length + above.length := by
    rw [List.length_append, Int.natCast_add]
  by_cases hgroup : ∃ kind, s.heading = .group kind
  · obtain ⟨kind, hkind⟩ := hgroup
    have hkind' : (s.below above).heading = .group kind := hkind
    rw [outlines, outlines, declarations_group origin _ hkind, declarations_group origin _ hkind',
      List.map_map, List.map_map, List.map_map]
    refine List.map_congr_left fun r _ => ?_
    simp only [Function.comp_apply, Declaration.outline, Origin.grouped, Origin.declaration, below,
      Outline.moveDown, hcount, Outline.mk.injEq, true_and, and_true]
    omega
  · obtain ⟨stopAbove, heading, line, rest⟩ := s
    cases heading with
    | group kind => exact absurd ⟨kind, rfl⟩ hgroup
    | interface name | struct name | type name equated value | method receiver name
    | function name | single kind name value =>
      simp only [outlines, declarations, below, Heading.declarations, List.map_cons, List.map_nil,
        Declaration.outline, Origin.composite, Origin.declaration, Outline.moveDown, hcount,
        List.cons.injEq, Outline.mk.injEq, true_and, and_true]
      omega

end Stop

/-! ### Stops of a longer text -/

/-- **More lines at the end** of a text whose blocks have closed: the scan meets the same stops, and
goes on with the new lines where they begin. -/
theorem stops_append {above ls : List Line} (hclosed : ∀ s ∈ stops above ls, s.isClosed)
    (more : List Line) :
    stops above (ls ++ more) =
      (stops above ls).map (Stop.followedBy more) ++ stops (ls.reverse ++ above) more := by
  fun_induction stops above ls with
  | case1 => rfl
  | case2 above line rest hnone ih =>
    rw [List.cons_append, stops, hnone]
    rw [ih hclosed, List.reverse_cons, List.append_assoc, List.singleton_append]
  | case3 above line rest h hsome ih =>
    have hfirst : Stop.isClosed ⟨above, h, line, rest⟩ := hclosed _ List.mem_cons_self
    have hextent := Stop.extent_followedBy hfirst more
    simp only [Stop.block, Stop.left] at hextent
    -- the block and what it leaves are the lines of the first text, so the seam stays where it is
    have hlines : (h.extent (line :: rest)).2.reverse ++ (h.extent (line :: rest)).1.reverse =
        (line :: rest).reverse := by
      rw [← List.reverse_append, h.extent_append]
    rw [List.cons_append, stops, hsome]
    simp only [hextent]
    rw [ih fun s hs => hclosed s (List.mem_cons_of_mem _ hs), ← List.append_assoc, hlines,
      List.map_cons, List.cons_append, Stop.followedBy]

/-- **More lines at the start** of a text: the scan meets the same stops below them. -/
theorem stops_append_above (near above ls : List Line) :
    stops (near ++ above) ls = (stops near ls).map (Stop.below above) := by
  fun_induction stops near ls with
  | case1 => rw [stops, List.map_nil]
  | case2 near line rest hnone ih => rw [stops, hnone, ← ih, List.cons_append]
  | case3 near line rest h hsome ih =>
    rw [stops, hsome]
    simp only [List.map_cons]
    rw [← ih, List.append_assoc, Stop.below]

/-- The outlines of a text are those of its stops. -/
theorem outlines_eq_flatMap_stops (origin : Origin) (text : List Char) :
    outlines origin text = (stops [] (lines text)).flatMap (Stop.outlines origin) := by
  rw [outlines, scan, scanLines_eq_flatMap_stops, List.map_flatMap]
  rfl

/-- **Composition**: two texts with a line feed between them have the outlines of the first and then
those of the second, moved down by the lines of the first. The first must have no open block at its
end, and no carriage return that the line feed would take along. -/
theorem outlines_append_newline (origin : Origin) (a b : List Char)
    (hreturn : a.getLast? ≠ some '\r') (hclosed : ∀ s ∈ stops [] (lines a), s.isClosed) :
    outlines origin (a ++ '\n' :: b) =
      outlines origin a ++ (outlines origin b).map (Outline.moveDown (lines a).length) := by
  have hfront : ((stops [] (lines a)).map (Stop.followedBy (lines b))).flatMap
      (Stop.outlines origin) = (stops [] (lines a)).flatMap (Stop.outlines origin) := by
    rw [List.flatMap_map]
    exact List.flatMap_congr fun s hs => Stop.outlines_followedBy origin (hclosed s hs) (lines b)
  have hback : ((stops [] (lines b)).map (Stop.below (lines a).reverse)).flatMap
      (Stop.outlines origin) =
        ((stops [] (lines b)).flatMap (Stop.outlines origin)).map
          (Outline.moveDown (lines a).length) := by
    rw [List.flatMap_map, List.map_flatMap]
    refine List.flatMap_congr fun s _ => ?_
    rw [Stop.outlines_below, List.length_reverse]
  calc outlines origin (a ++ '\n' :: b)
      = (stops [] (lines a ++ lines b)).flatMap (Stop.outlines origin) := by
        rw [outlines_eq_flatMap_stops, lines_append_newline b hreturn]
    _ = (stops [] (lines a)).flatMap (Stop.outlines origin) ++
          ((stops [] (lines b)).flatMap (Stop.outlines origin)).map
            (Outline.moveDown (lines a).length) := by
        have habove := stops_append_above [] (lines a).reverse (lines b)
        rw [List.nil_append] at habove
        rw [stops_append hclosed, List.append_nil, habove, List.flatMap_append, hfront, hback]
    _ = outlines origin a ++ (outlines origin b).map (Outline.moveDown (lines a).length) := by
        rw [outlines_eq_flatMap_stops, outlines_eq_flatMap_stops]

/-- A struct and a group that closes on the last line above the seam, and a function below it. -/
theorem outlines_append_newline_group :
    outlines ⟨"a/a.go", "a", 12⟩
        ("type A struct \x7b\n  X int\n\x7d\nconst (\n  B = 1\n)".toList ++
          '\n' :: "func C(\n)".toList) =
      outlines ⟨"a/a.go", "a", 12⟩
          "type A struct \x7b\n  X int\n\x7d\nconst (\n  B = 1\n)".toList ++
        (outlines ⟨"a/a.go", "a", 12⟩ "func C(\n)".toList).map (Outline.moveDown 6) :=
  outlines_append_newline _ _ _ (by decide) (by decide +kernel)

end Source

end GoIndex
