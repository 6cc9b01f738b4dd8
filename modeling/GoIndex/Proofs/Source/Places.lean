import GoIndex.Proofs.Source.Stops
import GoIndex.Proofs.Text.Lines

/-!
# Places of declarations

Every declaration of a scan stands on a line of the text, and no two stand on the same one
(`scan_declarations_in_place`). A declaration with a block owns the lines of the block: the block is
that stretch of the text, and no other declaration stands on it. All of this holds of every text,
with blocks that never close among them.

The order of the declarations is the order of the stops and, within a group, that of its entries.
What a block owns follows from comparing its stop with any other.
-/

namespace GoIndex.Source

open Text

/-- The declarations of a text come in the order of their lines, no two on one line. -/
theorem pairwise_lineNumber_scan (origin : Origin) (text : List Char) :
    (scan origin text).Pairwise fun a b => a.lineNumber < b.lineNumber := by
  rw [scan, scanLines_eq_flatMap_stops, List.pairwise_flatMap]
  refine ⟨fun s _ => s.pairwise_declarations origin, ?_⟩
  refine (pairwise_stops [] (lines text)).imp fun {s t} hst a ha b hb => ?_
  have hla := Stop.lineNumber_mem_extent ha
  have hlb := Stop.lineNumber_mem_extent hb
  omega

/-- A declaration of a scan comes from one of its stops. -/
theorem exists_stop_of_mem_scan {origin : Origin} {text : List Char} {d : Declaration}
    (hd : d ∈ scan origin text) : ∃ s ∈ stops [] (lines text), d ∈ s.declarations origin := by
  rw [scan, scanLines_eq_flatMap_stops] at hd
  exact List.mem_flatMap.mp hd

/-- The declarations of a scan name the file and the module that they come from. -/
theorem origin_of_mem_scan {origin : Origin} {text : List Char} {d : Declaration}
    (hd : d ∈ scan origin text) : d.sourceFile = origin.sourceFile ∧ d.module = origin.module := by
  obtain ⟨s, -, hds⟩ := exists_stop_of_mem_scan hd
  exact Stop.origin_of_mem_declarations hds

/-- Two stops of one scan are the same, or one ends before the other begins. -/
theorem eq_or_apart_of_mem_stops {above lines : List Line} {s t : Stop}
    (hs : s ∈ stops above lines) (ht : t ∈ stops above lines) :
    s = t ∨ s.above.length + s.block.length ≤ t.above.length ∨
      t.above.length + t.block.length ≤ s.above.length := by
  have hpair := pairwise_stops above lines
  exact List.Pairwise.forall_of_forall_of_flip
    (R := fun s t : Stop => s = t ∨ s.above.length + s.block.length ≤ t.above.length ∨
      t.above.length + t.block.length ≤ s.above.length)
    (fun x _ => Or.inl rfl) (hpair.imp fun h => Or.inr (Or.inl h))
    (hpair.imp fun h => Or.inr (Or.inr h)) hs ht

/-- A block read back from a declaration has the lines that were taken. -/
private theorem splitOn_block_of_mem_stops {text : List Char} {s : Stop}
    (hs : s ∈ stops [] (lines text)) : (unlines s.block).splitOn '\n' = s.block := by
  refine List.splitOn_intercalate '\n' (fun line hline => ?_) ?_
  · rw [Stop.block_eq_of_mem_stops hs] at hline
    exact newline_not_mem_of_mem_lines (List.mem_of_mem_drop (List.mem_of_mem_take hline))
  · exact List.ne_nil_of_length_pos s.block_pos

/-- **Places**: the line numbers of a scan ascend strictly and are those of lines of the text; a
block of `k` lines is exactly the `k` lines of the text from its declaration on, and no other
declaration stands on any of them. -/
theorem scan_declarations_in_place (origin : Origin) (text : List Char) :
    ((scan origin text).Pairwise fun a b => a.lineNumber < b.lineNumber) ∧
    (∀ d ∈ scan origin text, 1 ≤ d.lineNumber ∧ d.lineNumber ≤ (lines text).length) ∧
    ∀ d ∈ scan origin text, ∀ block, d.fullBlock = some block →
      ∃ first k : Nat, d.lineNumber = first + 1 ∧ k = (block.toList.splitOn '\n').length ∧
        first + k ≤ (lines text).length ∧
        block = String.ofList (unlines (((lines text).drop first).take k)) ∧
        ∀ other ∈ scan origin text, other ≠ d →
          ¬ (d.lineNumber ≤ other.lineNumber ∧ other.lineNumber ≤ d.lineNumber + k - 1) := by
  refine ⟨pairwise_lineNumber_scan origin text, fun d hd => ?_, fun d hd block hblock => ?_⟩
  · obtain ⟨s, hs, hds⟩ := exists_stop_of_mem_scan hd
    have hline := Stop.lineNumber_mem_extent hds
    have hend := Stop.end_le_of_mem_stops hs
    omega
  · obtain ⟨s, hs, hds⟩ := exists_stop_of_mem_scan hd
    obtain ⟨honly, hline, rfl⟩ := Stop.fullBlock_of_mem_declarations hds hblock
    refine ⟨s.above.length, s.block.length, hline, ?_, Stop.end_le_of_mem_stops hs, ?_, ?_⟩
    · rw [String.toList_ofList, splitOn_block_of_mem_stops hs]
    · rw [← Stop.block_eq_of_mem_stops hs]
    · intro other hother hne hinside
      obtain ⟨t, ht, hot⟩ := exists_stop_of_mem_scan hother
      have hplace := Stop.lineNumber_mem_extent hot
      -- another declaration would share the stop, or come from a stop before or behind it
      rcases eq_or_apart_of_mem_stops hs ht with rfl | hbefore | hbehind
      · rw [honly] at hot
        exact hne (List.mem_singleton.mp hot)
      · omega
      · omega

/-- A struct whose brace never closes owns the rest of the text, so the function in it is not
declared. -/
example :
    (scan ⟨"a.go", "root", 12⟩ "type A struct \x7b\nfunc B() \x7b".toList).map
      (·.lineNumber) = [1] := by
  decide +kernel

end GoIndex.Source
