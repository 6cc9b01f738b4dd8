import Mathlib.Logic.Basic
import GoIndex.Proofs.Source.Places

/-!
# How far a signature reaches

The signature of a function or a method is put together from the lines of its header. The header has
no other end than those that `EndsHeader` names: a line with an opening brace, a line that ends in a
parenthesis when none is left open, and the last line that is allowed. It goes on to a line exactly
when none of the lines before ends it (`lt_length_headerLines_iff`), whatever stands there. So the
header of a function with a result and without a body goes on into the declaration below it
(`signature_takes_in_next_function`), and `signature_ends_before_iff` says of any two declarations
when this does not happen.
-/

namespace GoIndex.Source

open Text

/-! ### The end of a header -/

/-- The line at place `k` ends a header, with `depth` parentheses open before the lines: it has an
opening brace, or no parenthesis is open behind it and it ends in one, or it is the last that
`limit` allows. -/
def EndsHeader (limit : Nat) (depth : Int) (ls : List Line) (k : Nat) : Prop :=
  '{' ∈ ls.getD k [] ∨
    (depth + (ls.take (k + 1)).flatten.count '(' ≤ (ls.take (k + 1)).flatten.count ')' ∧
      (trim (ls.getD k [])).getLast? = some ')') ∨
    limit ≤ k + 1

instance (limit : Nat) (depth : Int) (ls : List Line) (k : Nat) :
    Decidable (EndsHeader limit depth ls k) :=
  inferInstanceAs (Decidable (_ ∨ (_ ∧ _) ∨ _))

variable {limit : Nat} {depth : Int} {line : Line} {rest : List Line}

/-- The first line ends a header just when the header has no other. -/
theorem endsHeader_zero_iff :
    EndsHeader limit depth (line :: rest) 0 ↔
      (line.contains '{' || (depth + line.count '(' - line.count ')' ≤ 0 &&
        (trim line).getLast? == some ')') || limit ≤ 1) := by
  have htake : ((line :: rest).take (0 + 1)).flatten = line := by simp
  rw [EndsHeader, htake, List.getD_cons_zero]
  simp only [Bool.or_eq_true, Bool.and_eq_true, decide_eq_true_eq, List.contains_iff_mem,
    beq_iff_eq, or_assoc]
  refine or_congr_right (or_congr_left (and_congr_left' ?_))
  omega

/-- A later line ends a header as it ends what is left of the header behind the first line. -/
theorem endsHeader_succ_iff {k : Nat} :
    EndsHeader limit depth (line :: rest) (k + 1) ↔
      EndsHeader (limit - 1) (depth + line.count '(' - line.count ')') rest k := by
  rw [EndsHeader, EndsHeader, List.getD_cons_succ, List.take_succ_cons, List.flatten_cons,
    List.count_append, List.count_append]
  refine or_congr_right (or_congr (and_congr_left' ?_) ?_)
  · push_cast
    omega
  · omega

/-- A header is its first line, and what is left of it unless this line ends it. -/
theorem headerLines_cons :
    headerLines limit depth (line :: rest) =
      if EndsHeader limit depth (line :: rest) 0 then [line]
      else line :: headerLines (limit - 1) (depth + line.count '(' - line.count ')') rest := by
  rw [headerLines]
  simp only [endsHeader_zero_iff]

/-- **The reach of a header**: it goes on to a line exactly when no line before ends it. -/
theorem lt_length_headerLines_iff {ls : List Line} {n : Nat} :
    n < (headerLines limit depth ls).length ↔
      n < ls.length ∧ ∀ k < n, ¬ EndsHeader limit depth ls k := by
  induction ls generalizing limit depth n with
  | nil => simp [headerLines]
  | cons line rest ih =>
    rw [headerLines_cons]
    rcases n with _ | n
    · split <;> simp
    · by_cases hfirst : EndsHeader limit depth (line :: rest) 0
      · have hshort : ¬ n + 1 < [line].length := by simp
        rw [if_pos hfirst]
        exact iff_of_false hshort fun h => h.2 0 (Nat.succ_pos n) hfirst
      · have hlater : (∀ k < n + 1, ¬ EndsHeader limit depth (line :: rest) k) ↔
            ∀ k < n, ¬ EndsHeader (limit - 1) (depth + line.count '(' - line.count ')') rest k := by
          rw [Nat.forall_lt_succ_left]
          simp only [endsHeader_succ_iff, hfirst, not_false_eq_true, true_and]
        rw [if_neg hfirst, List.length_cons, List.length_cons, Nat.add_lt_add_iff_right, ih,
          Nat.add_lt_add_iff_right, hlater]

/-! ### Signatures of a scan -/

/-- A header starts with the line that it is read from. -/
theorem exists_headerLines_eq_cons (limit : Nat) (depth : Int) (line : Line) (rest : List Line) :
    ∃ more, headerLines limit depth (line :: rest) = line :: more := by
  rw [headerLines_cons]
  split
  · exact ⟨[], rfl⟩
  · exact ⟨_, rfl⟩

/-- The signature of a function or a method is its header, on the line of its heading. -/
theorem Stop.signature_of_isCallable {origin : Origin} {s : Stop} {d : Declaration}
    (hd : d ∈ s.declarations origin) (hcallable : d.kind.isCallable) :
    d.lineNumber = s.above.length + 1 ∧
      d.signature = String.ofList (signature origin.headerLimit (s.line :: s.rest)) := by
  obtain ⟨above, heading, line, rest⟩ := s
  cases heading with
  | method receiver name | function name =>
    obtain rfl := List.mem_singleton.mp hd
    exact ⟨rfl, rfl⟩
  | interface name | struct name | type name equated value =>
    obtain rfl := List.mem_singleton.mp hd
    exact nomatch hcallable
  | group kind =>
    obtain ⟨r, -, rfl⟩ := List.mem_map.mp hd
    cases kind <;> exact nomatch hcallable
  | single kind name value =>
    obtain rfl := List.mem_singleton.mp hd
    cases kind <;> exact nomatch hcallable

/-- **Where a signature ends**: of two declarations, the signature of the first, a function or a
method, ends before the line of the second exactly when one of the lines from the first on and
before the second ends its header. -/
theorem signature_ends_before_iff (origin : Origin) (text : List Char) {d e : Declaration}
    (hde : [d, e].Sublist (scan origin text)) (hcallable : d.kind.isCallable) :
    ∃ first n : Nat, d.lineNumber = first + 1 ∧ e.lineNumber = first + 1 + n ∧
      d.signature = String.ofList ([' '].intercalate
        ((headerLines origin.headerLimit 0 ((lines text).drop first)).map trim)) ∧
      ((first + (headerLines origin.headerLimit 0 ((lines text).drop first)).length : Int) <
          e.lineNumber ↔
        ∃ k < n, EndsHeader origin.headerLimit 0 ((lines text).drop first) k) := by
  obtain ⟨s, hs, hds⟩ := exists_stop_of_mem_scan (hde.subset List.mem_cons_self)
  obtain ⟨t, ht, het⟩ :=
    exists_stop_of_mem_scan (hde.subset (List.mem_cons_of_mem d List.mem_cons_self))
  obtain ⟨hline, hsignature⟩ := Stop.signature_of_isCallable hds hcallable
  have hlater : d.lineNumber < e.lineNumber := by
    have hpair := (pairwise_lineNumber_scan origin text).sublist hde
    simpa using hpair
  have hplace := Stop.lineNumber_mem_extent het
  have hend := Stop.end_le_of_mem_stops ht
  obtain ⟨n, hn⟩ : ∃ n : Nat, e.lineNumber = s.above.length + 1 + n :=
    ⟨(e.lineNumber - (s.above.length + 1)).toNat, by omega⟩
  refine ⟨s.above.length, n, hline, hn, ?_, ?_⟩
  · rw [hsignature, Stop.drop_of_mem_stops hs, signature]
  · -- the second declaration stands on a line of the text, so only an end keeps the header from it
    have hinside : n < ((lines text).drop s.above.length).length := by
      rw [List.length_drop]
      omega
    have hreach : n < (headerLines origin.headerLimit 0
        ((lines text).drop s.above.length)).length ↔
          ∀ k < n, ¬ EndsHeader origin.headerLimit 0 ((lines text).drop s.above.length) k := by
      rw [lt_length_headerLines_iff, and_iff_right hinside]
    calc (s.above.length + (headerLines origin.headerLimit 0
          ((lines text).drop s.above.length)).length : Int) < e.lineNumber
        ↔ ¬ n < (headerLines origin.headerLimit 0 ((lines text).drop s.above.length)).length := by
          omega
      _ ↔ ∃ k < n, EndsHeader origin.headerLimit 0 ((lines text).drop s.above.length) k := by
          rw [hreach]
          simp only [not_forall, not_not, exists_prop]

/-- A header over three lines, with results in parentheses and a body, and behind it a method
without a body. -/
theorem signature_ends_before_iff_of_three_lines :
    let text := "func A(\n\tx int,\n) (int, error) \x7b\n\x7d\nfunc (t T) B(y int)".toList
    let d : Declaration :=
      { name := "A", kind := .function, sourceFile := "a.go", module := "root",
        signature := "func A( x int, ) (int, error) \x7b", lineNumber := 1 }
    let e : Declaration :=
      { name := "B", kind := .method, sourceFile := "a.go", module := "root",
        signature := "func (t T) B(y int)", lineNumber := 5 }
    [d, e].Sublist (scan ⟨"a.go", "root", 12⟩ text) ∧
      ∃ first n : Nat, d.lineNumber = first + 1 ∧ e.lineNumber = first + 1 + n ∧
        d.signature = String.ofList ([' '].intercalate
          ((headerLines 12 0 ((lines text).drop first)).map trim)) ∧
        ((first + (headerLines 12 0 ((lines text).drop first)).length : Int) < e.lineNumber ↔
          ∃ k < n, EndsHeader 12 0 ((lines text).drop first) k) := by
  intro text d e
  have hscan : scan ⟨"a.go", "root", 12⟩ text = [d, e] := by decide +kernel
  have hde : [d, e].Sublist (scan ⟨"a.go", "root", 12⟩ text) :=
    hscan ▸ List.Sublist.refl [d, e]
  exact ⟨hde, signature_ends_before_iff ⟨"a.go", "root", 12⟩ text hde rfl⟩

/-- **Past the end**: the signature of a function with a result and without a body takes in the
line of the function below it. -/
theorem signature_takes_in_next_function :
    let text := "func A() int\nfunc B() \x7b\n\x7d".toList
    (scan ⟨"a.go", "root", 12⟩ text).map (fun d => (d.name, d.lineNumber, d.signature)) =
        [("A", 1, "func A() int func B() \x7b"), ("B", 2, "func B() \x7b")] ∧
      headerLines 12 0 (lines text) = ["func A() int".toList, "func B() \x7b".toList] := by
  decide +kernel

end GoIndex.Source
