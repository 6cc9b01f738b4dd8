import GoIndex.Proofs.Source.Body

/-!
# Parameters of methods

The parameters of a method stand in parentheses. The parenthesis that closes them is found by
counting the parentheses inside, so it is the right one however deep they nest
(`closeParen?_eq_some_iff`, `call?_eq_some_iff`). The text in between is then cut at every comma,
also at one inside a parameter (`parametersOf_intercalate`). So a method has the parameters that are
written exactly when none of them has a comma of its own (`interfaceMembers_methodLine_iff`); a
parameter of function type that takes two things comes out in two pieces
(`interfaceMembers_cuts_function_type`).
-/

namespace GoIndex.Source

open Text

variable {text rest name : List Char}

/-! ### Nesting of parentheses -/

/-- How many parentheses are open behind one more character. There is no answer when a parenthesis
closes that was not opened. -/
def pushParen (depth : Nat) (c : Char) : Option Nat :=
  if c = '(' then some (depth + 1)
  else if c = ')' then if depth = 0 then none else some (depth - 1)
  else some depth

/-- How many parentheses are open behind a text. -/
def depthAfter? (depth : Nat) (text : List Char) : Option Nat :=
  text.foldlM pushParen depth

/-- The parentheses of a text nest: each that closes was opened before, and none is left open. -/
def NestsParens (text : List Char) : Prop :=
  depthAfter? 0 text = some 0

instance (text : List Char) : Decidable (NestsParens text) :=
  inferInstanceAs (Decidable (_ = _))

theorem depthAfter?_cons (depth : Nat) (c : Char) (text : List Char) :
    depthAfter? depth (c :: text) = (pushParen depth c).bind (depthAfter? · text) :=
  List.foldlM_cons

theorem depthAfter?_append (depth : Nat) (text more : List Char) :
    depthAfter? depth (text ++ more) = (depthAfter? depth text).bind (depthAfter? · more) :=
  List.foldlM_append

/-- What is opened and not closed is open. -/
theorem count_of_depthAfter? {depth after : Nat} (h : depthAfter? depth text = some after) :
    after + text.count ')' = depth + text.count '(' := by
  induction text generalizing depth with
  | nil =>
    obtain rfl := Option.some.inj h
    rfl
  | cons c text ih =>
    rw [depthAfter?_cons, Option.bind_eq_some_iff] at h
    obtain ⟨next, hpush, hrest⟩ := h
    have hcount := ih hrest
    rw [pushParen] at hpush
    split_ifs at hpush with hopen hclose hzero
    · obtain rfl := Option.some.inj hpush
      subst hopen
      rw [List.count_cons_self, List.count_cons_of_ne (by decide)]
      omega
    · obtain rfl := Option.some.inj hpush
      subst hclose
      rw [List.count_cons_self, List.count_cons_of_ne (by decide)]
      omega
    · obtain rfl := Option.some.inj hpush
      rw [List.count_cons_of_ne hopen, List.count_cons_of_ne hclose]
      omega

theorem pushParen_eq_none_iff {depth : Nat} {c : Char} :
    pushParen depth c = none ↔ c = ')' ∧ depth = 0 := by
  rw [pushParen]
  split_ifs with hopen hclose hzero
  · simp [hopen]
  · simp [hclose, hzero]
  · simp [hzero]
  · simp [hclose]

/-- A search for the closing parenthesis ends at one that nothing is open for. -/
theorem closeParen?_cons (depth : Nat) (c : Char) (text : List Char) :
    closeParen? depth (c :: text) = (pushParen depth c).elim (some ([], text)) fun next =>
      (closeParen? next text).map fun r => (c :: r.1, r.2) := by
  rw [closeParen?.eq_def, pushParen]
  dsimp only
  split_ifs with hopen hclose hzero
  · rfl
  · rw [hzero]
    rfl
  · obtain ⟨k, rfl⟩ : ∃ k, depth = k + 1 := ⟨depth - 1, by omega⟩
    rfl
  · rfl

/-- **The closing parenthesis**: in front of it, everything that was opened has been closed. -/
theorem closeParen?_eq_some_iff {depth : Nat} {inner : List Char} :
    closeParen? depth text = some (inner, rest) ↔
      text = inner ++ ')' :: rest ∧ depthAfter? depth inner = some 0 := by
  induction text generalizing depth inner with
  | nil => simp [closeParen?]
  | cons c text ih =>
    rw [closeParen?_cons, List.cons_eq_append_iff]
    rcases hpush : pushParen depth c with _ | next
    · obtain ⟨rfl, rfl⟩ := pushParen_eq_none_iff.mp hpush
      rw [Option.elim_none, Option.some.injEq, Prod.mk.injEq]
      constructor
      · rintro ⟨rfl, rfl⟩
        exact ⟨.inl ⟨rfl, rfl⟩, rfl⟩
      · rintro ⟨⟨rfl, hrest⟩ | ⟨inner, rfl, -⟩, hdepth⟩
        · exact ⟨rfl, (List.cons.inj hrest).2.symm⟩
        · rw [depthAfter?_cons, hpush] at hdepth
          cases hdepth
    · rw [Option.elim_some, Option.map_eq_some_iff]
      constructor
      · rintro ⟨⟨inner', rest'⟩, hread, heq⟩
        obtain ⟨rfl, rfl⟩ := Prod.mk.inj heq
        obtain ⟨rfl, hdepth⟩ := ih.mp hread
        exact ⟨.inr ⟨inner', rfl, rfl⟩, by rw [depthAfter?_cons, hpush, Option.bind_some, hdepth]⟩
      · rintro ⟨⟨rfl, hrest⟩ | ⟨inner, rfl, rfl⟩, hdepth⟩
        · obtain rfl := Option.some.inj hdepth
          rw [(List.cons.inj hrest).1.symm, pushParen_eq_none_iff.mpr ⟨rfl, rfl⟩] at hpush
          cases hpush
        · rw [depthAfter?_cons, hpush, Option.bind_some] at hdepth
          exact ⟨(inner, rest), ih.mpr ⟨rfl, hdepth⟩, rfl⟩

/-- **Calls**: a name, white space or none, and parameters in parentheses. What is inside the
parentheses nests, and so they are not closed too early. -/
theorem call?_eq_some_iff {parameters : List Char} :
    call? text = some (name, parameters, rest) ↔
      ∃ pad, IsName isNameStart name ∧ (∀ c ∈ pad, isBlank c) ∧ NestsParens parameters ∧
        text = name ++ (pad ++ '(' :: (parameters ++ ')' :: rest)) := by
  simp only [call?, Option.bind_eq_bind, Option.bind_eq_some_iff, Option.some.injEq, Prod.exists,
    Prod.mk.injEq, nameFrom?_eq_some_iff, after?_eq_some_iff, closeParen?_eq_some_iff,
    List.singleton_append]
  constructor
  · rintro ⟨_, on, ⟨hname, rfl, -⟩, _, htrim, _, _, ⟨rfl, hnests⟩, rfl, rfl, rfl⟩
    obtain ⟨pad, hpad, hon, -⟩ := exists_append_trimLeft on
    exact ⟨pad, hname, hpad, hnests, by rw [← htrim, ← hon]⟩
  · rintro ⟨pad, hname, hpad, hnests, rfl⟩
    have hparen : ∀ c ∈ ('(' :: (parameters ++ ')' :: rest)).head?, isBlank c = false :=
      forall_head?_cons (by decide) _
    have hend : ∀ c ∈ (pad ++ '(' :: (parameters ++ ')' :: rest)).head?, isWord c = false := by
      rcases pad with _ | ⟨b, pad⟩
      · exact forall_head?_cons (by decide) _
      · exact forall_head?_cons (isWord_of_isBlank (hpad b List.mem_cons_self)) _
    exact ⟨name, _, ⟨hname, rfl, hend⟩, _, trimLeft_append hpad hparen, parameters, rest,
      ⟨rfl, hnests⟩, rfl, rfl, rfl⟩

/-! ### Cutting at commas -/

/-- A comma separates what is in front of it from what is behind. -/
theorem parametersOf_append_comma (text more : List Char) :
    parametersOf (text ++ ',' :: more) = parametersOf text ++ parametersOf more := by
  rw [parametersOf, List.splitOn_append_cons_self, List.map_append, List.filter_append,
    ← parametersOf, ← parametersOf]

/-- White space in front makes no difference. -/
theorem parametersOf_space (text : List Char) : parametersOf (' ' :: text) = parametersOf text := by
  rw [parametersOf, List.splitOn_cons_eq_if_modifyHead, if_neg (by decide), parametersOf]
  rcases hpieces : text.splitOn ',' with _ | ⟨piece, pieces⟩
  · rfl
  · have htrim : trim ([' '] ++ piece) = trim piece := trim_append_left (by decide) piece
    rw [List.singleton_append] at htrim
    rw [List.modifyHead_cons, List.map_cons, htrim, List.map_cons]

/-- **Cutting**: what is cut at commas are the pieces of the parameters one by one. -/
theorem parametersOf_intercalate (parameters : List (List Char)) :
    parametersOf ([',', ' '].intercalate parameters) = parameters.flatMap parametersOf := by
  induction parameters with
  | nil => rfl
  | cons p parameters ih =>
    rcases parameters with _ | ⟨q, parameters⟩
    · simp
    · rw [List.intercalate_cons_cons, List.flatMap_cons, ← ih, List.append_assoc,
        List.cons_append, List.singleton_append, parametersOf_append_comma, parametersOf_space]

/-- There is a piece for every character that is neither white space nor a comma. -/
theorem parametersOf_ne_nil_of_mem {c : Char} (hmem : c ∈ text) (hblank : isBlank c = false)
    (hcomma : c ≠ ',') : parametersOf text ≠ [] := by
  have hjoin : [','].intercalate (text.splitOn ',') = text := List.intercalate_splitOn ','
  rw [← hjoin] at hmem
  rcases mem_intercalate_singleton hmem with heq | hflat
  · exact absurd heq hcomma
  · obtain ⟨piece, hpiece, hc⟩ := List.mem_flatten.mp hflat
    have htrim : trim piece ≠ [] := by
      intro hnil
      have hall := trim_eq_nil_iff.mp hnil c hc
      rw [hblank] at hall
      cases hall
    refine List.ne_nil_of_mem (a := trim piece) ?_
    rw [parametersOf, List.mem_filter]
    exact ⟨List.mem_map_of_mem hpiece, by simpa using htrim⟩

/-- One parameter as it is written: its parentheses nest, and it has commas inside them only. -/
structure IsParameter (parameter : List Char) : Prop where
  ne_nil : parameter ≠ []
  trim_eq : trim parameter = parameter
  nests : NestsParens parameter
  comma_inside : ∀ n < parameter.length, parameter[n]? = some ',' →
    depthAfter? 0 (parameter.take n) ≠ some 0

instance (parameter : List Char) : Decidable (IsParameter parameter) :=
  decidable_of_iff (parameter ≠ [] ∧ trim parameter = parameter ∧ NestsParens parameter ∧
      ∀ n < parameter.length, parameter[n]? = some ',' →
        depthAfter? 0 (parameter.take n) ≠ some 0)
    ⟨fun ⟨a, b, c, d⟩ => ⟨a, b, c, d⟩, fun ⟨a, b, c, d⟩ => ⟨a, b, c, d⟩⟩

variable {parameter : List Char} {parameters : List (List Char)}

/-- Without a comma a parameter is its only piece. -/
theorem IsParameter.parametersOf_eq (h : IsParameter parameter) (hcomma : ',' ∉ parameter) :
    parametersOf parameter = [parameter] := by
  rw [parametersOf, List.splitOn_eq_singleton hcomma, List.map_singleton, h.trim_eq]
  simp [h.ne_nil]

/-- **A comma inside**: a parameter with a comma of its own is cut, for the parenthesis before the
comma and the one behind it end up in different pieces. -/
theorem IsParameter.two_le_length (h : IsParameter parameter) (hcomma : ',' ∈ parameter) :
    2 ≤ (parametersOf parameter).length := by
  obtain ⟨front, behind, rfl⟩ := List.append_of_mem hcomma
  have hopen : depthAfter? 0 front ≠ some 0 := by
    have hinside := h.comma_inside front.length (by simp) (by simp)
    rwa [List.take_left] at hinside
  have hnests : (depthAfter? 0 front).bind (depthAfter? · (',' :: behind)) = some 0 := by
    rw [← depthAfter?_append]
    exact h.nests
  obtain ⟨depth, hfront, hbehind⟩ := Option.bind_eq_some_iff.mp hnests
  have hdepth : depth ≠ 0 := by
    rintro rfl
    exact hopen hfront
  have hcountFront := count_of_depthAfter? hfront
  have hcountBehind := count_of_depthAfter? hbehind
  have hopening : '(' ∈ front := List.count_pos_iff.mp (by omega)
  have hclosing : ')' ∈ behind := by
    rw [List.count_cons_of_ne (by decide), List.count_cons_of_ne (by decide)] at hcountBehind
    exact List.count_pos_iff.mp (by omega)
  have hfirst := List.length_pos_iff.mpr
    (parametersOf_ne_nil_of_mem hopening (by decide) (by decide))
  have hsecond := List.length_pos_iff.mpr
    (parametersOf_ne_nil_of_mem hclosing (by decide) (by decide))
  rw [parametersOf_append_comma, List.length_append]
  omega

/-- No parameter is lost when it is cut. -/
theorem IsParameter.one_le_length (h : IsParameter parameter) :
    1 ≤ (parametersOf parameter).length := by
  by_cases hcomma : ',' ∈ parameter
  · have htwo := h.two_le_length hcomma
    omega
  · rw [h.parametersOf_eq hcomma, List.length_singleton]

theorem length_le_flatMap_parametersOf (h : ∀ p ∈ parameters, IsParameter p) :
    parameters.length ≤ (parameters.flatMap parametersOf).length := by
  induction parameters with
  | nil => exact Nat.zero_le _
  | cons p parameters ih =>
    obtain ⟨hp, hparameters⟩ := List.forall_mem_cons.mp h
    have hone := hp.one_le_length
    have hrest := ih hparameters
    rw [List.flatMap_cons, List.length_append, List.length_cons]
    omega

/-- **All or none**: cutting gives back the parameters exactly when none of them has a comma. -/
theorem flatMap_parametersOf_eq_iff (h : ∀ p ∈ parameters, IsParameter p) :
    parameters.flatMap parametersOf = parameters ↔ ∀ p ∈ parameters, ',' ∉ p := by
  constructor
  · intro heq p hp hcomma
    obtain ⟨before, behind, rfl⟩ := List.append_of_mem hp
    have htwo := (h p hp).two_le_length hcomma
    have hbefore := length_le_flatMap_parametersOf fun q hq => h q (List.mem_append_left _ hq)
    have hbehind := length_le_flatMap_parametersOf fun q hq =>
      h q (List.mem_append_right _ (List.mem_cons_of_mem _ hq))
    -- the pieces are too many
    have hlength := congrArg List.length heq
    rw [List.flatMap_append, List.flatMap_cons, List.length_append, List.length_append,
      List.length_append, List.length_cons] at hlength
    omega
  · intro hcomma
    have hsingle : parameters.flatMap parametersOf = parameters.flatMap fun p => [p] :=
      List.flatMap_congr fun p hp => (h p hp).parametersOf_eq (hcomma p hp)
    rw [hsingle, List.flatMap_singleton']

/-! ### Methods of an interface -/

/-- The line of a method with these parameters. -/
def methodLine (indent name : List Char) (parameters : List (List Char)) (result : List Char) :
    Line :=
  indent ++ (name ++ '(' :: ([',', ' '].intercalate parameters ++ ')' :: result))

/-- Parameters with commas between them nest. -/
theorem nestsParens_intercalate (h : ∀ p ∈ parameters, IsParameter p) :
    NestsParens ([',', ' '].intercalate parameters) := by
  induction parameters with
  | nil => rfl
  | cons p parameters ih =>
    obtain ⟨hp, hparameters⟩ := List.forall_mem_cons.mp h
    rcases parameters with _ | ⟨q, parameters⟩
    · rw [List.intercalate_singleton]
      exact hp.nests
    · have hrest := ih hparameters
      rw [NestsParens] at hrest ⊢
      rw [List.intercalate_cons_cons, List.append_assoc, depthAfter?_append,
        show depthAfter? 0 p = some 0 from hp.nests, Option.bind_some, depthAfter?_append]
      exact hrest

/-- **The method on a line** is the call that the line is. -/
theorem methodOf?_eq_some_iff {item : Line} {member : Member} :
    methodOf? item = some member ↔
      ∃ name pad parameters result, IsName isNameStart name ∧ (∀ c ∈ pad, isBlank c) ∧
        NestsParens parameters ∧
        trim item = name ++ (pad ++ '(' :: (parameters ++ ')' :: result)) ∧
        member = method name parameters result := by
  simp only [methodOf?, Option.ite_none_left_eq_some, Option.map_eq_some_iff, Prod.exists,
    call?_eq_some_iff]
  constructor
  · rintro ⟨-, name, parameters, result, ⟨pad, hname, hpad, hnests, hitem⟩, rfl⟩
    exact ⟨name, pad, parameters, result, hname, hpad, hnests, hitem, rfl⟩
  · rintro ⟨name, pad, parameters, result, hname, hpad, hnests, hitem, rfl⟩
    refine ⟨?_, name, parameters, result, ⟨pad, hname, hpad, hnests, hitem⟩, rfl⟩
    -- a name does not start with a slash
    intro hcomment
    obtain ⟨rest, hslash⟩ := List.isPrefixOf_iff_prefix.mp hcomment
    have hword := hname.head?_isWord (pad ++ '(' :: (parameters ++ ')' :: result)) '/' (by
      rw [← hitem, ← hslash]
      rfl)
    exact absurd hword (by decide)

/-- A line with a method gives the method, with its parameters cut at every comma. -/
theorem methodOf?_methodLine {indent : List Char} (result : List Char)
    (hindent : ∀ c ∈ indent, isBlank c) (hname : IsName isNameStart name)
    (hparameters : ∀ p ∈ parameters, IsParameter p) :
    methodOf? (methodLine indent name parameters result) =
      some (method name ([',', ' '].intercalate parameters) result) := by
  set inside := [',', ' '].intercalate parameters with hinside
  have hline : methodLine indent name parameters result =
      indent ++ (name ++ '(' :: (inside ++ [')']) ++ result) := by
    simp [methodLine, hinside]
  have htrim : trim (methodLine indent name parameters result) =
      name ++ ([] ++ '(' :: (inside ++ ')' :: trimRight result)) := by
    rw [hline, trim_append_left hindent, trim, trimLeft_eq_self, trimRight_append]
    · simp
    · rw [← List.cons_append, ← List.append_assoc]
      exact forall_getLast?_concat (by decide) _
    · rw [List.append_assoc]
      exact fun c hc => isBlank_of_isWord (hname.head?_isWord _ c hc)
  refine methodOf?_eq_some_iff.mpr ⟨name, [], inside, trimRight result, hname, by simp,
    nestsParens_intercalate hparameters, htrim, ?_⟩
  rw [method, method, trim_trimRight]

/-- A line inside an interface gives the method that is written on it, if any, between the methods
above it and those below it. -/
theorem interfaceMembers_append_cons (first last line : Line) (before behind : List Line) :
    interfaceMembers (first :: (before ++ line :: behind ++ [last])) =
      interfaceMembers (first :: (before ++ [last])) ++ (methodOf? line).toList ++
        interfaceMembers (first :: (behind ++ [last])) := by
  rw [interfaceMembers, interfaceMembers, interfaceMembers, bodyItems_spread, bodyItems_spread,
    bodyItems_spread, List.filterMap_append, List.filterMap_cons, List.append_assoc]
  rcases methodOf? line with _ | member
  · rfl
  · rfl

/-- **Parameters**: a line with a method gives one member of its interface, with the name and the
result that are written. The parameters are cut at every comma, so they are those that are written
if and only if none of them has a comma inside its parentheses. -/
theorem interfaceMembers_methodLine_iff (first last : Line) (before behind : List Line)
    (indent name : List Char) (parameters : List (List Char)) (result : List Char)
    (hindent : ∀ c ∈ indent, isBlank c) (hname : IsName isNameStart name)
    (hparameters : ∀ p ∈ parameters, IsParameter p) :
    ∃ member, interfaceMembers (first ::
        (before ++ methodLine indent name parameters result :: behind ++ [last])) =
          interfaceMembers (first :: (before ++ [last])) ++ member ::
            interfaceMembers (first :: (behind ++ [last])) ∧
      member.name = String.ofList name ∧ member.isMethod ∧
      member.type = String.ofList (trim result) ∧
      member.returnType = String.ofList (trim result) ∧
      member.parameters = (parameters.flatMap parametersOf).map String.ofList ∧
      (member.parameters = parameters.map String.ofList ↔ ∀ p ∈ parameters, ',' ∉ p) := by
  have hcut : (method name ([',', ' '].intercalate parameters) result).parameters =
      (parameters.flatMap parametersOf).map String.ofList := by
    rw [method, parametersOf_intercalate]
  refine ⟨method name ([',', ' '].intercalate parameters) result, ?_, rfl, rfl, rfl, rfl, hcut, ?_⟩
  · rw [interfaceMembers_append_cons, methodOf?_methodLine result hindent hname hparameters]
    simp
  · rw [hcut, ← flatMap_parametersOf_eq_iff hparameters]
    exact (List.map_injective_iff.mpr fun _ _ => String.ofList_injective).eq_iff

/-- Two methods: one with a parameter that has parentheses and no comma, one with a parameter of
function type that takes two things. -/
theorem interfaceMembers_methodLine_iff_of_visitor :
    let line := methodLine "\t".toList "Visit".toList ["d int".toList, "f func(a, b int)".toList]
      " (n int, err error)".toList
    (∀ p ∈ ["d int".toList, "f func(a, b int)".toList], IsParameter p) ∧
    ∃ member, interfaceMembers ["type V interface \x7b".toList, "Close(f func())".toList, line,
        "\x7d".toList] =
        interfaceMembers ["type V interface \x7b".toList, "Close(f func())".toList,
          "\x7d".toList] ++ [member] ∧
      member.name = "Visit" ∧ member.returnType = "(n int, err error)" ∧
      member.parameters ≠ ["d int", "f func(a, b int)"] := by
  intro line
  have hparameters : ∀ p ∈ ["d int".toList, "f func(a, b int)".toList], IsParameter p := by
    decide +kernel
  obtain ⟨member, hmembers, hname, -, -, hresult, -, hiff⟩ :=
    interfaceMembers_methodLine_iff "type V interface \x7b".toList "\x7d".toList
      ["Close(f func())".toList] [] "\t".toList "Visit".toList
      ["d int".toList, "f func(a, b int)".toList] " (n int, err error)".toList (by decide)
      ⟨'V', "isit".toList, by decide, by decide, by decide⟩ hparameters
  refine ⟨hparameters, member, hmembers, hname, hresult.trans (by decide +kernel), ?_⟩
  intro hwritten
  exact absurd (hiff.mp hwritten) (by decide)

/-- A parameter of function type that takes two things comes out in two pieces. -/
theorem interfaceMembers_cuts_function_type :
    IsParameter "fn func(a, b int) error".toList ∧
      (interfaceMembers ["type W interface \x7b".toList,
        methodLine [] "Walk".toList ["fn func(a, b int) error".toList] " error".toList,
        "\x7d".toList]).map Member.parameters = [["fn func(a", "b int) error"]] := by
  decide +kernel

end GoIndex.Source
