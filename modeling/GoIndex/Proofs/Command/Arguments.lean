import GoIndex.Command.Arguments

/-!
# What a command line says

Behind its command a command line is a row of items, each a word or an option with its value.
`spell` writes items out, and taking the result apart gives the items back: the words in order, and
of each option the last value (`text_ofItems`, `option?_ofItems`). A list of words that is not
written this way ends in a flag, and this is the only way in which reading arguments fails
(`readArguments_eq_ok_iff`, `readArguments_eq_error_iff`).
-/

namespace GoIndex.Command

/-! ### Items -/

/-- An item of a command line: a word, or an option with its value. -/
inductive Item where
  | word (text : String) (plain : isFlag text = false)
  | option (name value : String)

namespace Item

/-- How an item is written. -/
def spelling : Item → List String
  | .word text _ => [text]
  | .option name value => ["--" ++ name, value]

/-- The text of an item that is a word. -/
def word? : Item → Option String
  | .word text _ => some text
  | .option _ _ => none

/-- The value that an item gives to the option of a name. -/
def value? (name : String) : Item → Option String
  | .word _ _ => none
  | .option key value => if key = name then some value else none

end Item

/-- How items are written, one behind the other. -/
def spell (items : List Item) : List String :=
  items.flatMap Item.spelling

/-- The words among items, put together with spaces. -/
def textOf (items : List Item) : String :=
  " ".intercalate (items.filterMap Item.word?)

/-- The value of an option: the last one that an item gives it. -/
def valueOf (name : String) (items : List Item) : Option String :=
  (items.filterMap (Item.value? name)).getLast?

/-- Whether a list of words is written with a flag at its end that has no value. -/
def EndsInFlag (words : List String) : Prop :=
  ∃ items flag, isFlag flag = true ∧ words = spell items ++ [flag]

@[simp]
theorem spell_nil : spell [] = [] := rfl

@[simp]
theorem spell_cons (item : Item) (items : List Item) :
    spell (item :: items) = item.spelling ++ spell items := rfl

theorem valueOf_cons_option (name key value : String) (items : List Item) :
    valueOf name (.option key value :: items) =
      (valueOf name items).or (if key = name then some value else none) := by
  by_cases hkey : key = name
  · simp only [valueOf, List.filterMap_cons, Item.value?, hkey, if_true, List.getLast?_cons]
    cases (items.filterMap (Item.value? name)).getLast? <;> rfl
  · simp only [valueOf, List.filterMap_cons, Item.value?, hkey, if_false, Option.or_none]

/-! ### Flags -/

@[simp]
theorem isFlag_append (name : String) : isFlag ("--" ++ name) = true := by
  simp [isFlag]

@[simp]
theorem flagName_append (name : String) : flagName ("--" ++ name) = name := by
  simp [flagName]

theorem append_flagName {word : String} (h : isFlag word = true) :
    "--" ++ flagName word = word := by
  obtain ⟨rest, hrest⟩ := List.isPrefixOf_iff_prefix.mp h
  apply String.toList_injective
  simp [flagName, ← hrest]

/-- Items that are written the same way are the same: no word is written like an option. -/
theorem spell_injective : Function.Injective spell := by
  intro items
  induction items with
  | nil =>
    intro items' h
    cases items' with
    | nil => rfl
    | cons item items' => cases item <;> simp [Item.spelling] at h
  | cons item items ih =>
    intro items' h
    cases items' with
    | nil => cases item <;> simp [Item.spelling] at h
    | cons item' items' =>
      cases item with
      | word text plain =>
        cases item' with
        | word text' plain' =>
          obtain ⟨rfl, hrest⟩ : text = text' ∧ spell items = spell items' := by
            simpa [Item.spelling] using h
          rw [ih hrest]
        | option name value =>
          -- a word that is written like an option would be a flag
          obtain ⟨rfl, -⟩ : text = "--" ++ name ∧ spell items = value :: spell items' := by
            simpa [Item.spelling] using h
          simp at plain
      | option name value =>
        cases item' with
        | word text plain =>
          obtain ⟨rfl, -⟩ : "--" ++ name = text ∧ value :: spell items = spell items' := by
            simpa [Item.spelling] using h
          simp at plain
        | option name' value' =>
          obtain ⟨hname, rfl, hrest⟩ :
              "--" ++ name = "--" ++ name' ∧ value = value' ∧ spell items = spell items' := by
            simpa [Item.spelling] using h
          have hflag := congrArg flagName hname
          rw [flagName_append, flagName_append] at hflag
          rw [hflag, ih hrest]

/-! ### Arguments from items -/

/-- The arguments with one more item. -/
def Arguments.add (arguments : Arguments) : Item → Arguments
  | .word text _ => arguments.addWord text
  | .option name value => arguments.addOption name value

/-- The arguments of a command with items behind it. -/
def Arguments.ofItems (command : String) (items : List Item) : Arguments :=
  items.foldl Arguments.add { command := command }

section Fold

variable (arguments : Arguments) (items : List Item)

theorem command_foldl_add : (items.foldl Arguments.add arguments).command = arguments.command := by
  induction items generalizing arguments with
  | nil => rfl
  | cons item items ih => rw [List.foldl_cons, ih]; cases item <;> rfl

theorem words_foldl_add :
    (items.foldl Arguments.add arguments).words =
      arguments.words ++ items.filterMap Item.word? := by
  induction items generalizing arguments with
  | nil => simp
  | cons item items ih =>
    rw [List.foldl_cons, ih]
    cases item with
    | word text plain => simp [Arguments.add, Arguments.addWord, Item.word?]
    | option name value => rfl

theorem lookup_setOption (name key value : String) (options : List (String × String)) :
    (setOption key value options).lookup name =
      if key = name then some value else options.lookup name := by
  induction options with
  | nil => grind [setOption]
  | cons option options ih =>
    obtain ⟨other, held⟩ := option
    grind [setOption]

theorem option?_foldl_add (name : String) :
    (items.foldl Arguments.add arguments).option? name =
      (valueOf name items).or (arguments.option? name) := by
  induction items generalizing arguments with
  | nil => rfl
  | cons item items ih =>
    rw [List.foldl_cons, ih]
    cases item with
    | word text plain => rfl
    | option key value =>
      have hadd : (arguments.addOption key value).option? name =
          if key = name then some value else arguments.option? name :=
        lookup_setOption name key value arguments.options
      rw [Arguments.add, hadd, valueOf_cons_option, Option.or_assoc]
      split <;> rfl

end Fold

@[simp]
theorem command_ofItems (command : String) (items : List Item) :
    (Arguments.ofItems command items).command = command :=
  command_foldl_add _ items

@[simp]
theorem text_ofItems (command : String) (items : List Item) :
    (Arguments.ofItems command items).text = textOf items := by
  rw [Arguments.text, Arguments.ofItems, words_foldl_add, List.nil_append, textOf]

@[simp]
theorem option?_ofItems (command name : String) (items : List Item) :
    (Arguments.ofItems command items).option? name = valueOf name items := by
  rw [Arguments.ofItems, option?_foldl_add]
  exact Option.or_none

/-! ### Reading -/

theorem readArguments_cons_word {word : String} (h : isFlag word = false) (arguments : Arguments)
    (rest : List String) :
    readArguments arguments (word :: rest) = readArguments (arguments.addWord word) rest := by
  cases rest <;> simp [readArguments, h]

/-- Items are read one after the other. -/
theorem readArguments_spell_append (arguments : Arguments) (items : List Item)
    (rest : List String) :
    readArguments arguments (spell items ++ rest) =
      readArguments (items.foldl Arguments.add arguments) rest := by
  induction items generalizing arguments with
  | nil => rfl
  | cons item items ih =>
    rw [List.foldl_cons, ← ih]
    cases item with
    | word text plain => exact readArguments_cons_word plain arguments _
    | option name value => simp [Item.spelling, readArguments, Arguments.add]

/-- Words without a flag at their end that has no value are written items, and these are read. -/
theorem exists_items_of_readArguments_eq_ok {arguments result : Arguments} {words : List String}
    (h : readArguments arguments words = .ok result) :
    ∃ items, words = spell items ∧ result = items.foldl Arguments.add arguments := by
  fun_induction readArguments arguments words with
  | case1 arguments => exact ⟨[], rfl, (Except.ok.inj h).symm⟩
  | case2 => cases h
  | case3 arguments word hword =>
    exact ⟨[.word word (by simpa using hword)], rfl, (Except.ok.inj h).symm⟩
  | case4 arguments word next rest hword ih =>
    obtain ⟨items, rfl, rfl⟩ := ih h
    refine ⟨.option (flagName word) next :: items, ?_, rfl⟩
    simp [Item.spelling, append_flagName hword]
  | case5 arguments word next rest hword ih =>
    obtain ⟨items, hitems, rfl⟩ := ih h
    refine ⟨.word word (by simpa using hword) :: items, ?_, rfl⟩
    simp [Item.spelling, hitems]

theorem exists_items_of_readArguments_eq_error {arguments : Arguments} {words : List String}
    {flag : String} (h : readArguments arguments words = .error flag) :
    isFlag flag = true ∧ ∃ items, words = spell items ++ [flag] := by
  fun_induction readArguments arguments words with
  | case1 => cases h
  | case2 arguments word hword =>
    obtain rfl := Except.error.inj h
    exact ⟨hword, [], rfl⟩
  | case3 => cases h
  | case4 arguments word next rest hword ih =>
    obtain ⟨hflag, items, rfl⟩ := ih h
    refine ⟨hflag, .option (flagName word) next :: items, ?_⟩
    simp [Item.spelling, append_flagName hword]
  | case5 arguments word next rest hword ih =>
    obtain ⟨hflag, items, hitems⟩ := ih h
    refine ⟨hflag, .word word (by simpa using hword) :: items, ?_⟩
    simp [Item.spelling, hitems]

theorem readArguments_eq_ok_iff {arguments result : Arguments} {words : List String} :
    readArguments arguments words = .ok result ↔
      ∃ items, words = spell items ∧ result = items.foldl Arguments.add arguments := by
  refine ⟨exists_items_of_readArguments_eq_ok, ?_⟩
  rintro ⟨items, rfl, rfl⟩
  simpa [readArguments] using readArguments_spell_append arguments items []

theorem readArguments_eq_error_iff {arguments : Arguments} {words : List String} {flag : String} :
    readArguments arguments words = .error flag ↔
      isFlag flag = true ∧ ∃ items, words = spell items ++ [flag] := by
  refine ⟨exists_items_of_readArguments_eq_error, ?_⟩
  rintro ⟨hflag, items, rfl⟩
  rw [readArguments_spell_append]
  simp [readArguments, hflag]

/-- A command line is taken apart exactly when it is a command with written items behind it. -/
theorem parse?_eq_ok_iff {command : String} {words : List String} {arguments : Arguments} :
    Arguments.parse? (command :: words) = some (.ok arguments) ↔
      ∃ items, words = spell items ∧ arguments = .ofItems command items := by
  rw [Arguments.parse?, Option.some_inj, readArguments_eq_ok_iff]
  rfl

theorem not_endsInFlag_of_parse?_eq_ok {command : String} {words : List String}
    {arguments : Arguments}
    (h : Arguments.parse? (command :: words) = some (.ok arguments)) : ¬ EndsInFlag words := by
  rintro ⟨items, flag, hflag, hwords⟩
  have herror : readArguments { command := command } words = .error flag :=
    readArguments_eq_error_iff.mpr ⟨hflag, items, hwords⟩
  rw [Arguments.parse?, herror] at h
  cases h

end GoIndex.Command
