/-
**Blanks between the parts of an atom do not matter.**

A `Layout` is an atom in text, part by part: the predicate and the arguments, each with blanks
around it. Its parts are read one by one, since no part begins with a blank and each is read the
same in front of one.

* `moreArguments_spaced`, by induction on the parts: the arguments are read up to the closing
  parenthesis, with the blanks behind them;
* `atom_layout`: an atom is read whole from every layout of its parts;
* `read_layout`: so it is read the same as without any blanks.
-/

import Mathlib.Data.List.Forall2
import RuleAtoms.Proofs.AtomText.Readers

namespace RuleAtoms.AtomText

open Text (Ends)

/-- Blanks that may stand between the parts of an atom. -/
abbrev Blanks := { text : List Char // text.all isSpace = true }

/-- A part of an atom with the blanks in front of it and behind it. -/
structure Spaced where
  before : Blanks
  text : List Char
  after : Blanks

def Spaced.whole (part : Spaced) : List Char := part.before.1 ++ (part.text ++ part.after.1)

/-- An atom in text, part by part. -/
structure Layout where
  predicate : Spaced
  /-- The blanks behind the opening parenthesis. -/
  opening : Blanks
  arguments : List Spaced
  /-- The blanks behind the closing parenthesis. -/
  back : Blanks

/-- The text of a layout. -/
def Layout.text (layout : Layout) : List Char :=
  layout.predicate.whole ++ '(' :: (layout.opening.1 ++
    (Text.join [','] (layout.arguments.map Spaced.whole) ++ ')' :: layout.back.1))

/-- The parts of a layout without any blanks. -/
def Layout.compact (layout : Layout) : List Char :=
  layout.predicate.text ++ '(' :: (Text.join [','] (layout.arguments.map Spaced.text) ++ [')'])

section Blanks

variable {text rest : List Char}

/-! ### Skipping blanks -/

theorem skipSpaces_blanks (blanks : Blanks) (rest : List Char) :
    skipSpaces (blanks.1 ++ rest) = skipSpaces rest :=
  List.dropWhile_append_of_pos (List.all_eq_true.mp blanks.2)

theorem mem_head?_blanks {blanks : Blanks} {c : Char} (isFirst : c ∈ (blanks.1 ++ rest).head?) :
    isSpace c = true ∨ c ∈ rest.head? := by
  obtain ⟨blanks, areSpaces⟩ := blanks
  cases blanks with
  | nil => exact Or.inr isFirst
  | cons first others =>
    cases isFirst
    exact Or.inl (List.all_eq_true.mp areSpaces c List.mem_cons_self)

/-- Blanks end an argument, and so does what ends it without them. -/
theorem endsArgument_blanks (blanks : Blanks) (ends : EndsArgument rest) :
    EndsArgument (blanks.1 ++ rest) := by
  intro c isFirst
  rcases mem_head?_blanks isFirst with space | isFirst
  · obtain rfl | rfl | rfl | rfl := isSpace_iff.mp space <;> decide
  · exact ends c isFirst

theorem isTokenChar_of_isSpace {c : Char} (space : isSpace c = true) : isTokenChar c = false := by
  unfold isTokenChar
  rw [isBlank_of_isSpace space]
  rfl

/-- No argument begins with a blank. -/
theorem argument?_of_isSpace {c : Char} (space : isSpace c = true) :
    argument? (c :: text) = none := by
  have noRun : oneOrMore? isTokenChar (c :: text) = none := by
    unfold oneOrMore?
    rw [List.takeWhile_cons, isTokenChar_of_isSpace space]
    rfl
  have noVariable : namedVariable? (c :: text) = none :=
    namedVariable?_of_head? (by rintro ⟨⟩; cases space)
  have noQuote : quoted? (c :: text) = none := quoted?_of_head? (by rintro ⟨⟩; cases space)
  unfold argument? quotedArgument? bareArgument?
  rw [noVariable, noQuote, noRun]
  rfl

/-- No name begins with a blank. -/
theorem name?_of_isSpace {c : Char} (space : isSpace c = true) : name? (c :: text) = none := by
  have noPrefixChar : isPrefixChar c = false := by
    obtain rfl | rfl | rfl | rfl := isSpace_iff.mp space <;> decide
  have noBracket : iri? (c :: text) = none := iri?_of_head? (by rintro ⟨⟩; cases space)
  have noColon : abbreviated? (c :: text) = none := by
    refine abbreviated?_of_head? ?_
    rw [List.dropWhile_cons, noPrefixChar]
    rintro ⟨⟩
    cases space
  unfold name?
  rw [noBracket, noColon, Option.none_or]

theorem skipSpaces_of_argument? {found : WrittenArgument × List Char}
    (isRead : argument? text = some found) : skipSpaces text = text := by
  refine skipSpaces_of_ends fun c isFirst => ?_
  obtain ⟨others, rfl⟩ := List.head?_eq_some_iff.mp isFirst
  rw [← Bool.not_eq_true]
  intro space
  rw [argument?_of_isSpace space] at isRead
  cases isRead

theorem skipSpaces_of_name? {found : Name × List Char} (isRead : name? text = some found) :
    skipSpaces text = text := by
  refine skipSpaces_of_ends fun c isFirst => ?_
  obtain ⟨others, rfl⟩ := List.head?_eq_some_iff.mp isFirst
  rw [← Bool.not_eq_true]
  intro space
  rw [name?_of_isSpace space] at isRead
  cases isRead

end Blanks

/-! ### Lists of arguments -/

section Arguments

/-- A part that is an argument, and the argument as it is written. -/
def Spaced.Holds (part : Spaced) (written : WrittenArgument) : Prop :=
  argument? part.text = some (written, [])

variable {parts : List Spaced} {written : List WrittenArgument} {rest : List Char}

theorem exists_holds
    (areArguments : ∀ part ∈ parts, ∃ written, argument? part.text = some (written, [])) :
    ∃ written, List.Forall₂ Spaced.Holds parts written := by
  induction parts with
  | nil => exact ⟨[], .nil⟩
  | cons part others ih =>
    obtain ⟨argument, holds⟩ := areArguments part List.mem_cons_self
    obtain ⟨written, holdsOthers⟩ :=
      ih fun other member => areArguments other (List.mem_cons_of_mem _ member)
    exact ⟨argument :: written, .cons holds holdsOthers⟩

/-- The parts behind a first one, each with the comma in front of it. -/
def spacedMore (parts : List Spaced) : List Char := (parts.map Spaced.whole).flatMap ([','] ++ ·)

theorem endsArgument_spacedMore (parts : List Spaced) (rest : List Char) :
    EndsArgument (spacedMore parts ++ ')' :: rest) := by
  intro c isFirst
  cases parts <;> cases isFirst <;> decide

/-- One part with blanks around it is read up to the blanks behind it. -/
theorem Spaced.Holds.read {part : Spaced} {argument : WrittenArgument} (holds : part.Holds argument)
    (ends : EndsArgument rest) :
    argument? (skipSpaces (part.whole ++ rest)) = some (argument, part.after.1 ++ rest) := by
  have read : argument? (part.text ++ (part.after.1 ++ rest)) =
      some (argument, part.after.1 ++ rest) :=
    argument?_append holds (endsArgument_blanks part.after ends)
  unfold Spaced.whole
  rw [List.append_assoc, List.append_assoc, skipSpaces_blanks, skipSpaces_of_argument? read, read]

/-- **The arguments behind a first one are read**, whatever blanks stand around them. The blanks behind
the last of them are left to what reads the parenthesis. What stands ahead of a part is the blanks
behind the one before. -/
theorem moreArguments_spaced (holds : List.Forall₂ Spaced.Holds parts written) (ahead : Blanks)
    (rest : List Char) :
    ∃ tail, moreArguments (ahead.1 ++ (spacedMore parts ++ ')' :: rest)) = (written, tail) ∧
      skipSpaces tail = ')' :: rest := by
  induction holds generalizing ahead with
  | nil =>
    have closes : skipSpaces (ahead.1 ++ ')' :: rest) = ')' :: rest := by
      rw [skipSpaces_blanks]
      rfl
    have noComma : nextArgument? (ahead.1 ++ ')' :: rest) = none := by
      unfold nextArgument?
      rw [closes]
      rfl
    refine ⟨ahead.1 ++ ')' :: rest, ?_, closes⟩
    show moreArguments (ahead.1 ++ ')' :: rest) = _
    rw [moreArguments, noComma]
  | @cons part argument others writtenOthers holdsFirst _ ih =>
    obtain ⟨tail, readOthers, closes⟩ := ih part.after
    have separated : spacedMore (part :: others) ++ ')' :: rest =
        ',' :: (part.whole ++ (spacedMore others ++ ')' :: rest)) := by
      unfold spacedMore
      simp only [List.map_cons, List.flatMap_cons, List.append_assoc, List.cons_append,
        List.nil_append]
    have next : nextArgument? (ahead.1 ++ (spacedMore (part :: others) ++ ')' :: rest)) =
        some (argument, part.after.1 ++ (spacedMore others ++ ')' :: rest)) := by
      unfold nextArgument?
      rw [separated, skipSpaces_blanks, skipSpaces_of_ends (Text.ends_cons (by decide))]
      exact holdsFirst.read (endsArgument_spacedMore others rest)
    have shorter : (part.after.1 ++ (spacedMore others ++ ')' :: rest)).length <
        (ahead.1 ++ (spacedMore (part :: others) ++ ')' :: rest)).length := by
      rw [separated]
      unfold Spaced.whole
      simp only [List.length_cons, List.length_append]
      omega
    refine ⟨tail, ?_, closes⟩
    rw [moreArguments, next]
    simp only [if_pos shorter, readOthers]

/-- The arguments between the parentheses are read, also when there are none. -/
theorem arguments_spaced (holds : List.Forall₂ Spaced.Holds parts written) (opening : Blanks)
    (rest : List Char) :
    ∃ tail, AtomText.arguments (skipSpaces (opening.1 ++
        (Text.join [','] (parts.map Spaced.whole) ++ ')' :: rest))) = (written, tail) ∧
      skipSpaces tail = ')' :: rest := by
  rw [skipSpaces_blanks]
  cases holds with
  | nil => exact ⟨')' :: rest, rfl, rfl⟩
  | @cons part argument others writtenOthers holdsFirst holdsOthers =>
    obtain ⟨tail, readOthers, closes⟩ := moreArguments_spaced holdsOthers part.after rest
    have read := holdsFirst.read (endsArgument_spacedMore others rest)
    refine ⟨tail, ?_, closes⟩
    rw [List.map_cons, join_cons, List.append_assoc]
    change AtomText.arguments (skipSpaces (part.whole ++ (spacedMore others ++ ')' :: rest))) = _
    unfold AtomText.arguments
    rw [read]
    simp only [readOthers]

end Arguments

/-! ### Atoms -/

section Atoms

variable {layout : Layout} {name : Name} {written : List WrittenArgument}

/-- **An atom is read whole from every layout of its parts.** -/
theorem atom_layout (isName : name? layout.predicate.text = some (name, []))
    (holds : List.Forall₂ Spaced.Holds layout.arguments written) :
    atom layout.text = .ok (⟨name, written⟩, []) := by
  obtain ⟨tail, readArguments, closes⟩ := arguments_spaced holds layout.opening layout.back.1
  generalize isInside : layout.opening.1 ++
    (Text.join [','] (layout.arguments.map Spaced.whole) ++ ')' :: layout.back.1) = inside
    at readArguments
  have endsName : Ends isNameChar (layout.predicate.after.1 ++ '(' :: inside) := by
    intro c isFirst
    rcases mem_head?_blanks isFirst with space | isOpening
    · obtain rfl | rfl | rfl | rfl := isSpace_iff.mp space <;> decide
    · cases isOpening
      decide
  have readName := name?_append isName endsName
  have isPredicate : name? (skipSpaces layout.text) =
      some (name, layout.predicate.after.1 ++ '(' :: inside) := by
    unfold Layout.text
    rw [isInside]
    unfold Spaced.whole
    rw [List.append_assoc, List.append_assoc, skipSpaces_blanks, skipSpaces_of_name? readName,
      readName]
  have opens : skipSpaces (layout.predicate.after.1 ++ '(' :: inside) = '(' :: inside := by
    rw [skipSpaces_blanks]
    rfl
  have nothingLeft : skipSpaces layout.back.1 = [] :=
    List.dropWhile_eq_nil_iff.mpr (List.all_eq_true.mp layout.back.2)
  exact atom_eq_ok_iff.mpr
    ⟨_, inside, tail, layout.back.1, isPredicate, opens, readArguments, closes, nothingLeft.symm⟩

/-- A part with nothing around it. -/
def Spaced.alone (text : List Char) : Spaced :=
  ⟨⟨[], rfl⟩, text, ⟨[], rfl⟩⟩

/-- The parts of a layout, laid out without blanks. -/
def Layout.stripped (layout : Layout) : Layout where
  predicate := .alone layout.predicate.text
  opening := ⟨[], rfl⟩
  arguments := layout.arguments.map fun part => .alone part.text
  back := ⟨[], rfl⟩

theorem text_stripped (layout : Layout) : layout.stripped.text = layout.compact := by
  have whole (text : List Char) : (Spaced.alone text).whole = text := List.append_nil text
  have wholes : Spaced.whole ∘ (fun part => Spaced.alone part.text) = Spaced.text :=
    funext fun part => whole part.text
  unfold Layout.text Layout.stripped Layout.compact
  rw [whole, List.map_map, wholes, List.nil_append]

theorem holds_stripped (holds : List.Forall₂ Spaced.Holds layout.arguments written) :
    List.Forall₂ Spaced.Holds layout.stripped.arguments written :=
  List.forall₂_map_left_iff.mpr holds

end Atoms

/-! ### What can be wrong with an atom that is read -/

section Prefixes

/-- Whether all that can be wrong with a result is a prefix that is not bound. -/
def FailsByPrefix {α : Type} (result : Except Error α) : Prop :=
  ∀ error, result = .error error → ∃ start, error = .undefinedPrefix start

variable {α β : Type} {result : Except Error α}

theorem failsByPrefix_ok (value : α) : FailsByPrefix (.ok value) :=
  fun _ failed => nomatch failed

theorem FailsByPrefix.bind {next : α → Except Error β} (first : FailsByPrefix result)
    (second : ∀ value, FailsByPrefix (next value)) : FailsByPrefix (result >>= next) := by
  cases result with
  | error error =>
    intro other same
    cases same
    exact first error rfl
  | ok value => exact second value

theorem failsByPrefix_name (prefixes : Prefixes) (name : Name) :
    FailsByPrefix (name.resolve prefixes) := by
  cases name with
  | iri text => exact failsByPrefix_ok text
  | bare word => exact failsByPrefix_ok word
  | abbreviated start localName =>
    cases expanded : Prefixes.expand? prefixes start localName with
    | some text =>
      simp only [Name.resolve, expanded]
      exact failsByPrefix_ok text
    | none =>
      simp only [Name.resolve, expanded]
      intro error same
      cases same
      exact ⟨start, rfl⟩

theorem failsByPrefix_argument (prefixes : Prefixes) (written : WrittenArgument) :
    FailsByPrefix (written.resolve prefixes) := by
  cases written with
  | «variable» name => exact failsByPrefix_ok _
  | bare token => exact failsByPrefix_ok _
  | quoted lexical suffix? =>
    cases suffix? with
    | none => exact failsByPrefix_ok _
    | some suffix =>
      cases suffix with
      | language tag => exact failsByPrefix_ok _
      | datatype name =>
        exact (failsByPrefix_name prefixes name).bind fun _ => failsByPrefix_ok _

theorem failsByPrefix_atom (prefixes : Prefixes) (written : WrittenAtom) :
    FailsByPrefix (written.resolve prefixes) := by
  have arguments : FailsByPrefix (written.arguments.mapM (WrittenArgument.resolve prefixes)) := by
    induction written.arguments with
    | nil => exact failsByPrefix_ok []
    | cons first others ih =>
      rw [List.mapM_cons]
      exact (failsByPrefix_argument prefixes first).bind fun _ =>
        ih.bind fun _ => failsByPrefix_ok _
  exact (failsByPrefix_name prefixes written.predicate).bind fun _ =>
    arguments.bind fun _ => failsByPrefix_ok _

end Prefixes

/-- **Blanks do not matter.** From every layout of its parts an atom is read the same as from the
parts without blanks; and all that can be wrong with it then is a prefix that is not bound. -/
theorem read_layout (prefixes : Prefixes) (layout : Layout)
    (isName : ∃ name, name? layout.predicate.text = some (name, []))
    (areArguments : ∀ part ∈ layout.arguments,
      ∃ written, argument? part.text = some (written, [])) :
    read prefixes (String.ofList layout.text) = read prefixes (String.ofList layout.compact) ∧
      ∀ error, read prefixes (String.ofList layout.text) = .error error →
        ∃ start, error = .undefinedPrefix start := by
  obtain ⟨name, isName⟩ := isName
  obtain ⟨written, holds⟩ := exists_holds areArguments
  have laidOut := read_of_atom prefixes (atom_layout isName holds)
  have stripped : read prefixes (String.ofList layout.stripped.text) = _ :=
    read_of_atom prefixes (atom_layout isName (holds_stripped holds))
  rw [text_stripped] at stripped
  rw [laidOut, stripped]
  exact ⟨rfl, failsByPrefix_atom prefixes ⟨name, written⟩⟩

/-- An atom over several lines, with an undefined prefix behind a bare word and a quoted tag. -/
def scattered : Layout where
  predicate := ⟨⟨[' '], by decide⟩, "swrlb:substringAfter".toList, ⟨['\t'], by decide⟩⟩
  opening := ⟨['\r', '\n'], by decide⟩
  arguments :=
    [⟨⟨[' '], by decide⟩, "?X".toList, ⟨[' '], by decide⟩⟩,
      ⟨⟨[], by decide⟩, "hello@EN".toList, ⟨['\n'], by decide⟩⟩,
      ⟨⟨['\t', ' '], by decide⟩, "\"a, b\"@\"no tag\"".toList, ⟨[], by decide⟩⟩,
      ⟨⟨[' '], by decide⟩, "\"5\"^^xs:int".toList, ⟨[' '], by decide⟩⟩]
  back := ⟨['\n'], by decide⟩

/-- The scattered atom is read like the compact one. -/
theorem read_scattered :
    String.ofList scattered.text = " swrlb:substringAfter\t(\r\n ?X ,hello@EN\n,\t " ++
        "\"a, b\"@\"no tag\", \"5\"^^xs:int )\n" ∧
      String.ofList scattered.compact =
        "swrlb:substringAfter(?X,hello@EN,\"a, b\"@\"no tag\",\"5\"^^xs:int)" ∧
      read Prefixes.standard (String.ofList scattered.text) =
        read Prefixes.standard (String.ofList scattered.compact) := by
  have isName : ∃ name, name? scattered.predicate.text = some (name, []) :=
    ⟨.abbreviated "swrlb" "substringAfter", by decide⟩
  have areArguments : ∀ part ∈ scattered.arguments,
      ∃ written, argument? part.text = some (written, []) := by
    simp only [scattered, List.forall_mem_cons, List.not_mem_nil, false_imp_iff, implies_true,
      and_true]
    exact ⟨⟨.variable "X", by decide⟩, ⟨.bare "hello@EN", by decide⟩,
      ⟨.quoted "a, b" (some (.language "no tag")), by decide⟩,
      ⟨.quoted "5" (some (.datatype (.abbreviated "xs" "int"))), by decide⟩⟩
  exact ⟨by cbv, by cbv, (read_layout Prefixes.standard scattered isName areArguments).1⟩

end RuleAtoms.AtomText
