/-
**What the readers of names and arguments accept.**

A reader is described by the texts it takes: what it returns is put together again to the text it
took, and the class of characters that it was reading `Ends` behind that.

* `oneOrMore?_eq_some_iff`, `iri?_eq_some_iff`, `abbreviated?_eq_some_iff`, `datatype?_eq_some_iff`:
  the readers of characters and of names;
* `name?_append`, `datatype?_append`, `suffix?_append`: a text that is read whole is read the same
  in front of any text that cannot be taken for more of it;
* `argument?_append`: so is an argument in front of a blank, a comma or a parenthesis.
-/

import RuleAtoms.Proofs.AtomText.RoundTrip

namespace RuleAtoms

namespace AtomText

open Text (Ends)

variable {text rest : List Char}

/-! ### Characters -/

theorem isBlank_of_isNameChar {c : Char} (isName : isNameChar c = true) :
    Text.isBlank c = false := by
  unfold isNameChar at isName
  simp only [Bool.or_eq_true, beq_iff_eq] at isName
  obtain ((alphanumeric | rfl) | rfl) | rfl := isName
  · exact Text.isBlank_of_isAlphanumeric alphanumeric
  all_goals decide

/-- The characters of names can stand in a token without quotes. -/
theorem isTokenChar_of_isNameChar {c : Char} (isName : isNameChar c = true) :
    isTokenChar c = true := by
  have noDelimiter : isDelimiter c = false := by
    rw [← Bool.not_eq_true]
    intro delimiter
    unfold isDelimiter at delimiter
    simp only [Bool.or_eq_true, beq_iff_eq] at delimiter
    obtain ((rfl | rfl) | rfl) | rfl := delimiter <;> exact absurd isName (by decide)
  unfold isTokenChar
  rw [isBlank_of_isNameChar isName, noDelimiter]
  rfl

/-! ### Runs and names -/

theorem oneOrMore?_eq_some_iff {allowed : Char → Bool} {found : List Char} :
    oneOrMore? allowed text = some (found, rest) ↔
      text = found ++ rest ∧ found ≠ [] ∧ (∀ c ∈ found, allowed c = true) ∧
        Ends allowed rest := by
  constructor
  · intro isRead
    unfold oneOrMore? at isRead
    simp only at isRead
    split at isRead
    · cases isRead
    · rename_i nonempty
      cases isRead
      refine ⟨List.takeWhile_append_dropWhile.symm, ?_, fun c => List.mem_takeWhile_imp, ?_⟩
      · exact fun isNil => nonempty (List.isEmpty_iff.mpr isNil)
      · exact Text.ends_dropWhile allowed text
  · rintro ⟨rfl, nonempty, isRun, ends⟩
    exact oneOrMore?_run nonempty isRun ends

/-- The characters of an IRI between angle brackets. -/
theorem toList_bracketed (iri : String) (rest : List Char) :
    (Iri.bracketed iri).toList ++ rest = '<' :: (iri.toList ++ '>' :: rest) := by
  unfold Iri.bracketed
  simp

theorem iri?_eq_some_iff {name : Name} : iri? text = some (name, rest) ↔
    ∃ iri, isEnclosable iri = true ∧ name = .iri iri ∧
      text = (Iri.bracketed iri).toList ++ rest := by
  constructor
  · intro isRead
    unfold iri? at isRead
    split at isRead
    · rename_i behind
      simp only at isRead
      split at isRead
      · rename_i tail closes
        cases isRead
        refine ⟨_, ?_, rfl, ?_⟩
        · unfold isEnclosable
          rw [String.toList_ofList]
          exact List.all_eq_true.mpr fun c => List.mem_takeWhile_imp
        · have parts := List.takeWhile_append_dropWhile (p := fun c => c != '>' && !Text.isBlank c)
            (l := behind)
          rw [closes] at parts
          rw [toList_bracketed, String.toList_ofList, parts]
      · cases isRead
    · cases isRead
  · rintro ⟨iri, enclosable, rfl, rfl⟩
    exact iri?_bracketed enclosable rest

theorem abbreviated?_eq_some_iff {name : Name} : abbreviated? text = some (name, rest) ↔
    ∃ start localName, start.toList.all isPrefixChar = true ∧ isLocalName localName = true ∧
      Ends isNameChar rest ∧ name = .abbreviated start localName ∧
      text = (start ++ ":" ++ localName).toList ++ rest := by
  constructor
  · intro isRead
    unfold abbreviated? at isRead
    split at isRead
    · rename_i behind isColon
      cases isRead
      refine ⟨_, _, ?_, ?_, Text.ends_dropWhile isNameChar behind, rfl, ?_⟩
      · rw [String.toList_ofList]
        exact List.all_eq_true.mpr fun c => List.mem_takeWhile_imp
      · unfold isLocalName
        rw [String.toList_ofList]
        exact List.all_eq_true.mpr fun c => List.mem_takeWhile_imp
      · rw [toList_abbreviation, String.toList_ofList, String.toList_ofList,
          List.takeWhile_append_dropWhile, ← isColon, List.takeWhile_append_dropWhile]
    · cases isRead
  · rintro ⟨start, localName, isStart, isLocal, ends, rfl, rfl⟩
    exact abbreviated?_colon isStart isLocal ends

/-- The characters of an abbreviated name. -/
theorem isNameChar_of_mem_abbreviation {start localName : String} {c : Char}
    (isStart : start.toList.all isPrefixChar = true) (isLocal : isLocalName localName = true)
    (member : c ∈ (start ++ ":" ++ localName).toList) : isNameChar c = true ∨ c = ':' := by
  simp only [String.toList_append, List.mem_append] at member
  obtain (inStart | isColon) | inLocal := member
  · exact Or.inl (isNameChar_of_isPrefixChar (List.all_eq_true.mp isStart c inStart))
  · exact Or.inr (List.mem_singleton.mp isColon)
  · exact Or.inl (List.all_eq_true.mp isLocal c inLocal)

/-- Names of the two kinds begin differently, so each is read by its own reader. -/
theorem name?_eq_some_iff {name : Name} : name? text = some (name, rest) ↔
    iri? text = some (name, rest) ∨ abbreviated? text = some (name, rest) := by
  unfold name?
  constructor
  · intro isRead
    rcases Option.or_eq_some_iff.mp isRead with isIri | ⟨-, isAbbreviated⟩
    · exact Or.inl isIri
    · exact Or.inr isAbbreviated
  · rintro (isIri | isAbbreviated)
    · rw [isIri, Option.some_or]
    · obtain ⟨start, localName, isStart, -, -, -, rfl⟩ := abbreviated?_eq_some_iff.mp isAbbreviated
      have noBracket : ((start ++ ":" ++ localName).toList ++ rest).head? ≠ some '<' :=
        head?_append_colon isStart (by decide) (by decide)
      rw [iri?_of_head? noBracket, Option.none_or, isAbbreviated]

theorem suffix_of_name? {name : Name} (isRead : name? text = some (name, rest)) :
    rest <:+ text := by
  rcases name?_eq_some_iff.mp isRead with isIri | isAbbreviated
  · obtain ⟨iri, -, -, rfl⟩ := iri?_eq_some_iff.mp isIri
    exact List.suffix_append _ _
  · obtain ⟨start, localName, -, -, -, -, rfl⟩ := abbreviated?_eq_some_iff.mp isAbbreviated
    exact List.suffix_append _ _

/-- A datatype is a name, or else a bare word. -/
theorem datatype?_eq_some_iff {name : Name} : datatype? text = some (name, rest) ↔
    name? text = some (name, rest) ∨ name? text = none ∧ ∃ word, word ≠ "" ∧
      isLocalName word = true ∧ Ends isNameChar rest ∧ name = .bare word ∧
      text = word.toList ++ rest := by
  unfold datatype?
  rw [Option.or_eq_some_iff]
  refine or_congr_right (and_congr_right fun _ => ?_)
  constructor
  · intro isRead
    obtain ⟨⟨found, tail⟩, isFound, same⟩ := Option.map_eq_some_iff.mp isRead
    cases same
    obtain ⟨rfl, nonempty, isRun, ends⟩ := oneOrMore?_eq_some_iff.mp isFound
    refine ⟨_, fun isEmpty => nonempty ?_, ?_, ends, rfl, by rw [String.toList_ofList]⟩
    · rw [← String.toList_ofList (l := found), isEmpty]
      rfl
    · unfold isLocalName
      rw [String.toList_ofList]
      exact List.all_eq_true.mpr isRun
  · rintro ⟨word, nonempty, isLocal, ends, rfl, rfl⟩
    have someCharacter : word.toList ≠ [] := fun isNil =>
      nonempty (String.toList_eq_nil_iff.mp isNil)
    rw [oneOrMore?_run someCharacter (List.all_eq_true.mp isLocal) ends]
    simp only [Option.map_some, String.ofList_toList]

/-- An abbreviated name by itself. -/
theorem abbreviated?_alone {start localName : String}
    (isStart : start.toList.all isPrefixChar = true) (isLocal : isLocalName localName = true) :
    abbreviated? (start ++ ":" ++ localName).toList = some (.abbreviated start localName, []) :=
  abbreviated?_eq_some_iff.mpr ⟨start, localName, isStart, isLocal, Text.ends_nil isNameChar, rfl,
    (List.append_nil _).symm⟩

theorem datatype?_abbreviation {start localName : String}
    (isStart : start.toList.all isPrefixChar = true) (isLocal : isLocalName localName = true) :
    datatype? (start ++ ":" ++ localName).toList = some (.abbreviated start localName, []) :=
  datatype?_eq_some_iff.mpr
    (Or.inl (name?_eq_some_iff.mpr (Or.inr (abbreviated?_alone isStart isLocal))))

/-- A bare word by itself. -/
theorem datatype?_word {word : String} (nonempty : word ≠ "") (isLocal : isLocalName word = true) :
    datatype? word.toList = some (.bare word, []) := by
  have noName := name?_of_isLocalName nonempty isLocal (Text.ends_nil isNameChar)
    (fun isColon => nomatch isColon)
  rw [List.append_nil] at noName
  exact datatype?_eq_some_iff.mpr (Or.inr ⟨noName, word, nonempty, isLocal,
    Text.ends_nil isNameChar, rfl, (List.append_nil _).symm⟩)

/-! ### What names stand for -/

section Resolution

variable {prefixes : Prefixes}

theorem resolve_abbreviated_eq_ok_iff {start localName iri : String} :
    (Name.abbreviated start localName).resolve prefixes = .ok iri ↔
      ∃ space, prefixes.find? start = some space ∧ iri = space ++ localName := by
  simp only [Name.resolve, Prefixes.expand?]
  cases prefixes.find? start with
  | none => simp
  | some space => simp [eq_comm]

theorem resolve_datatype_eq_ok_iff {lexical : String} {name : Name} {argument : Argument} :
    (WrittenArgument.quoted lexical (some (.datatype name))).resolve prefixes = .ok argument ↔
      ∃ datatype, name.resolve prefixes = .ok datatype ∧
        argument = .literal (.typed lexical datatype) := by
  simp only [WrittenArgument.resolve]
  cases name.resolve prefixes with
  | error error => simp [Except.map]
  | ok datatype => simp [Except.map, eq_comm]

end Resolution

/-! ### In front of other texts -/

theorem oneOrMore?_append {allowed : Char → Bool} {found : List Char}
    (isRead : oneOrMore? allowed text = some (found, [])) (ends : Ends allowed rest) :
    oneOrMore? allowed (text ++ rest) = some (found, rest) := by
  obtain ⟨rfl, nonempty, isRun, -⟩ := oneOrMore?_eq_some_iff.mp isRead
  rw [List.append_nil]
  exact oneOrMore?_run nonempty isRun ends

/-- A name that is read whole is read the same in front of what is no more of it. -/
theorem name?_append {name : Name} (isRead : name? text = some (name, []))
    (ends : Ends isNameChar rest) : name? (text ++ rest) = some (name, rest) := by
  rw [name?_eq_some_iff] at isRead ⊢
  refine isRead.imp (fun isIri => ?_) (fun isAbbreviated => ?_)
  · obtain ⟨iri, enclosable, rfl, rfl⟩ := iri?_eq_some_iff.mp isIri
    rw [List.append_nil]
    exact iri?_bracketed enclosable rest
  · obtain ⟨start, localName, isStart, isLocal, -, rfl, rfl⟩ :=
      abbreviated?_eq_some_iff.mp isAbbreviated
    rw [List.append_nil]
    exact abbreviated?_colon isStart isLocal ends

theorem datatype?_append {name : Name} (isRead : datatype? text = some (name, []))
    (ends : Ends isNameChar rest) (noColon : rest.head? ≠ some ':') :
    datatype? (text ++ rest) = some (name, rest) := by
  rw [datatype?_eq_some_iff] at isRead ⊢
  rcases isRead with isName | ⟨-, word, nonempty, isLocal, -, rfl, rfl⟩
  · exact Or.inl (name?_append isName ends)
  · rw [List.append_nil]
    exact Or.inr ⟨name?_of_isLocalName nonempty isLocal ends noColon, word, nonempty, isLocal, ends,
      rfl, rfl⟩

/-- A closing quote is found whatever stands behind it. -/
theorem quotedRest?_append {inside tail : List Char}
    (isRead : quotedRest? text = some (inside, tail)) :
    quotedRest? (text ++ rest) = some (inside, tail ++ rest) := by
  fun_induction quotedRest? text generalizing inside with
  | case1 => cases isRead
  | case2 behind =>
    cases isRead
    rw [List.cons_append, quotedRest?]
  | case3 c behind ih =>
    obtain ⟨⟨more, remaining⟩, isMore, same⟩ := Option.map_eq_some_iff.mp isRead
    cases same
    rw [List.cons_append, List.cons_append, quotedRest?, ih isMore, Option.map_some]
  | case4 => cases isRead
  | case5 c behind noQuote noEscape noBackslash ih =>
    obtain ⟨⟨more, remaining⟩, isMore, same⟩ := Option.map_eq_some_iff.mp isRead
    cases same
    rw [List.cons_append, quotedRest?, if_neg noBackslash, ih isMore, Option.map_some]
    · exact noQuote
    · rintro other others rfl
      exact absurd rfl noBackslash

/-- What can stand behind an argument, blanks included: a character that no argument goes on with,
or nothing. -/
def EndsArgument (rest : List Char) : Prop :=
  ∀ c ∈ rest.head?, c ∈ [' ', '\t', '\r', '\n', ',', ')']

theorem EndsArgument.ends {allowed : Char → Bool} (follows : EndsArgument rest)
    (others : [' ', '\t', '\r', '\n', ',', ')'].any allowed = false) : Ends allowed rest :=
  fun c isFirst =>
    Bool.of_not_eq_true (List.any_eq_false.mp others c (follows c isFirst))

theorem EndsArgument.head?_ne {c : Char} (follows : EndsArgument rest)
    (other : c ∉ [' ', '\t', '\r', '\n', ',', ')']) : rest.head? ≠ some c :=
  fun isFirst => other (follows c isFirst)

theorem suffix?_of_endsArgument (follows : EndsArgument rest) : suffix? rest = none := by
  unfold suffix?
  split
  · exact absurd rfl (follows.head?_ne (c := '^') (by decide))
  · exact absurd rfl (follows.head?_ne (c := '@') (by decide))
  · rfl

theorem quoted?_append {inside tail : List Char} (isRead : quoted? text = some (inside, tail)) :
    quoted? (text ++ rest) = some (inside, tail ++ rest) := by
  unfold quoted? at isRead
  split at isRead
  · exact quotedRest?_append isRead
  · cases isRead

/-- A tag that is read whole is read the same in front of what is no more of it. -/
theorem tag?_append {tag : List Char} (isRead : tag? text = some (tag, []))
    (ends : Ends isTagChar rest) : tag? (text ++ rest) = some (tag, rest) := by
  unfold tag? at isRead ⊢
  rcases Option.or_eq_some_iff.mp isRead with isQuoted | ⟨-, isRun⟩
  · rw [quoted?_append isQuoted, Option.some_or, List.nil_append]
  · obtain ⟨isText, nonempty, inClass, -⟩ := oneOrMore?_eq_some_iff.mp isRun
    rw [List.append_nil] at isText
    have noQuote : (text ++ rest).head? ≠ some '"' :=
      Text.head?_run_ne (isText ▸ nonempty) (isText ▸ inClass) (by decide)
    rw [quoted?_of_head? noQuote, Option.none_or, oneOrMore?_append isRun ends]

theorem suffix?_append {suffix : Suffix} (isRead : suffix? text = some (suffix, []))
    (follows : EndsArgument rest) : suffix? (text ++ rest) = some (suffix, rest) := by
  unfold suffix? at isRead
  split at isRead
  · rename_i behind
    obtain ⟨⟨name, tail⟩, isName, same⟩ := Option.map_eq_some_iff.mp isRead
    cases same
    have read : datatype? (behind ++ rest) = some (name, rest) :=
      datatype?_append isName (follows.ends (by decide)) (follows.head?_ne (by decide))
    unfold suffix?
    simp only [List.cons_append, read, Option.map_some]
  · rename_i behind
    obtain ⟨⟨tag, tail⟩, isTag, same⟩ := Option.map_eq_some_iff.mp isRead
    cases same
    have read : tag? (behind ++ rest) = some (tag, rest) :=
      tag?_append isTag (follows.ends (by decide))
    unfold suffix?
    simp only [List.cons_append, read, Option.map_some]
  · cases isRead

/-! ### Arguments -/

theorem namedVariable?_eq_some_iff {written : WrittenArgument} :
    namedVariable? text = some (written, rest) ↔
      ∃ name, oneOrMore? isNameChar (name ++ rest) = some (name, rest) ∧
        written = .variable (String.ofList name) ∧ text = '?' :: (name ++ rest) := by
  unfold namedVariable?
  split
  · rename_i behind
    constructor
    · intro isRead
      obtain ⟨⟨name, tail⟩, isName, same⟩ := Option.map_eq_some_iff.mp isRead
      cases same
      obtain ⟨rfl, -⟩ := oneOrMore?_eq_some_iff.mp isName
      exact ⟨name, isName, rfl, rfl⟩
    · rintro ⟨name, isName, rfl, isText⟩
      rw [List.cons.inj isText |>.2, isName]
      rfl
  · rename_i noMarker
    constructor
    · intro isRead
      cases isRead
    · rintro ⟨name, -, -, isText⟩
      exact absurd isText (noMarker _)

/-- A quoted text that is read whole is followed by its suffix, or by nothing. -/
theorem quotedArgument?_eq_some_iff {written : WrittenArgument} :
    quotedArgument? text = some (written, []) ↔
      ∃ inside tail, quoted? text = some (inside, tail) ∧
        ((∃ suffix, suffix? tail = some (suffix, []) ∧
            written = .quoted (String.ofList inside) (some suffix)) ∨
          tail = [] ∧ written = .quoted (String.ofList inside) none) := by
  unfold quotedArgument?
  rw [Option.map_eq_some_iff]
  constructor
  · rintro ⟨⟨inside, tail⟩, isQuoted, isRead⟩
    refine ⟨inside, tail, isQuoted, ?_⟩
    simp only at isRead
    split at isRead
    · rename_i suffix behind isSuffix
      cases isRead
      exact Or.inl ⟨suffix, isSuffix, rfl⟩
    · cases isRead
      exact Or.inr ⟨rfl, rfl⟩
  · rintro ⟨inside, tail, isQuoted, ⟨suffix, isSuffix, rfl⟩ | ⟨rfl, rfl⟩⟩
    · exact ⟨⟨inside, tail⟩, isQuoted, by simp only [isSuffix]⟩
    · exact ⟨⟨inside, []⟩, isQuoted, rfl⟩

/-- What is not read as a variable is not one in front of what is no more of it either. -/
theorem namedVariable?_append_eq_none (nonempty : text ≠ [])
    (noVariable : namedVariable? text = none) (ends : Ends isNameChar rest) :
    namedVariable? (text ++ rest) = none := by
  obtain ⟨first, others, rfl⟩ := List.exists_cons_of_ne_nil nonempty
  by_cases isMarker : first = '?'
  · subst isMarker
    have noName : oneOrMore? isNameChar others = none := Option.map_eq_none_iff.mp noVariable
    have endsThere : Ends isNameChar (others ++ rest) := by
      cases others with
      | nil => exact ends
      | cons c tail =>
        refine Text.ends_cons (Bool.not_eq_true _ ▸ fun inClass => ?_)
        unfold oneOrMore? at noName
        simp [inClass] at noName
    show (oneOrMore? isNameChar (others ++ rest)).map _ = none
    unfold oneOrMore?
    rw [Text.takeWhile_of_ends endsThere]
    rfl
  · refine namedVariable?_of_head? fun isFirst => isMarker (Option.some.inj isFirst)

/-- **An argument that is read whole is read the same in front of what ends it.** -/
theorem argument?_append {written : WrittenArgument} (isRead : argument? text = some (written, []))
    (follows : EndsArgument rest) : argument? (text ++ rest) = some (written, rest) := by
  have endsName : Ends isNameChar rest := follows.ends (by decide)
  have endsToken : Ends isTokenChar rest := follows.ends (by decide)
  unfold argument? at isRead
  rcases Option.or_eq_some_iff.mp isRead with isEarly | ⟨isNone, isBare⟩
  · rcases Option.or_eq_some_iff.mp isEarly with isVariable | ⟨-, isQuoted⟩
    · obtain ⟨name, isName, rfl, rfl⟩ := namedVariable?_eq_some_iff.mp isVariable
      rw [List.append_nil] at isName
      have read : namedVariable? ('?' :: name ++ rest) =
          some (.variable (String.ofList name), rest) :=
        namedVariable?_eq_some_iff.mpr ⟨name, oneOrMore?_append isName endsName, rfl, rfl⟩
      unfold argument?
      rw [List.append_nil, read, Option.some_or, Option.some_or]
    · obtain ⟨inside, tail, isInside, isWritten⟩ := quotedArgument?_eq_some_iff.mp isQuoted
      have startsWithQuote : ∃ behind, text = '"' :: behind := by
        unfold quoted? at isInside
        split at isInside
        · exact ⟨_, rfl⟩
        · cases isInside
      have noVariable : namedVariable? (text ++ rest) = none := by
        obtain ⟨behind, rfl⟩ := startsWithQuote
        rfl
      have read : quotedArgument? (text ++ rest) = some (written, rest) := by
        unfold quotedArgument?
        rw [quoted?_append isInside, Option.map_some]
        rcases isWritten with ⟨suffix, isSuffix, rfl⟩ | ⟨rfl, rfl⟩
        · simp only [suffix?_append isSuffix follows]
        · simp only [List.nil_append, suffix?_of_endsArgument follows]
      unfold argument?
      rw [noVariable, Option.none_or, read, Option.some_or]
  · obtain ⟨noVariable, -⟩ := Option.or_eq_none_iff.mp isNone
    obtain ⟨⟨token, tail⟩, isToken, same⟩ := Option.map_eq_some_iff.mp isBare
    cases same
    obtain ⟨rfl, nonempty, inClass, -⟩ := oneOrMore?_eq_some_iff.mp isToken
    rw [List.append_nil] at isToken noVariable ⊢
    have noQuote : quoted? (token ++ rest) = none :=
      quoted?_of_head? (Text.head?_run_ne nonempty inClass (by decide))
    unfold argument? quotedArgument? bareArgument?
    rw [namedVariable?_append_eq_none nonempty noVariable endsName, noQuote,
      oneOrMore?_append isToken endsToken]
    rfl

/-! ### Atoms -/

/-- Two steps succeed together if the second does with what the first one gives. -/
theorem bind_eq_ok_iff {ε α β : Type} {first : Except ε α} {next : α → Except ε β} {value : β} :
    first >>= next = .ok value ↔ ∃ result, first = .ok result ∧ next result = .ok value := by
  cases first with
  | error error => exact ⟨(by rintro ⟨⟩), (by rintro ⟨result, ⟨⟩, isNext⟩)⟩
  | ok result =>
    constructor
    · exact fun isNext => ⟨result, rfl, isNext⟩
    · rintro ⟨_, ⟨⟩, isNext⟩
      exact isNext

theorem expect_eq_ok_iff {c : Char} : expect c text = .ok rest ↔ text = c :: rest := by
  cases text with
  | nil => exact ⟨(by rintro ⟨⟩), (by rintro ⟨⟩)⟩
  | cons first others =>
    show (if first == c then Except.ok others else .error (first :: others)) = .ok rest ↔ _
    rw [List.cons.injEq]
    split
    · rename_i same
      rw [Except.ok.injEq, and_iff_right (beq_iff_eq.mp same)]
    · rename_i other
      exact ⟨(by rintro ⟨⟩), fun isText => absurd (beq_iff_eq.mpr isText.1) other⟩

theorem predicate_eq_ok_iff {found : Name × List Char} :
    predicate text = .ok found ↔ name? text = some found := by
  unfold predicate
  cases name? text <;> simp

/-- **The four steps of reading an atom**: its name, an opening parenthesis, the arguments, a closing
parenthesis, and blanks between them. -/
theorem atom_eq_ok_iff {written : WrittenAtom} : atom text = .ok (written, rest) ↔
    ∃ afterName inside afterArguments behind,
      name? (skipSpaces text) = some (written.predicate, afterName) ∧
      skipSpaces afterName = '(' :: inside ∧
      arguments (skipSpaces inside) = (written.arguments, afterArguments) ∧
      skipSpaces afterArguments = ')' :: behind ∧ rest = skipSpaces behind := by
  unfold atom
  constructor
  · intro isRead
    obtain ⟨⟨name, afterName⟩, isPredicate, isRead⟩ := bind_eq_ok_iff.mp isRead
    obtain ⟨inside, opens, isRead⟩ := bind_eq_ok_iff.mp isRead
    obtain ⟨behind, closes, same⟩ := bind_eq_ok_iff.mp isRead
    cases same
    exact ⟨afterName, inside, _, behind, predicate_eq_ok_iff.mp isPredicate,
      expect_eq_ok_iff.mp opens, rfl, expect_eq_ok_iff.mp closes, rfl⟩
  · rintro ⟨afterName, inside, afterArguments, behind, isName, opens, areArguments, closes, rfl⟩
    refine bind_eq_ok_iff.mpr ⟨_, predicate_eq_ok_iff.mpr isName, ?_⟩
    refine bind_eq_ok_iff.mpr ⟨inside, expect_eq_ok_iff.mpr opens, ?_⟩
    rw [areArguments]
    exact bind_eq_ok_iff.mpr ⟨behind, expect_eq_ok_iff.mpr closes, rfl⟩

/-- An atom that is read whole stands for what its parts stand for. -/
theorem read_of_atom (prefixes : Prefixes) {written : WrittenAtom}
    (isRead : atom text = .ok (written, [])) :
    read prefixes (String.ofList text) = written.resolve prefixes := by
  obtain ⟨afterName, inside, -, -, isName, opens, -⟩ := atom_eq_ok_iff.mp isRead
  have visible : Text.trim text ≠ [] := by
    have inRest : '(' ∈ afterName := (List.dropWhile_suffix isSpace).subset (by
      change '(' ∈ skipSpaces afterName
      rw [opens]
      exact List.mem_cons_self)
    have inText : '(' ∈ skipSpaces text := (suffix_of_name? isName).subset inRest
    exact Text.trim_ne_nil ((List.dropWhile_suffix isSpace).subset inText) (by decide)
  unfold read
  simp only [String.toList_ofList, List.isEmpty_iff, if_neg visible, isRead]

end AtomText

end RuleAtoms
