/-
**What every atom that is read has in common.**

Whatever the text, the predicate of an atom that is read fits between angle brackets, its variables
have names that can be written, and there are no blanks in its datatypes.

* `isReadable_of_argument?`: what one argument is like, as it is written;
* `isProper_of_resolve`: what it is like then when it stands for something;
* `argument?_of_mem_arguments`: every argument of a list has been read by itself;
* `proper_of_read`: so the same holds of all arguments of an atom.
-/

import RuleAtoms.Proofs.AtomText.Legible

namespace RuleAtoms.AtomText

variable {prefixes : Prefixes} {text rest : List Char}

/-! ### Names -/

/-- What a name stands for can be written between angle brackets. -/
theorem isEnclosable_of_name? (regular : AreRegular prefixes) {name : Name} {iri : String}
    (isRead : name? text = some (name, rest)) (resolves : name.resolve prefixes = .ok iri) :
    isEnclosable iri = true := by
  rcases name?_eq_some_iff.mp isRead with isIri | isAbbreviated
  · obtain ⟨written, enclosable, rfl, -⟩ := iri?_eq_some_iff.mp isIri
    cases resolves
    exact enclosable
  · obtain ⟨start, localName, -, isLocal, -, rfl, -⟩ := abbreviated?_eq_some_iff.mp isAbbreviated
    obtain ⟨space, bound, rfl⟩ := resolve_abbreviated_eq_ok_iff.mp resolves
    exact isEnclosable_of_find? regular bound isLocal

/-- There are no blanks in what a datatype stands for. -/
theorem isBlank_of_datatype? (regular : AreRegular prefixes) {name : Name} {datatype : String}
    (isRead : datatype? text = some (name, rest))
    (resolves : name.resolve prefixes = .ok datatype) {c : Char} (member : c ∈ datatype.toList) :
    Text.isBlank c = false := by
  rcases datatype?_eq_some_iff.mp isRead with isName | ⟨-, word, -, isLocal, -, rfl, -⟩
  · have enclosable := isEnclosable_of_name? regular isName resolves
    have visible := List.all_eq_true.mp enclosable c member
    exact Bool.not_eq_true' _ ▸ ((Bool.and_eq_true _ _).mp visible).2
  · cases resolves
    exact isBlank_of_isNameChar (List.all_eq_true.mp isLocal c member)

/-! ### Arguments -/

/-- What is known of an argument that has been read, as it is written. -/
def IsReadable : WrittenArgument → Prop
  | .variable name => name ≠ "" ∧ isLocalName name = true
  | .quoted _ (some (.datatype name)) => ∃ front back, datatype? front = some (name, back)
  | .quoted _ _ => True
  | .bare token => ∀ c ∈ token.toList, isTokenChar c = true

theorem isReadable_of_suffix? {suffix : Suffix} (isRead : suffix? text = some (suffix, rest))
    (lexical : String) : IsReadable (.quoted lexical (some suffix)) := by
  unfold suffix? at isRead
  split at isRead
  · obtain ⟨⟨name, tail⟩, isName, same⟩ := Option.map_eq_some_iff.mp isRead
    cases same
    exact ⟨_, _, isName⟩
  · obtain ⟨⟨tag, tail⟩, -, same⟩ := Option.map_eq_some_iff.mp isRead
    cases same
    exact trivial
  · cases isRead

theorem isReadable_of_argument? {written : WrittenArgument}
    (isRead : argument? text = some (written, rest)) : IsReadable written := by
  unfold argument? at isRead
  rcases Option.or_eq_some_iff.mp isRead with isEarly | ⟨-, isBare⟩
  · rcases Option.or_eq_some_iff.mp isEarly with isVariable | ⟨-, isQuoted⟩
    · obtain ⟨name, isRun, rfl, -⟩ := namedVariable?_eq_some_iff.mp isVariable
      obtain ⟨-, nonempty, inClass, -⟩ := oneOrMore?_eq_some_iff.mp isRun
      refine ⟨fun isEmpty => nonempty ?_, ?_⟩
      · rwa [← String.toList_inj, String.toList_ofList] at isEmpty
      · unfold isLocalName
        rw [String.toList_ofList]
        exact List.all_eq_true.mpr inClass
    · obtain ⟨⟨inside, tail⟩, -, isSuffix⟩ := Option.map_eq_some_iff.mp isQuoted
      simp only at isSuffix
      split at isSuffix
      · rename_i suffix behind isRead
        cases isSuffix
        exact isReadable_of_suffix? isRead _
      · cases isSuffix
        exact trivial
  · obtain ⟨⟨token, tail⟩, isRun, same⟩ := Option.map_eq_some_iff.mp isBare
    cases same
    obtain ⟨-, -, inClass, -⟩ := oneOrMore?_eq_some_iff.mp isRun
    show ∀ c ∈ (String.ofList token).toList, isTokenChar c = true
    rwa [String.toList_ofList]

/-- What is known of an argument that has been read. -/
def IsProperArgument (prefixes : Prefixes) : Argument → Prop
  | .variable value => isWritableArgument prefixes (.variable value) = true
  | .literal value => ∀ datatype ∈ value.datatype?, ∀ c ∈ datatype.toList, Text.isBlank c = false

theorem isProper_of_token {token : String} (isRun : ∀ c ∈ token.toList, isTokenChar c = true) :
    IsProperArgument prefixes (.literal (.ofToken token)) := by
  intro datatype isDatatype c member
  have isToken := Literal.token_ofToken token
  generalize Literal.ofToken token = literal at isDatatype isToken
  obtain ⟨lexical, kind⟩ := literal
  cases kind with
  | plain => cases isDatatype
  | language tag => cases isDatatype
  | typed other =>
    cases isDatatype
    have inToken : c ∈ token.toList := by
      rw [← isToken]
      unfold Literal.token
      rw [String.toList_append]
      exact List.mem_append_right _ member
    have isTokenChar := isRun c inToken
    unfold AtomText.isTokenChar at isTokenChar
    exact Bool.not_eq_true' _ ▸ ((Bool.and_eq_true _ _).mp isTokenChar).1

/-- **What an argument that has been read stands for** is a variable that can be written, or a literal
without blanks in its datatype. -/
theorem isProper_of_resolve (regular : AreRegular prefixes) {written : WrittenArgument}
    {argument : Argument} (readable : IsReadable written)
    (resolves : written.resolve prefixes = .ok argument) : IsProperArgument prefixes argument := by
  cases written with
  | «variable» name =>
    cases resolves
    obtain ⟨nonempty, isLocal⟩ := readable
    rw [Variable.ofText_of_unmarked (unmarked_of_isLocalName isLocal)]
    exact (Bool.and_eq_true _ _).mpr ⟨bne_iff_ne.mpr nonempty, isLocal⟩
  | bare token =>
    cases resolves
    exact isProper_of_token readable
  | quoted lexical suffix? =>
    cases suffix? with
    | none =>
      cases resolves
      exact fun _ isDatatype => nomatch isDatatype
    | some suffix =>
      cases suffix with
      | language tag =>
        cases resolves
        exact fun _ isDatatype => nomatch isDatatype
      | datatype name =>
        obtain ⟨front, back, isRead⟩ := readable
        obtain ⟨datatype, isName, rfl⟩ := resolve_datatype_eq_ok_iff.mp resolves
        rintro _ ⟨⟩ c member
        exact isBlank_of_datatype? regular isRead isName member

/-! ### Atoms -/

theorem argument?_of_mem_moreArguments {written : WrittenArgument}
    (member : written ∈ (moreArguments text).1) :
    ∃ front back, argument? front = some (written, back) := by
  have read_of_next {text back : List Char} {argument : WrittenArgument}
      (isNext : nextArgument? text = some (argument, back)) :
      ∃ front back, argument? front = some (argument, back) := by
    unfold nextArgument? at isNext
    split at isNext
    · exact ⟨_, _, isNext⟩
    · cases isNext
  fun_induction moreArguments text with
  | case1 text argument rest isNext shorter arguments tail isMore ih =>
    rcases List.mem_cons.mp member with rfl | inMore
    · exact read_of_next isNext
    · exact ih (isMore ▸ inMore)
  | case2 text argument rest isNext notShorter =>
    rw [List.mem_singleton.mp member]
    exact read_of_next isNext
  | case3 => cases member

/-- Every argument of a list has been read by itself. -/
theorem argument?_of_mem_arguments {written : WrittenArgument}
    (member : written ∈ (arguments text).1) :
    ∃ front back, argument? front = some (written, back) := by
  unfold arguments at member
  split at member
  · rename_i argument rest isRead
    rcases List.mem_cons.mp member with rfl | inMore
    · exact ⟨text, rest, isRead⟩
    · exact argument?_of_mem_moreArguments inMore
  · cases member

theorem exists_of_mem_mapM {α β ε : Type} {f : α → Except ε β} {items : List α} {results : List β}
    (isRun : items.mapM f = .ok results) {result : β} (member : result ∈ results) :
    ∃ item ∈ items, f item = .ok result := by
  induction items generalizing results with
  | nil =>
    cases isRun
    cases member
  | cons item others ih =>
    rw [List.mapM_cons] at isRun
    obtain ⟨first, isFirst, isRun⟩ := bind_eq_ok_iff.mp isRun
    obtain ⟨more, areOthers, same⟩ := bind_eq_ok_iff.mp isRun
    cases same
    rcases List.mem_cons.mp member with rfl | inMore
    · exact ⟨item, List.mem_cons_self, isFirst⟩
    · obtain ⟨other, isOther, isResult⟩ := ih areOthers inMore
      exact ⟨other, List.mem_cons_of_mem _ isOther, isResult⟩

theorem read_eq_ok {text : String} {atom : Atom} (isRead : read prefixes text = .ok atom) :
    ∃ written, AtomText.atom text.toList = .ok (written, []) ∧
      written.resolve prefixes = .ok atom := by
  unfold read at isRead
  simp only at isRead
  split at isRead
  · cases isRead
  · split at isRead
    · cases isRead
    · cases isRead
    · rename_i written whole
      exact ⟨written, whole, isRead⟩

theorem resolve_eq_ok {written : WrittenAtom} {atom : Atom}
    (resolves : written.resolve prefixes = .ok atom) :
    written.predicate.resolve prefixes = .ok atom.predicate ∧
      written.arguments.mapM (WrittenArgument.resolve prefixes) = .ok atom.arguments := by
  unfold WrittenAtom.resolve at resolves
  obtain ⟨predicate, isPredicate, resolves⟩ := bind_eq_ok_iff.mp resolves
  obtain ⟨arguments, areArguments, same⟩ := bind_eq_ok_iff.mp resolves
  cases same
  exact ⟨isPredicate, areArguments⟩

/-- **What every atom that is read has in common**, whatever its text is. -/
theorem proper_of_read (regular : AreRegular prefixes) {text : String} {atom : Atom}
    (isRead : read prefixes text = .ok atom) :
    isEnclosable atom.predicate = true ∧
      ∀ argument ∈ atom.arguments, IsProperArgument prefixes argument := by
  obtain ⟨written, whole, resolves⟩ := read_eq_ok isRead
  obtain ⟨afterName, inside, afterArguments, behind, isName, -, areArguments, -⟩ :=
    atom_eq_ok_iff.mp whole
  obtain ⟨predicate, mapped⟩ := resolve_eq_ok resolves
  refine ⟨isEnclosable_of_name? regular isName predicate, fun argument member => ?_⟩
  obtain ⟨writtenOne, isThere, resolvesOne⟩ := exists_of_mem_mapM mapped member
  have isThere : writtenOne ∈ (arguments (skipSpaces inside)).1 := by
    rw [areArguments]
    exact isThere
  obtain ⟨front, back, isReadThere⟩ := argument?_of_mem_arguments isThere
  exact isProper_of_resolve regular (isReadable_of_argument? isReadThere) resolvesOne

end RuleAtoms.AtomText
