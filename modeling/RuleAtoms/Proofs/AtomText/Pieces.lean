/-
**The pieces of an atom in text read back.**

Each reader is run on what the writer wrote, followed by any text that cannot be taken for more of
it.

* `quoted?_quote`: a text between quotes reads back, whatever it holds and whatever follows;
* `name?_render`: an IRI, abbreviated or between angle brackets, reads as a name that stands for it;
* `datatype?_renderDatatype`: so does a datatype.
-/

import RuleAtoms.AtomText.Reader
import RuleAtoms.Proofs.Name.Abbreviation
import RuleAtoms.Proofs.Text.Occurrence
import RuleAtoms.Proofs.Text.Runs

namespace RuleAtoms.AtomText

open Text (Ends)

theorem oneOrMore?_run {allowed : Char → Bool} {run rest : List Char} (nonempty : run ≠ [])
    (isRun : ∀ c ∈ run, allowed c = true) (ends : Ends allowed rest) :
    oneOrMore? allowed (run ++ rest) = some (run, rest) := by
  unfold oneOrMore?
  rw [Text.takeWhile_run isRun ends, Text.dropWhile_run isRun ends]
  exact if_neg (by simpa using nonempty)

/-! ### Texts between quotes -/

/-- A character that means itself between quotes. -/
def isOrdinary (c : Char) : Bool := c != '"' && c != '\\'

theorem isOrdinary_eq_true_iff {c : Char} : isOrdinary c = true ↔ c ≠ '"' ∧ c ≠ '\\' := by
  unfold isOrdinary
  rw [Bool.and_eq_true, bne_iff_ne, bne_iff_ne]

theorem quotedRest?_ordinary {c : Char} (ordinary : isOrdinary c = true) (text : List Char) :
    quotedRest? (c :: text) =
      (quotedRest? text).map fun (front, back) => (c :: front, back) := by
  obtain ⟨noQuote, noBackslash⟩ := isOrdinary_eq_true_iff.mp ordinary
  rw [quotedRest?]
  · rw [if_neg (by simpa using noBackslash)]
  · exact noQuote
  · exact fun _ _ isBackslash => absurd isBackslash noBackslash

/-- **One escaped character reads back.** -/
theorem quotedRest?_quoteChar (c : Char) (text : List Char) :
    quotedRest? (quoteChar c ++ text) =
      (quotedRest? text).map fun (front, back) => (c :: front, back) := by
  unfold quoteChar
  by_cases escaped : (c == '"' || c == '\\') = true
  · rw [if_pos escaped]
    show quotedRest? ('\\' :: c :: text) = _
    rw [quotedRest?]
    simp only [escaped, if_true, List.singleton_append]
  · rw [if_neg escaped]
    simp only [Bool.or_eq_true, beq_iff_eq, not_or] at escaped
    exact quotedRest?_ordinary (isOrdinary_eq_true_iff.mpr escaped) text

theorem quotedRest?_flatMap_quoteChar (text rest : List Char) :
    quotedRest? (text.flatMap quoteChar ++ '"' :: rest) = some (text, rest) := by
  induction text with
  | nil => rw [List.flatMap_nil, List.nil_append, quotedRest?]
  | cons c text ih =>
    rw [List.flatMap_cons, List.append_assoc, quotedRest?_quoteChar, ih, Option.map_some]

/-- **A quoted text reads back**, whatever it holds and whatever follows. -/
theorem quoted?_quote (text rest : List Char) :
    quoted? (quote text ++ rest) = some (text, rest) := by
  unfold quote
  rw [List.cons_append, List.cons_append, List.append_assoc]
  exact quotedRest?_flatMap_quoteChar text rest

theorem quoted?_of_head? {text : List Char} (other : text.head? ≠ some '"') :
    quoted? text = none := by
  unfold quoted?
  split
  · exact absurd rfl other
  · rfl

/-! ### Names -/

/-- Whether an IRI can stand between angle brackets. -/
def isEnclosable (iri : String) : Bool := iri.toList.all fun c => c != '>' && !Text.isBlank c

theorem iri?_bracketed {iri : String} (enclosable : isEnclosable iri = true) (rest : List Char) :
    iri? ((Iri.bracketed iri).toList ++ rest) = some (.iri iri, rest) := by
  have inside : ∀ c ∈ iri.toList, (c != '>' && !Text.isBlank c) = true :=
    List.all_eq_true.mp enclosable
  have closes : Ends (fun c => c != '>' && !Text.isBlank c) ('>' :: rest) := Text.ends_cons rfl
  have characters : (Iri.bracketed iri).toList ++ rest = '<' :: (iri.toList ++ '>' :: rest) := by
    unfold Iri.bracketed
    simp
  rw [characters]
  unfold iri?
  simp only [Text.takeWhile_run inside closes, Text.dropWhile_run inside closes,
    String.ofList_toList]

theorem iri?_of_head? {text : List Char} (other : text.head? ≠ some '<') : iri? text = none := by
  unfold iri?
  split
  · exact absurd rfl other
  · rfl

/-- The characters of an abbreviation: its prefix, a colon and the local name. -/
theorem toList_abbreviation (start localName : String) (rest : List Char) :
    (start ++ ":" ++ localName).toList ++ rest =
      start.toList ++ ':' :: (localName.toList ++ rest) := by
  simp

theorem abbreviated?_colon {start localName : String} {rest : List Char}
    (isStart : start.toList.all isPrefixChar = true) (isLocal : isLocalName localName = true)
    (ends : Ends isNameChar rest) :
    abbreviated? ((start ++ ":" ++ localName).toList ++ rest) =
      some (.abbreviated start localName, rest) := by
  have colon : Ends isPrefixChar (':' :: (localName.toList ++ rest)) := Text.ends_cons (by decide)
  have isRun := List.all_eq_true.mp isStart
  have isLocalRun : ∀ c ∈ localName.toList, isNameChar c = true := List.all_eq_true.mp isLocal
  unfold abbreviated?
  rw [toList_abbreviation, Text.dropWhile_run isRun colon]
  simp only [Text.takeWhile_run isRun colon, Text.takeWhile_run isLocalRun ends,
    Text.dropWhile_run isLocalRun ends, String.ofList_toList]

/-- An abbreviated name does not begin like one between brackets. -/
theorem head?_append_colon {start localName : String} {rest : List Char} {c : Char}
    (isStart : start.toList.all isPrefixChar = true) (noPrefixChar : isPrefixChar c = false)
    (noColon : c ≠ ':') : ((start ++ ":" ++ localName).toList ++ rest).head? ≠ some c := by
  rw [toList_abbreviation]
  by_cases noStart : start.toList = []
  · rw [noStart]
    exact fun same => noColon (Option.some.inj same).symm
  · exact Text.head?_run_ne noStart (List.all_eq_true.mp isStart) noPrefixChar

/-- Prefixes that can be written in front of a colon. -/
def HasReadableKeys (prefixes : Prefixes) : Prop :=
  ∀ key ∈ prefixes.keys, key.toList.all isPrefixChar = true

/-- The prefix by which an IRI is abbreviated, if it is, can be written in front of a colon. -/
def HasReadableStart (prefixes : Prefixes) (iri : String) : Prop :=
  ∀ best, Prefixes.best? prefixes iri = some best → best.start.toList.all isPrefixChar = true

theorem HasReadableKeys.start {prefixes : Prefixes} (readable : HasReadableKeys prefixes)
    (iri : String) : HasReadableStart prefixes iri :=
  fun best taken => readable best.start (Prefixes.best?_eq_some taken).1

/-- **An IRI reads as a name that stands for it**, whether a prefix applies or not. -/
theorem name?_render {prefixes : Prefixes} {iri : String} {rest : List Char}
    (readable : HasReadableStart prefixes iri) (enclosable : isEnclosable iri = true)
    (ends : Ends isNameChar rest) :
    ∃ name, name? ((Prefixes.render prefixes iri).toList ++ rest) = some (name, rest) ∧
      name.resolve prefixes = .ok iri := by
  unfold Prefixes.render name?
  rw [Prefixes.compact?_eq]
  cases taken : Prefixes.best? prefixes iri with
  | none =>
    refine ⟨.iri iri, ?_, rfl⟩
    rw [Option.map_none, Option.getD_none, iri?_bracketed enclosable, Option.some_or]
  | some best =>
    obtain ⟨-, isLocal, expands⟩ := Prefixes.best?_eq_some taken
    have isStart := readable best taken
    refine ⟨.abbreviated best.start best.localName, ?_, ?_⟩
    · rw [Option.map_some, Option.getD_some,
        iri?_of_head? (head?_append_colon isStart (by decide) (by decide)), Option.none_or,
        abbreviated?_colon isStart isLocal ends]
    · simp only [Name.resolve, expands]

/-! ### Datatypes -/

/-- Whether a datatype can be written: it is a local name as it stands, or an IRI that is not taken
for an abbreviated name. -/
def isWritableDatatype (prefixes : Prefixes) (datatype : String) : Bool :=
  (datatype != "" && isLocalName datatype) ||
    (Iri.isAbsolute datatype && isEnclosable datatype &&
      !Prefixes.isAbbreviated prefixes datatype)

/-- A local name holds no scheme. -/
theorem isAbsolute_of_isLocalName {text : String} (isLocal : isLocalName text = true) :
    Iri.isAbsolute text = false := by
  have noColon : Text.splitFirst? [':'] text.toList = none := by
    rw [Text.splitFirst?_eq_none_iff, List.singleton_infix_iff]
    intro member
    exact absurd (List.all_eq_true.mp isLocal ':' member) (by decide)
  unfold Iri.isAbsolute
  rw [noColon]

theorem isNameChar_of_isPrefixChar {c : Char} (isPrefix : isPrefixChar c = true) :
    isNameChar c = true := by
  unfold isPrefixChar at isPrefix
  unfold isNameChar
  rw [isPrefix, Bool.true_or, Bool.true_or]

theorem abbreviated?_of_head? {text : List Char}
    (noColon : (text.dropWhile isPrefixChar).head? ≠ some ':') : abbreviated? text = none := by
  unfold abbreviated?
  split
  · rename_i found
    exact absurd (congrArg List.head? found) noColon
  · rfl

/-- A bare word is not taken for a name with a prefix. -/
theorem name?_of_isLocalName {text : String} {rest : List Char} (nonempty : text ≠ "")
    (isLocal : isLocalName text = true) (ends : Ends isNameChar rest)
    (noColon : rest.head? ≠ some ':') : name? (text.toList ++ rest) = none := by
  have isRun : ∀ c ∈ text.toList, isNameChar c = true := List.all_eq_true.mp isLocal
  have someCharacter : text.toList ≠ [] := fun isNil =>
    nonempty (String.toList_eq_nil_iff.mp isNil)
  have noBracket : (text.toList ++ rest).head? ≠ some '<' :=
    Text.head?_run_ne someCharacter isRun (by decide)
  have noPrefix : ((text.toList ++ rest).dropWhile isPrefixChar).head? ≠ some ':' := by
    rw [List.dropWhile_append]
    split
    · have prefixEnds : Ends isPrefixChar rest := fun c isFirst => by
        rw [← Bool.not_eq_true]
        intro isPrefix
        have isName := isNameChar_of_isPrefixChar isPrefix
        exact Bool.false_ne_true ((ends c isFirst).symm.trans isName)
      rwa [Text.dropWhile_of_ends prefixEnds]
    · rename_i more
      cases left : text.toList.dropWhile isPrefixChar with
      | nil => exact absurd (by rw [left]; rfl) more
      | cons first others =>
        intro isColon
        rw [List.cons_append, List.head?_cons, Option.some.injEq] at isColon
        have member : first ∈ text.toList :=
          (List.dropWhile_suffix isPrefixChar).subset (left ▸ List.mem_cons_self)
        exact absurd (isRun ':' (isColon ▸ member)) (by decide)
  unfold name?
  rw [iri?_of_head? noBracket, abbreviated?_of_head? noPrefix, Option.none_or]

/-- **A datatype reads as a name that stands for it.** -/
theorem datatype?_renderDatatype {prefixes : Prefixes} {datatype : String} {rest : List Char}
    (readable : HasReadableKeys prefixes)
    (writable : isWritableDatatype prefixes datatype = true) (ends : Ends isNameChar rest)
    (noColon : rest.head? ≠ some ':') :
    ∃ name, datatype? ((Prefixes.renderDatatype prefixes datatype).toList ++ rest) =
        some (name, rest) ∧ name.resolve prefixes = .ok datatype := by
  unfold isWritableDatatype at writable
  unfold Prefixes.renderDatatype datatype?
  rcases (Bool.or_eq_true _ _).mp writable with isBare | isIri
  · obtain ⟨nonempty, isLocal⟩ := (Bool.and_eq_true _ _).mp isBare
    rw [bne_iff_ne] at nonempty
    have someCharacter : datatype.toList ≠ [] := fun isNil =>
      nonempty (String.toList_eq_nil_iff.mp isNil)
    refine ⟨.bare datatype, ?_, rfl⟩
    rw [isAbsolute_of_isLocalName isLocal, Bool.false_and, if_neg Bool.false_ne_true,
      name?_of_isLocalName nonempty isLocal ends noColon, Option.none_or,
      oneOrMore?_run someCharacter (List.all_eq_true.mp isLocal) ends]
    simp only [Option.map_some, String.ofList_toList]
  · obtain ⟨absoluteEnclosable, notAbbreviated⟩ := (Bool.and_eq_true _ _).mp isIri
    obtain ⟨absolute, enclosable⟩ := (Bool.and_eq_true _ _).mp absoluteEnclosable
    rw [absolute, notAbbreviated, Bool.and_true, if_pos rfl]
    obtain ⟨name, read, resolves⟩ := name?_render (readable.start datatype) enclosable ends
    exact ⟨name, by rw [read, Option.some_or], resolves⟩

end RuleAtoms.AtomText
