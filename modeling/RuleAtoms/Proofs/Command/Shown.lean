/-
**What is shown can be read.**

An atom is shown in markup or in one line of text, and what a file holds is taken for one of the two
by its first characters. Markup is always taken for markup. A line is, too, when its predicate stands
between angle brackets and begins as markup does behind its bracket (`LooksLikeMarkup`). It then ends
in a parenthesis, which no document of an atom does.

* `isMarkup_line_iff`: which lines are taken for markup;
* `readAtom_markup`, `readAtom_line_iff`: both forms read back where they are taken for what they are;
* `loadAtom_shown`: hence which of the texts that are shown are read as the atom.

Nothing is said here of a predicate that is abbreviated by a prefix with other characters than the
reader accepts in front of a colon (`HasReadableStart`).
-/

import RuleAtoms.Command.Run
import RuleAtoms.Proofs.AtomMarkup.RoundTrip
import RuleAtoms.Proofs.AtomText.RoundTrip
import RuleAtoms.Proofs.Markup.Endings

namespace RuleAtoms

/-! ### Documents of atoms -/

namespace AtomMarkup

open Markup

variable {space : String} {atom : Atom}

/-- An atom reads back from its document also when a line end follows. -/
theorem read_write_lineEnd (own : ∀ argument ∈ atom.arguments, HasOwnElement argument) :
    read space (write space atom ++ "\n") = .ok atom := by
  have document : write space atom ++ "\n" =
      String.ofList ((encode space atom).write ++ ['\n']) := by
    rw [write, String.ofList_append]
  unfold read
  rw [document, Markup.read_write_lineEnd (wellNamed_encode space atom), normal_encode]
  exact decode_encode_iff.mpr own

/-- The document of an atom begins with the name of its element. -/
theorem prefix_write (space : String) (atom : Atom) :
    '<' :: atomElement.toList <+: (write space atom).toList := by
  unfold write encode
  rw [String.toList_ofList, Element.write, Element.writeTag]
  split
  · simp only [List.cons_append, List.append_assoc]
    exact List.cons_prefix_cons.mpr ⟨rfl, List.prefix_append _ _⟩
  · simp only [List.cons_append, List.append_assoc]
    exact List.cons_prefix_cons.mpr ⟨rfl, List.prefix_append _ _⟩

/-- **No document of an atom ends in a parenthesis.** -/
theorem read_ne_ok {document : String} (ends : EndsInParenthesis document.toList) :
    read space document ≠ .ok atom := by
  intro isAtom
  unfold read at isAtom
  split at isAtom
  · rename_i element isRead
    have name := getLast?_name_of_read ends isRead
    unfold decode at isAtom
    split at isAtom
    · rename_i isAtomElement
      rw [beq_iff_eq.mp isAtomElement] at name
      exact absurd name (by decide)
    · cases isAtom
  · cases isAtom

end AtomMarkup

/-! ### Lines of atoms -/

namespace AtomText

variable {prefixes : Prefixes} {atom : Atom}

/-- An atom reads back from its text also when a line end follows. -/
theorem read_render_lineEnd (nonempty : atom.arguments ≠ [])
    (readable : HasReadableStart prefixes atom.predicate)
    (enclosable : isEnclosable atom.predicate = true)
    (readsAs : ∀ argument ∈ atom.arguments,
      ReadsAs prefixes (renderArgument prefixes argument) argument) :
    read prefixes (String.ofList (render prefixes atom) ++ "\n") = .ok atom := by
  obtain ⟨written, whole, resolves⟩ :=
    atom_render_append nonempty readable enclosable readsAs ['\n']
  have visible : Text.trim (render prefixes atom ++ ['\n']) ≠ [] := by
    rw [render_eq nonempty]
    exact Text.trim_ne_nil (c := '(') (by simp) (by decide)
  have characters : (String.ofList (render prefixes atom) ++ "\n").toList =
      render prefixes atom ++ ['\n'] := by
    rw [String.toList_append, String.toList_ofList]
    rfl
  have behind : skipSpaces ['\n'] = [] := rfl
  unfold read
  simp only [characters, List.isEmpty_iff, if_neg visible, whole, behind, resolves]

end AtomText

namespace Command

open AtomText

/-! ### Texts that are taken for markup -/

/-- What markup begins with, behind its angle bracket. -/
def markupStarts : List String := ["?", "!--", AtomMarkup.atomElement]

theorem isMarkup_iff {text : String} :
    isMarkup text = true ↔
      ∃ start ∈ markupStarts, '<' :: start.toList <+: Text.trimStart text.toList := by
  unfold isMarkup markupStarts
  simp

/-- The predicate of an atom is not abbreviated, and begins as markup does behind its bracket. -/
def LooksLikeMarkup (prefixes : Prefixes) (predicate : String) : Prop :=
  Prefixes.compact? prefixes predicate = none ∧
    ∃ start ∈ markupStarts, start.toList <+: predicate.toList

instance (prefixes : Prefixes) (predicate : String) :
    Decidable (LooksLikeMarkup prefixes predicate) := inferInstanceAs (Decidable (_ ∧ _))

/-- What a text begins with behind its blanks stands in front of a character that is no blank, or is
this character. -/
theorem head?_trimStart_ne {front rest : List Char} {c mark : Char} (notBefore : mark ∉ front)
    (other : c ≠ mark) (noBlank : Text.isBlank c = false) :
    (Text.trimStart (front ++ c :: rest)).head? ≠ some mark := by
  unfold Text.trimStart
  rw [List.dropWhile_append]
  split
  · rw [Text.dropWhile_of_ends (Text.ends_cons noBlank), List.head?_cons]
    exact fun same => other (Option.some.inj same)
  · cases left : front.dropWhile Text.isBlank with
    | nil =>
      rename_i nonempty
      exact absurd (by rw [left]; rfl) nonempty
    | cons first others =>
      rw [List.cons_append, List.head?_cons]
      intro same
      have member : first ∈ front :=
        (List.dropWhile_suffix Text.isBlank).subset (left ▸ List.mem_cons_self)
      exact notBefore (Option.some.inj same ▸ member)

section Shown

variable {settings : Settings} {atom : Atom}

/-- A line begins with the predicate and ends with a parenthesis and a line end. -/
theorem printAtom_line (nonempty : atom.arguments ≠ []) :
    ∃ inside, (printAtom settings false atom).toList =
      (Prefixes.render settings.allPrefixes atom.predicate).toList ++
        '(' :: (inside ++ [')', '\n']) := by
  refine ⟨Text.join [','] (atom.arguments.map (renderArgument settings.allPrefixes)), ?_⟩
  unfold printAtom
  rw [if_neg Bool.false_ne_true, String.toList_append, String.toList_ofList, render_eq nonempty,
    List.append_assoc, List.cons_append, List.append_assoc]
  rfl

/-- **Which line is taken for markup**: that of a predicate which looks like markup. -/
theorem isMarkup_line_iff (nonempty : atom.arguments ≠ [])
    (readable : HasReadableStart settings.allPrefixes atom.predicate) :
    isMarkup (printAtom settings false atom) = true ↔
      LooksLikeMarkup settings.allPrefixes atom.predicate := by
  obtain ⟨inside, characters⟩ := @printAtom_line settings atom nonempty
  rw [isMarkup_iff, characters]
  unfold LooksLikeMarkup Prefixes.render
  rw [Prefixes.compact?_eq]
  cases taken : Prefixes.best? settings.allPrefixes atom.predicate with
  | none =>
    have bracket : ∀ rest, Text.trimStart ((Iri.bracketed atom.predicate).toList ++ rest) =
        '<' :: (atom.predicate.toList ++ '>' :: rest) := by
      intro rest
      unfold Iri.bracketed Text.trimStart
      simp only [String.toList_append, List.append_assoc]
      exact Text.dropWhile_of_ends (Text.ends_cons (by decide))
    have noAngle : ∀ start ∈ markupStarts, '>' ∉ start.toList := by decide
    rw [Option.map_none, Option.getD_none, bracket]
    simp only [true_and]
    refine exists_congr fun start => and_congr_right fun member => ?_
    rw [List.cons_prefix_cons, Text.prefix_append_cons_iff (noAngle start member)]
    exact and_iff_right rfl
  | some best =>
    have isStart := List.all_eq_true.mp (readable best taken)
    have noBracket : '<' ∉ best.start.toList := fun member => absurd (isStart '<' member) (by decide)
    rw [Option.map_some, Option.getD_some, toList_abbreviation]
    refine iff_of_false ?_ fun looks => nomatch looks.1
    rintro ⟨start, -, rest, begins⟩
    exact head?_trimStart_ne noBracket (by decide) (by decide) (congrArg List.head? begins).symm

/-! ### Atoms that are shown -/

/-- A variable with a name that can be written, or a plain literal. -/
def isPlainArgument : Argument → Bool
  | .variable value => value.name != "" && isLocalName value.name
  | .literal value => value.kind == .plain

/-- An atom with such arguments, at least one, and a predicate that fits between angle brackets. -/
structure IsPlain (atom : Atom) : Prop where
  nonempty : atom.arguments ≠ []
  predicate : isEnclosable atom.predicate = true
  arguments : ∀ argument ∈ atom.arguments, isPlainArgument argument = true

theorem readsAs_of_isPlainArgument {prefixes : Prefixes} {argument : Argument}
    (plain : isPlainArgument argument = true) :
    ReadsAs prefixes (renderArgument prefixes argument) argument := by
  cases argument with
  | «variable» value =>
    obtain ⟨nonempty, isName⟩ := (Bool.and_eq_true _ _).mp plain
    exact readsAs_variable (bne_iff_ne.mp nonempty) isName
  | literal value =>
    obtain ⟨lexical, kind⟩ := value
    obtain rfl : kind = .plain := beq_iff_eq.mp plain
    exact readsAs_plain lexical

theorem hasOwnElement_of_isPlainArgument {argument : Argument}
    (plain : isPlainArgument argument = true) : AtomMarkup.HasOwnElement argument := by
  cases argument with
  | «variable» value =>
    obtain ⟨-, isName⟩ := (Bool.and_eq_true _ _).mp plain
    intro isMarker
    have inName := List.all_eq_true.mp isName '?' (List.mem_of_mem_head? isMarker)
    exact absurd inName (by decide)
  | literal value =>
    obtain ⟨lexical, kind⟩ := value
    obtain rfl : kind = .plain := beq_iff_eq.mp plain
    exact fun typed => nomatch typed

/-- **An atom that is shown in markup** is read from what is shown. -/
theorem readAtom_markup (plain : IsPlain atom) :
    readAtom settings (printAtom settings true atom) = .ok atom := by
  have isMarkup : isMarkup (printAtom settings true atom) = true := by
    refine isMarkup_iff.mpr ⟨AtomMarkup.atomElement, by decide, ?_⟩
    obtain ⟨inside, begins⟩ := AtomMarkup.prefix_write settings.variableSpace atom
    unfold printAtom Text.trimStart
    rw [if_pos rfl, String.toList_append, ← begins, List.append_assoc, List.cons_append,
      Text.dropWhile_of_ends (Text.ends_cons (by decide))]
    exact List.cons_prefix_cons.mpr ⟨rfl, List.prefix_append _ _⟩
  have own : ∀ argument ∈ atom.arguments, AtomMarkup.HasOwnElement argument :=
    fun argument member => hasOwnElement_of_isPlainArgument (plain.arguments argument member)
  unfold readAtom
  rw [if_pos isMarkup]
  unfold printAtom
  rw [if_pos rfl, AtomMarkup.read_write_lineEnd own]
  rfl

/-- **An atom that is shown in one line** is read from what is shown if and only if this is not taken
for markup. -/
theorem readAtom_line_iff (plain : IsPlain atom)
    (readable : HasReadableStart settings.allPrefixes atom.predicate) :
    readAtom settings (printAtom settings false atom) = .ok atom ↔
      ¬ LooksLikeMarkup settings.allPrefixes atom.predicate := by
  rw [← isMarkup_line_iff plain.nonempty readable]
  unfold readAtom
  by_cases taken : isMarkup (printAtom settings false atom) = true
  · obtain ⟨inside, characters⟩ := @printAtom_line settings atom plain.nonempty
    have ends : Markup.EndsInParenthesis (printAtom settings false atom).toList := by
      rw [characters]
      exact ⟨_ ++ '(' :: inside, ['\n'], by rw [List.append_assoc]; rfl,
        List.forall_mem_singleton.mpr rfl⟩
    rw [if_pos taken]
    refine ⟨fun isAtom => ?_, fun notTaken => absurd taken notTaken⟩
    cases isRead : AtomMarkup.read settings.variableSpace (printAtom settings false atom) with
    | error error =>
      rw [isRead] at isAtom
      cases isAtom
    | ok other => exact absurd isRead (AtomMarkup.read_ne_ok ends)
  · have readsAs : ∀ argument ∈ atom.arguments,
        ReadsAs settings.allPrefixes (renderArgument settings.allPrefixes argument) argument :=
      fun argument member => readsAs_of_isPlainArgument (plain.arguments argument member)
    rw [if_neg taken]
    refine ⟨fun _ => taken, fun _ => ?_⟩
    unfold printAtom
    rw [if_neg Bool.false_ne_true,
      read_render_lineEnd plain.nonempty readable plain.predicate readsAs]
    rfl

/-! ### Files of atoms -/

theorem loadAtom_of_file {surroundings : Surroundings} {path text : String}
    (isFile : surroundings.file path = .text text) :
    loadAtom surroundings settings path = readAtom settings text := by
  unfold loadAtom atomText
  rw [isFile]
  rfl

/-- **What is shown can be read.** The text that is printed for an atom under some settings, as the
contents of a file, is read under the same settings as the same atom: always if it is markup, and in
one line exactly when the predicate does not look like markup, given that a prefix by which the
predicate is abbreviated can be read. -/
theorem loadAtom_shown (surroundings : Surroundings) (settings : Settings)
    (plain : IsPlain atom) :
    (∀ source inMarkup, loadAtom surroundings settings source = .ok atom →
        perform surroundings settings (.present source inMarkup) =
          .ok (printAtom settings inMarkup atom)) ∧
      (∀ path, surroundings.file path = .text (printAtom settings true atom) →
        loadAtom surroundings settings path = .ok atom) ∧
      (HasReadableStart settings.allPrefixes atom.predicate → ∀ path,
        surroundings.file path = .text (printAtom settings false atom) →
          (loadAtom surroundings settings path = .ok atom ↔
            ¬ LooksLikeMarkup settings.allPrefixes atom.predicate)) := by
  refine ⟨fun source inMarkup isLoaded => ?_, fun path isFile => ?_,
    fun readable path isFile => ?_⟩
  · change (loadAtom surroundings settings source).map (printAtom settings inMarkup) = _
    rw [isLoaded]
    rfl
  · rw [loadAtom_of_file isFile, readAtom_markup plain]
  · rw [loadAtom_of_file isFile, readAtom_line_iff plain readable]

end Shown

/-! ### Files that hold what is shown -/

/-- The path of the one file in `holding`. -/
def onlyPath : String := "atom.txt"

/-- Surroundings with one file, which holds a text. -/
def holding (text : String) : Surroundings where
  lookup? _ := none
  file path := if path == onlyPath then .text text else .missing
  input := ""

/-- The default settings with one more prefix. -/
def settingsWith (start space : String) : Settings :=
  { prefixes := Keyed.empty.insert start space }

/-- An atom with marks in its literal. -/
def quotedAtom : Atom :=
  ⟨"http://example.org/f", [.variable ⟨"X"⟩, .literal (.plain "a, \"b\"")]⟩

def quotedLine : String := "ex_1:f(?X,\"a, \\\"b\\\"\")\n"

def quotedDocument : String :=
  "<BuiltInAtom IRI=\"http://example.org/f\"><Variable IRI=\"urn:swrl#X\"/>" ++
    "<Literal>a, &quot;b&quot;</Literal></BuiltInAtom>\n"

/-- Each of the two forms of the atom is read as the atom, and shown as the other one. -/
theorem loadAtom_shown_quotedAtom :
    IsPlain quotedAtom ∧
      HasReadableStart (settingsWith "ex_1" "http://example.org/").allPrefixes
        quotedAtom.predicate ∧
      loadAtom (holding quotedLine) (settingsWith "ex_1" "http://example.org/") onlyPath =
        .ok quotedAtom ∧
      perform (holding quotedLine) (settingsWith "ex_1" "http://example.org/")
        (.present onlyPath true) = .ok quotedDocument ∧
      loadAtom (holding quotedDocument) (settingsWith "ex_1" "http://example.org/") onlyPath =
        .ok quotedAtom ∧
      perform (holding quotedDocument) (settingsWith "ex_1" "http://example.org/")
        (.present onlyPath false) = .ok quotedLine := by
  generalize isSettings : settingsWith "ex_1" "http://example.org/" = settings
  have plain : IsPlain quotedAtom := ⟨List.cons_ne_nil _ _, by decide, by decide⟩
  have readable : HasReadableStart settings.allPrefixes quotedAtom.predicate := by
    refine HasReadableKeys.start ?_ quotedAtom.predicate
    unfold HasReadableKeys
    rw [← isSettings]
    decide
  have looks : ¬ LooksLikeMarkup settings.allPrefixes quotedAtom.predicate := by
    rw [← isSettings]
    decide +kernel
  have isLine : printAtom settings false quotedAtom = quotedLine := by
    rw [← isSettings]
    decide +kernel
  have isDocument : printAtom settings true quotedAtom = quotedDocument := by
    rw [← isSettings]
    decide +kernel
  obtain ⟨shownOfLine, -, fromLine⟩ := loadAtom_shown (holding quotedLine) settings plain
  obtain ⟨shownOfDocument, fromDocument, -⟩ :=
    loadAtom_shown (holding quotedDocument) settings plain
  have lineLoaded := (fromLine readable onlyPath (by rw [isLine]; rfl)).mpr looks
  have documentLoaded := fromDocument onlyPath (by rw [isDocument]; rfl)
  refine ⟨plain, readable, lineLoaded, ?_, documentLoaded, ?_⟩
  · rw [shownOfLine onlyPath true lineLoaded, isDocument]
  · rw [shownOfDocument onlyPath false documentLoaded, isLine]

/-- An atom whose predicate looks like markup. -/
def lookalikeAtom : Atom := ⟨"BuiltInAtom:f", [.variable ⟨"X"⟩]⟩

def lookalikeLine : String := "<BuiltInAtom:f>(?X)\n"

/-- An atom whose predicate can be abbreviated by a prefix with a hyphen. -/
def hyphenatedAtom : Atom := ⟨"http://example.org/f", [.variable ⟨"X"⟩]⟩

def hyphenatedLine : String := "my-ex:f(?X)\n"

/-- Two atoms that are not read from the line in which they are shown: the first is taken for markup,
and the prefix of the second is written but cannot be read. -/
theorem loadAtom_ne_shown :
    (IsPlain lookalikeAtom ∧ printAtom .default false lookalikeAtom = lookalikeLine ∧
        loadAtom (holding lookalikeLine) .default onlyPath ≠ .ok lookalikeAtom) ∧
      IsPlain hyphenatedAtom ∧
        printAtom (settingsWith "my-ex" "http://example.org/") false hyphenatedAtom =
          hyphenatedLine ∧
        loadAtom (holding hyphenatedLine) (settingsWith "my-ex" "http://example.org/") onlyPath ≠
          .ok hyphenatedAtom := by
  have isFile : ∀ text, (holding text).file onlyPath = .text text := fun _ => rfl
  have lookalikePlain : IsPlain lookalikeAtom := ⟨List.cons_ne_nil _ _, by decide, by decide⟩
  have isLookalike : printAtom .default false lookalikeAtom = lookalikeLine := by decide +kernel
  have readable : HasReadableStart Settings.default.allPrefixes lookalikeAtom.predicate := by
    refine HasReadableKeys.start ?_ lookalikeAtom.predicate
    unfold HasReadableKeys
    decide
  have looks : LooksLikeMarkup Settings.default.allPrefixes lookalikeAtom.predicate := by
    decide +kernel
  have isHyphenated : printAtom (settingsWith "my-ex" "http://example.org/") false hyphenatedAtom =
      hyphenatedLine := by decide +kernel
  have refused : AtomText.read (settingsWith "my-ex" "http://example.org/").allPrefixes
      hyphenatedLine = .error (.unexpected 2 "-ex:f(?X)\n".toList) := by rfl
  refine ⟨⟨lookalikePlain, isLookalike, ?_⟩, ⟨List.cons_ne_nil _ _, by decide, by decide⟩,
    isHyphenated, ?_⟩
  · rw [loadAtom_of_file (isFile _), ← isLookalike]
    exact fun isRead => (readAtom_line_iff lookalikePlain readable).mp isRead looks
  · rw [loadAtom_of_file (isFile _)]
    unfold readAtom
    rw [if_neg (by decide +kernel), refused]
    exact fun isRead => nomatch isRead

end Command

end RuleAtoms
