/-
**Written elements of every shape read back.**

The names that are usual in markup are those of ASCII letters, digits and four marks. They end where
they were written to end, so an element in which all names are such is read back from what is
written of it, whatever its texts and the values of its attributes hold. Reading changes only one
thing: it clears a text of nothing but blanks that stands beside children (`Cleared`).

* `cleared_iff`: clearing has one result, which is what reading makes of an element;
* `read_write_cleared`: a written element is read as itself with these texts cleared.
-/

import Mathlib.Data.List.Forall2
import RuleAtoms.Proofs.Markup.Trees

namespace RuleAtoms.Markup

/-! ### Names -/

/-- Whether a character may stand in a name, at its beginning or behind it. -/
def isAsciiNameChar (c : Char) : Bool := c.isAlphanum || ['_', '-', '.', ':'].contains c

/-- Whether a name is made of ASCII letters, digits and marks, and begins with a letter or an
underscore. -/
def isAsciiName (name : String) : Bool :=
  match name.toList with
  | [] => false
  | first :: rest => (first.isAlpha || first == '_') && rest.all isAsciiNameChar

theorem isNameChar_of_isAsciiNameChar {c : Char} (inName : isAsciiNameChar c = true) :
    isNameChar c = true := by
  have noMark : ∀ mark, isAsciiNameChar mark = false → c ≠ mark := by
    rintro mark special rfl
    exact Bool.false_ne_true (special.symm.trans inName)
  rw [isNameChar_iff]
  refine ⟨?_, fun member => ?_⟩
  · unfold isTagBlank
    simp only [Bool.or_eq_false_iff, beq_eq_false_iff_ne]
    exact ⟨⟨⟨noMark _ (by decide), noMark _ (by decide)⟩, noMark _ (by decide)⟩,
      noMark _ (by decide)⟩
  · have special : ['>', '"', '\'', '/', '=', '!', '?'].all (!isAsciiNameChar ·) = true := by
      decide
    have isSpecial := List.all_eq_true.mp special c member
    rw [Bool.not_eq_true'] at isSpecial
    exact noMark c isSpecial rfl

/-- **A name of ASCII letters, digits and marks** ends where it was written to end. -/
theorem isName_of_isAsciiName {name : String} (isAscii : isAsciiName name = true) :
    IsName name := by
  unfold isAsciiName at isAscii
  split at isAscii
  · cases isAscii
  · rename_i first rest characters
    obtain ⟨isStart, others⟩ := (Bool.and_eq_true _ _).mp isAscii
    have firstInName : isAsciiNameChar first = true := by
      unfold isAsciiNameChar Char.isAlphanum
      rcases (Bool.or_eq_true _ _).mp isStart with isLetter | isUnderscore
      · rw [isLetter]
        rfl
      · rw [beq_iff_eq.mp isUnderscore]
        decide
    refine ⟨?_, fun c member => isNameChar_of_isAsciiNameChar ?_⟩
    · rintro rfl
      cases characters
    · rw [characters] at member
      rcases List.mem_cons.mp member with rfl | inRest
      · exact firstInName
      · exact List.all_eq_true.mp others c inRest

namespace Element

mutual

/-- Whether all names in an element, of elements and of attributes, are made of ASCII letters,
digits and marks. -/
def hasAsciiNames : Element → Bool
  | node name attributes _ children =>
    isAsciiName name && attributes.keys.all isAsciiName && allHaveAsciiNames children

def allHaveAsciiNames : List Element → Bool
  | [] => true
  | child :: rest => hasAsciiNames child && allHaveAsciiNames rest

end

mutual

theorem wellNamed_of_hasAsciiNames : ∀ element : Element, element.hasAsciiNames = true →
    element.WellNamed
  | node name attributes text children, named => by
    rw [hasAsciiNames, Bool.and_eq_true, Bool.and_eq_true] at named
    obtain ⟨⟨isAscii, keys⟩, inner⟩ := named
    refine .node name attributes text children (isName_of_isAsciiName isAscii) ?_
      (wellNamed_of_allHaveAsciiNames children inner)
    intro entry member
    exact isName_of_isAsciiName (List.all_eq_true.mp keys _ (List.mem_map_of_mem member))

theorem wellNamed_of_allHaveAsciiNames : ∀ children : List Element,
    allHaveAsciiNames children = true → ∀ child ∈ children, child.WellNamed
  | [], _ => fun _ member => absurd member List.not_mem_nil
  | first :: rest, named => by
    rw [allHaveAsciiNames, Bool.and_eq_true] at named
    exact List.forall_mem_cons.mpr ⟨wellNamed_of_hasAsciiNames first named.1,
      wellNamed_of_allHaveAsciiNames rest named.2⟩

end

/-! ### Texts -/

/-- The second element is the first one with the text cleared, at every level, where there are
children and nothing but blanks in the text. -/
inductive Cleared : Element → Element → Prop
  | node (name : String) (attributes : Keyed String) (text : String)
      (children others : List Element) (inner : List.Forall₂ Cleared children others) :
    Cleared (node name attributes text children)
      (node name attributes
        (if !children.isEmpty && text.toList.all Text.isBlank then "" else text) others)

mutual

theorem cleared_normal : ∀ element : Element, Cleared element element.normal
  | node name attributes text children => by
    have inner := cleared_normalAll children
    rw [normal, Text.isEmpty_trim]
    exact .node name attributes text children _ inner

theorem cleared_normalAll : ∀ children : List Element,
    List.Forall₂ Cleared children (normalAll children)
  | [] => .nil
  | child :: rest => .cons (cleared_normal child) (cleared_normalAll rest)

end

mutual

theorem eq_normal_of_cleared : ∀ (element : Element) {other : Element},
    Cleared element other → other = element.normal
  | node name attributes text children, _, .node _ _ _ _ others inner => by
    rw [normal, eq_normalAll_of_cleared children inner, Text.isEmpty_trim]

theorem eq_normalAll_of_cleared : ∀ (children : List Element) {others : List Element},
    List.Forall₂ Cleared children others → others = normalAll children
  | [], _, .nil => rfl
  | child :: rest, _, .cons first inner => by
    rw [eq_normal_of_cleared child first, eq_normalAll_of_cleared rest inner, normalAll]

end

/-- **Clearing has one result**, the one that reading makes. -/
theorem cleared_iff {element other : Element} : Cleared element other ↔ other = element.normal := by
  constructor
  · exact eq_normal_of_cleared element
  · rintro rfl
    exact cleared_normal element

end Element

open Element

/-- **Elements of every shape read back.** An element in which all names are made of ASCII letters,
digits and marks is read back from what is written of it. Of its names, attributes, texts and
children nothing is changed, but the text is cleared, at every level, where there are children and
nothing but blanks in it. -/
theorem read_write_cleared {element : Element} (named : element.hasAsciiNames = true) :
    read (String.ofList element.write) = .ok element.normal ∧
      ∀ other, Cleared element other ↔ other = element.normal :=
  ⟨read_write_normal (wellNamed_of_hasAsciiNames element named), fun _ => cleared_iff⟩

/-- An element with marks in its texts and values, and blank texts with and without children. -/
def nestedElement : Element :=
  .node "s:list" (Keyed.empty.insert "xml:id" "\"a\" < 'b'") "\n "
    [.node "_item" Keyed.empty " \t" [],
      .node "item.2" ((Keyed.empty.insert "z" "").insert "a-b" "&amp;") "x & y"
        [.node "Empty" Keyed.empty "" []]]

/-- Of the texts, only the blank one beside children is cleared. -/
theorem read_write_nestedElement :
    nestedElement.hasAsciiNames = true ∧
      String.ofList nestedElement.write =
        "<s:list xml:id=\"&quot;a&quot; &lt; &apos;b&apos;\">\n <_item> \t</_item>" ++
          "<item.2 z=\"\" a-b=\"&amp;amp;\">x &amp; y<Empty/></item.2></s:list>" ∧
      read (String.ofList nestedElement.write) =
        .ok (.node nestedElement.name nestedElement.attributes "" nestedElement.children) := by
  have named : nestedElement.hasAsciiNames = true := by decide
  have cleared : nestedElement.normal =
      .node nestedElement.name nestedElement.attributes "" nestedElement.children := by rfl
  exact ⟨named, by decide +kernel, cleared ▸ (read_write_cleared named).1⟩

end RuleAtoms.Markup
